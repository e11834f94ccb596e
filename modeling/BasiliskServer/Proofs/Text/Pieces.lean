import BasiliskServer.Proofs.Text.Line
import Mathlib.Data.List.TakeWhile
import Mathlib.Tactic.IntervalCases

/-!
# Reading pieces of a line

The readers of pieces say what a line starts with by what they leave of it. Here each of them is said by
the piece instead: a reader succeeds exactly if the line is the piece followed by what is left, and a
piece that is read as far as it goes is not followed by another character of its class
(`literal?_eq_some_iff`, `blanks?_eq_some_iff`, `word?_eq_some_iff`, `dropBlanks_eq_iff`). A line therefore
starts with at most one piece of a class (`append_inj_of_noneAfter`), which is what makes it a matter of
spelling alone what a line declares.
-/

namespace BasiliskServer.Text

variable {p : Char → Bool} {cs front rest : List Char}

/-! ### Runs of a class -/

/-- The text starts with no character of the class. -/
def NoneAfter (p : Char → Bool) (rest : List Char) : Prop :=
  ∀ c ∈ rest.head?, p c = false

/-- The text ends with no character of the class. -/
def NoneBefore (p : Char → Bool) (front : List Char) : Prop :=
  ∀ c ∈ front.getLast?, p c = false

/-- A run of elements of a class goes as far as the class does. -/
theorem takeWhile_append_of_head {α : Type} {p : α → Bool} {run rest : List α}
    (hrun : ∀ a ∈ run, p a = true) (hrest : ∀ a ∈ rest.head?, p a = false) :
    (run ++ rest).takeWhile p = run ∧ (run ++ rest).dropWhile p = rest := by
  rw [List.takeWhile_append_of_pos hrun, List.dropWhile_append_of_pos hrun]
  cases rest with
  | nil => simp
  | cons a rest => simp [hrest a rfl]

@[simp]
theorem noneAfter_nil : NoneAfter p [] := by
  simp [NoneAfter]

@[simp]
theorem noneAfter_cons {c : Char} : NoneAfter p (c :: rest) ↔ p c = false := by
  simp [NoneAfter]

instance decidableNoneAfter (p : Char → Bool) : (rest : List Char) → Decidable (NoneAfter p rest)
  | [] => .isTrue noneAfter_nil
  | _ :: _ => decidable_of_iff' _ noneAfter_cons

@[simp]
theorem noneBefore_nil : NoneBefore p [] := by
  simp [NoneBefore]

@[simp]
theorem noneBefore_concat {c : Char} : NoneBefore p (front ++ [c]) ↔ p c = false := by
  simp [NoneBefore]

/-- What ends a text ends its last part too, unless that is empty. -/
theorem NoneBefore.of_append (h : NoneBefore p (front ++ rest)) : NoneBefore p rest := by
  intro c hc
  refine h c ?_
  rw [List.getLast?_append, Option.mem_def.mp hc]
  rfl

/-- The last part of a text says how the text ends, and the part before it only where that is empty. -/
theorem NoneBefore.append (hfront : rest = [] → NoneBefore p front) (hrest : NoneBefore p rest) :
    NoneBefore p (front ++ rest) := by
  cases rest with
  | nil => rw [List.append_nil]; exact hfront rfl
  | cons c rest => rwa [NoneBefore, List.getLast?_append_of_ne_nil _ (List.cons_ne_nil c rest)]

/-- What starts a text starts its first part, and the part after it only where that is empty. -/
theorem NoneAfter.append (hfront : NoneAfter p front) (hrest : front = [] → NoneAfter p rest) :
    NoneAfter p (front ++ rest) := by
  cases front with
  | nil => exact hrest rfl
  | cons c front =>
    rw [noneAfter_cons] at hfront
    rwa [List.cons_append, noneAfter_cons]

theorem noneAfter_dropWhile (p : Char → Bool) (cs : List Char) : NoneAfter p (cs.dropWhile p) := by
  intro c hc
  have hhead := List.head?_dropWhile_not p cs
  rw [Option.mem_def.mp hc] at hhead
  simpa using hhead

/-- A text of the class that ends with none of it is empty. -/
theorem NoneBefore.eq_nil (h : NoneBefore p front) (hall : ∀ c ∈ front, p c = true) : front = [] := by
  by_contra hne
  have hlast := h _ (List.getLast?_eq_some_getLast hne)
  rw [hall _ (List.getLast_mem hne)] at hlast
  cases hlast

theorem NoneAfter.eq_nil (h : NoneAfter p rest) (hall : ∀ c ∈ rest, p c = true) : rest = [] := by
  cases rest with
  | nil => rfl
  | cons c rest =>
    rw [noneAfter_cons, hall c List.mem_cons_self] at h
    cases h

/-- A text starts with at most one run of a class. -/
theorem append_inj_of_noneAfter {run run' rest' : List Char} (hrun : ∀ c ∈ run, p c = true)
    (hrun' : ∀ c ∈ run', p c = true) (hrest : NoneAfter p rest) (hrest' : NoneAfter p rest')
    (h : run ++ rest = run' ++ rest') : run = run' ∧ rest = rest' := by
  obtain ⟨htake, hdrop⟩ := takeWhile_append_of_head hrun hrest
  obtain ⟨htake', hdrop'⟩ := takeWhile_append_of_head hrun' hrest'
  exact ⟨by rw [← htake, h, htake'], by rw [← hdrop, h, hdrop']⟩

theorem separator_not_mem_iff {separator : Char} :
    separator ∉ cs ↔ ∀ c ∈ cs, decide (c ≠ separator) = true := by
  simp only [decide_eq_true_eq]
  exact ⟨fun h c hc heq => h (heq ▸ hc), fun h hmem => h separator hmem rfl⟩

/-- A text that holds a character is what stands before its first one, this one, and a rest. -/
theorem eq_append_of_dropWhile_ne {separator : Char} (h : cs.dropWhile (· ≠ separator) ≠ []) :
    ∃ tail, cs.dropWhile (· ≠ separator) = separator :: tail ∧
      cs = cs.takeWhile (· ≠ separator) ++ separator :: tail ∧ separator ∉ cs.takeWhile (· ≠ separator) := by
  obtain ⟨c, tail, heq⟩ := List.exists_cons_of_ne_nil h
  have hc := List.head?_dropWhile_not (fun c : Char => decide (c ≠ separator)) cs
  rw [heq] at hc
  obtain rfl : c = separator := by simpa using hc
  refine ⟨tail, heq, by rw [← heq, List.takeWhile_append_dropWhile], fun hmem => ?_⟩
  simpa using List.mem_takeWhile_imp hmem

/-- A piece of a text that is cut at a character stands between two such characters, or at an end. -/
theorem exists_eq_append_of_mem_splitBy {separator : Char} (hseparator : p separator = false)
    {piece : List Char} (h : piece ∈ splitBy (· = separator) cs) :
    ∃ before after, cs = before ++ piece ++ after ∧ NoneBefore p before ∧ NoneAfter p after := by
  induction hlength : cs.length using Nat.strong_induction_on generalizing cs with
  | _ length ih =>
    subst hlength
    rcases splitBy_cases separator cs with ⟨-, heq⟩ | ⟨first, rest, rfl, -, heq⟩
    · rw [heq, List.mem_singleton] at h
      exact ⟨[], [], by simp [h], noneBefore_nil, noneAfter_nil⟩
    · rw [heq, List.mem_cons] at h
      rcases h with rfl | h
      · exact ⟨[], separator :: rest, rfl, noneBefore_nil, noneAfter_cons.mpr hseparator⟩
      · obtain ⟨before, after, hrest, hbefore, hafter⟩ := ih rest.length (by simp; omega) h rfl
        refine ⟨first ++ separator :: before, after, by simp [hrest], ?_, hafter⟩
        rw [List.append_cons]
        exact .append (fun _ => noneBefore_concat.mpr hseparator) hbefore

/-! ### Fixed beginnings -/

theorem after?_eq_some_iff {expected : List Char} :
    after? expected cs = some rest ↔ cs = expected ++ rest := by
  induction expected generalizing cs with
  | nil => simp [after?]
  | cons e expected ih =>
    cases cs with
    | nil => simp [after?]
    | cons c cs =>
      rw [after?, List.cons_append, List.cons.injEq]
      split
      next h => rw [ih, and_iff_right h.symm]
      next h => simp [Ne.symm h]

theorem literal?_eq_some_iff {expected : String} :
    literal? expected cs = some rest ↔ cs = expected.toList ++ rest :=
  after?_eq_some_iff

/-! ### Blanks and words -/

/-- No blank is a word character. -/
theorem isWord_of_isBlank {c : Char} (h : isBlank c = true) : isWord c = false := by
  have hcode : ∀ code, code = c.toNat → isWord (Char.ofNat code) = false := by
    intro code hcode
    simp only [isBlank, Bool.or_eq_true, Bool.and_eq_true, decide_eq_true_eq, ← hcode] at h
    rcases h with (((((((((⟨hle, hge⟩ | ⟨hle, hge⟩) | rfl) | rfl) | rfl) | ⟨hle, hge⟩) | rfl) | rfl) |
      rfl) | rfl) | rfl
    any_goals decide +kernel
    all_goals interval_cases code <;> decide +kernel
  rw [← Char.ofNat_toNat c]
  exact hcode _ rfl

theorem allBlank_iff : allBlank cs = true ↔ ∀ c ∈ cs, isBlank c = true :=
  List.all_eq_true

/-- A word does not go on across blanks to a character that is in no word. -/
theorem noneAfter_isWord_of_allBlank {gap : List Char} {c : Char} (hgap : allBlank gap = true)
    (hc : isWord c = false) : NoneAfter isWord (gap ++ c :: rest) := by
  cases gap with
  | nil => exact noneAfter_cons.mpr hc
  | cons b gap => exact noneAfter_cons.mpr (isWord_of_isBlank (allBlank_iff.mp hgap b List.mem_cons_self))

/-- Blanks do not go on into a word. -/
theorem noneAfter_isBlank_of_isWord {word : List Char} (hne : word ≠ [])
    (hword : ∀ c ∈ word, isWord c = true) (rest : List Char) : NoneAfter isBlank (word ++ rest) := by
  obtain ⟨c, word, rfl⟩ := List.exists_cons_of_ne_nil hne
  refine noneAfter_cons.mpr (Bool.eq_false_iff.mpr fun hblank => ?_)
  exact absurd (hword c List.mem_cons_self) (by simp [isWord_of_isBlank hblank])

/-- Blanks are dropped as far as they go. -/
theorem dropBlanks_eq_iff :
    dropBlanks cs = rest ↔ ∃ gap, cs = gap ++ rest ∧ allBlank gap = true ∧ NoneAfter isBlank rest := by
  constructor
  · rintro rfl
    refine ⟨cs.takeWhile isBlank, List.takeWhile_append_dropWhile.symm, ?_, noneAfter_dropWhile _ _⟩
    rw [allBlank_iff]
    exact fun c hc => (List.mem_takeWhile_imp hc)
  · rintro ⟨gap, rfl, hgap, hrest⟩
    exact (takeWhile_append_of_head (allBlank_iff.mp hgap) hrest).2

/-- Stripping a text takes blanks away at its ends. -/
theorem exists_eq_strip (cs : List Char) :
    ∃ lead trail, allBlank lead = true ∧ allBlank trail = true ∧ cs = lead ++ (strip cs ++ trail) := by
  obtain ⟨lead, hcs, hlead, -⟩ := dropBlanks_eq_iff.mp (rfl : dropBlanks cs = dropBlanks cs)
  obtain ⟨trail, hdropped, htrail, -⟩ :=
    dropBlanks_eq_iff.mp (rfl : dropBlanks (dropBlanks cs).reverse = dropBlanks (dropBlanks cs).reverse)
  refine ⟨lead, trail.reverse, hlead, by simpa [allBlank] using htrail, ?_⟩
  rw [strip, ← List.reverse_append, ← hdropped, List.reverse_reverse, ← hcs]

/-- At least one blank is read, and all that there are. -/
theorem blanks?_eq_some_iff :
    blanks? cs = some rest ↔
      ∃ gap, cs = gap ++ rest ∧ gap ≠ [] ∧ allBlank gap = true ∧ NoneAfter isBlank rest := by
  cases cs with
  | nil => simp [blanks?]
  | cons c cs =>
    rw [blanks?]
    split
    next hblank =>
      rw [Option.some.injEq, dropBlanks_eq_iff]
      constructor
      · rintro ⟨gap, rfl, hgap, hrest⟩
        exact ⟨c :: gap, rfl, List.cons_ne_nil _ _, by simpa [allBlank, hblank] using hgap, hrest⟩
      · rintro ⟨gap, heq, hsome, hgap, hrest⟩
        obtain ⟨first, gap, rfl⟩ := List.exists_cons_of_ne_nil hsome
        obtain ⟨rfl, rfl⟩ := List.cons.inj heq
        rw [allBlank_iff] at hgap
        exact ⟨gap, rfl, allBlank_iff.mpr fun c hc => hgap c (List.mem_cons_of_mem _ hc), hrest⟩
    next hblank =>
      refine ⟨nofun, ?_⟩
      rintro ⟨gap, heq, hsome, hgap, -⟩
      obtain ⟨first, gap, rfl⟩ := List.exists_cons_of_ne_nil hsome
      obtain ⟨rfl, -⟩ := List.cons.inj heq
      exact absurd (allBlank_iff.mp hgap c List.mem_cons_self) hblank

/-- A word is read as far as it goes. -/
theorem word?_eq_some_iff {word : List Char} :
    word? cs = some (word, rest) ↔
      cs = word ++ rest ∧ word ≠ [] ∧ (∀ c ∈ word, isWord c = true) ∧ NoneAfter isWord rest := by
  rw [word?]
  split
  next hnone =>
    refine ⟨nofun, ?_⟩
    rintro ⟨rfl, hsome, hword, hrest⟩
    exact absurd ((takeWhile_append_of_head hword hrest).1.symm.trans hnone) hsome
  next hsome =>
    rw [Option.some.injEq, Prod.mk.injEq]
    constructor
    · rintro ⟨rfl, rfl⟩
      exact ⟨List.takeWhile_append_dropWhile.symm, hsome, fun c hc => List.mem_takeWhile_imp hc,
        noneAfter_dropWhile _ _⟩
    · rintro ⟨rfl, -, hword, hrest⟩
      exact takeWhile_append_of_head hword hrest

end BasiliskServer.Text
