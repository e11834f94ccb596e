import BasiliskServer.Text.Line
import Mathlib.Data.List.Infix

/-!
# Cutting and searching texts

A text that is cut at some characters is its pieces with one of these characters between each two
of them, and no piece holds any (`intercalate_splitBy`, `not_mem_of_mem_splitBy`). Such pieces are cut apart
again after they were joined (`splitBy_intercalate`). A text is found in another exactly when it is a run of
the other's characters (`indexOf?_isSome_iff`), and it is found where it first begins
(`indexOf?_eq_some_iff`). Lines that are joined by line feeds are cut into the same lines again, apart from
an empty one at the end (`filterMap_breakLines_intercalate`).
-/

namespace BasiliskServer.Text

/-! ### Cutting -/

theorem splitBy_ne_nil (isEnd : Char → Bool) (cs : List Char) : splitBy isEnd cs ≠ [] := by
  cases cs with
  | nil => simp [splitBy]
  | cons c rest =>
    rw [splitBy]
    split
    · exact List.cons_ne_nil _ _
    · split <;> exact List.cons_ne_nil _ _

/-- The pieces of a text, joined by the character at which it was cut, are the text. -/
theorem intercalate_splitBy (separator : Char) (cs : List Char) :
    List.intercalate [separator] (splitBy (· = separator) cs) = cs := by
  induction cs with
  | nil => rfl
  | cons c rest ih =>
    obtain ⟨piece, pieces, hpieces⟩ := List.exists_cons_of_ne_nil (splitBy_ne_nil (· = separator) rest)
    rw [hpieces] at ih
    rw [splitBy, hpieces]
    split
    next hend =>
      obtain rfl : c = separator := of_decide_eq_true hend
      rw [← ih]
      rfl
    next =>
      rw [← ih]
      cases pieces <;> rfl

theorem splitBy_eq_splitOnP (isEnd : Char → Bool) (cs : List Char) :
    splitBy isEnd cs = cs.splitOnP isEnd := by
  induction cs with
  | nil => rfl
  | cons c rest ih =>
    obtain ⟨piece, pieces, hpieces⟩ := List.exists_cons_of_ne_nil (splitBy_ne_nil isEnd rest)
    rw [splitBy, List.splitOnP_cons_eq_if_modifyHead, ← ih, hpieces]
    rfl

/-- Pieces that are joined by a character which none of them holds are cut apart again. -/
theorem splitBy_intercalate {separator : Char} {pieces : List (List Char)} (hne : pieces ≠ [])
    (h : ∀ piece ∈ pieces, separator ∉ piece) :
    splitBy (· = separator) (List.intercalate [separator] pieces) = pieces := by
  rw [splitBy_eq_splitOnP]
  exact List.splitOn_intercalate separator h hne

/-- No piece of a text holds a character at which it was cut. -/
theorem not_mem_of_mem_splitBy {separator : Char} {cs piece : List Char}
    (h : piece ∈ splitBy (· = separator) cs) : separator ∉ piece := by
  induction cs generalizing piece with
  | nil =>
    obtain rfl := List.mem_singleton.mp h
    exact List.not_mem_nil
  | cons c rest ih =>
    rw [splitBy] at h
    split at h
    · rcases List.mem_cons.mp h with rfl | h
      · exact List.not_mem_nil
      · exact ih h
    next hend =>
      obtain ⟨first, pieces, hpieces⟩ := List.exists_cons_of_ne_nil (splitBy_ne_nil (· = separator) rest)
      simp only [hpieces, List.mem_cons] at h ih
      rcases h with rfl | h
      · have hfirst := ih (.inl rfl)
        simp_all [eq_comm]
      · exact ih (.inr h)

/-- A text is cut at the first of the characters, and its rest is cut in the same way. -/
theorem splitBy_cases (separator : Char) (cs : List Char) :
    (separator ∉ cs ∧ splitBy (· = separator) cs = [cs]) ∨
    ∃ piece rest, cs = piece ++ separator :: rest ∧ separator ∉ piece ∧
      splitBy (· = separator) cs = piece :: splitBy (· = separator) rest := by
  induction cs with
  | nil => exact .inl ⟨List.not_mem_nil, rfl⟩
  | cons c cs ih =>
    rw [splitBy]
    split
    next hend =>
      obtain rfl : c = separator := of_decide_eq_true hend
      exact .inr ⟨[], cs, rfl, List.not_mem_nil, rfl⟩
    next hend =>
      have hc : separator ≠ c := fun h => hend (decide_eq_true h.symm)
      rcases ih with ⟨hnone, heq⟩ | ⟨piece, rest, rfl, hpiece, heq⟩
      · exact .inl ⟨List.not_mem_cons_of_ne_of_not_mem hc hnone, by rw [heq]⟩
      · exact .inr ⟨c :: piece, rest, rfl, List.not_mem_cons_of_ne_of_not_mem hc hpiece, by rw [heq]⟩

/-! ### Lines that end in any way -/

/-- The text holds no line break of any kind. -/
def IsOneLine (cs : List Char) : Prop :=
  ∀ c ∈ cs, isLineBreak c = false

instance (cs : List Char) : Decidable (IsOneLine cs) :=
  List.decidableBAll _ _

theorem isOneLine_cons {c : Char} {rest : List Char} :
    IsOneLine (c :: rest) ↔ isLineBreak c = false ∧ IsOneLine rest :=
  List.forall_mem_cons

theorem isOneLine_append {front rest : List Char} :
    IsOneLine (front ++ rest) ↔ IsOneLine front ∧ IsOneLine rest :=
  List.forall_mem_append

/-- A character that is no line break is added to the line that it stands in front of. -/
theorem breakLines_cons {c : Char} (h : isLineBreak c = false) (rest : List Char) :
    breakLines (c :: rest) =
      match breakLines rest with
      | [] => [[c]]
      | line :: more => (c :: line) :: more := by
  have hreturn : c ≠ '\r' := by
    rintro rfl
    cases h
  exact (breakLines.eq_3 _ _ fun _ heq _ => hreturn heq).trans (if_neg (by simp [h]))

theorem breakLines_lineFeed (rest : List Char) : breakLines ('\n' :: rest) = [] :: breakLines rest :=
  rfl

/-- A line is cut off at the line feed that ends it. -/
theorem breakLines_append_lineFeed {line : List Char} (h : IsOneLine line) (rest : List Char) :
    breakLines (line ++ '\n' :: rest) = line :: breakLines rest := by
  induction line with
  | nil => exact breakLines_lineFeed rest
  | cons c line ih =>
    obtain ⟨hc, hline⟩ := isOneLine_cons.mp h
    rw [List.cons_append, breakLines_cons hc, ih hline]

/-- One line is not cut. -/
theorem breakLines_of_isOneLine {line : List Char} (h : IsOneLine line) (hne : line ≠ []) :
    breakLines line = [line] := by
  induction line with
  | nil => exact absurd rfl hne
  | cons c line ih =>
    obtain ⟨hc, hline⟩ := isOneLine_cons.mp h
    rw [breakLines_cons hc]
    cases line with
    | nil => rfl
    | cons d line => rw [ih hline (List.cons_ne_nil _ _)]

/-- What is read line by line from joined lines is what is read from each of them, if nothing is read from an
empty one. -/
theorem filterMap_breakLines_intercalate {α : Type} {read : List Char → Option α} (hread : read [] = none)
    {lines : List (List Char)} (h : ∀ line ∈ lines, IsOneLine line) :
    (breakLines (List.intercalate ['\n'] lines)).filterMap read = lines.filterMap read := by
  induction lines with
  | nil => rfl
  | cons line rest ih =>
    obtain ⟨hline, hrest⟩ := List.forall_mem_cons.mp h
    cases rest with
    | nil =>
      rw [List.intercalate_singleton]
      by_cases hne : line = []
      · subst hne
        simp [breakLines, hread]
      · rw [breakLines_of_isOneLine hline hne]
    | cons next rest =>
      have hjoined : List.intercalate ['\n'] (line :: next :: rest) =
          line ++ '\n' :: List.intercalate ['\n'] (next :: rest) := by
        simp [List.intercalate_cons_cons]
      rw [hjoined, breakLines_append_lineFeed hline, List.filterMap_cons, List.filterMap_cons, ih hrest]

/-! ### Searching -/

theorem after?_isSome_iff (needle cs : List Char) : (after? needle cs).isSome ↔ needle <+: cs := by
  induction needle generalizing cs with
  | nil => simp [after?]
  | cons e expected ih =>
    cases cs with
    | nil => simp [after?]
    | cons c rest =>
      rw [after?, List.cons_prefix_cons]
      split
      next h => simp [h, ih]
      next h => simp [h]

/-- A text is found in another exactly when it is a run of the other's characters. -/
theorem indexOf?_isSome_iff (needle cs : List Char) :
    (indexOf? needle cs).isSome ↔ needle <:+: cs := by
  induction cs with
  | nil =>
    rw [indexOf?, List.infix_nil]
    cases needle <;> simp
  | cons c rest ih =>
    rw [indexOf?, List.infix_cons_iff, ← after?_isSome_iff needle (c :: rest), ← ih, beginsWith]
    split <;> simp_all

/-- A text is found where it first begins. -/
theorem indexOf?_eq_some_iff {needle cs : List Char} {i : Nat} :
    indexOf? needle cs = some i ↔ needle <+: cs.drop i ∧ ∀ j < i, ¬needle <+: cs.drop j := by
  -- The text is found here, or one character further on than in the rest.
  induction cs generalizing i with
  | nil =>
    rw [indexOf?]
    cases needle with
    | nil =>
      simp only [List.isEmpty_nil, if_true, Option.some.injEq, List.nil_prefix, true_and, not_true_eq_false,
        imp_false, not_lt]
      exact ⟨fun h j => h ▸ Nat.zero_le j, fun h => (Nat.le_zero.mp (h 0)).symm⟩
    | cons => simp
  | cons c rest ih =>
    rw [indexOf?, beginsWith]
    split
    next hhere =>
      rw [after?_isSome_iff] at hhere
      rw [Option.some.injEq]
      constructor
      · rintro rfl
        exact ⟨hhere, fun j hj => absurd hj (Nat.not_lt_zero j)⟩
      · rintro ⟨-, hfirst⟩
        by_contra hne
        exact hfirst 0 (Nat.pos_of_ne_zero (Ne.symm hne)) hhere
    next hhere =>
      rw [after?_isSome_iff] at hhere
      cases i with
      | zero => simp [hhere]
      | succ i =>
        rw [Option.map_eq_some_iff]
        simp only [Nat.add_right_cancel_iff, exists_eq_right, ih, List.drop_succ_cons]
        refine and_congr_right fun _ => ⟨fun hfirst j hj => ?_, fun hfirst j hj => ?_⟩
        · cases j with
          | zero => exact hhere
          | succ j => exact hfirst j (Nat.lt_of_succ_lt_succ hj)
        · exact hfirst (j + 1) (Nat.succ_lt_succ hj)

end BasiliskServer.Text
