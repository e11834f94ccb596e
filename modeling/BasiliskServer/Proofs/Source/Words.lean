import BasiliskServer.Proofs.Text.Pieces
import BasiliskServer.Source.Word

/-!
# Words and their references

The word at a position is found by looking in both directions from it, the references to a word by searching
for the word between word boundaries. Both are about the same thing: the longest runs of word characters
of a line (`IsWordOf`).

The search goes from left to right and takes up behind an occurrence where it ends, and it misses no word:
an occurrence is a whole word, so that the next one starts beyond its end (`mem_occurrences`,
`pairwise_occurrences`). Looking in both directions finds the word that the position lies in or touches,
and there is at most one (`look_eq_iff`). Hence a word that is found is among its own references, and
wherever one looks on a reference, it is found (`references_and_words`).
-/

namespace BasiliskServer.Source

open Text (Line isWord NoneAfter NoneBefore)
open Wire (Position Range)

variable {name word cs before after : List Char} {line : Line} {start stop column : Nat}

/-! ### Words of a line -/

/-- Characters of a line are a word if they are word characters and none stands next to them. -/
structure IsLongestRun (before word after : List Char) : Prop where
  /-- It is not empty. -/
  ne_nil : word ≠ []
  /-- It is made of word characters. -/
  inside : ∀ c ∈ word, isWord c = true
  /-- No word character stands just before it. -/
  left : NoneBefore isWord before
  /-- No word character stands just after it. -/
  right : NoneAfter isWord after

/-- The line has a word that starts in a column. -/
def IsWordOf (line : Line) (start : Nat) (word : List Char) : Prop :=
  ∃ before after, line = before ++ word ++ after ∧ before.length = start ∧ IsLongestRun before word after

/-- The text has a word in a range. -/
def IsWordIn (text word : String) (range : Range) : Prop :=
  ∃ line, (Text.lines text)[range.start.line]? = some line ∧
    IsWordOf line range.start.character word.toList ∧
    range = .onLine range.start.line range.start.character (range.start.character + word.length)

/-- The range ends before the other one starts. -/
def RangeEndsBefore (a b : Range) : Prop :=
  a.stop.line < b.start.line ∨ (a.stop.line = b.start.line ∧ a.stop.character < b.start.character)

/-- The words of a text that does not start with one are those of every text that it is the rest of. -/
theorem isLongestRun_append_iff (hrest : NoneAfter isWord (before ++ name ++ after)) :
    IsLongestRun (word ++ before) name after ↔ IsLongestRun before name after := by
  constructor
  · intro h
    exact ⟨h.ne_nil, h.inside, h.left.of_append, h.right⟩
  · intro h
    -- the word does not stand at the start of the rest, so what stands before it is in the rest
    have hbefore : before ≠ [] := by
      rintro rfl
      obtain ⟨c, name, rfl⟩ := List.exists_cons_of_ne_nil h.ne_nil
      rw [List.nil_append, List.cons_append, Text.noneAfter_cons, h.inside c List.mem_cons_self] at hrest
      cases hrest
    exact ⟨h.ne_nil, h.inside, .append (fun hnil => absurd hnil hbefore) h.left, h.right⟩

/-- The words of a line are its longest runs of word characters. -/
theorem mem_wordRuns_iff (column : Nat) (cs : List Char) {run : WordRun} :
    run ∈ wordRuns column cs ↔
      ∃ before, cs = before ++ run.word ++ run.rest ∧ run.start = column + before.length ∧
        IsLongestRun before run.word run.rest := by
  induction column, cs using wordRuns.induct with
  | case1 column =>
    rw [wordRuns]
    refine iff_of_false List.not_mem_nil ?_
    rintro ⟨before, hnil, -, hrun⟩
    rw [eq_comm, List.append_eq_nil_iff, List.append_eq_nil_iff] at hnil
    exact hrun.ne_nil hnil.1.2
  | case2 column c rest hword word after ih =>
    have hcs : c :: rest = word ++ after := by
      rw [List.cons_append, List.takeWhile_append_dropWhile]
    have hinside : ∀ d ∈ word, isWord d = true :=
      List.forall_mem_cons.mpr ⟨hword, fun d hd => List.mem_takeWhile_imp hd⟩
    have hafter : NoneAfter isWord after := Text.noneAfter_dropWhile isWord rest
    rw [wordRuns, if_pos hword, List.mem_cons, ih, hcs]
    constructor
    · rintro (rfl | ⟨before, heq, hstart, hrun⟩)
      · exact ⟨[], rfl, rfl, List.cons_ne_nil _ _, hinside, Text.noneBefore_nil, hafter⟩
      · refine ⟨word ++ before, by rw [heq]; simp, by rw [hstart, List.length_append]; omega, ?_⟩
        exact (isLongestRun_append_iff (heq ▸ hafter)).mpr hrun
    · rintro ⟨before, heq, hstart, hrun⟩
      rw [List.append_assoc] at heq
      rcases List.append_eq_append_iff.mp heq with ⟨more, rfl, hrest⟩ | ⟨tail, hpart, -⟩
      · -- the word stands behind the first one
        rw [← List.append_assoc] at hrest
        refine .inr ⟨more, hrest, by rw [hstart, List.length_append]; omega, ?_⟩
        exact (isLongestRun_append_iff (hrest ▸ hafter)).mp hrun
      · -- what stands before the word is a part of the first one, so nothing does
        obtain rfl : before = [] := hrun.left.eq_nil fun d hd => hinside d (hpart ▸ List.mem_append_left tail hd)
        obtain ⟨hsame, hrest⟩ := Text.append_inj_of_noneAfter hinside hrun.inside hafter hrun.right heq
        obtain ⟨start, found, behind⟩ := run
        rw [WordRun.mk.injEq]
        exact .inl ⟨hstart, hsame.symm, hrest.symm⟩
  | case3 column c rest hword ih =>
    rw [wordRuns, if_neg hword, ih]
    constructor
    · rintro ⟨before, rfl, hstart, hrun⟩
      have hfirst : NoneBefore isWord [c] := by
        intro d hd
        obtain rfl : c = d := Option.some.inj hd
        exact Bool.eq_false_iff.mpr hword
      exact ⟨c :: before, by simp, by rw [hstart, List.length_cons]; omega, hrun.ne_nil, hrun.inside,
        .append (fun _ => hfirst) hrun.left, hrun.right⟩
    · rintro ⟨before, heq, hstart, hrun⟩
      cases before with
      | nil =>
        -- the word would start with this character
        obtain ⟨d, more, hcons⟩ := List.exists_cons_of_ne_nil hrun.ne_nil
        rw [List.nil_append, hcons, List.cons_append] at heq
        obtain ⟨rfl, -⟩ := List.cons.inj heq
        exact absurd (hrun.inside c (hcons ▸ List.mem_cons_self)) hword
      | cons first before =>
        obtain ⟨rfl, rfl⟩ := List.cons.inj heq
        have hleft : NoneBefore isWord ([c] ++ before) := hrun.left
        exact ⟨before, rfl, by rw [hstart, List.length_cons]; omega, hrun.ne_nil, hrun.inside, hleft.of_append,
          hrun.right⟩

/-! ### Searching for a word -/

/-- Whether a word character stands before what follows a text; the flag says so of the text itself. -/
def wordBefore (afterWord : Bool) (before : List Char) : Bool :=
  (before.getLast?.map isWord).getD afterWord

theorem wordBefore_append (afterWord : Bool) (front rest : List Char) :
    wordBefore afterWord (front ++ rest) = wordBefore (wordBefore afterWord front) rest := by
  rw [wordBefore, wordBefore, wordBefore, List.getLast?_append]
  cases rest.getLast? <;> rfl

theorem wordBefore_cons (afterWord : Bool) (c : Char) (rest : List Char) :
    wordBefore afterWord (c :: rest) = wordBefore (isWord c) rest :=
  wordBefore_append afterWord [c] rest

/-- A word character stands before what follows a word. -/
theorem wordBefore_word (afterWord : Bool) (hne : word ≠ []) (hword : ∀ c ∈ word, isWord c = true) :
    wordBefore afterWord word = true := by
  rw [wordBefore, List.getLast?_eq_some_getLast hne]
  exact hword _ (List.getLast_mem hne)

theorem wordBefore_eq_false_iff : wordBefore false before = false ↔ NoneBefore isWord before := by
  rw [wordBefore, NoneBefore]
  cases before.getLast? <;> simp

theorem startsWithWord_eq_false_iff : startsWithWord cs = false ↔ NoneAfter isWord cs := by
  cases cs <;> simp [startsWithWord]

/-- A name of word characters stands between word boundaries exactly if none stands next to it. -/
theorem nameHere_iff {afterWord : Bool} (hne : name ≠ []) (hname : ∀ c ∈ name, isWord c = true) :
    nameHere name afterWord cs = true ↔
      afterWord = false ∧ ∃ rest, cs = name ++ rest ∧ NoneAfter isWord rest := by
  have hlast : (name.getLast?.map isWord).getD afterWord = true := wordBefore_word afterWord hne hname
  have hstart : ∀ rest, startsWithWord (name ++ rest) = true := by
    intro rest
    obtain ⟨c, name, rfl⟩ := List.exists_cons_of_ne_nil hne
    exact hname c List.mem_cons_self
  rw [nameHere]
  cases hrest : Text.after? name cs with
  | none =>
    refine iff_of_false Bool.false_ne_true ?_
    rintro ⟨-, rest, rfl, -⟩
    rw [Text.after?_eq_some_iff.mpr rfl] at hrest
    cases hrest
  | some rest =>
    obtain rfl := Text.after?_eq_some_iff.mp hrest
    have hboundary : (true ≠ startsWithWord rest) ↔ NoneAfter isWord rest := by
      rw [← startsWithWord_eq_false_iff]
      cases startsWithWord rest <;> simp
    dsimp only
    rw [Bool.and_eq_true, decide_eq_true_iff, decide_eq_true_iff, hlast, hstart, hboundary]
    simp

/-- The search goes on behind an occurrence, or behind the next character. -/
theorem occurrences_cases {afterWord : Bool} (hne : name ≠ []) (hname : ∀ c ∈ name, isWord c = true)
    (column : Nat) (cs : List Char) :
    (afterWord = false ∧ ∃ rest, cs = name ++ rest ∧ NoneAfter isWord rest ∧
      occurrences name column afterWord cs =
        (column, column + name.length) :: occurrences name (column + name.length) true rest) ∨
    (nameHere name afterWord cs = false ∧
      ((cs = [] ∧ occurrences name column afterWord cs = []) ∨
        ∃ c rest, cs = c :: rest ∧
          occurrences name column afterWord cs = occurrences name (column + 1) (isWord c) rest)) := by
  cases hhere : nameHere name afterWord cs with
  | true =>
    left
    obtain ⟨hbefore, rest, rfl, hrest⟩ := (nameHere_iff hne hname).mp hhere
    refine ⟨hbefore, rest, rfl, hrest, ?_⟩
    -- A name ends with a letter of a word, so the search behind it goes on as after a word.
    have hlast : (name.getLast?.map isWord).getD false = true := wordBefore_word false hne hname
    obtain ⟨c, more, rfl⟩ := List.exists_cons_of_ne_nil hne
    rw [List.cons_append] at hhere ⊢
    rw [occurrences, hhere, hlast]
    simp
  | false =>
    right
    refine ⟨rfl, ?_⟩
    cases cs with
    | nil => exact .inl ⟨rfl, by rw [occurrences, hhere]; simp⟩
    | cons c rest => exact .inr ⟨c, rest, rfl, by rw [occurrences, hhere]; simp⟩

theorem length_lt_length_append (hne : name ≠ []) (rest : List Char) :
    rest.length < (name ++ rest).length := by
  have hpos := List.length_pos_iff.mpr hne
  rw [List.length_append]
  omega

/-- An occurrence is a word of the rest of the line, where the character before the rest counts too. -/
theorem mem_occurrences {afterWord : Bool} (hne : name ≠ []) (hname : ∀ c ∈ name, isWord c = true) :
    (start, stop) ∈ occurrences name column afterWord cs ↔
      stop = start + name.length ∧ ∃ before after, cs = before ++ name ++ after ∧
        start = column + before.length ∧ wordBefore afterWord before = false ∧
        NoneAfter isWord after := by
  -- the search may leave out many characters at once, so the induction is on the length of the rest
  induction hlength : cs.length using Nat.strong_induction_on generalizing column afterWord cs with
  | _ length ih =>
    subst hlength
    rcases occurrences_cases hne hname column cs with
      ⟨hfree, rest, rfl, hrest, heq⟩ | ⟨hhere, ⟨rfl, heq⟩ | ⟨c, rest, rfl, heq⟩⟩
    · rw [heq, List.mem_cons, ih _ (length_lt_length_append hne rest) rfl, Prod.mk.injEq]
      constructor
      · rintro (⟨rfl, rfl⟩ | ⟨hstop, before, after, rfl, rfl, hleft, hright⟩)
        · exact ⟨rfl, [], rest, rfl, rfl, hfree, hrest⟩
        · refine ⟨hstop, name ++ before, after, by simp, by simp; omega, ?_, hright⟩
          rwa [wordBefore_append, wordBefore_word afterWord hne hname]
      · rintro ⟨hstop, before, after, hcs, rfl, hleft, hright⟩
        rw [List.append_assoc] at hcs
        rcases List.append_eq_append_iff.mp hcs with ⟨more, rfl, rfl⟩ | ⟨tail, hpart, -⟩
        · -- another word starts behind this one
          rw [wordBefore_append, wordBefore_word afterWord hne hname] at hleft
          exact .inr ⟨hstop, more, after, by simp, by simp; omega, hleft, hright⟩
        · -- what stands before is a part of this word, so nothing does
          have hnone : before = [] := by
            by_contra hsome
            have hword : ∀ c ∈ before, isWord c = true := fun c hc =>
              hname c (hpart ▸ List.mem_append_left _ hc)
            rw [wordBefore_word afterWord hsome hword] at hleft
            cases hleft
          subst hnone
          exact .inl ⟨rfl, hstop⟩
    · rw [heq]
      simp [hne]
    · rw [heq, ih _ (Nat.lt_succ_self _) rfl]
      constructor
      · rintro ⟨hstop, before, after, rfl, rfl, hleft, hright⟩
        refine ⟨hstop, c :: before, after, by simp, by simp; omega, ?_, hright⟩
        rwa [wordBefore_cons]
      · rintro ⟨hstop, before, after, hcs, rfl, hleft, hright⟩
        cases before with
        | nil =>
          have hthere : nameHere name afterWord (c :: rest) = true :=
            (nameHere_iff hne hname).mpr ⟨hleft, after, hcs, hright⟩
          rw [hhere] at hthere
          cases hthere
        | cons first before =>
          obtain ⟨rfl, rfl⟩ := List.cons.inj hcs
          rw [wordBefore_cons] at hleft
          exact ⟨hstop, before, after, by simp, by simp; omega, hleft, hright⟩

/-- The occurrences of a word of a line are the words that are spelled like it. -/
theorem mem_occurrences_line (hne : name ≠ []) (hname : ∀ c ∈ name, isWord c = true) :
    (start, stop) ∈ occurrences name 0 false line ↔
      stop = start + name.length ∧ IsWordOf line start name := by
  rw [mem_occurrences hne hname]
  refine and_congr_right fun _ => exists_congr fun before => exists_congr fun after => ?_
  rw [wordBefore_eq_false_iff, Nat.zero_add, eq_comm (a := start)]
  exact and_congr_right fun _ => and_congr_right fun _ =>
    ⟨fun ⟨hleft, hright⟩ => ⟨hne, hname, hleft, hright⟩, fun h => ⟨h.left, h.right⟩⟩

/-- An occurrence ends before the next one starts. -/
theorem pairwise_occurrences {afterWord : Bool} (hne : name ≠ []) (hname : ∀ c ∈ name, isWord c = true) :
    (occurrences name column afterWord cs).Pairwise fun a b => a.2 < b.1 := by
  induction hlength : cs.length using Nat.strong_induction_on generalizing column afterWord cs with
  | _ length ih =>
    subst hlength
    rcases occurrences_cases hne hname column cs with
      ⟨-, rest, rfl, -, heq⟩ | ⟨-, ⟨rfl, heq⟩ | ⟨c, rest, rfl, heq⟩⟩
    · rw [heq]
      refine .cons ?_ (ih _ (length_lt_length_append hne rest) rfl)
      rintro ⟨start, stop⟩ hmem
      obtain ⟨-, before, after, -, rfl, hleft, -⟩ := (mem_occurrences hne hname).mp hmem
      -- a word character stands before the rest, so the next word does not start there
      have hsome : before ≠ [] := by
        rintro rfl
        cases hleft
      have hpos := List.length_pos_iff.mpr hsome
      show column + name.length < column + name.length + before.length
      omega
    · rw [heq]
      exact .nil
    · rw [heq]
      exact ih _ (Nat.lt_succ_self _) rfl

/-! ### References in a text -/

theorem mem_referencesFrom {number : Nat} {lines : List Line} {range : Range} (hne : name ≠ [])
    (hname : ∀ c ∈ name, isWord c = true) :
    range ∈ referencesFrom name number lines ↔
      ∃ index line start, lines[index]? = some line ∧ IsWordOf line start name ∧
        range = .onLine (number + index) start (start + name.length) := by
  induction lines generalizing number with
  | nil => simp [referencesFrom]
  | cons first rest ih =>
    rw [referencesFrom, List.mem_append, List.mem_map, ih]
    constructor
    · rintro (⟨⟨start, stop⟩, hmem, rfl⟩ | ⟨index, line, start, hline, hword, rfl⟩)
      · obtain ⟨rfl, hword⟩ := (mem_occurrences_line hne hname).mp hmem
        exact ⟨0, first, start, rfl, hword, rfl⟩
      · exact ⟨index + 1, line, start, hline, hword, by rw [Nat.add_right_comm, Nat.add_assoc]⟩
    · rintro ⟨index, line, start, hline, hword, rfl⟩
      cases index with
      | zero =>
        obtain rfl : first = line := Option.some.inj hline
        exact .inl ⟨(start, start + name.length), (mem_occurrences_line hne hname).mpr ⟨rfl, hword⟩, rfl⟩
      | succ index =>
        exact .inr ⟨index, line, start, hline, hword, by rw [Nat.add_right_comm, Nat.add_assoc]⟩

theorem pairwise_referencesFrom (number : Nat) (lines : List Line) (hne : name ≠ [])
    (hname : ∀ c ∈ name, isWord c = true) :
    (referencesFrom name number lines).Pairwise RangeEndsBefore := by
  induction lines generalizing number with
  | nil => exact .nil
  | cons first rest ih =>
    rw [referencesFrom, List.pairwise_append]
    refine ⟨?_, ih _, fun a ha b hb => ?_⟩
    · rw [List.pairwise_map]
      exact (pairwise_occurrences hne hname).imp fun h => .inr ⟨rfl, h⟩
    · obtain ⟨found, -, rfl⟩ := List.mem_map.mp ha
      obtain ⟨index, line, start, -, -, rfl⟩ := (mem_referencesFrom hne hname).mp hb
      left
      show number < number + 1 + index
      omega

/-- The references to a word are the words that are spelled like it. -/
theorem mem_references {text word : String} {range : Range} (hne : word ≠ "")
    (hword : ∀ c ∈ word.toList, isWord c = true) :
    range ∈ references text word ↔ IsWordIn text word range := by
  rw [references, mem_referencesFrom (by simpa using hne) hword]
  constructor
  · rintro ⟨number, line, start, hline, hrun, rfl⟩
    rw [Nat.zero_add]
    exact ⟨line, hline, hrun, rfl⟩
  · rintro ⟨line, hline, hrun, hrange⟩
    refine ⟨_, line, _, hline, hrun, ?_⟩
    rw [Nat.zero_add, String.length_toList]
    exact hrange

/-! ### Looking from a position -/

/-- The word characters that stand just before a column. -/
def wordLeft (line : Line) (column : Nat) : List Char :=
  ((line.take column).reverse.takeWhile isWord).reverse

/-- The word characters that stand from a column on. -/
def wordRight (line : Line) (column : Nat) : List Char :=
  (line.drop column).takeWhile isWord

/-- From a column that a word reaches or touches the two parts of the word are seen. -/
theorem IsWordOf.look (h : IsWordOf line start word) (hstart : start ≤ column)
    (hstop : column ≤ start + word.length) :
    wordLeft line column = word.take (column - start) ∧
      wordRight line column = word.drop (column - start) := by
  obtain ⟨before, after, rfl, rfl, hrun⟩ := h
  obtain ⟨part, rfl⟩ := Nat.exists_eq_add_of_le hstart
  have hpart : part ≤ word.length := Nat.le_of_add_le_add_left hstop
  have htake : (before ++ word ++ after).take (before.length + part) = before ++ word.take part := by
    rw [List.append_assoc, List.take_length_add_append, List.take_append_of_le_length hpart]
  have hdrop : (before ++ word ++ after).drop (before.length + part) = word.drop part ++ after := by
    rw [List.append_assoc, List.drop_length_add_append, List.drop_append_of_le_length hpart]
  rw [wordLeft, wordRight, htake, hdrop, Nat.add_sub_cancel_left, List.reverse_append]
  constructor
  · have hinside : ∀ c ∈ (word.take part).reverse, isWord c = true := fun c hc =>
      hrun.inside c (List.mem_of_mem_take (List.mem_reverse.mp hc))
    have hleft : NoneAfter isWord before.reverse := by
      rw [NoneAfter, List.head?_reverse]
      exact hrun.left
    rw [(Text.takeWhile_append_of_head hinside hleft).1, List.reverse_reverse]
  · have hinside : ∀ c ∈ word.drop part, isWord c = true := fun c hc =>
      hrun.inside c (List.mem_of_mem_drop hc)
    exact (Text.takeWhile_append_of_head hinside hrun.right).1

/-- What is seen from a column, if anything, is a word. -/
theorem isWordOf_look (hcolumn : column ≤ line.length)
    (hne : wordLeft line column ++ wordRight line column ≠ []) :
    IsWordOf line (column - (wordLeft line column).length)
      (wordLeft line column ++ wordRight line column) := by
  have hleft : ((line.take column).reverse.dropWhile isWord).reverse ++ wordLeft line column =
      line.take column := by
    rw [wordLeft, ← List.reverse_append, List.takeWhile_append_dropWhile, List.reverse_reverse]
  have hright : wordRight line column ++ (line.drop column).dropWhile isWord = line.drop column :=
    List.takeWhile_append_dropWhile
  refine ⟨((line.take column).reverse.dropWhile isWord).reverse, (line.drop column).dropWhile isWord, ?_,
    ?_, hne, fun c hc => ?_, ?_, Text.noneAfter_dropWhile _ _⟩
  · rw [List.append_assoc, List.append_assoc, hright, ← List.append_assoc, hleft,
      List.take_append_drop]
  · have hlength := congrArg List.length hleft
    rw [List.length_append, List.length_take] at hlength
    omega
  · rcases List.mem_append.mp hc with hc | hc
    · exact List.mem_takeWhile_imp (List.mem_reverse.mp hc)
    · exact List.mem_takeWhile_imp hc
  · rw [NoneBefore, List.getLast?_reverse]
    exact Text.noneAfter_dropWhile _ _

/-- The word that is seen from a column is the one that reaches or touches it. -/
theorem look_eq_iff (hcolumn : column ≤ line.length) :
    (wordLeft line column ++ wordRight line column = word ∧ word ≠ [] ∧
        start = column - (wordLeft line column).length ∧
        stop = column + (wordRight line column).length) ↔
      (IsWordOf line start word ∧ stop = start + word.length ∧ start ≤ column ∧ column ≤ stop) := by
  constructor
  · rintro ⟨rfl, hne, rfl, rfl⟩
    have hleft : (wordLeft line column).length ≤ column := by
      rw [wordLeft, List.length_reverse]
      refine (List.takeWhile_sublist _).length_le.trans ?_
      rw [List.length_reverse, List.length_take]
      exact Nat.min_le_left _ _
    refine ⟨isWordOf_look hcolumn hne, ?_, Nat.sub_le _ _, Nat.le_add_right _ _⟩
    rw [List.length_append]
    omega
  · rintro ⟨hword, rfl, hstart, hstop⟩
    obtain ⟨hleft, hright⟩ := hword.look hstart hstop
    rw [hleft, hright, List.take_append_drop, List.length_take, List.length_drop]
    obtain ⟨before, after, -, -, hrun⟩ := hword
    refine ⟨rfl, hrun.ne_nil, ?_, ?_⟩ <;> omega

/-- What is found at a position is what is seen from its column, clamped to the line. -/
theorem wordAt?_eq_some_iff_look {text found : String} {position : Position} {range : Range} :
    wordAt? text position = some (found, range) ↔
      ∃ line, (Text.lines text)[position.line]? = some line ∧
        (wordLeft line (min position.character line.length) ++
            wordRight line (min position.character line.length) = found.toList ∧
          found.toList ≠ [] ∧
          range = .onLine position.line
            (min position.character line.length -
              (wordLeft line (min position.character line.length)).length)
            (min position.character line.length +
              (wordRight line (min position.character line.length)).length)) := by
  rw [wordAt?, Option.bind_eq_bind, Option.bind_eq_some_iff]
  refine exists_congr fun line => and_congr_right fun _ => ?_
  dsimp only
  rw [← wordLeft, ← wordRight]
  split
  next hnone =>
    refine iff_of_false nofun fun ⟨heq, hsome, _⟩ => hsome ?_
    rw [← heq, List.isEmpty_iff.mp hnone]
  next hsome =>
    rw [Option.some.injEq, Prod.mk.injEq, ← String.toList_inj, String.toList_ofList,
      eq_comm (a := range)]
    refine and_congr_right fun heq => (and_iff_right ?_).symm
    rw [← heq]
    simpa using hsome

/-- A position finds the word of its line that reaches or touches its column. -/
theorem wordAt?_eq_some_iff {text found : String} {position : Position} {range : Range} :
    wordAt? text position = some (found, range) ↔
      IsWordIn text found range ∧ range.start.line = position.line ∧
        ∃ line, (Text.lines text)[position.line]? = some line ∧
          range.start.character ≤ min position.character line.length ∧
          min position.character line.length ≤ range.stop.character := by
  rw [wordAt?_eq_some_iff_look]
  constructor
  · rintro ⟨line, hline, heq, hne, rfl⟩
    obtain ⟨hword, hlength, hstart, hstop⟩ :=
      (look_eq_iff (Nat.min_le_right _ _)).mp ⟨heq, hne, rfl, rfl⟩
    rw [String.length_toList] at hlength
    exact ⟨⟨line, hline, hword, by rw [hlength]; rfl⟩, rfl, line, hline, hstart, hstop⟩
  · rintro ⟨⟨line, hline, hword, hrange⟩, hnumber, line', hline', hstart, hstop⟩
    rw [hnumber, hline'] at hline
    obtain rfl := Option.some.inj hline
    have hend : range.stop.character = range.start.character + found.toList.length := by
      rw [hrange, String.length_toList]
      rfl
    obtain ⟨heq, hne, hleft, hright⟩ :=
      (look_eq_iff (Nat.min_le_right _ _)).mpr ⟨hword, hend, hstart, hstop⟩
    refine ⟨line', hline', heq, hne, ?_⟩
    rw [hrange, hnumber, ← hleft, ← hright, hend, String.length_toList]

/-! ### Words and references agree -/

/-- A word of a text is made of word characters. -/
theorem IsWordIn.spelling {text word : String} {range : Range} (h : IsWordIn text word range) :
    word ≠ "" ∧ ∀ c ∈ word.toList, isWord c = true := by
  obtain ⟨line, -, ⟨before, after, -, -, hrun⟩, -⟩ := h
  exact ⟨by simpa using hrun.ne_nil, hrun.inside⟩

/-- **Words and references.** The references to a word of word characters are the words of the text that are
spelled like it, in the order of the text, and each ends before the next one starts. A position finds a
word exactly if it is a word of its line that reaches or touches its column, clamped to the line. A
word that is found is among its own references, and every column of a reference, the one behind its end too,
finds the reference. -/
theorem references_and_words (text : String) {word : String} (hne : word ≠ "")
    (hword : ∀ c ∈ word.toList, isWord c = true) :
    (references text word).Pairwise RangeEndsBefore ∧
    (∀ range, range ∈ references text word ↔ IsWordIn text word range) ∧
    (∀ position found range, wordAt? text position = some (found, range) ↔
      IsWordIn text found range ∧ range.start.line = position.line ∧
        ∃ line, (Text.lines text)[position.line]? = some line ∧
          range.start.character ≤ min position.character line.length ∧
          min position.character line.length ≤ range.stop.character) ∧
    (∀ position found range, wordAt? text position = some (found, range) →
      range ∈ references text found) ∧
    (∀ range ∈ references text word, ∀ column, range.start.character ≤ column →
      column ≤ range.stop.character → wordAt? text ⟨range.start.line, column⟩ = some (word, range)) := by
  refine ⟨pairwise_referencesFrom 0 (Text.lines text) (by simpa using hne) hword,
    fun range => mem_references hne hword, fun _ _ _ => wordAt?_eq_some_iff, ?_, ?_⟩
  · intro position found range hfound
    obtain ⟨hin, -⟩ := wordAt?_eq_some_iff.mp hfound
    obtain ⟨hsome, hinside⟩ := hin.spelling
    exact (mem_references hsome hinside).mpr hin
  · intro range hmem column hstart hstop
    have hin := (mem_references hne hword).mp hmem
    obtain ⟨line, hline, ⟨before, after, rfl, hbefore, -⟩, hrange⟩ := id hin
    -- a reference lies inside its line, so clamping changes none of its columns
    have hend : range.stop.character ≤ (before ++ word.toList ++ after).length := by
      rw [hrange]
      simp only [Range.onLine, List.length_append, String.length_toList, ← hbefore]
      omega
    have hclamped : min column (before ++ word.toList ++ after).length = column :=
      Nat.min_eq_left (hstop.trans hend)
    exact wordAt?_eq_some_iff.mpr ⟨hin, rfl, _, hline, hclamped.symm ▸ hstart, hclamped.symm ▸ hstop⟩

/-- A text in which a name stands alone, as a part of other names, and at both ends of a line. -/
def namesakes : String := "f = ff + f1;\n  g(f)\nf"

theorem references_and_words_namesakes :
    "f" ≠ "" ∧ (∀ c ∈ "f".toList, isWord c = true) ∧
    references namesakes "f" = [.onLine 0 0 1, .onLine 1 4 5, .onLine 2 0 1] ∧
    wordAt? namesakes ⟨1, 5⟩ = some ("f", .onLine 1 4 5) := by
  have hne : "f" ≠ "" := by decide
  have hword : ∀ c ∈ "f".toList, isWord c = true := List.all_eq_true.mp (by decide)
  have hall : references namesakes "f" = [.onLine 0 0 1, .onLine 1 4 5, .onLine 2 0 1] := by
    decide +kernel
  obtain ⟨-, -, -, -, hfinds⟩ := references_and_words namesakes hne hword
  exact ⟨hne, hword, hall, hfinds (.onLine 1 4 5) (by rw [hall]; decide) 5 (by decide) (by decide)⟩

end BasiliskServer.Source
