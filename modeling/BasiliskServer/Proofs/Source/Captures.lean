import BasiliskServer.Proofs.Source.Words
import BasiliskServer.Source.Outline

/-!
# Names that declarations capture

Field declarations, global variable declarations and definitions of macros are recognised by the words with
which they start, and the names are captured in what follows. Here this is said by spelling: a line falls
into blanks, the first words of a declaration, and a rest (`Naming.Splits`), and the names stand in columns
of the rest (`Naming.Names`).

The first words are spelled with blanks between them. No list of first words goes on from another one
(`IsPrefixFree`), so a line falls apart in at most one way (`Naming.Splits.unique`), and what a declaration
captures depends on nothing but its spelling (`Naming.Captures`). In a field declaration every declarator
reaches from comma to comma, and its name is its first word with a bracket behind it
(`bracketedName?_eq_some_iff`). What the readers of declarations accept is spelled in this way
(`spelling_of_fieldList?`, `spelling_of_globalHead?`, `spelling_of_defineHead?`).
-/

namespace BasiliskServer.Source

open Text (Line isWord isBlank allBlank allBlank_iff dropBlanks dropBlanks_eq_iff NoneAfter NoneBefore
  separator_not_mem_iff literal? literal?_eq_some_iff blanks? blanks?_eq_some_iff word? word?_eq_some_iff)

variable {line cs text rest name piece : List Char} {words : List String} {column : Nat}

/-! ### Words with blanks between them -/

/-- The text is made of the words, with blanks between each two of them. -/
def IsSpelled : List String → List Char → Prop
  | [], text => text = []
  | [word], text => text = word.toList
  | word :: more, text =>
    ∃ gap spelled, text = word.toList ++ (gap ++ spelled) ∧ gap ≠ [] ∧ allBlank gap = true ∧
      IsSpelled more spelled

/-- The text starts with a blank. -/
def StartsBlank (rest : List Char) : Prop :=
  ∃ b more, rest = b :: more ∧ isBlank b = true

/-- A word of the language is not empty and holds no blank. -/
def IsSolid (word : String) : Prop :=
  word.toList ≠ [] ∧ ∀ c ∈ word.toList, isBlank c = false

instance (word : String) : Decidable (IsSolid word) :=
  decidable_of_iff (word.toList ≠ [] ∧ word.toList.all (fun c => !isBlank c) = true) (by simp [IsSolid])

theorem startsBlank_append {gap : List Char} (hsome : gap ≠ []) (hgap : allBlank gap = true)
    (rest : List Char) : StartsBlank (gap ++ rest) := by
  obtain ⟨b, gap, rfl⟩ := List.exists_cons_of_ne_nil hsome
  exact ⟨b, gap ++ rest, rfl, allBlank_iff.mp hgap b List.mem_cons_self⟩

/-- Texts that start with solid words start with no blank. -/
theorem noneAfter_of_isSpelled {word : String} {more : List String} (hword : IsSolid word)
    (h : IsSpelled (word :: more) text) (rest : List Char) : NoneAfter isBlank (text ++ rest) := by
  obtain ⟨c, tail, htail⟩ := List.exists_cons_of_ne_nil hword.1
  have hc : isBlank c = false := hword.2 c (htail ▸ List.mem_cons_self)
  cases more with
  | nil =>
    obtain rfl : text = word.toList := h
    rw [htail]
    exact Text.noneAfter_cons.mpr hc
  | cons next more =>
    obtain ⟨gap, spelled, rfl, -⟩ := h
    rw [htail]
    exact Text.noneAfter_cons.mpr hc

/-- A word before a blank is as long as there are no blanks. -/
theorem solid_append_inj {word word' : String} {rest' : List Char} (hword : IsSolid word)
    (hword' : IsSolid word') (hrest : StartsBlank rest) (hrest' : StartsBlank rest')
    (h : word.toList ++ rest = word'.toList ++ rest') : word = word' ∧ rest = rest' := by
  obtain ⟨b, more, rfl, hb⟩ := hrest
  obtain ⟨b', more', rfl, hb'⟩ := hrest'
  have hparts := Text.append_inj_of_noneAfter (p := fun c => !isBlank c)
    (fun c hc => by simp [hword.2 c hc]) (fun c hc => by simp [hword'.2 c hc])
    (Text.noneAfter_cons.mpr (by simp [hb])) (Text.noneAfter_cons.mpr (by simp [hb'])) h
  exact ⟨String.toList_injective hparts.1, hparts.2⟩

/-- What is read in the order of the words is the words with blanks between them. -/
theorem isSpelled_of_afterWords? (h : afterWords? words cs = some rest) :
    ∃ text, cs = text ++ rest ∧ IsSpelled words text := by
  induction words generalizing cs with
  | nil =>
    obtain rfl := Option.some.inj h
    exact ⟨[], rfl, rfl⟩
  | cons word more ih =>
    cases more with
    | nil => exact ⟨word.toList, literal?_eq_some_iff.mp h, rfl⟩
    | cons next more =>
      obtain ⟨afterWord, hword, hafterWord⟩ := Option.bind_eq_some_iff.mp h
      obtain ⟨afterGap, hgap, hafterGap⟩ := Option.bind_eq_some_iff.mp hafterWord
      obtain ⟨text, rfl, htext⟩ := ih hafterGap
      obtain ⟨gap, rfl, hsome, hblank, -⟩ := blanks?_eq_some_iff.mp hgap
      obtain rfl := literal?_eq_some_iff.mp hword
      exact ⟨word.toList ++ (gap ++ text), by simp, gap, text, rfl, hsome, hblank, htext⟩

/-- No list of words goes on from another one. -/
def IsPrefixFree (family : List (List String)) : Prop :=
  ∀ words ∈ family, ∀ words' ∈ family, words <+: words' → words = words'

instance (family : List (List String)) : Decidable (IsPrefixFree family) :=
  inferInstanceAs (Decidable (∀ _ ∈ _, _))

/-- Of two lists of words with which a text starts, one goes on from the other; if they are the same, they
are spelled in the same way. -/
theorem isSpelled_append_inj {words' : List String} {text' rest' : List Char}
    (hwords : words ≠ []) (hwords' : words' ≠ []) (hsolid : ∀ word ∈ words, IsSolid word)
    (hsolid' : ∀ word ∈ words', IsSolid word) (htext : IsSpelled words text)
    (htext' : IsSpelled words' text') (hrest : StartsBlank rest) (hrest' : StartsBlank rest')
    (h : text ++ rest = text' ++ rest') :
    (words <+: words' ∨ words' <+: words) ∧ (words = words' → text = text' ∧ rest = rest') := by
  induction words generalizing words' text text' with
  | nil => exact absurd rfl hwords
  | cons word more ih =>
    obtain ⟨word', more', rfl⟩ := List.exists_cons_of_ne_nil hwords'
    obtain ⟨hword, hmore⟩ := List.forall_mem_cons.mp hsolid
    obtain ⟨hword', hmore'⟩ := List.forall_mem_cons.mp hsolid'
    -- after its first word a text goes on with a blank, be it that of a gap or that of the rest
    cases more with
    | nil =>
      obtain rfl : text = word.toList := htext
      cases more' with
      | nil =>
        obtain rfl : text' = word'.toList := htext'
        obtain ⟨rfl, rfl⟩ := solid_append_inj hword hword' hrest hrest' h
        exact ⟨.inl (List.prefix_refl _), fun _ => ⟨rfl, rfl⟩⟩
      | cons next' more' =>
        obtain ⟨gap', spelled', rfl, hsome', hgap', -⟩ := htext'
        rw [List.append_assoc, List.append_assoc] at h
        obtain ⟨rfl, -⟩ := solid_append_inj hword hword' hrest (startsBlank_append hsome' hgap' _) h
        exact ⟨.inl (by simp), by simp⟩
    | cons next more =>
      obtain ⟨gap, spelled, rfl, hsome, hgap, hspelled⟩ := htext
      rw [List.append_assoc, List.append_assoc] at h
      cases more' with
      | nil =>
        obtain rfl : text' = word'.toList := htext'
        obtain ⟨rfl, -⟩ := solid_append_inj hword hword' (startsBlank_append hsome hgap _) hrest' h
        exact ⟨.inr (by simp), by simp⟩
      | cons next' more' =>
        obtain ⟨gap', spelled', rfl, hsome', hgap', hspelled'⟩ := htext'
        rw [List.append_assoc, List.append_assoc] at h
        obtain ⟨rfl, hgaps⟩ := solid_append_inj hword hword' (startsBlank_append hsome hgap _)
          (startsBlank_append hsome' hgap' _) h
        obtain ⟨rfl, hrests⟩ := Text.append_inj_of_noneAfter (allBlank_iff.mp hgap) (allBlank_iff.mp hgap')
          (noneAfter_of_isSpelled (hmore next List.mem_cons_self) hspelled rest)
          (noneAfter_of_isSpelled (hmore' next' List.mem_cons_self) hspelled' rest') hgaps
        obtain ⟨hgoes, hsame⟩ := ih (List.cons_ne_nil _ _) (List.cons_ne_nil _ _) hmore hmore' hspelled
          hspelled' hrests
        refine ⟨by simpa [List.cons_prefix_cons] using hgoes, fun heq => ?_⟩
        obtain ⟨rfl, rfl⟩ := hsame (List.cons.inj heq).2
        exact ⟨rfl, rfl⟩

/-! ### Names with brackets -/

/-- A name of a declaration is a word. -/
def IsName (name : List Char) : Prop :=
  name ≠ [] ∧ ∀ c ∈ name, isWord c = true

/-- A word starts in a column of a declarator, and blanks and a bracket follow it. -/
def IsBracketedAt (piece : List Char) (column : Nat) (name : List Char) : Prop :=
  ∃ before gap after, piece = before ++ (name ++ (gap ++ '[' :: after)) ∧ before.length = column ∧
    NoneBefore isWord before ∧ IsName name ∧ allBlank gap = true

/-- It is the first word of the declarator that a bracket follows. -/
def IsFirstBracketed (piece : List Char) (column : Nat) (name : List Char) : Prop :=
  IsBracketedAt piece column name ∧ ∀ earlier < column, ∀ other, ¬IsBracketedAt piece earlier other

theorem isFirstBracketed_unique {column' : Nat} {name' : List Char}
    (h : IsFirstBracketed piece column name) (h' : IsFirstBracketed piece column' name') :
    column = column' ∧ name = name' := by
  obtain ⟨hat, hfirst⟩ := h
  obtain ⟨hat', hfirst'⟩ := h'
  obtain rfl : column = column' := by
    rcases Nat.lt_trichotomy column column' with hlt | heq | hlt
    · exact absurd hat (hfirst' column hlt name)
    · exact heq
    · exact absurd hat' (hfirst column' hlt name')
  obtain ⟨before, gap, after, rfl, hlength, -, hname, hgap⟩ := hat
  obtain ⟨before', gap', after', heq, hlength', -, hname', hgap'⟩ := hat'
  obtain ⟨-, hrest⟩ := List.append_inj heq (hlength.trans hlength'.symm)
  exact ⟨rfl, (Text.append_inj_of_noneAfter hname.2 hname'.2
    (Text.noneAfter_isWord_of_allBlank hgap (by decide))
    (Text.noneAfter_isWord_of_allBlank hgap' (by decide)) hrest).1⟩

/-- What is skipped by the search for a bracketed word: none starts in it, and it ends at a word
boundary. -/
structure IsSkipped (front cs : List Char) : Prop where
  /-- No bracketed word starts in it. -/
  free : ∀ column name, IsBracketedAt (front ++ cs) column name → front.length ≤ column
  /-- No word goes on across its end. -/
  boundary : NoneBefore isWord front ∨ NoneAfter isWord cs

theorem IsSkipped.isBracketedAt_iff {front : List Char} (h : IsSkipped front cs) :
    IsBracketedAt (front ++ cs) column name ↔
      ∃ offset, column = front.length + offset ∧ IsBracketedAt cs offset name := by
  constructor
  · intro hat
    have hle := h.free column name hat
    obtain ⟨before, gap, after, heq, rfl, hbefore, hname, hgap⟩ := hat
    rcases List.append_eq_append_iff.mp heq with ⟨more, rfl, hcs⟩ | ⟨more, rfl, hrest⟩
    · exact ⟨more.length, List.length_append, more, gap, after, hcs, rfl, hbefore.of_append, hname, hgap⟩
    · -- the word does not start in what is skipped, so nothing of that is left over
      obtain rfl : more = [] := by
        rw [List.length_append] at hle
        exact List.length_eq_zero_iff.mp (by omega)
      exact ⟨0, by simp, [], gap, after, hrest.symm, rfl, Text.noneBefore_nil, hname, hgap⟩
  · rintro ⟨_, rfl, before, gap, after, rfl, rfl, hbefore, hname, hgap⟩
    refine ⟨front ++ before, gap, after, (List.append_assoc _ _ _).symm, List.length_append,
      .append (fun hnil => h.boundary.resolve_right fun hafter => ?_) hbefore, hname, hgap⟩
    obtain ⟨c, name, rfl⟩ := List.exists_cons_of_ne_nil hname.1
    rw [hnil, List.nil_append, List.cons_append, Text.noneAfter_cons, hname.2 c List.mem_cons_self] at hafter
    cases hafter

/-- The search goes on behind what is skipped. -/
theorem IsSkipped.exists_isFirstBracketed_iff {front : List Char} (h : IsSkipped front cs) :
    (∃ column, IsFirstBracketed (front ++ cs) column name) ↔ ∃ column, IsFirstBracketed cs column name := by
  constructor
  · rintro ⟨column, hat, hfirst⟩
    obtain ⟨offset, rfl, hoffset⟩ := h.isBracketedAt_iff.mp hat
    refine ⟨offset, hoffset, fun earlier hlt other hother => ?_⟩
    exact hfirst (front.length + earlier) (by omega) other (h.isBracketedAt_iff.mpr ⟨earlier, rfl, hother⟩)
  · rintro ⟨offset, hat, hfirst⟩
    refine ⟨front.length + offset, h.isBracketedAt_iff.mpr ⟨offset, rfl, hat⟩,
      fun earlier hlt other hother => ?_⟩
    obtain ⟨early, rfl, hearly⟩ := h.isBracketedAt_iff.mp hother
    exact hfirst early (by omega) other hearly

/-- A character that is in no word is skipped. -/
theorem isSkipped_singleton {c : Char} (hc : isWord c = false) (cs : List Char) : IsSkipped [c] cs where
  free column name hat := by
    obtain ⟨before, gap, after, heq, rfl, -, hname, -⟩ := hat
    cases before with
    | cons => simp
    | nil =>
      obtain ⟨d, name, rfl⟩ := List.exists_cons_of_ne_nil hname.1
      obtain ⟨rfl, -⟩ := List.cons.inj heq
      rw [hname.2 c List.mem_cons_self] at hc
      cases hc
  boundary := .inl (by simpa [NoneBefore] using hc)

/-- A word without a bracket is skipped. -/
theorem isSkipped_word (hname : IsName name) (hrest : NoneAfter isWord rest)
    (hbracket : ∀ after, dropBlanks rest ≠ '[' :: after) : IsSkipped name rest where
  free column other hat := by
    obtain ⟨before, gap, after, heq, rfl, hbefore, hother, hgap⟩ := hat
    have hfollows : NoneAfter isWord (gap ++ '[' :: after) :=
      Text.noneAfter_isWord_of_allBlank hgap (by decide)
    rcases List.append_eq_append_iff.mp heq with ⟨more, rfl, -⟩ | ⟨more, rfl, -⟩
    · simp
    · -- what stands before is a part of the word, so nothing does, and the two words are the same
      obtain rfl : before = [] :=
        hbefore.eq_nil fun c hc => hname.2 c (List.mem_append_left _ hc)
      obtain ⟨rfl, rfl⟩ := Text.append_inj_of_noneAfter hname.2 hother.2 hrest hfollows heq
      exact absurd (dropBlanks_eq_iff.mpr ⟨gap, rfl, hgap, Text.noneAfter_cons.mpr (by decide)⟩)
        (hbracket after)
  boundary := .inr hrest

theorem isName_takeWhile {c : Char} (hc : isWord c = true) (rest : List Char) :
    IsName (c :: rest.takeWhile isWord) :=
  ⟨List.cons_ne_nil _ _, List.forall_mem_cons.mpr ⟨hc, fun _ hmem => List.mem_takeWhile_imp hmem⟩⟩

/-- The name that a declarator declares is its first word that a bracket follows. -/
theorem bracketedName?_eq_some_iff :
    bracketedName? cs = some name ↔ ∃ column, IsFirstBracketed cs column name := by
  -- the search may skip a whole word, so the induction is that of its definition
  fun_induction bracketedName? cs with
  | case1 =>
    refine iff_of_false nofun ?_
    rintro ⟨column, ⟨before, gap, after, heq, -⟩, -⟩
    simp at heq
  | case2 c rest hc after hbracket =>
    have hfirst : IsFirstBracketed (c :: rest) 0 (c :: rest.takeWhile isWord) := by
      obtain ⟨gap, hrest, hgap, -⟩ := dropBlanks_eq_iff.mp hbracket
      refine ⟨⟨[], gap, after, ?_, rfl, Text.noneBefore_nil, isName_takeWhile hc rest, hgap⟩,
        fun earlier hlt => absurd hlt (Nat.not_lt_zero earlier)⟩
      rw [← hrest, List.nil_append, List.cons_append, List.takeWhile_append_dropWhile]
    rw [Option.some.injEq]
    exact ⟨fun heq => ⟨0, heq ▸ hfirst⟩, fun ⟨_, h⟩ => (isFirstBracketed_unique hfirst h).2⟩
  | case3 c rest hc hbracket ih =>
    have hskipped := isSkipped_word (isName_takeWhile hc rest) (Text.noneAfter_dropWhile isWord rest)
      hbracket
    rw [ih, ← hskipped.exists_isFirstBracketed_iff, List.cons_append, List.takeWhile_append_dropWhile]
  | case4 c rest hc ih =>
    rw [ih, ← (isSkipped_singleton (by simpa using hc) rest).exists_isFirstBracketed_iff]
    rfl

/-- Blanks before a declarator make no difference. -/
theorem bracketedName?_blanks_append {gap : List Char} (hgap : allBlank gap = true) (cs : List Char) :
    bracketedName? (gap ++ cs) = bracketedName? cs := by
  induction gap with
  | nil => rfl
  | cons b gap ih =>
    obtain ⟨hb, hgap⟩ := List.forall_mem_cons.mp (allBlank_iff.mp hgap)
    rw [← ih (allBlank_iff.mpr hgap), List.cons_append, bracketedName?, if_neg]
    simp [Text.isWord_of_isBlank hb]

/-- Blanks after a declarator make no difference. -/
theorem bracketedName?_append_blanks {gap : List Char} (hgap : allBlank gap = true) (cs : List Char) :
    bracketedName? (cs ++ gap) = bracketedName? cs := by
  have hat : ∀ column name, IsBracketedAt (cs ++ gap) column name ↔ IsBracketedAt cs column name := by
    intro column name
    constructor
    · rintro ⟨before, between, after, heq, hlength, hbefore, hname, hbetween⟩
      -- a bracket is no blank, so it stands before the blanks
      have hparts : cs ++ gap = (before ++ (name ++ (between ++ ['[']))) ++ after := by simp [heq]
      rcases List.append_eq_append_iff.mp hparts with ⟨more, hmore, rfl⟩ | ⟨more, rfl, -⟩
      · rcases List.eq_nil_or_concat more with rfl | ⟨_, c, rfl⟩
        · exact ⟨before, between, [], by simpa using hmore.symm, hlength, hbefore, hname, hbetween⟩
        · have hc : c = '[' := by simpa using (congrArg List.getLast? hmore).symm
          exact absurd (allBlank_iff.mp hgap c (by simp)) (by rw [hc]; decide)
      · exact ⟨before, between, more, by simp, hlength, hbefore, hname, hbetween⟩
    · rintro ⟨before, between, after, rfl, hlength, hbefore, hname, hbetween⟩
      exact ⟨before, between, after ++ gap, by simp, hlength, hbefore, hname, hbetween⟩
  refine Option.ext fun name => ?_
  simp only [bracketedName?_eq_some_iff, IsFirstBracketed, hat]

theorem bracketedName?_strip (cs : List Char) : bracketedName? (Text.strip cs) = bracketedName? cs := by
  obtain ⟨lead, trail, hlead, htrail, heq⟩ := Text.exists_eq_strip cs
  conv_rhs => rw [heq, bracketedName?_blanks_append hlead, bracketedName?_append_blanks htrail]

/-! ### Declarators -/

/-- The text has a declarator that starts in a column: it reaches from comma to comma. -/
def IsDeclaratorOf (text : List Char) (start : Nat) (piece : List Char) : Prop :=
  ∃ front back, text = front ++ (piece ++ back) ∧ front.length = start ∧ ',' ∉ piece ∧
    NoneBefore (· ≠ ',') front ∧ NoneAfter (· ≠ ',') back

/-- The pieces of a text that was cut, with the columns in which they start. -/
def placePieces (column : Nat) : List (List Char) → List (Nat × List Char)
  | [] => []
  | piece :: rest => (column, piece) :: placePieces (column + piece.length + 1) rest

/-- A text without a comma is one declarator. -/
theorem isDeclaratorOf_of_not_mem (h : ',' ∉ text) {start : Nat} :
    IsDeclaratorOf text start piece ↔ start = 0 ∧ piece = text := by
  constructor
  · rintro ⟨front, back, rfl, rfl, -, hfront, hback⟩
    simp only [List.mem_append, not_or, separator_not_mem_iff] at h
    rw [hfront.eq_nil h.1, hback.eq_nil h.2.2]
    simp
  · rintro ⟨rfl, rfl⟩
    exact ⟨[], [], by simp, rfl, h, Text.noneBefore_nil, Text.noneAfter_nil⟩

/-- A text with a comma is a declarator and what follows its first comma. -/
theorem isDeclaratorOf_append {first : List Char} (hfirst : ',' ∉ first) {start : Nat} :
    IsDeclaratorOf (first ++ ',' :: rest) start piece ↔
      (start = 0 ∧ piece = first) ∨ ∃ offset, start = first.length + 1 + offset ∧
        IsDeclaratorOf rest offset piece := by
  constructor
  · rintro ⟨front, back, heq, rfl, hpiece, hfront, hback⟩
    by_cases hcomma : ',' ∈ front
    · -- the first comma is in what stands before the declarator
      right
      rcases List.append_eq_append_iff.mp heq with ⟨more, rfl, hrest⟩ | ⟨more, rfl, -⟩
      · cases more with
        | nil => exact absurd (by simpa using hcomma) hfirst
        | cons c more =>
          obtain ⟨rfl, rfl⟩ := List.cons.inj hrest
          rw [List.append_cons] at hfront
          exact ⟨more.length, by simp; omega, more, back, rfl, rfl, hpiece, hfront.of_append, hback⟩
      · exact absurd (List.mem_append_left _ hcomma) hfirst
    · left
      obtain rfl := hfront.eq_nil (separator_not_mem_iff.mp hcomma)
      exact ⟨rfl, (Text.append_inj_of_noneAfter (separator_not_mem_iff.mp hpiece)
        (separator_not_mem_iff.mp hfirst) hback (Text.noneAfter_cons.mpr (by decide)) heq.symm).1⟩
  · rintro (⟨rfl, rfl⟩ | ⟨_, rfl, front, back, rfl, rfl, hpiece, hfront, hback⟩)
    · exact ⟨[], ',' :: rest, rfl, rfl, hfirst, Text.noneBefore_nil, Text.noneAfter_cons.mpr (by decide)⟩
    · refine ⟨first ++ ',' :: front, back, by simp, by simp; omega, hpiece, ?_, hback⟩
      rw [List.append_cons]
      exact .append (fun _ => Text.noneBefore_concat.mpr (by decide)) hfront

/-- A text is cut into its declarators. -/
theorem mem_placePieces_splitBy {start : Nat} :
    (start, piece) ∈ placePieces column (Text.splitBy (· = ',') text) ↔
      ∃ offset, start = column + offset ∧ IsDeclaratorOf text offset piece := by
  induction hlength : text.length using Nat.strong_induction_on generalizing column text with
  | _ length ih =>
    subst hlength
    rcases Text.splitBy_cases ',' text with ⟨hnone, heq⟩ | ⟨first, rest, rfl, hfirst, heq⟩
    · rw [heq]
      simp [placePieces, isDeclaratorOf_of_not_mem hnone]
    · rw [heq, placePieces, List.mem_cons, ih rest.length (by simp; omega) rfl]
      simp only [isDeclaratorOf_append hfirst, Prod.mk.injEq]
      constructor
      · rintro (⟨rfl, rfl⟩ | ⟨offset, rfl, hoffset⟩)
        · exact ⟨0, rfl, .inl ⟨rfl, rfl⟩⟩
        · exact ⟨first.length + 1 + offset, by omega, .inr ⟨offset, rfl, hoffset⟩⟩
      · rintro ⟨_, rfl, ⟨rfl, rfl⟩ | ⟨offset, rfl, hoffset⟩⟩
        · exact .inl ⟨rfl, rfl⟩
        · exact .inr ⟨offset, by omega, hoffset⟩

/-! ### Captured names -/

/-- A name that a declaration captures. -/
structure Captured where
  /-- Column of its first character. -/
  column : Nat
  /-- Its characters. -/
  name : List Char
  deriving DecidableEq

theorem map_snd_placePieces (column : Nat) (pieces : List (List Char)) :
    (placePieces column pieces).map Prod.snd = pieces := by
  induction pieces generalizing column with
  | nil => rfl
  | cons piece rest ih => rw [placePieces, List.map_cons, ih]

theorem le_of_mem_placePieces {pieces : List (List Char)} {start : Nat}
    (h : (start, piece) ∈ placePieces column pieces) : column ≤ start := by
  induction pieces generalizing column with
  | nil => exact absurd h List.not_mem_nil
  | cons first rest ih =>
    rcases List.mem_cons.mp h with heq | h
    · exact (Prod.mk.inj heq).1.ge
    · have hle := ih h
      omega

/-- A piece starts behind the end of the piece before it. -/
theorem pairwise_placePieces (column : Nat) (pieces : List (List Char)) :
    (placePieces column pieces).Pairwise fun a b => a.1 + a.2.length < b.1 := by
  induction pieces generalizing column with
  | nil => exact .nil
  | cons piece rest ih => exact .cons (fun later hlater => le_of_mem_placePieces hlater) (ih _)

theorem IsBracketedAt.lt_length (h : IsBracketedAt piece column name) : column < piece.length := by
  obtain ⟨before, gap, after, rfl, rfl, -⟩ := h
  simp

/-- The names of pieces, in their columns. -/
theorem exists_captured_of_pieces (placed : List (Nat × List Char))
    (hsorted : placed.Pairwise fun a b => a.1 + a.2.length < b.1) :
    ∃ found : List Captured, found.map (·.name) = placed.filterMap (fun p => bracketedName? p.2) ∧
      found.Pairwise (·.column < ·.column) ∧
      ∀ capture, capture ∈ found ↔ ∃ start piece offset, (start, piece) ∈ placed ∧
        IsFirstBracketed piece offset capture.name ∧ capture.column = start + offset := by
  induction placed with
  | nil => exact ⟨[], rfl, .nil, by simp⟩
  | cons first rest ih =>
    obtain ⟨start, piece⟩ := first
    obtain ⟨hfirst, hrest⟩ := List.pairwise_cons.mp hsorted
    obtain ⟨found, hnames, hfound, hmem⟩ := ih hrest
    -- A piece without a bracketed name adds nothing. One with a name adds a capture before all
    -- later ones, for pieces do not touch.
    cases hname : bracketedName? piece with
    | none =>
      refine ⟨found, by simp [hname, hnames], hfound, fun capture => ?_⟩
      rw [hmem]
      constructor
      · rintro ⟨start', piece', offset, hin, h⟩
        exact ⟨start', piece', offset, List.mem_cons_of_mem _ hin, h⟩
      · rintro ⟨start', piece', offset, hin, hoffset, h⟩
        rcases List.mem_cons.mp hin with heq | hin
        · obtain ⟨rfl, rfl⟩ := Prod.mk.inj heq
          rw [bracketedName?_eq_some_iff.mpr ⟨offset, hoffset⟩] at hname
          cases hname
        · exact ⟨start', piece', offset, hin, hoffset, h⟩
    | some name =>
      obtain ⟨offset, hoffset⟩ := bracketedName?_eq_some_iff.mp hname
      refine ⟨⟨start + offset, name⟩ :: found, by simp [hname, hnames],
        .cons (fun later hlater => ?_) hfound, fun capture => ?_⟩
      · obtain ⟨start', piece', offset', hin, -, hcolumn⟩ := (hmem later).mp hlater
        have hstart := hfirst _ hin
        have hlength := hoffset.1.lt_length
        dsimp only at hstart ⊢
        omega
      · rw [List.mem_cons, hmem]
        constructor
        · rintro (rfl | ⟨start', piece', offset', hin, h⟩)
          · exact ⟨start, piece, offset, List.mem_cons_self, hoffset, rfl⟩
          · exact ⟨start', piece', offset', List.mem_cons_of_mem _ hin, h⟩
        · rintro ⟨start', piece', offset', hin, hoffset', hcolumn⟩
          rcases List.mem_cons.mp hin with heq | hin
          · obtain ⟨rfl, rfl⟩ := Prod.mk.inj heq
            obtain ⟨rfl, heqName⟩ := isFirstBracketed_unique hoffset hoffset'
            obtain ⟨column', name'⟩ := capture
            obtain rfl : column' = start' + offset := hcolumn
            obtain rfl : name = name' := heqName
            exact .inl rfl
          · exact .inr ⟨start', piece', offset', hin, hoffset', hcolumn⟩

/-! ### Patterns of declarations -/

/-- A declaration whose names are looked up in its line. -/
inductive Naming where
  /-- A field declaration. -/
  | field
  /-- A global variable declaration. -/
  | global
  /-- A definition of a macro. -/
  | define
  deriving DecidableEq

namespace Naming

/-- What a line declares if it is a declaration of this form. -/
def content? : Naming → PlacedLine → Int → Option LineContent
  | .field, placed, _ => placed.fields?
  | .global, placed, depth => placed.global? depth
  | .define, placed, _ => placed.define?

/-- The words with which a declaration starts. -/
def heads : Naming → List (List String)
  | .field => fieldTypeWords
  | .global => globalTypes.flatMap fun type =>
    [[type], ["static", type], ["const", type], ["static", "const", type]]
  | .define => [["#define"]]

/-- A name stands in a column of what follows the first words of a declaration. Reserved words are no names
of global variables. -/
def Names : Naming → List Char → Nat → List Char → Prop
  | .field, rest, column, name =>
    ∃ inside tail start piece offset, rest = inside ++ ';' :: tail ∧ ';' ∉ inside ∧
      IsDeclaratorOf inside start piece ∧ IsFirstBracketed piece offset name ∧ column = start + offset
  | .global, rest, column, name =>
    ∃ gap gap' mark tail, rest = gap ++ (name ++ (gap' ++ mark :: tail)) ∧ gap.length = column ∧
      allBlank gap = true ∧ IsName name ∧ allBlank gap' = true ∧ (mark = '=' ∨ mark = ';') ∧
      isReserved (String.ofList name) = false
  | .define, rest, column, name =>
    ∃ gap parameters b tail, rest = gap ++ (name ++ (parameters ++ b :: tail)) ∧ gap.length = column ∧
      allBlank gap = true ∧ IsName name ∧ isBlank b = true ∧
      (parameters = [] ∨ ∃ inner, parameters = '(' :: (inner ++ [')']) ∧ ')' ∉ inner)

/-- The first words of a declaration, with what stands before them and after them. -/
structure Splits (naming : Naming) (line lead head rest : List Char) : Prop where
  /-- They make up the line. -/
  parts : line = lead ++ (head ++ rest)
  /-- Blanks stand before them. -/
  blank : allBlank lead = true
  /-- A global variable is declared at the start of its line. -/
  atStart : naming = .global → lead = []
  /-- They are first words of such a declaration. -/
  spelled : ∃ words ∈ naming.heads, IsSpelled words head
  /-- A blank follows them. -/
  follows : StartsBlank rest

/-- The declaration of a line captures a name. -/
def Captures (naming : Naming) (line : Line) (capture : Captured) : Prop :=
  ∃ lead head rest offset, naming.Splits line lead head rest ∧
    naming.Names rest offset capture.name ∧ capture.column = lead.length + head.length + offset

theorem isSolid_of_mem_heads (naming : Naming) :
    ∀ words ∈ naming.heads, words ≠ [] ∧ ∀ word ∈ words, IsSolid word := by
  cases naming <;> decide +kernel

theorem isPrefixFree_heads (naming : Naming) : IsPrefixFree naming.heads := by
  cases naming <;> decide +kernel

variable {naming : Naming} {lead head lead' head' rest' : List Char}

theorem Splits.noneAfter (h : naming.Splits line lead head rest) : NoneAfter isBlank (head ++ rest) := by
  obtain ⟨words, hwords, hspelled⟩ := h.spelled
  obtain ⟨hsome, hsolid⟩ := naming.isSolid_of_mem_heads words hwords
  obtain ⟨word, more, rfl⟩ := List.exists_cons_of_ne_nil hsome
  exact noneAfter_of_isSpelled (hsolid word List.mem_cons_self) hspelled rest

/-- A line has at most one beginning of a declaration. -/
theorem Splits.unique (h : naming.Splits line lead head rest) (h' : naming.Splits line lead' head' rest') :
    lead = lead' ∧ head = head' ∧ rest = rest' := by
  -- the blanks go as far as they can, and then the words are told by the next blank
  obtain ⟨rfl, hparts⟩ := Text.append_inj_of_noneAfter (allBlank_iff.mp h.blank) (allBlank_iff.mp h'.blank)
    h.noneAfter h'.noneAfter (h.parts.symm.trans h'.parts)
  obtain ⟨words, hwords, hspelled⟩ := h.spelled
  obtain ⟨words', hwords', hspelled'⟩ := h'.spelled
  obtain ⟨hsome, hsolid⟩ := naming.isSolid_of_mem_heads words hwords
  obtain ⟨hsome', hsolid'⟩ := naming.isSolid_of_mem_heads words' hwords'
  obtain ⟨hgoes, hsame⟩ := isSpelled_append_inj hsome hsome' hsolid hsolid' hspelled hspelled' h.follows
    h'.follows hparts
  have hwordsEq : words = words' := hgoes.elim (naming.isPrefixFree_heads words hwords words' hwords')
    fun hgoes => (naming.isPrefixFree_heads words' hwords' words hwords hgoes).symm
  exact ⟨rfl, hsame hwordsEq⟩

/-- The names that follow the beginning of a declaration are those that it captures. -/
theorem Splits.exists_captured (h : naming.Splits line lead head rest) {within : List Captured}
    (hsorted : within.Pairwise (·.column < ·.column))
    (hmem : ∀ capture, capture ∈ within ↔ naming.Names rest capture.column capture.name) :
    ∃ found : List Captured, found.map (·.name) = within.map (·.name) ∧
      found.Pairwise (·.column < ·.column) ∧ ∀ capture, capture ∈ found ↔ naming.Captures line capture := by
  refine ⟨within.map fun capture => ⟨lead.length + head.length + capture.column, capture.name⟩,
    by simp, List.pairwise_map.mpr (hsorted.imp fun hlt => Nat.add_lt_add_left hlt _), fun capture => ?_⟩
  rw [List.mem_map]
  constructor
  · rintro ⟨inner, hinner, rfl⟩
    exact ⟨lead, head, rest, inner.column, h, (hmem inner).mp hinner, rfl⟩
  · rintro ⟨lead', head', rest', offset, hsplits, hnames, hcolumn⟩
    obtain ⟨rfl, rfl, rfl⟩ := h.unique hsplits
    exact ⟨⟨offset, capture.name⟩, (hmem _).mpr hnames, by rw [← hcolumn]⟩

end Naming

/-! ### Reading declarations -/

theorem fieldNames_eq (body : List Char) :
    fieldNames body = (Text.splitBy (· = ',') body).filterMap bracketedName? := by
  simp only [fieldNames, bracketedName?_strip]

/-- Blanks before the declarators make no difference. -/
theorem fieldNames_blanks_append {gap : List Char} (hgap : allBlank gap = true) (body : List Char) :
    fieldNames (gap ++ body) = fieldNames body := by
  induction gap with
  | nil => rfl
  | cons b gap ih =>
    obtain ⟨hb, hgap⟩ := List.forall_mem_cons.mp (allBlank_iff.mp hgap)
    have hcomma : ¬decide (b = ',') = true := by
      rintro h
      rw [of_decide_eq_true h] at hb
      exact absurd hb (by decide)
    obtain ⟨piece, pieces, hpieces⟩ :=
      List.exists_cons_of_ne_nil (Text.splitBy_ne_nil (· = ',') (gap ++ body))
    have hskipped : bracketedName? ([b] ++ piece) = bracketedName? piece :=
      bracketedName?_blanks_append (allBlank_iff.mpr (by simpa using hb)) piece
    rw [← ih (allBlank_iff.mpr hgap), fieldNames_eq, fieldNames_eq, List.cons_append, Text.splitBy,
      if_neg hcomma, hpieces, List.filterMap_cons, List.filterMap_cons, ← hskipped]
    rfl

/-- The declarators of a field declaration reach up to the first semicolon. -/
theorem spelling_of_fieldBody? {body : List Char} (h : fieldBody? cs = some body) :
    StartsBlank cs ∧ ∃ inside tail, cs = inside ++ ';' :: tail ∧ ';' ∉ inside ∧
      fieldNames body = fieldNames inside := by
  obtain ⟨rest, hblanks, hbody⟩ := Option.bind_eq_some_iff.mp h
  obtain ⟨gap, rfl, hsome, hgap, hrest⟩ := blanks?_eq_some_iff.mp hblanks
  refine ⟨startsBlank_append hsome hgap rest, ?_⟩
  have hgapFree : ';' ∉ gap := fun hmem => absurd (allBlank_iff.mp hgap _ hmem) (by decide)
  -- the pattern gives a blank back if nothing else is left, so blanks may have to be read as declarators
  have hnone : ∀ blanks, allBlank blanks = true → fieldNames blanks = fieldNames [] := by
    intro blanks hblanks
    rw [← fieldNames_blanks_append hblanks [], List.append_nil]
  dsimp only at hbody
  split at hbody
  · cases hbody
  next htake hdrop =>
    -- the last of at least two blanks stands for the declarators, and they declare nothing
    obtain ⟨tail, -, hrest, -⟩ := Text.eq_append_of_dropWhile_ne hdrop
    rw [htake, List.nil_append] at hrest
    split at hbody
    next first second more hfront =>
      obtain ⟨last, hlast, rfl⟩ := Option.map_eq_some_iff.mp hbody
      have hmem : last ∈ (gap ++ rest).takeWhile isBlank :=
        hfront ▸ List.mem_cons_of_mem first (List.mem_of_getLast? hlast)
      refine ⟨gap, tail, by rw [hrest], hgapFree, ?_⟩
      rw [hnone gap hgap, hnone [last] (by simpa [allBlank] using List.mem_takeWhile_imp hmem)]
    next => cases hbody
  next hdrop =>
    obtain rfl := Option.some.inj hbody
    obtain ⟨tail, -, hrest, htaken⟩ := Text.eq_append_of_dropWhile_ne hdrop
    refine ⟨gap ++ rest.takeWhile (· ≠ ';'), tail, by rw [List.append_assoc, ← hrest], ?_,
      (fieldNames_blanks_append hgap _).symm⟩
    exact fun hmem => (List.mem_append.mp hmem).elim hgapFree htaken

/-- A word that is skipped is one more word at the start of a text. -/
theorem isSpelled_of_skipWord {word : String} (hwords : words ≠ []) (h : IsSpelled words text)
    (hskip : skipWord word cs = text ++ rest) :
    ∃ text', cs = text' ++ rest ∧ (IsSpelled words text' ∨ IsSpelled (word :: words) text') := by
  rw [skipWord] at hskip
  cases hread : (literal? word cs).bind blanks? with
  | none =>
    rw [hread] at hskip
    exact ⟨text, hskip, .inl h⟩
  | some after =>
    rw [hread] at hskip
    obtain rfl : after = text ++ rest := hskip
    obtain ⟨afterWord, hword, hblanks⟩ := Option.bind_eq_some_iff.mp hread
    obtain ⟨gap, rfl, hsome, hgap, -⟩ := blanks?_eq_some_iff.mp hblanks
    obtain rfl := literal?_eq_some_iff.mp hword
    obtain ⟨next, more, rfl⟩ := List.exists_cons_of_ne_nil hwords
    exact ⟨word.toList ++ (gap ++ text), by simp, .inr ⟨gap, text, rfl, hsome, hgap, h⟩⟩

/-- What is read as a field declaration. -/
theorem spelling_of_fieldList? {type body : List Char} (h : fieldList? line = some (type, body)) :
    ∃ lead head inside tail, Naming.Splits .field line lead head (inside ++ ';' :: tail) ∧ ';' ∉ inside ∧
      fieldNames body = fieldNames inside := by
  obtain ⟨words, hwords, hread⟩ := List.exists_of_findSome?_eq_some h
  obtain ⟨rest, hhead, hread⟩ := Option.bind_eq_some_iff.mp hread
  obtain ⟨body', hbody, hread⟩ := Option.bind_eq_some_iff.mp hread
  obtain rfl : body' = body := (Prod.mk.inj (Option.some.inj hread)).2
  obtain ⟨hstarts, inside, tail, rfl, hinside, hnames⟩ := spelling_of_fieldBody? hbody
  obtain ⟨head, hcs, hspelled⟩ := isSpelled_of_afterWords? hhead
  obtain ⟨lead, hline, hlead, -⟩ := dropBlanks_eq_iff.mp hcs
  exact ⟨lead, head, inside, tail, ⟨hline, hlead, nofun, ⟨words, hwords, hspelled⟩, hstarts⟩, hinside,
    hnames⟩

/-- What is read as a global variable declaration. -/
theorem spelling_of_globalHead? {type : String} (h : globalHead? line = some (type, name)) :
    ∃ head gap gap' mark tail,
      Naming.Splits .global line [] head (gap ++ (name ++ (gap' ++ mark :: tail))) ∧
      allBlank gap = true ∧ IsName name ∧ allBlank gap' = true ∧ (mark = '=' ∨ mark = ';') := by
  obtain ⟨type', htype', hread⟩ := List.exists_of_findSome?_eq_some h
  obtain ⟨afterType, htype, hafterType⟩ := Option.bind_eq_some_iff.mp hread
  obtain ⟨afterGap, hblanks, hafterGap⟩ := Option.bind_eq_some_iff.mp hafterType
  obtain ⟨⟨name', afterName⟩, hword, hmark⟩ := Option.bind_eq_some_iff.mp hafterGap
  dsimp only at hmark
  split at hmark
  next mark tail hdropped =>
    split at hmark
    next hmarks =>
      obtain rfl : name' = name := (Prod.mk.inj (Option.some.inj hmark)).2
      obtain ⟨rfl, hsome', hname, -⟩ := word?_eq_some_iff.mp hword
      obtain ⟨gap, rfl, hsome, hgap, -⟩ := blanks?_eq_some_iff.mp hblanks
      obtain ⟨gap', rfl, hgap', -⟩ := dropBlanks_eq_iff.mp hdropped
      -- the words before the type are taken away one by one, and each may be missing
      obtain ⟨text, hconst, htext⟩ := isSpelled_of_skipWord (List.cons_ne_nil _ _)
        (show IsSpelled [type'] type'.toList from rfl) (literal?_eq_some_iff.mp htype)
      have hhead : ∃ head, line = head ++ (gap ++ (name' ++ (gap' ++ mark :: tail))) ∧
          ∃ words ∈ Naming.heads .global, IsSpelled words head := by
        have hmem : ∀ words ∈ [[type'], ["static", type'], ["const", type'], ["static", "const", type']],
            words ∈ Naming.heads .global :=
          fun words hwords => List.mem_flatMap.mpr ⟨type', htype', hwords⟩
        rcases htext with htext | htext
        all_goals
          obtain ⟨head, hline, hhead⟩ := isSpelled_of_skipWord (List.cons_ne_nil _ _) htext hconst
          exact ⟨head, hline,
            hhead.elim (fun h => ⟨_, hmem _ (by simp), h⟩) fun h => ⟨_, hmem _ (by simp), h⟩⟩
      obtain ⟨head, hline, hspelled⟩ := hhead
      exact ⟨head, gap, gap', mark, tail,
        ⟨hline, rfl, fun _ => rfl, hspelled, startsBlank_append hsome hgap _⟩,
        hgap, ⟨hsome', hname⟩, hgap', by simpa using hmarks⟩
    next => cases hmark
  next => cases hmark

theorem spelling_of_parenthesized? {inner : List Char} (h : parenthesized? cs = some (inner, rest)) :
    cs = '(' :: (inner ++ ')' :: rest) ∧ ')' ∉ inner := by
  unfold parenthesized? at h
  split at h
  next more =>
    unfold upToClosing? at h
    split at h
    next c tail hdropped =>
      obtain ⟨rfl, rfl⟩ := Prod.mk.inj (Option.some.inj h)
      obtain ⟨_, hfirst, hmore, hinner⟩ :=
        Text.eq_append_of_dropWhile_ne (hdropped ▸ List.cons_ne_nil c tail)
      obtain ⟨rfl, rfl⟩ := List.cons.inj (hdropped.symm.trans hfirst)
      exact ⟨congrArg _ hmore, hinner⟩
    next => cases h
  next => cases h

theorem startsBlank_of_blanks? (h : blanks? cs = some rest) : StartsBlank cs := by
  obtain ⟨gap, rfl, hsome, hgap, -⟩ := blanks?_eq_some_iff.mp h
  exact startsBlank_append hsome hgap rest

/-- What is read as the definition of a macro. -/
theorem spelling_of_defineHead? {parameters? : Option (List Char)}
    (h : defineHead? line = some (name, parameters?)) :
    ∃ lead head gap parameters b tail,
      Naming.Splits .define line lead head (gap ++ (name ++ (parameters ++ b :: tail))) ∧
      allBlank gap = true ∧ IsName name ∧ isBlank b = true ∧
      (parameters = [] ∨ ∃ inner, parameters = '(' :: (inner ++ [')']) ∧ ')' ∉ inner) := by
  obtain ⟨afterHead, hhead, hafterHead⟩ := Option.bind_eq_some_iff.mp h
  obtain ⟨afterGap, hblanks, hafterGap⟩ := Option.bind_eq_some_iff.mp hafterHead
  obtain ⟨⟨name', afterName⟩, hword, hread⟩ := Option.bind_eq_some_iff.mp hafterGap
  obtain ⟨lead, hline, hlead, -⟩ := dropBlanks_eq_iff.mp (literal?_eq_some_iff.mp hhead)
  obtain ⟨gap, rfl, hsome, hgap, -⟩ := blanks?_eq_some_iff.mp hblanks
  obtain ⟨rfl, hsome', hname, -⟩ := word?_eq_some_iff.mp hword
  -- With parameters or without, what is read ends with a blank.
  have hfollows : ∃ parameters b tail, afterName = parameters ++ b :: tail ∧ isBlank b = true ∧
      (parameters = [] ∨ ∃ inner, parameters = '(' :: (inner ++ [')']) ∧ ')' ∉ inner) ∧ name' = name := by
    dsimp only at hread
    split at hread
    next inner rest hparen =>
      obtain ⟨_, hrest, hfound⟩ := Option.bind_eq_some_iff.mp hread
      obtain ⟨rfl, hinner⟩ := spelling_of_parenthesized? hparen
      obtain ⟨b, tail, rfl, hb⟩ := startsBlank_of_blanks? hrest
      exact ⟨'(' :: (inner ++ [')']), b, tail, by simp, hb, .inr ⟨inner, rfl, hinner⟩,
        (Prod.mk.inj (Option.some.inj hfound)).1⟩
    next =>
      obtain ⟨_, hrest, hfound⟩ := Option.bind_eq_some_iff.mp hread
      obtain ⟨b, tail, rfl, hb⟩ := startsBlank_of_blanks? hrest
      exact ⟨[], b, tail, rfl, hb, .inl rfl, (Prod.mk.inj (Option.some.inj hfound)).1⟩
  obtain ⟨parameters, b, tail, rfl, hb, hparameters, rfl⟩ := hfollows
  exact ⟨lead, "#define".toList, gap, parameters, b, tail,
    ⟨hline, hlead, nofun, ⟨_, List.mem_singleton_self _, rfl⟩, startsBlank_append hsome hgap _⟩, hgap,
    ⟨hsome', hname⟩, hb, hparameters⟩

/-- After blanks there is at most one name. -/
theorem name_append_inj {gap gap' name' rest' : List Char} (hgap : allBlank gap = true)
    (hgap' : allBlank gap' = true) (hname : IsName name) (hname' : IsName name')
    (hrest : NoneAfter isWord rest) (hrest' : NoneAfter isWord rest')
    (h : gap ++ (name ++ rest) = gap' ++ (name' ++ rest')) : gap = gap' ∧ name = name' := by
  obtain ⟨hgaps, hrests⟩ := Text.append_inj_of_noneAfter (allBlank_iff.mp hgap) (allBlank_iff.mp hgap')
    (Text.noneAfter_isBlank_of_isWord hname.1 hname.2 rest)
    (Text.noneAfter_isBlank_of_isWord hname'.1 hname'.2 rest') h
  exact ⟨hgaps, (Text.append_inj_of_noneAfter hname.2 hname'.2 hrest hrest' hrests).1⟩

theorem noneAfter_isWord_of_parameters {parameters tail : List Char} {b : Char} (hb : isBlank b = true)
    (h : parameters = [] ∨ ∃ inner, parameters = '(' :: (inner ++ [')']) ∧ ')' ∉ inner) :
    NoneAfter isWord (parameters ++ b :: tail) := by
  rcases h with rfl | ⟨inner, rfl, -⟩
  · exact Text.noneAfter_cons.mpr (Text.isWord_of_isBlank hb)
  · exact Text.noneAfter_cons.mpr (by decide)

end BasiliskServer.Source
