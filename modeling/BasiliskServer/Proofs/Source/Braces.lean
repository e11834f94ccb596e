import BasiliskServer.Proofs.Text.Line
import BasiliskServer.Source.Brace

/-!
# Braces by characters

The scanner for braces goes line by line, looks one character ahead and leaves a line at the start
of a comment. What it finds can be said without lines and without looking ahead: a text is read one
character at a time, every character is read in code, in a string, in a character literal or in a
comment (`Reading`), and the braces of the text are those that are read in code.

Within a line the scanner and the reading agree (`agree_scanBraces`), as long as no half of a
mark that was passed can make a whole one with what follows (`Follows`). Lines are read one after the
other (`readBraces_lines`). What is read in code can be listed without the scan (`mem_readBraces`),
so the braces of a text are known by their places (`mem_braces_iff_read_in_code`).
-/

namespace BasiliskServer.Source

open Text (Line)

/-! ### Reading one character at a time -/

/-- What a character of a source is read in. -/
inductive Reading where
  /-- Code; the flag says that the character before is a slash, which may be the first half of a mark. -/
  | code (slash : Bool)
  /-- A string; the flag says that the character is escaped. -/
  | string (escaped : Bool)
  /-- A character literal; the flag says that the character is escaped. -/
  | character (escaped : Bool)
  /-- A comment up to the end of the line. -/
  | lineComment
  /-- A comment up to its closing mark; the flag says that the character before is a star, which may be
  the first half of that mark. -/
  | blockComment (star : Bool)
  deriving DecidableEq, Repr

namespace Reading

/-- Whether what is read is code. -/
def isCode : Reading → Bool
  | .code _ => true
  | _ => false

/-- What the next character is read in. A mark of two characters takes effect with its second one; a
line feed ends everything but a block comment. -/
def next : Reading → Char → Reading
  | .code slash, c =>
    if slash && c = '/' then .lineComment
    else if slash && c = '*' then .blockComment false
    else if c = '"' then .string false
    else if c = '\'' then .character false
    else .code (c = '/')
  | .string escaped, c =>
    if c = '\n' then .code false
    else if escaped then .string false
    else if c = '\\' then .string true
    else if c = '"' then .code false
    else .string false
  | .character escaped, c =>
    if c = '\n' then .code false
    else if escaped then .character false
    else if c = '\\' then .character true
    else if c = '\'' then .code false
    else .character false
  | .lineComment, c => if c = '\n' then .code false else .lineComment
  | .blockComment star, c => if star && c = '/' then .code false else .blockComment (c = '*')

/-- What is read after the characters of a text. -/
def after (text : List Char) : Reading :=
  text.foldl next (.code false)

end Reading

/-- The character of a brace. -/
def Brace.char (brace : Brace) : Char :=
  if brace.opening then '{' else '}'

/-- The brace stands before the other one in the text. -/
def Brace.StandsBefore (a b : Brace) : Prop :=
  a.line < b.line ∨ (a.line = b.line ∧ a.column < b.column)

/-- The braces that are read in code, from a line and column on. -/
def readBraces (line column : Nat) (reading : Reading) : List Char → List Brace
  | [] => []
  | c :: rest =>
    let later :=
      if c = '\n' then readBraces (line + 1) 0 (reading.next c) rest
      else readBraces line (column + 1) (reading.next c) rest
    if reading.isCode && (c = '{' || c = '}') then ⟨line, column, c = '{'⟩ :: later else later

/-! ### One line -/

/-- The scanner is inside of what is read, and no half of a mark just before makes a whole one with what
follows. -/
inductive Follows (cs : Line) : Within → Reading → Prop
  | code {slash : Bool} (h : slash = true → ∀ c ∈ cs.head?, c ≠ '/' ∧ c ≠ '*') :
    Follows cs .code (.code slash)
  | string (escaped : Bool) : Follows cs (.quoted '"' escaped) (.string escaped)
  | character (escaped : Bool) : Follows cs (.quoted '\'' escaped) (.character escaped)
  | comment {star : Bool} (h : star = true → ∀ c ∈ cs.head?, c ≠ '/') :
    Follows cs .comment (.blockComment star)

/-- What is read at the start of a line. -/
def Reading.ofLine (inComment : Bool) : Reading :=
  if inComment then .blockComment false else .code false

/-- What the scanner is inside of at the start of a line. -/
theorem follows_ofLine (cs : Line) (inComment : Bool) :
    Follows cs (if inComment then .comment else .code) (.ofLine inComment) := by
  cases inComment
  · exact .code fun h => absurd h Bool.false_ne_true
  · exact .comment fun h => absurd h Bool.false_ne_true

/-- A character that is no brace in code takes the reading on by one column. -/
theorem readBraces_cons {line column : Nat} {reading : Reading} {c : Char} (hc : c ≠ '\n')
    (hbrace : (reading.isCode && (c = '{' || c = '}')) = false) (rest : List Char) :
    readBraces line column reading (c :: rest) =
      readBraces line (column + 1) (reading.next c) rest := by
  simp only [readBraces, hbrace, if_neg hc, Bool.false_eq_true, if_false]

/-- What the scanner and the reading agree about on the rest of a line: the braces, and whether the next line
starts in a comment. -/
structure Agree (line column : Nat) (reading : Reading) (cs : Line) (scanned : List Brace × Bool) :
    Prop where
  /-- The braces that are read in code are those found, whatever follows the line. -/
  braces (rest : List Char) : readBraces line column reading (cs ++ rest) =
    scanned.1 ++ readBraces line (column + cs.length) (cs.foldl Reading.next reading) rest
  /-- The line ends in a comment if the scanner says so. -/
  ending : (cs.foldl Reading.next reading).next '\n' = .ofLine scanned.2

/-- A character that is no brace in code changes nothing. -/
theorem Agree.cons {line column : Nat} {reading : Reading} {c : Char} {cs : Line}
    {scanned : List Brace × Bool} (hc : c ≠ '\n')
    (hbrace : (reading.isCode && (c = '{' || c = '}')) = false)
    (h : Agree line (column + 1) (reading.next c) cs scanned) :
    Agree line column reading (c :: cs) scanned where
  braces rest := by
    rw [List.cons_append, readBraces_cons hc hbrace, h.braces, List.foldl_cons, List.length_cons,
      Nat.add_right_comm, Nat.add_assoc]
  ending := h.ending

/-- In a comment up to the end of the line no brace is read. -/
theorem agree_lineComment (line column : Nat) {cs : Line} (hline : '\n' ∉ cs) :
    Agree line column .lineComment cs ([], false) := by
  induction cs generalizing column with
  | nil => exact ⟨fun rest => rfl, rfl⟩
  | cons c cs ih =>
    obtain ⟨hc, hline⟩ := List.ne_and_not_mem_of_not_mem_cons hline
    have hnext : Reading.next .lineComment c = .lineComment := if_neg (Ne.symm hc)
    exact .cons (Ne.symm hc) rfl (hnext.symm ▸ ih (column + 1) hline)

/-- A mark that the scanner has passed leaves code behind. -/
theorem follows_code (cs : Line) : Follows cs .code (.code false) :=
  .code fun h => absurd h Bool.false_ne_true

/-- The scanner stays inside of what is read when a character of a string or of a character literal is
passed. -/
theorem follows_quoted {quote c : Char} {cs : Line} {inside : Bool → Reading} (hc : c ≠ '\n')
    (hinside : ∀ escaped, Follows cs (.quoted quote escaped) (inside escaped))
    (hnext : (inside false).next c =
      if c = '\n' then .code false else if c = '\\' then inside true
      else if c = quote then .code false else inside false) :
    Follows cs (if c = '\\' then .quoted quote true else if c = quote then .code
      else .quoted quote false) ((inside false).next c) := by
  rw [hnext, if_neg hc]
  split
  · exact hinside true
  · split
    · exact follows_code cs
    · exact hinside false

theorem eq_false_of_head_mark {slash : Bool} {c : Char} {cs : Line}
    (hhalf : slash = true → ∀ c' ∈ (c :: cs).head?, c' ≠ '/' ∧ c' ≠ '*') (hc : c = '/' ∨ c = '*') :
    slash = false := by
  cases slash with
  | false => rfl
  | true =>
    obtain ⟨hslash, hstar⟩ := hhalf rfl c rfl
    exact absurd hc (not_or.mpr ⟨hslash, hstar⟩)

/-- A character of code that neither ends a mark nor opens quotes is followed by code. -/
theorem follows_next_code {slash : Bool} {c : Char} {cs : Line}
    (hhalf : slash = true → ∀ c' ∈ (c :: cs).head?, c' ≠ '/' ∧ c' ≠ '*')
    (hquote : ¬ (c = '"' || c = '\'') = true) (hline : ∀ rest, c = '/' → cs = '/' :: rest → False)
    (hblock : ∀ rest, c = '/' → cs = '*' :: rest → False) :
    Follows cs .code ((Reading.code slash).next c) := by
  have hnext : (Reading.code slash).next c = .code (c = '/') := by
    have hmark : ∀ mark, mark = '/' ∨ mark = '*' → (slash && c = mark) = false := by
      intro mark hmark
      by_cases hc : c = mark
      · rw [eq_false_of_head_mark hhalf (hc ▸ hmark), Bool.false_and]
      · rw [decide_eq_false hc, Bool.and_false]
    simp only [Bool.or_eq_true, decide_eq_true_eq, not_or] at hquote
    simp [Reading.next, hmark '/' (.inl rfl), hmark '*' (.inr rfl), hquote]
  rw [hnext]
  refine .code fun hslash c' hc' => ?_
  obtain ⟨rest, rfl⟩ := List.head?_eq_some_iff.mp hc'
  exact ⟨fun h => hline rest (of_decide_eq_true hslash) (h ▸ rfl),
    fun h => hblock rest (of_decide_eq_true hslash) (h ▸ rfl)⟩

/-- On a line the braces that are read in code are those that the scanner finds. -/
theorem agree_scanBraces (line column : Nat) (within : Within) {cs : Line} (hline : '\n' ∉ cs)
    {reading : Reading} (h : Follows cs within reading) :
    Agree line column reading cs (scanBraces line column within cs) := by
  -- one case for each branch of the scanner; `Follows` says which reading it stands for, and it carries
  -- the half of a mark that the character before may have been
  fun_induction scanBraces line column within cs generalizing reading with
  | case1 column within =>
    refine ⟨fun rest => rfl, ?_⟩
    cases h <;> simp [Reading.next, Reading.ofLine]
  | case2 column cs ih =>
    -- the closing mark of a block comment
    obtain ⟨-, hline⟩ := List.ne_and_not_mem_of_not_mem_cons hline
    obtain ⟨-, hline⟩ := List.ne_and_not_mem_of_not_mem_cons hline
    cases h with
    | @comment star _ =>
      have hstar : (Reading.blockComment star).next '*' = .blockComment true := by
        cases star <;> rfl
      refine .cons (by decide) rfl (.cons (by decide) (by rw [hstar]; rfl) ?_)
      rw [hstar]
      exact ih hline (follows_code cs)
  -- inside a block comment that does not end here
  | case3 column c cs hmark ih =>
    obtain ⟨hc, hline⟩ := List.ne_and_not_mem_of_not_mem_cons hline
    cases h with
    | @comment star hhalf =>
      have hnext : (Reading.blockComment star).next c = .blockComment (c = '*') := by
        rw [Reading.next, if_neg]
        intro hclosing
        obtain ⟨hstar, hslash⟩ := Bool.and_eq_true_iff.mp hclosing
        exact hhalf hstar c rfl (of_decide_eq_true hslash)
      refine .cons (Ne.symm hc) rfl (hnext ▸ ih hline (.comment fun hstar c' hc' => ?_))
      rintro rfl
      obtain ⟨rest, rfl⟩ := List.head?_eq_some_iff.mp hc'
      exact hmark rest (of_decide_eq_true hstar) rfl
  | case4 column quote c cs ih =>
    obtain ⟨hc, hline⟩ := List.ne_and_not_mem_of_not_mem_cons hline
    cases h with
    | string => exact .cons (Ne.symm hc) rfl (by
        rw [Reading.next, if_neg (Ne.symm hc), if_pos rfl]; exact ih hline (.string false))
    | character => exact .cons (Ne.symm hc) rfl (by
        rw [Reading.next, if_neg (Ne.symm hc), if_pos rfl]; exact ih hline (.character false))
  -- inside a literal that does not end here
  | case5 column quote c cs next ih =>
    obtain ⟨hc, hline⟩ := List.ne_and_not_mem_of_not_mem_cons hline
    cases h with
    | string => exact .cons (Ne.symm hc) rfl (ih hline (follows_quoted (Ne.symm hc) .string rfl))
    | character =>
      exact .cons (Ne.symm hc) rfl (ih hline (follows_quoted (Ne.symm hc) .character rfl))
  | case6 column cs =>
    -- the rest of the line is a comment
    obtain ⟨-, hline⟩ := List.ne_and_not_mem_of_not_mem_cons hline
    obtain ⟨-, hline⟩ := List.ne_and_not_mem_of_not_mem_cons hline
    cases h with
    | code hhalf =>
      rw [eq_false_of_head_mark hhalf (.inl rfl)]
      exact .cons (by decide) rfl (.cons (by decide) rfl (agree_lineComment line (column + 2) hline))
  | case7 column cs ih =>
    obtain ⟨-, hline⟩ := List.ne_and_not_mem_of_not_mem_cons hline
    obtain ⟨-, hline⟩ := List.ne_and_not_mem_of_not_mem_cons hline
    cases h with
    | code hhalf =>
      rw [eq_false_of_head_mark hhalf (.inl rfl)]
      exact .cons (by decide) rfl (.cons (by decide) rfl
        (ih hline (.comment fun h => absurd h Bool.false_ne_true)))
  | case8 column c cs _ _ hquote ih =>
    obtain ⟨hc, hline⟩ := List.ne_and_not_mem_of_not_mem_cons hline
    cases h with
    | @code slash _ =>
      have hnext : Follows cs (.quoted c false) ((Reading.code slash).next c) := by
        rcases Bool.or_eq_true_iff.mp hquote with hstring | hcharacter
        · rw [of_decide_eq_true hstring]
          cases slash <;> exact .string false
        · rw [of_decide_eq_true hcharacter]
          cases slash <;> exact .character false
      refine .cons (Ne.symm hc) ?_ (ih hline hnext)
      rcases Bool.or_eq_true_iff.mp hquote with hstring | hcharacter
      · rw [of_decide_eq_true hstring]; rfl
      · rw [of_decide_eq_true hcharacter]; rfl
  | case9 column c cs hline2 hblock hquote braces inComment hscan hbrace ih =>
    obtain ⟨hc, hline⟩ := List.ne_and_not_mem_of_not_mem_cons hline
    cases h with
    | @code slash hhalf =>
      have hagree := ih hline (follows_next_code hhalf hquote hline2 hblock)
      rw [hscan] at hagree
      refine ⟨fun rest => ?_, hagree.ending⟩
      have hread : (Reading.isCode (.code slash) && (c = '{' || c = '}')) = true := hbrace
      rw [List.cons_append, readBraces, if_neg (Ne.symm hc), if_pos hread, hagree.braces,
        List.foldl_cons, List.length_cons, Nat.add_right_comm, Nat.add_assoc]
      rfl
  | case10 column c cs hline2 hblock hquote braces inComment hscan hbrace ih =>
    obtain ⟨hc, hline⟩ := List.ne_and_not_mem_of_not_mem_cons hline
    cases h with
    | code hhalf =>
      have hagree := ih hline (follows_next_code hhalf hquote hline2 hblock)
      rw [hscan] at hagree
      exact .cons (Ne.symm hc) (Bool.eq_false_iff.mpr hbrace) hagree

/-! ### All lines -/

/-- Lines are read one after the other. -/
theorem readBraces_lines (line : Nat) (inComment : Bool) {lines : List Line}
    (hlines : ∀ cs ∈ lines, '\n' ∉ cs) :
    readBraces line 0 (.ofLine inComment) (List.intercalate ['\n'] lines) =
      bracesFrom line inComment lines := by
  induction lines generalizing line inComment with
  | nil => rfl
  | cons first rest ih =>
    obtain ⟨hfirst, hrest⟩ := List.forall_mem_cons.mp hlines
    -- Both read a line alike, and a line break carries over only whether a comment is open.
    have hagree := agree_scanBraces line 0 _ hfirst (follows_ofLine first inComment)
    have hscanned : bracesFrom line inComment (first :: rest) =
        (scanBraces line 0 (if inComment then .comment else .code) first).1 ++
          bracesFrom (line + 1) (scanBraces line 0 (if inComment then .comment else .code) first).2
            rest := rfl
    rw [hscanned]
    cases rest with
    | nil =>
      have hread := hagree.braces []
      rw [List.append_nil] at hread
      rw [List.intercalate_singleton, hread]
      rfl
    | cons second more =>
      rw [List.intercalate_cons_cons, List.append_assoc, List.singleton_append, hagree.braces,
        ← ih (line + 1) _ hrest, ← hagree.ending]
      congr 1
      simp [readBraces]

/-- The braces of a text are those that are read in code. -/
theorem readBraces_eq_braces (text : String) :
    readBraces 0 0 (.code false) text.toList = braces text := by
  have hlines := readBraces_lines 0 false
    fun cs (h : cs ∈ Text.lines text) => Text.not_mem_of_mem_splitBy h
  rwa [Text.lines, Text.intercalate_splitBy] at hlines

/-! ### Places -/

/-- The column after a text that starts in a column. -/
def columnAfter (column : Nat) (text : List Char) : Nat :=
  text.foldl (fun column c => if c = '\n' then 0 else column + 1) column

/-- In the first column the column after a text is the number of characters since the last line feed. -/
theorem columnAfter_zero (text : List Char) :
    columnAfter 0 text = (text.reverse.takeWhile (· ≠ '\n')).length := by
  induction text using List.reverseRecOn with
  | nil => rfl
  | append_singleton text c ih =>
    rw [columnAfter, List.foldl_concat, ← columnAfter, ih, List.reverse_concat, List.takeWhile_cons]
    by_cases hc : c = '\n' <;> simp [hc]

/-- The first character of a text is a brace in its place, or the brace is one of the rest. -/
theorem mem_readBraces_cons {line column : Nat} {reading : Reading} {c : Char} {cs : List Char}
    {brace : Brace} :
    brace ∈ readBraces line column reading (c :: cs) ↔
      (c = brace.char ∧ reading.isCode ∧ brace.line = line ∧ brace.column = column) ∨
        brace ∈ readBraces (if c = '\n' then line + 1 else line) (if c = '\n' then 0 else column + 1)
          (reading.next c) cs := by
  have hfirst : (reading.isCode && (c = '{' || c = '}')) = true ∧ brace = ⟨line, column, c = '{'⟩ ↔
      c = brace.char ∧ reading.isCode ∧ brace.line = line ∧ brace.column = column := by
    obtain ⟨l, k, opening⟩ := brace
    cases opening <;> simp [Brace.char] <;> grind
  have hlater : (if c = '\n' then readBraces (line + 1) 0 (reading.next c) cs
      else readBraces line (column + 1) (reading.next c) cs) =
      readBraces (if c = '\n' then line + 1 else line) (if c = '\n' then 0 else column + 1)
        (reading.next c) cs := by
    split <;> rfl
  rw [← hfirst, readBraces, hlater]
  split
  next hbrace => rw [List.mem_cons, and_iff_right hbrace]
  next hbrace => rw [iff_false_intro hbrace, false_and, false_or]

/-- A brace is read in code exactly if its character stands where it stands and the characters before it
leave code. -/
theorem mem_readBraces {line column : Nat} {reading : Reading} {cs : List Char} {brace : Brace} :
    brace ∈ readBraces line column reading cs ↔
      ∃ before rest, cs = before ++ brace.char :: rest ∧ (before.foldl Reading.next reading).isCode ∧
        brace.line = line + before.count '\n' ∧ brace.column = columnAfter column before := by
  induction cs generalizing line column reading with
  | nil => simp [readBraces]
  | cons c cs ih =>
    rw [mem_readBraces_cons, ih]
    -- What stands before a brace is nothing, or begins with the first character.
    constructor
    · rintro (⟨rfl, hcode, rfl, rfl⟩ | ⟨before, rest, rfl, hcode, hline, hcolumn⟩)
      · exact ⟨[], cs, rfl, hcode, rfl, rfl⟩
      · refine ⟨c :: before, rest, rfl, hcode, ?_, hcolumn⟩
        rw [hline, List.count_cons]
        by_cases hc : c = '\n' <;> simp [hc]
        omega
    · rintro ⟨before, rest, heq, hcode, hline, hcolumn⟩
      cases before with
      | nil =>
        obtain ⟨rfl, rfl⟩ := List.cons.inj heq
        exact .inl ⟨rfl, hcode, hline, hcolumn⟩
      | cons c' before =>
        obtain ⟨rfl, rfl⟩ := List.cons.inj heq
        refine .inr ⟨before, rest, rfl, hcode, ?_, hcolumn⟩
        rw [hline, List.count_cons]
        by_cases hc : c = '\n' <;> simp [hc]
        omega

/-- The braces that are read in code do not stand before the place at which reading starts. -/
theorem place_of_mem_readBraces {line column : Nat} {reading : Reading} {cs : List Char} {brace : Brace}
    (h : brace ∈ readBraces line column reading cs) :
    line < brace.line ∨ (line = brace.line ∧ column ≤ brace.column) := by
  induction cs generalizing line column reading with
  | nil => simp [readBraces] at h
  | cons c cs ih =>
    rcases mem_readBraces_cons.mp h with ⟨-, -, hline, hcolumn⟩ | hlater
    · exact .inr ⟨hline.symm, hcolumn.ge⟩
    · have hplace := ih hlater
      split at hplace <;> omega

theorem pairwise_readBraces (line column : Nat) (reading : Reading) (cs : List Char) :
    (readBraces line column reading cs).Pairwise Brace.StandsBefore := by
  induction cs generalizing line column reading with
  | nil => exact .nil
  | cons c cs ih =>
    have hlater : (if c = '\n' then readBraces (line + 1) 0 (reading.next c) cs
        else readBraces line (column + 1) (reading.next c) cs).Pairwise Brace.StandsBefore := by
      split
      · exact ih ..
      · exact ih ..
    rw [readBraces]
    split
    · refine .cons (fun brace hmem => ?_) hlater
      split at hmem
      all_goals
        have hplace := place_of_mem_readBraces hmem
        show line < brace.line ∨ (line = brace.line ∧ column < brace.column)
        omega
    · exact hlater

/-- The braces of a text stand in increasing order. -/
theorem pairwise_braces (text : String) : (braces text).Pairwise Brace.StandsBefore :=
  readBraces_eq_braces text ▸ pairwise_readBraces 0 0 (.code false) text.toList

/-- **Braces are read in code.** The braces of a text stand in increasing order of lines and columns, and
they are exactly the braces that are read in code when the text is read one character at a time: a
brace is listed if and only if its character stands somewhere in the text, what comes before it leaves
code, and its line and its column are the number of line feeds before it and the number of characters
since the last one. -/
theorem mem_braces_iff_read_in_code (text : String) :
    (braces text).Pairwise Brace.StandsBefore ∧
    ∀ brace, brace ∈ braces text ↔
      ∃ before rest, text.toList = before ++ brace.char :: rest ∧ (Reading.after before).isCode ∧
        brace.line = before.count '\n' ∧
        brace.column = (before.reverse.takeWhile (· ≠ '\n')).length := by
  refine ⟨pairwise_braces text, fun brace => ?_⟩
  simp only [← readBraces_eq_braces, mem_readBraces, columnAfter_zero, Nat.zero_add, Reading.after]

/-- The star of an opening mark is not the first half of a closing one. -/
example : braces "/*/ \x7b */ \x7b" = [⟨0, 9, true⟩] := by decide +kernel

end BasiliskServer.Source
