import BasiliskServer.Proofs.Source.Balance
import BasiliskServer.Proofs.Source.Outline
import BasiliskServer.Proofs.Text.Pieces

/-!
# Ends of structures

The outline tells from the braces that are read in code which blocks are open, but the end of a structure
is looked for in another way: from the line below its first line on every brace counts, be it in code or
not, until as many have closed as opened (`structEnd?_eq_some_iff`). The name is that of the first closing
brace on this line that a name and a semicolon follow (`closingName?_eq_some_iff`). A line that starts a
structure is read as nothing else (`content?_of_startsStruct`), so this says which structures the outline
lists (`structListed_iff`).

The two ways of counting part where a comment or a text holds braces, and where braces share a line with the
ends of the block; above all, a block that is closed on its first line is not seen to end there
(`structBlock_listed_iff`). As long as the counts agree, the structure of a block ends with the block
(`IsStructBlock.structListed_of_countsAgree`).
-/

namespace BasiliskServer.Source

open Text (Line isWord isBlank allBlank allBlank_iff dropBlanks NoneAfter literal? literal?_eq_some_iff
  blanks? blanks?_eq_some_iff word? word?_eq_some_iff dropBlanks_eq_iff)
open Wire (DocumentSymbol)

variable {text : String} {line cs name : List Char} {placed : PlacedLine}

/-! ### Lines that start a structure -/

/-- A line that starts a structure goes on from two words with blanks and word characters to a brace. -/
theorem spelling_of_startsStruct (h : startsStruct line = true) :
    ∃ lead gap inner rest,
      line = lead ++ ("typedef".toList ++ (gap ++ ("struct".toList ++ (inner ++ '{' :: rest)))) ∧
      allBlank lead = true ∧ gap ≠ [] ∧ allBlank gap = true ∧ '(' ∉ inner := by
  unfold startsStruct at h
  dsimp only at h
  split at h
  next rest hread =>
    obtain ⟨afterType, htype, hafterType⟩ := Option.bind_eq_some_iff.mp hread
    obtain ⟨afterGap, hblanks, hafterGap⟩ := Option.bind_eq_some_iff.mp hafterType
    obtain ⟨afterStruct, hstruct, hafterStruct⟩ := Option.bind_eq_some_iff.mp hafterGap
    obtain ⟨lead, rfl, hlead, -⟩ := dropBlanks_eq_iff.mp (literal?_eq_some_iff.mp htype)
    obtain ⟨gap, rfl, hsome, hgap, -⟩ := blanks?_eq_some_iff.mp hblanks
    obtain rfl := literal?_eq_some_iff.mp hstruct
    obtain ⟨last, hinner, hlast, -⟩ := dropBlanks_eq_iff.mp (Option.some.inj hafterStruct)
    -- what follows the second word is blanks, word characters and blanks, each of which may be missing
    have hparts : afterStruct = afterStruct.takeWhile isBlank ++
        ((dropBlanks afterStruct).takeWhile isWord ++ (last ++ '{' :: rest)) := by
      rw [← hinner, List.takeWhile_append_dropWhile, dropBlanks, List.takeWhile_append_dropWhile]
    refine ⟨lead, gap, afterStruct.takeWhile isBlank ++ ((dropBlanks afterStruct).takeWhile isWord ++ last),
      rest, ?_, hlead, hsome, hgap, fun hmem => ?_⟩
    · rw [List.append_assoc, List.append_assoc, ← hparts]
    · rcases List.mem_append.mp hmem with hmem | hmem
      · exact absurd (List.mem_takeWhile_imp hmem) (by decide)
      · rcases List.mem_append.mp hmem with hmem | hmem
        · exact absurd (List.mem_takeWhile_imp hmem) (by decide)
        · exact absurd (allBlank_iff.mp hlast _ hmem) (by decide)
  next => cases h

/-- A line that starts a structure starts with a blank or with the first letter of its first word. -/
theorem literal?_of_startsStruct (h : startsStruct line = true) {word : String}
    (hword : word.toList.head?.any (fun c => !isBlank c && c ≠ 't') = true) :
    literal? word line = none := by
  obtain ⟨lead, gap, inner, rest, rfl, hlead, -⟩ := spelling_of_startsStruct h
  obtain ⟨c, more, hmore, hc⟩ : ∃ c more, word.toList = c :: more ∧ isBlank c = false ∧ c ≠ 't' := by
    cases hchars : word.toList with
    | nil => simp [hchars] at hword
    | cons c more => exact ⟨c, more, rfl, by simpa [hchars] using hword⟩
  rw [Option.eq_none_iff_forall_ne_some]
  intro after hread
  have heq := literal?_eq_some_iff.mp hread
  rw [hmore] at heq
  cases lead with
  | nil => exact hc.2 (List.cons.inj heq).1.symm
  | cons b lead =>
    obtain ⟨rfl, -⟩ := List.cons.inj heq
    rw [allBlank_iff.mp hlead b List.mem_cons_self] at hc
    exact absurd hc.1 (by decide)

theorem dropWhile_append_cons {p : Char → Bool} {c : Char} (hc : p c = false) (front rest : List Char) :
    (front ++ c :: rest).dropWhile p = front.dropWhile p ++ c :: rest := by
  rw [List.dropWhile_append]
  split
  next hnone =>
    rw [List.isEmpty_iff.mp hnone, List.dropWhile_cons_of_neg (by simp [hc]), List.nil_append]
  next => rfl

/-- Where no parenthesis stands before a brace, none is opened after blanks. -/
theorem parenthesized?_eq_none {inner : List Char} (hinner : '(' ∉ inner) (rest : List Char) :
    parenthesized? (dropBlanks (inner ++ '{' :: rest)) = none := by
  rw [dropBlanks, dropWhile_append_cons (by decide)]
  cases hdropped : inner.dropWhile isBlank with
  | nil => rfl
  | cons c more =>
    have hc : c ≠ '(' := by
      rintro rfl
      exact hinner ((List.dropWhile_sublist isBlank).subset (hdropped ▸ List.mem_cons_self))
    simp [parenthesized?, hc]

/-- A line that starts a structure is no head of a function. -/
theorem plainFunctionHead?_of_startsStruct (h : startsStruct line = true) :
    plainFunctionHead? line = none := by
  obtain ⟨lead, gap, inner, rest, rfl, hlead, hsome, hgap, hparen⟩ := spelling_of_startsStruct h
  cases lead with
  | cons b lead =>
    have hblank := Text.isWord_of_isBlank (allBlank_iff.mp hlead b List.mem_cons_self)
    rw [plainFunctionHead?, word?, List.cons_append, List.takeWhile_cons_of_neg (by simp [hblank])]
    rfl
  | nil =>
    -- the second word would be the name, and no parenthesis follows it
    have hfirst : word? ("typedef".toList ++ (gap ++ ("struct".toList ++ (inner ++ '{' :: rest)))) =
        some ("typedef".toList, gap ++ ("struct".toList ++ (inner ++ '{' :: rest))) := by
      obtain ⟨b, gap, rfl⟩ := List.exists_cons_of_ne_nil hsome
      refine word?_eq_some_iff.mpr ⟨rfl, by decide, List.all_eq_true.mp (by decide), ?_⟩
      exact Text.noneAfter_cons.mpr (Text.isWord_of_isBlank (allBlank_iff.mp hgap b List.mem_cons_self))
    have hgapRead : blanks? (gap ++ ("struct".toList ++ (inner ++ '{' :: rest))) =
        some ("struct".toList ++ (inner ++ '{' :: rest)) :=
      blanks?_eq_some_iff.mpr ⟨gap, rfl, hsome, hgap, Text.noneAfter_cons.mpr (by decide)⟩
    have hgapDropped : dropBlanks (gap ++ ("struct".toList ++ (inner ++ '{' :: rest))) =
        "struct".toList ++ (inner ++ '{' :: rest) :=
      dropBlanks_eq_iff.mpr ⟨gap, rfl, hgap, Text.noneAfter_cons.mpr (by decide)⟩
    have hsecond : ∃ name front, '(' ∉ front ∧
        word? ("struct".toList ++ (inner ++ '{' :: rest)) = some (name, front ++ '{' :: rest) := by
      refine ⟨"struct".toList ++ (inner ++ '{' :: rest).takeWhile isWord, inner.dropWhile isWord,
        fun hmem => hparen ((List.dropWhile_sublist isWord).subset hmem), ?_⟩
      refine word?_eq_some_iff.mpr ⟨?_, by simp, ?_, ?_⟩
      · rw [← dropWhile_append_cons (by decide), List.append_assoc, List.takeWhile_append_dropWhile]
      · refine List.forall_mem_append.mpr
          ⟨List.all_eq_true.mp (by decide), fun c hc => List.mem_takeWhile_imp hc⟩
      · rw [← dropWhile_append_cons (by decide)]
        exact Text.noneAfter_dropWhile _ _
    obtain ⟨name, front, hfront, hsecond⟩ := hsecond
    rw [List.nil_append, plainFunctionHead?, hfirst]
    simp only [Option.bind_eq_bind, Option.bind_some, hgapDropped]
    change (blanks? (gap ++ ("struct".toList ++ (inner ++ '{' :: rest)))).bind _ = none
    rw [hgapRead, Option.bind_some, hsecond, Option.bind_some, parenthesized?_eq_none hfront]
    rfl

/-- A line that starts a structure is read as nothing else. -/
theorem content?_of_startsStruct (h : startsStruct placed.line = true) (depth : Int) :
    placed.content? depth = placed.struct? := by
  obtain ⟨lead, gap, inner, rest, hline, hlead, -⟩ := spelling_of_startsStruct h
  have hdropped : dropBlanks placed.line =
      "typedef".toList ++ (gap ++ ("struct".toList ++ (inner ++ '{' :: rest))) :=
    dropBlanks_eq_iff.mpr ⟨lead, hline, hlead, Text.noneAfter_cons.mpr (by decide)⟩
  -- events and fields may be indented, and start with another word than the line does
  have hevent : placed.event? = none := by
    rw [PlacedLine.event?, eventHead?, hdropped]
    rfl
  have hfields : placed.fields? = none := by
    rw [PlacedLine.fields?, fieldList?, hdropped]
    rfl
  -- functions and global variables start where the line does
  have hfunction : placed.function? = none := by
    have hstatic := @literal?_of_startsStruct _ h "static" (by decide)
    have hinline := @literal?_of_startsStruct _ h "inline" (by decide)
    simp [PlacedLine.function?, functionHead?, hstatic, hinline, plainFunctionHead?_of_startsStruct h]
  have hglobal : placed.global? depth = none := by
    have hstatic := @literal?_of_startsStruct _ h "static" (by decide)
    have hconst := @literal?_of_startsStruct _ h "const" (by decide)
    have htypes : globalHead? placed.line = none := by
      rw [globalHead?, skipWord, skipWord, hstatic, Option.bind_none, Option.getD_none, hconst]
      refine List.findSome?_eq_none_iff.mpr fun type htype => ?_
      have hword : ∀ type ∈ globalTypes,
          type.toList.head?.any (fun c => !isBlank c && c ≠ 't') = true := by decide
      rw [Option.bind_none, Option.getD_none, literal?_of_startsStruct h (hword type htype)]
      rfl
    rw [PlacedLine.global?, htypes]
    rfl
  rw [PlacedLine.content?, hevent, hfunction, hfields, hglobal, PlacedLine.struct?, if_pos h]
  rfl

/-! ### Where structures end -/

/-- How many more braces a line opens than it closes, every brace counting. -/
def plainRise (line : Line) : ℤ :=
  line.count '{' - line.count '}'

/-- How many more braces lines open than they close, every brace counting. -/
def plainHeight (lines : List Line) : ℤ :=
  (lines.map plainRise).sum

@[simp] theorem plainHeight_nil : plainHeight [] = 0 := rfl

@[simp]
theorem plainHeight_cons (line : Line) (rest : List Line) :
    plainHeight (line :: rest) = plainRise line + plainHeight rest :=
  List.sum_cons

@[simp]
theorem plainHeight_append (before after : List Line) :
    plainHeight (before ++ after) = plainHeight before + plainHeight after := by
  rw [plainHeight, List.map_append, List.sum_append, plainHeight, plainHeight]

/-- A structure ends on the first line with which as many braces have closed as opened. -/
theorem structEnd?_eq_some_iff {depth : Int} {number stop : Nat} {below : List Line} :
    structEnd? depth number below = some (stop, line) ↔
      ∃ i, stop = number + i ∧ below[i]? = some line ∧ depth + plainHeight (below.take (i + 1)) ≤ 0 ∧
        ∀ j < i, 0 < depth + plainHeight (below.take (j + 1)) := by
  -- the number of open blocks changes from line to line, so the induction is for every such number
  induction below generalizing depth number with
  | nil => simp [structEnd?]
  | cons first rest ih =>
    have hdepth : depth + first.count '{' - first.count '}' = depth + plainRise first := by
      rw [plainRise]
      omega
    have hheight : ∀ i, depth + plainHeight ((first :: rest).take (i + 1)) =
        depth + plainRise first + plainHeight (rest.take i) := by
      intro i
      rw [List.take_succ_cons, plainHeight_cons, Int.add_assoc]
    rw [structEnd?, hdepth]
    simp only [hheight]
    split
    next hopen =>
      rw [ih]
      constructor
      · rintro ⟨i, rfl, hline, hends, hstays⟩
        refine ⟨i + 1, by omega, hline, hends, fun j hj => ?_⟩
        cases j with
        | zero => simpa using hopen
        | succ j => exact hstays j (Nat.lt_of_succ_lt_succ hj)
      · rintro ⟨i, rfl, hline, hends, hstays⟩
        cases i with
        | zero =>
          simp at hends
          omega
        | succ i => exact ⟨i, by omega, hline, hends, fun j hj => hstays (j + 1) (Nat.succ_lt_succ hj)⟩
    next hclosed =>
      constructor
      · rintro ⟨⟩
        exact ⟨0, rfl, rfl, by simpa using hclosed, fun j hj => absurd hj (Nat.not_lt_zero j)⟩
      · rintro ⟨i, rfl, hline, hends, hstays⟩
        cases i with
        | zero => simpa using hline
        | succ i =>
          -- the line would have closed the structure before
          have hfirst := hstays 0 (Nat.succ_pos i)
          simp at hfirst
          omega

/-! ### Names of structures -/

/-- A closing brace stands in a column of a line, and a name and a semicolon follow it. -/
def ClosesAt (line : Line) (column : Nat) (name : List Char) : Prop :=
  ∃ gap gap' rest, line.drop column = '}' :: (gap ++ (name ++ (gap' ++ ';' :: rest))) ∧
    allBlank gap = true ∧ allBlank gap' = true ∧ name ≠ [] ∧ ∀ c ∈ name, isWord c = true

theorem not_closesAt_nil {column : Nat} : ¬ClosesAt [] column name := by
  rintro ⟨gap, gap', rest, heq, -⟩
  simp at heq

/-- A name and a semicolon are read after the brace with which a line starts. -/
theorem closesAt_zero_iff {c : Char} :
    ClosesAt (c :: cs) 0 name ↔ c = '}' ∧ ∃ after more,
      word? (dropBlanks cs) = some (name, after) ∧ dropBlanks after = ';' :: more := by
  constructor
  · rintro ⟨gap, gap', rest, heq, hgap, hgap', hname, hword⟩
    obtain ⟨rfl, rfl⟩ := List.cons.inj heq
    refine ⟨rfl, gap' ++ ';' :: rest, rest, ?_, ?_⟩
    · rw [dropBlanks_eq_iff.mpr ⟨gap, rfl, hgap, Text.noneAfter_isBlank_of_isWord hname hword _⟩]
      exact word?_eq_some_iff.mpr
        ⟨rfl, hname, hword, Text.noneAfter_isWord_of_allBlank hgap' (by decide)⟩
    · exact dropBlanks_eq_iff.mpr ⟨gap', rfl, hgap', Text.noneAfter_cons.mpr (by decide)⟩
  · rintro ⟨rfl, after, more, hread, hsemicolon⟩
    obtain ⟨hcs, hname, hword, -⟩ := word?_eq_some_iff.mp hread
    obtain ⟨gap, rfl, hgap, -⟩ := dropBlanks_eq_iff.mp hcs
    obtain ⟨gap', rfl, hgap', -⟩ := dropBlanks_eq_iff.mp hsemicolon
    exact ⟨gap, gap', more, rfl, hgap, hgap', hname, hword⟩

/-- The name is that of the first closing brace on a line that a name and a semicolon follow. -/
def FirstCloses (line : Line) (name : List Char) : Prop :=
  ∃ column, ClosesAt line column name ∧ ∀ earlier < column, ∀ other, ¬ClosesAt line earlier other

theorem firstCloses_cons_of_not {c : Char} (h : ∀ other, ¬ClosesAt (c :: cs) 0 other) :
    FirstCloses (c :: cs) name ↔ FirstCloses cs name := by
  constructor
  · rintro ⟨column, hcloses, hfirst⟩
    cases column with
    | zero => exact absurd hcloses (h name)
    | succ column =>
      exact ⟨column, hcloses, fun earlier hlt => hfirst (earlier + 1) (Nat.succ_lt_succ hlt)⟩
  · rintro ⟨column, hcloses, hfirst⟩
    refine ⟨column + 1, hcloses, fun earlier hlt => ?_⟩
    cases earlier with
    | zero => exact h
    | succ earlier => exact hfirst earlier (Nat.lt_of_succ_lt_succ hlt)

theorem closingName?_cons_of_not {c : Char} (h : ∀ other, ¬ClosesAt (c :: cs) 0 other) :
    closingName? (c :: cs) = closingName? cs := by
  rw [closingName?]
  dsimp only
  split
  next other hread =>
    split at hread
    next hc =>
      obtain ⟨⟨word, after⟩, hword, hread⟩ := Option.bind_eq_some_iff.mp hread
      dsimp only at hread
      split at hread
      next more hsemicolon =>
        exact absurd (closesAt_zero_iff.mpr ⟨hc, after, more, hword, hsemicolon⟩) (h word)
      next => cases hread
    next => cases hread
  next => rfl

theorem closingName?_eq_some_iff : closingName? line = some name ↔ FirstCloses line name := by
  induction line with
  | nil => exact iff_of_false nofun fun ⟨_, hcloses, _⟩ => not_closesAt_nil hcloses
  | cons c cs ih =>
    by_cases hhere : ∃ other, ClosesAt (c :: cs) 0 other
    · -- whatever follows, the first column decides
      obtain ⟨other, hother⟩ := hhere
      obtain ⟨rfl, after, more, hread, hsemicolon⟩ := closesAt_zero_iff.mp hother
      have hfound : closingName? ('}' :: cs) = some other := by
        simp [closingName?, hread, hsemicolon]
      rw [hfound, Option.some.injEq]
      constructor
      · rintro rfl
        exact ⟨0, hother, fun earlier hlt => absurd hlt (Nat.not_lt_zero earlier)⟩
      · rintro ⟨column, hcloses, hfirst⟩
        cases column with
        | zero =>
          obtain ⟨-, after', more', hread', -⟩ := closesAt_zero_iff.mp hcloses
          rw [hread] at hread'
          exact (Prod.mk.inj (Option.some.inj hread')).1
        | succ column => exact absurd hother (hfirst 0 (Nat.succ_pos column) other)
    · have hnone : ∀ other, ¬ClosesAt (c :: cs) 0 other := not_exists.mp hhere
      rw [firstCloses_cons_of_not hnone, closingName?_cons_of_not hnone, ih]

/-! ### Structures in the outline -/

/-- The outline lists a structure with a name that starts on a line and ends on another one. -/
def StructListed (text : String) (number : Nat) (name : List Char) (stop : Nat) : Prop :=
  ∃ symbol ∈ documentSymbols text, symbol.kind = .struct ∧ symbol.name = String.ofList name ∧
    symbol.range.start.line = number ∧ symbol.range.stop.line = stop

/-- The lines after a line, up to another one. -/
def linesBetween (text : String) (first last : Nat) : List Line :=
  ((Text.lines text).drop (first + 1)).take (last - first)

theorem linesBetween_self (text : String) (number : Nat) : linesBetween text number number = [] := by
  rw [linesBetween, Nat.sub_self, List.take_zero]

theorem linesBetween_succ {first last : Nat} (h : first ≤ last)
    (hline : (Text.lines text)[last + 1]? = some line) :
    linesBetween text first (last + 1) = linesBetween text first last ++ [line] := by
  rw [linesBetween, Nat.succ_sub h, List.take_add_one, List.getElem?_drop,
    show first + 1 + (last - first) = last + 1 by omega, hline]
  rfl

/-- The outline lists what it declares at the top. -/
theorem structListed_iff_mem_onLine {number stop : Nat} :
    StructListed text number name stop ↔
      ∃ declared ∈ onLine number ((outline text).map (·.declared)),
        declared.kind = .struct ∧ declared.name = String.ofList name ∧ declared.range.stop.line = stop := by
  simp only [StructListed, documentSymbols, onLine, List.mem_filter, List.mem_map, decide_eq_true_eq]
  constructor
  · rintro ⟨_, ⟨entry, hmem, rfl⟩, hkind, hname, hstart, hstop⟩
    exact ⟨entry.declared, ⟨⟨entry, hmem, rfl⟩, hstart⟩, hkind, hname, hstop⟩
  · rintro ⟨_, ⟨⟨entry, hmem, rfl⟩, hstart⟩, hkind, hname, hstop⟩
    exact ⟨entry.toSymbol, ⟨entry, hmem, rfl⟩, hkind, hname, hstart, hstop⟩

/-- Which structure a line that starts one declares. -/
theorem structListed_iff_structEnd? {number stop : Nat} (hplaced : placedLine? text number = some placed)
    (hstarts : startsStruct placed.line = true) :
    StructListed text number name stop ↔
      ∃ last, structEnd? 1 (number + 1) placed.below = some (stop, last) ∧
        closingName? last = some name := by
  have hcontent := content?_of_startsStruct hstarts (passedOn text number).depth
  rw [PlacedLine.struct?, if_pos hstarts] at hcontent
  rw [structListed_iff_mem_onLine]
  rcases onLine_outline_of_content hplaced hcontent with ⟨htops, -⟩ | ⟨⟨list, hlist⟩, -⟩
  · rw [htops, number_of_placedLine? hplaced]
    simp only [LineContent.declared, Option.mem_toList]
    constructor
    · rintro ⟨declared, hfound, -, hname, hstop⟩
      obtain ⟨⟨end', last⟩, hend, hfound⟩ := Option.bind_eq_some_iff.mp hfound
      obtain ⟨name', hclosing, hfound⟩ := Option.bind_eq_some_iff.mp hfound
      obtain rfl := Option.some.inj hfound
      obtain rfl : end' = stop := hstop
      obtain rfl : name' = name := String.ofList_injective hname
      exact ⟨last, hend, hclosing⟩
    · rintro ⟨last, hend, hclosing⟩
      refine ⟨_, Option.bind_eq_some_iff.mpr ⟨(stop, last), hend,
        Option.bind_eq_some_iff.mpr ⟨name, hclosing, rfl⟩⟩, rfl, rfl, rfl⟩
  · cases hlist

/-- Every brace counts from the line below on: a structure is listed exactly if on some line below as many
braces have closed as opened, and its name is that of the first closing brace there that has one. -/
theorem structListed_iff {number stop : Nat} (hline : (Text.lines text)[number]? = some line)
    (hstarts : startsStruct line = true) :
    StructListed text number name stop ↔
      number < stop ∧ (∃ last, (Text.lines text)[stop]? = some last ∧ FirstCloses last name) ∧
        1 + plainHeight (linesBetween text number stop) ≤ 0 ∧
        ∀ k, number < k → k < stop → 0 < 1 + plainHeight (linesBetween text number k) := by
  obtain ⟨placed, hplaced, rfl, hbelow⟩ : ∃ placed, placedLine? text number = some placed ∧
      placed.line = line ∧ placed.below = (Text.lines text).drop (number + 1) := by
    rw [placedLine?, hline]
    exact ⟨_, rfl, rfl, rfl⟩
  -- lines are counted from the line below the first one by the search, and from the top by the statement
  have hbetween : ∀ i, linesBetween text number (number + 1 + i) = placed.below.take (i + 1) := by
    intro i
    rw [linesBetween, hbelow, show number + 1 + i - number = i + 1 by omega]
  have hget : ∀ i, placed.below[i]? = (Text.lines text)[number + 1 + i]? := by
    intro i
    rw [hbelow, List.getElem?_drop]
  simp only [structListed_iff_structEnd? hplaced hstarts, structEnd?_eq_some_iff,
    closingName?_eq_some_iff, hget]
  constructor
  · rintro ⟨last, ⟨i, rfl, hlast, hends, hstays⟩, hcloses⟩
    refine ⟨by omega, ⟨last, hlast, hcloses⟩, by rwa [hbetween], fun k hlow hhigh => ?_⟩
    obtain ⟨j, rfl⟩ := Nat.exists_eq_add_of_le (Nat.succ_le_of_lt hlow)
    rw [Nat.succ_eq_add_one, hbetween]
    exact hstays j (by omega)
  · rintro ⟨hlt, ⟨last, hlast, hcloses⟩, hends, hstays⟩
    obtain ⟨i, rfl⟩ := Nat.exists_eq_add_of_le (Nat.succ_le_of_lt hlt)
    rw [Nat.succ_eq_add_one] at hlast hends hstays
    refine ⟨last, ⟨i, rfl, hlast, by rwa [← hbetween], fun j hj => ?_⟩, hcloses⟩
    rw [← hbetween]
    exact hstays _ (by omega) (by omega)

/-! ### Partners -/

/-- An opening brace and the closing one that ends its block. -/
def ArePartners (all : List Brace) (first last : Brace) : Prop :=
  ∃ before between after, all = before ++ first :: (between ++ last :: after) ∧
    first.opening = true ∧ last.opening = false ∧ IsBalanced between

/-- The braces after a brace on its line. -/
def bracesAfter (all : List Brace) (brace : Brace) : List Brace :=
  all.filter fun other => other.line = brace.line ∧ brace.column < other.column

theorem Brace.StandsBefore.line_le {a b : Brace} (h : a.StandsBefore b) : a.line ≤ b.line := by
  rw [StandsBefore] at h
  omega

/-- The braces of the lines up to that of a brace are those before it, the brace, and those after it on its
line. -/
theorem filter_line_lt_succ_of_append {all before rest : List Brace} {brace : Brace}
    (hsorted : all.Pairwise Brace.StandsBefore) (hall : all = before ++ brace :: rest) :
    all.filter (·.line < brace.line + 1) = before ++ brace :: bracesAfter all brace := by
  subst hall
  obtain ⟨-, htail, hstands⟩ := List.pairwise_append.mp hsorted
  -- Braces stand in order: those before are all kept, those after are cut at the end of the line.
  have hbefore : ∀ other ∈ before, other.StandsBefore brace :=
    fun other hother => hstands other hother brace List.mem_cons_self
  have hrest := (List.pairwise_cons.mp htail).1
  have hkept : before.filter (·.line < brace.line + 1) = before :=
    List.filter_eq_self.mpr fun other hother =>
      decide_eq_true (Nat.lt_succ_of_le (hbefore other hother).line_le)
  have hdropped : bracesAfter before brace = [] :=
    List.filter_eq_nil_iff.mpr fun other hother => by
      have hother := hbefore other hother
      rw [Brace.StandsBefore] at hother
      rw [decide_eq_true_eq]
      omega
  have hsame : rest.filter (·.line < brace.line + 1) = bracesAfter rest brace :=
    List.filter_congr fun other hother => by
      have hother := hrest other hother
      rw [Brace.StandsBefore] at hother
      rw [decide_eq_decide]
      omega
  have hafter : bracesAfter (before ++ brace :: rest) brace = bracesAfter rest brace := by
    rw [bracesAfter, List.filter_append, ← bracesAfter, hdropped, List.nil_append,
      List.filter_cons_of_neg (by simp)]
    rfl
  rw [hafter, List.filter_append, hkept, List.filter_cons_of_pos (by simp), hsame]

/-- Inside a block at least one block more is open than before it. -/
theorem lt_height_of_isBalanced {all before between after : List Brace} {first last : Brace}
    (hsorted : all.Pairwise Brace.StandsBefore)
    (hall : all = before ++ first :: (between ++ last :: after)) (hopening : first.opening = true)
    (hbalanced : IsBalanced between) {number : Nat} (hfirst : first.line ≤ number)
    (hlast : number < last.line) : height before < height (all.filter (·.line < number + 1)) := by
  subst hall
  obtain ⟨-, htail, hstands⟩ := List.pairwise_append.mp hsorted
  obtain ⟨hinside, hlater, -⟩ := List.pairwise_append.mp (List.pairwise_cons.mp htail).2
  have hbefore : before.filter (·.line < number + 1) = before :=
    List.filter_eq_self.mpr fun other hother =>
      decide_eq_true (Nat.lt_succ_of_le
        ((hstands other hother first List.mem_cons_self).line_le.trans hfirst))
  have hafter : (last :: after).filter (·.line < number + 1) = [] := by
    refine List.filter_eq_nil_iff.mpr (List.forall_mem_cons.mpr ⟨?_, fun other hother => ?_⟩)
    · rw [decide_eq_true_eq]
      omega
    · have hline := ((List.pairwise_cons.mp hlater).1 other hother).line_le
      rw [decide_eq_true_eq]
      omega
  -- what there is of the block so far is a prefix of it, and so it does not fall
  have hpart : between.filter (·.line < number + 1) <+: between :=
    ⟨_, filter_line_lt_append hinside (number + 1)⟩
  have hstays := ((isBalanced_iff_descends between).mp hbalanced).stays _ hpart
  rw [List.filter_append, hbefore, List.filter_cons_of_pos (by simpa using Nat.lt_succ_of_le hfirst),
    List.filter_append, hafter, List.append_nil, height_append, height_cons,
    Brace.rise_of_opening hopening]
  omega

/-- Where a line opens as many braces as are read in code on it, the heights agree. -/
theorem height_filter_line_lt_succ {first last : Nat} (hle : first ≤ last)
    (hagree : ∀ k, first < k → k ≤ last → ∃ line, (Text.lines text)[k]? = some line ∧
      plainRise line = height ((braces text).filter (·.line = k))) :
    height ((braces text).filter (·.line < last + 1)) =
      height ((braces text).filter (·.line < first + 1)) + plainHeight (linesBetween text first last) := by
  induction last, hle using Nat.le_induction with
  | base => rw [linesBetween_self, plainHeight_nil, Int.add_zero]
  | succ last hle ih =>
    obtain ⟨line, hline, hrise⟩ := hagree (last + 1) (Nat.lt_succ_of_le hle) (Nat.le_refl _)
    rw [filter_line_lt_succ, height_append, ih fun k hlow hhigh => hagree k hlow (Nat.le_succ_of_le hhigh),
      linesBetween_succ hle hline, plainHeight_append, ← hrise, Int.add_assoc]
    simp

/-- The block of a structure: its opening brace is the first brace on a line that starts a structure, and a
name and a semicolon follow the closing one. -/
structure IsStructBlock (text : String) (first last : Brace) (name : List Char) : Prop where
  /-- The braces are partners. -/
  partners : ArePartners (braces text) first last
  /-- The opening brace stands on a line that starts a structure. -/
  starts : ∃ line, (Text.lines text)[first.line]? = some line ∧ startsStruct line = true ∧
    first.column = (line.takeWhile (· ≠ '{')).length
  /-- The closing brace is followed by the name. -/
  closes : ∃ line, (Text.lines text)[last.line]? = some line ∧ ClosesAt line last.column name

/-- Counting every brace from the line below the opening brace on is as good as counting those that are read
in code from the opening brace on. -/
structure CountsAgree (text : String) (first last : Brace) : Prop where
  /-- The block is not closed on the line on which it is opened. -/
  below : first.line < last.line
  /-- The braces that follow on the line of the opening one level out. -/
  ahead : height (bracesAfter (braces text) first) = 0
  /-- On every other line of the block the braces that do not count level out. -/
  between : ∀ k, first.line < k → k ≤ last.line → ∃ line, (Text.lines text)[k]? = some line ∧
    plainRise line = height ((braces text).filter (·.line = k))
  /-- The braces that follow on the line of the closing one open no more blocks than they close. -/
  behind : height (bracesAfter (braces text) last) ≤ 0
  /-- No other closing brace of the line is followed by a name and comes first. -/
  alone : ∀ line, (Text.lines text)[last.line]? = some line →
    ∀ column < last.column, ∀ other, ¬ClosesAt line column other

/-- The number of braces that are open when every brace counts, told by the braces that are read in code. -/
theorem CountsAgree.plainHeight_eq {first last : Brace} (h : CountsAgree text first last)
    {before rest : List Brace} (hall : braces text = before ++ first :: rest)
    (hopening : first.opening = true) {number : Nat} (hfirst : first.line ≤ number)
    (hlast : number ≤ last.line) :
    1 + plainHeight (linesBetween text first.line number) =
      height ((braces text).filter (·.line < number + 1)) - height before := by
  have hheight := height_filter_line_lt_succ hfirst
    fun k hlow hhigh => h.between k hlow (hhigh.trans hlast)
  rw [filter_line_lt_succ_of_append (pairwise_braces text) hall, height_append, height_cons, h.ahead,
    Brace.rise_of_opening hopening] at hheight
  omega

/-- A structure is listed where its block ends if counting every brace is as good as counting those that are
read in code. -/
theorem IsStructBlock.structListed_of_countsAgree {first last : Brace}
    (h : IsStructBlock text first last name) (hagree : CountsAgree text first last) :
    StructListed text first.line name last.line := by
  obtain ⟨before, between, after, hall, hopening, hclosing, hbalanced⟩ := h.partners
  obtain ⟨line, hline, hstarts, -⟩ := h.starts
  obtain ⟨stop, hstop, hcloses⟩ := h.closes
  refine (structListed_iff hline hstarts).mpr ⟨hagree.below, ⟨stop, hstop, _, hcloses,
    hagree.alone stop hstop⟩, ?_, fun k hlow hhigh => ?_⟩
  · -- the closing brace takes the height back to what it was before the block
    have hheight := filter_line_lt_succ_of_append (pairwise_braces text)
      (show braces text = (before ++ first :: between) ++ last :: after by rw [hall]; simp)
    have hbehind := hagree.behind
    have hends := ((isBalanced_iff_descends between).mp hbalanced).ends
    rw [hagree.plainHeight_eq hall hopening hagree.below.le (Nat.le_refl _), hheight]
    simp only [height_append, height_cons, Brace.rise_of_opening hopening, Brace.rise_of_closing hclosing]
    omega
  · have hinside := lt_height_of_isBalanced (pairwise_braces text) hall hopening hbalanced hlow.le hhigh
    rw [hagree.plainHeight_eq hall hopening hlow.le hhigh.le]
    omega

/-- **Ends of structures.** The outline lists the structure of a block with its name and up to the line of
its closing brace exactly if that line is below the one of the opening brace, is the first below it with
which as many braces have closed as opened if every brace from there on counts, and has the name behind its
first closing brace that is followed by one. This is so wherever counting every brace is as good as
counting those that are read in code. -/
theorem structBlock_listed_iff {first last : Brace} (h : IsStructBlock text first last name) :
    (StructListed text first.line name last.line ↔
      first.line < last.line ∧
        (∃ line, (Text.lines text)[last.line]? = some line ∧ FirstCloses line name) ∧
        1 + plainHeight (linesBetween text first.line last.line) ≤ 0 ∧
        ∀ k, first.line < k → k < last.line → 0 < 1 + plainHeight (linesBetween text first.line k)) ∧
    (CountsAgree text first last → StructListed text first.line name last.line) := by
  obtain ⟨line, hline, hstarts, -⟩ := h.starts
  exact ⟨structListed_iff hline hstarts, h.structListed_of_countsAgree⟩

/-- A structure with another one inside and with braces in a comment. -/
def nestedStruct : String := "typedef struct \x7b\n  struct \x7b int i; \x7d a; // \x7b\x7d\n\x7d Pair;"

/-- The braces of the comment level out, and the structure is listed. -/
theorem structBlock_listed_nestedStruct :
    IsStructBlock nestedStruct ⟨0, 15, true⟩ ⟨2, 0, false⟩ "Pair".toList ∧
      CountsAgree nestedStruct ⟨0, 15, true⟩ ⟨2, 0, false⟩ ∧
      StructListed nestedStruct 0 "Pair".toList 2 := by
  have hbraces : braces nestedStruct = [⟨0, 15, true⟩, ⟨1, 9, true⟩, ⟨1, 18, false⟩, ⟨2, 0, false⟩] := by
    decide +kernel
  have hinner : IsBalanced [⟨1, 9, true⟩, ⟨1, 18, false⟩] :=
    (isBalanced_iff_descends _).mpr (.cons (Int.le_refl 0) (.cons (by decide) descends_zero_nil))
  have hblock : IsStructBlock nestedStruct ⟨0, 15, true⟩ ⟨2, 0, false⟩ "Pair".toList :=
    { partners := ⟨[], [⟨1, 9, true⟩, ⟨1, 18, false⟩], [], hbraces, rfl, rfl, hinner⟩
      starts := ⟨_, rfl, by decide +kernel, by decide +kernel⟩
      closes := ⟨_, rfl, [' '], [], [], by decide +kernel, rfl, rfl, by decide,
        List.all_eq_true.mp (by decide)⟩ }
  have hagree : CountsAgree nestedStruct ⟨0, 15, true⟩ ⟨2, 0, false⟩ :=
    { below := by decide
      ahead := by rw [hbraces]; decide
      between := fun k hlow hhigh => by
        rw [hbraces]
        obtain rfl | rfl : k = 1 ∨ k = 2 := by grind
        all_goals exact ⟨_, rfl, by decide +kernel⟩
      behind := by rw [hbraces]; decide
      alone := fun _ _ column hlt => absurd hlt (Nat.not_lt_zero column) }
  exact ⟨hblock, hagree, (structBlock_listed_iff hblock).2 hagree⟩

/-- A structure whose block is closed on the line on which it is opened. -/
def structOnOneLine : String := "typedef struct \x7b int x; \x7d P;"

/-- The outline does not list the structure of every block: the end is looked for only below the line of
the opening brace. -/
theorem structBlock_unlisted_structOnOneLine :
    ¬∀ (text : String) (first last : Brace) (name : List Char), IsStructBlock text first last name →
      StructListed text first.line name last.line := by
  intro hclaim
  have hbraces : braces structOnOneLine = [⟨0, 15, true⟩, ⟨0, 24, false⟩] := by decide +kernel
  have hblock : IsStructBlock structOnOneLine ⟨0, 15, true⟩ ⟨0, 24, false⟩ "P".toList :=
    { partners := ⟨[], [], [], hbraces, rfl, rfl, (isBalanced_iff_descends []).mpr descends_zero_nil⟩
      starts := ⟨_, rfl, by decide +kernel, by decide +kernel⟩
      closes := ⟨_, rfl, [' '], [], [], by decide +kernel, rfl, rfl, by decide,
        List.all_eq_true.mp (by decide)⟩ }
  obtain ⟨line, hline, hstarts, -⟩ := hblock.starts
  exact absurd ((structListed_iff hline hstarts).mp (hclaim _ _ _ _ hblock)).1 (Nat.lt_irrefl 0)

end BasiliskServer.Source
