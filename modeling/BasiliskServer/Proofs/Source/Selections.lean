import BasiliskServer.Proofs.Source.Bodies
import BasiliskServer.Proofs.Source.Captures

/-!
# Selections of declared names

Going to a declared name leads to what its symbol selects. The readers of declarations keep no columns:
where a name stands is found by looking for it in the line, from its start on. This module says which
occurrence that is.

A line that declares fields, a global variable or a macro lists the names that its declaration captures, in
their order (`Naming.exists_lists`). The symbols of the line are theirs, and each selects the first
occurrence of its name in the line, which may be a part of the type, of a qualifier or of another name. It
is the captured name exactly if the name does not occur before it (`selections_of_captures`).
-/

namespace BasiliskServer.Source

open Text (Line isWord isBlank allBlank allBlank_iff NoneAfter NoneBefore separator_not_mem_iff)
open Wire (DocumentSymbol)

variable {text : String} {number : Nat} {line name rest : List Char} {placed : PlacedLine}
  {content : LineContent} {depth : Int}

/-- The range of the first occurrence of a name in a line. -/
def PlacedLine.firstSpan (placed : PlacedLine) (name : List Char) : Wire.Range :=
  .onLine placed.number (placed.columnOf name) (placed.columnOf name + name.length)

theorem Captured.eq_mk_iff {capture : Captured} {column : Nat} :
    capture = ⟨column, name⟩ ↔ capture.column = column ∧ capture.name = name := by
  cases capture
  simp

namespace Naming

variable {naming : Naming}

/-- The captured names of a line, in their order, are those that it declares. -/
structure Lists (naming : Naming) (placed : PlacedLine) (content : LineContent) (found : List Captured) :
    Prop where
  /-- They stand in increasing order. -/
  sorted : found.Pairwise (·.column < ·.column)
  /-- They are all that the declaration captures. -/
  mem_iff : ∀ capture, capture ∈ found ↔ naming.Captures placed.line capture
  /-- The line declares them, and looks for them from its start on. -/
  declared : content.declared.map (fun declared => (declared.name, declared.selection)) =
    found.map fun capture => (String.ofList capture.name, placed.firstSpan capture.name)

/-- What follows the beginning of a declaration says which names the line lists. -/
theorem Splits.exists_lists {lead head : List Char} {within : List Captured}
    (h : naming.Splits placed.line lead head rest) (hsorted : within.Pairwise (·.column < ·.column))
    (hmem : ∀ capture, capture ∈ within ↔ naming.Names rest capture.column capture.name)
    (hdeclared : content.declared.map (fun declared => (declared.name, declared.selection)) =
      (within.map (·.name)).map fun name => (String.ofList name, placed.firstSpan name)) :
    ∃ found, Lists naming placed content found := by
  obtain ⟨found, hfound, hsorted, hmem⟩ := h.exists_captured hsorted hmem
  refine ⟨found, hsorted, hmem, ?_⟩
  rw [hdeclared, ← hfound, List.map_map]
  rfl

/-- A field declaration lists the first bracketed word of each of its declarators. -/
theorem exists_lists_of_fields (h : placed.fields? = some content) :
    ∃ found, Lists .field placed content found := by
  obtain ⟨⟨type, body⟩, hread, hcontent⟩ := Option.bind_eq_some_iff.mp h
  obtain rfl := Option.some.inj hcontent
  obtain ⟨lead, head, inside, tail, hsplits, hinside, hbody⟩ := spelling_of_fieldList? hread
  obtain ⟨within, hwithin, hsorted, hmem⟩ := exists_captured_of_pieces _
    (pairwise_placePieces 0 (Text.splitBy (· = ',') inside))
  refine hsplits.exists_lists hsorted (fun capture => ?_) ?_
  · rw [hmem]
    constructor
    · rintro ⟨start, piece, offset, hpiece, hfirst, hcolumn⟩
      obtain ⟨_, rfl, hdeclarator⟩ := mem_placePieces_splitBy.mp hpiece
      exact ⟨inside, tail, _, piece, offset, rfl, hinside, hdeclarator, hfirst, by omega⟩
    · -- the declarators end at the first semicolon, however the rest is taken apart
      rintro ⟨inside', tail', start, piece, offset, heq, hinside', hdeclarator, hfirst, hcolumn⟩
      obtain ⟨rfl, -⟩ := Text.append_inj_of_noneAfter (p := (· ≠ ';')) (separator_not_mem_iff.mp hinside)
        (separator_not_mem_iff.mp hinside') (Text.noneAfter_cons.mpr (by decide))
        (Text.noneAfter_cons.mpr (by decide)) heq
      exact ⟨start, piece, offset, mem_placePieces_splitBy.mpr ⟨start, by omega, hdeclarator⟩, hfirst,
        hcolumn⟩
  · have hnames : within.map (·.name) = fieldNames body := by
      rw [hwithin, hbody, fieldNames_eq]
      conv_rhs => rw [← map_snd_placePieces 0 (Text.splitBy (· = ',') inside), List.filterMap_map]
      rfl
    rw [hnames, LineContent.declared, List.map_map]
    rfl

/-- A global variable declaration names what follows its type, unless that is reserved. -/
theorem names_global_iff {gap gap' tail other : List Char} {mark : Char} {column : Nat}
    (hgap : allBlank gap = true) (hname : IsName name) (hgap' : allBlank gap' = true)
    (hmark : mark = '=' ∨ mark = ';') :
    Names .global (gap ++ (name ++ (gap' ++ mark :: tail))) column other ↔
      column = gap.length ∧ other = name ∧ isReserved (String.ofList name) = false := by
  have hends : ∀ {c : Char}, c = '=' ∨ c = ';' → isWord c = false := by
    rintro c (rfl | rfl) <;> decide
  constructor
  · rintro ⟨before, after, mark', tail', heq, rfl, hbefore, hother, hafter, hmark', hfree⟩
    obtain ⟨rfl, rfl⟩ := name_append_inj hgap hbefore hname hother
      (Text.noneAfter_isWord_of_allBlank hgap' (hends hmark))
      (Text.noneAfter_isWord_of_allBlank hafter (hends hmark')) heq
    exact ⟨rfl, rfl, hfree⟩
  · rintro ⟨rfl, rfl, hfree⟩
    exact ⟨gap, gap', mark, tail, rfl, rfl, hgap, hname, hgap', hmark, hfree⟩

/-- The definition of a macro names what follows its first word. -/
theorem names_define_iff {gap parameters tail other : List Char} {b : Char} {column : Nat}
    (hgap : allBlank gap = true) (hname : IsName name) (hb : isBlank b = true)
    (hparameters : parameters = [] ∨ ∃ inner, parameters = '(' :: (inner ++ [')']) ∧ ')' ∉ inner) :
    Names .define (gap ++ (name ++ (parameters ++ b :: tail))) column other ↔
      column = gap.length ∧ other = name := by
  constructor
  · rintro ⟨before, parameters', b', tail', heq, rfl, hbefore, hother, hb', hparameters'⟩
    obtain ⟨rfl, rfl⟩ := name_append_inj hgap hbefore hname hother
      (noneAfter_isWord_of_parameters hb hparameters) (noneAfter_isWord_of_parameters hb' hparameters') heq
    exact ⟨rfl, rfl⟩
  · rintro ⟨rfl, rfl⟩
    exact ⟨gap, parameters, b, tail, rfl, rfl, hgap, hname, hb, hparameters⟩

theorem exists_lists_of_global (h : placed.global? depth = some content) :
    ∃ found, Lists .global placed content found := by
  obtain ⟨⟨type, name⟩, hread, hcontent⟩ := Option.bind_eq_some_iff.mp h
  obtain ⟨head, gap, gap', mark, tail, hsplits, hgap, hname, hgap', hmark⟩ := spelling_of_globalHead? hread
  dsimp only at hcontent
  split at hcontent
  · cases hcontent
  · split at hcontent
    next hreserved =>
      obtain rfl := Option.some.inj hcontent
      refine hsplits.exists_lists .nil (fun capture => ?_) rfl
      rw [names_global_iff hgap hname hgap' hmark]
      simp [hreserved]
    next hfree =>
      obtain rfl := Option.some.inj hcontent
      refine hsplits.exists_lists (List.pairwise_singleton _ ⟨gap.length, name⟩) (fun capture => ?_) rfl
      rw [names_global_iff hgap hname hgap' hmark, List.mem_singleton, Captured.eq_mk_iff]
      simp [hfree]

theorem exists_lists_of_define (h : placed.define? = some content) :
    ∃ found, Lists .define placed content found := by
  obtain ⟨⟨name, parameters?⟩, hread, hcontent⟩ := Option.bind_eq_some_iff.mp h
  obtain ⟨lead, head, gap, parameters, b, tail, hsplits, hgap, hname, hb, hparameters⟩ :=
    spelling_of_defineHead? hread
  refine hsplits.exists_lists (List.pairwise_singleton _ ⟨gap.length, name⟩) (fun capture => ?_) ?_
  · rw [names_define_iff hgap hname hb hparameters, List.mem_singleton, Captured.eq_mk_iff]
  · cases parameters? <;> (obtain rfl := Option.some.inj hcontent; rfl)

/-- Every declaration of names lists those that it captures. -/
theorem exists_lists (h : naming.content? placed depth = some content) :
    ∃ found, Lists naming placed content found := by
  cases naming with
  | field => exact exists_lists_of_fields h
  | global => exact exists_lists_of_global h
  | define => exact exists_lists_of_define h

/-! ### Captured names are words -/

theorem ne_nil_of_startsBlank {before after : List Char} (hname : IsName name)
    (h : StartsBlank (before ++ (name ++ after))) : before ≠ [] := by
  rintro rfl
  obtain ⟨b, more, heq, hb⟩ := h
  have hnone := Text.noneAfter_isBlank_of_isWord hname.1 hname.2 after
  rw [List.nil_append] at heq
  rw [heq, Text.noneAfter_cons, hb] at hnone
  cases hnone

theorem noneBefore_isWord_of_allBlank {gap : List Char} (hgap : allBlank gap = true) :
    NoneBefore isWord gap :=
  fun c hc => Text.isWord_of_isBlank (allBlank_iff.mp hgap c (List.mem_of_getLast? hc))

/-- No word goes on from before a declarator. -/
theorem noneBefore_isWord_append {front before : List Char} (hfront : NoneBefore (· ≠ ',') front)
    (hbefore : NoneBefore isWord before) : NoneBefore isWord (front ++ before) := by
  refine .append (fun _ c hc => ?_) hbefore
  obtain rfl : c = ',' := by simpa using hfront c hc
  decide

/-- A name is a word of what follows the beginning of its declaration, and does not start it. -/
theorem isLongestRun_of_names {column : Nat} (hrest : StartsBlank rest)
    (h : naming.Names rest column name) :
    ∃ before after, rest = before ++ (name ++ after) ∧ before.length = column ∧
      IsLongestRun before name after ∧ before ≠ [] := by
  cases naming with
  | field =>
    obtain ⟨_, tail, _, _, _, rfl, -, ⟨front, back, rfl, rfl, -, hfront, -⟩,
      ⟨⟨before, gap, after, rfl, rfl, hbefore, hname, hgap⟩, -⟩, rfl⟩ := h
    have hparts : front ++ (before ++ (name ++ (gap ++ '[' :: after)) ++ back) ++ ';' :: tail =
        (front ++ before) ++ (name ++ (gap ++ '[' :: (after ++ (back ++ ';' :: tail)))) := by simp
    rw [hparts] at hrest ⊢
    exact ⟨front ++ before, _, rfl, List.length_append,
      ⟨hname.1, hname.2, noneBefore_isWord_append hfront hbefore,
        Text.noneAfter_isWord_of_allBlank hgap (by decide)⟩, ne_nil_of_startsBlank hname hrest⟩
  | global =>
    obtain ⟨gap, gap', mark, tail, rfl, rfl, hgap, hname, hgap', hmark, -⟩ := h
    have hends : isWord mark = false := by rcases hmark with rfl | rfl <;> decide
    exact ⟨gap, _, rfl, rfl, ⟨hname.1, hname.2, noneBefore_isWord_of_allBlank hgap,
      Text.noneAfter_isWord_of_allBlank hgap' hends⟩, ne_nil_of_startsBlank hname hrest⟩
  | define =>
    obtain ⟨gap, parameters, b, tail, rfl, rfl, hgap, hname, hb, hparameters⟩ := h
    exact ⟨gap, _, rfl, rfl, ⟨hname.1, hname.2, noneBefore_isWord_of_allBlank hgap,
      noneAfter_isWord_of_parameters hb hparameters⟩, ne_nil_of_startsBlank hname hrest⟩

/-- A captured name is a word of its line. -/
theorem Captures.isWordOf {capture : Captured} (h : naming.Captures line capture) :
    IsWordOf line capture.column capture.name := by
  obtain ⟨lead, head, rest, offset, hsplits, hnames, hcolumn⟩ := h
  obtain ⟨before, after, rfl, rfl, hlongest, hsome⟩ := isLongestRun_of_names hsplits.follows hnames
  refine ⟨lead ++ (head ++ before), after, by simp [hsplits.parts], by simp [hcolumn]; omega,
    hlongest.ne_nil, hlongest.inside, ?_, hlongest.right⟩
  rw [← List.append_assoc]
  exact .append (fun hnone => absurd hnone hsome) hlongest.left

end Naming

/-! ### Selections -/

/-- The range of a captured name on a line. -/
def Captured.span (capture : Captured) (number : Nat) : Wire.Range :=
  .onLine number capture.column (capture.column + capture.name.length)

/-- A name occurs in a line from a column on, be it in a word or not. -/
def OccursAt (line : Line) (column : Nat) (name : List Char) : Prop :=
  name <+: line.drop column

theorem IsWordOf.occursAt {start : Nat} (h : IsWordOf line start name) : OccursAt line start name := by
  obtain ⟨before, after, rfl, rfl, -⟩ := h
  rw [OccursAt, List.append_assoc, List.drop_left]
  exact List.prefix_append name after

/-- A symbol bears the name of a declaration, and selects its first occurrence in the line. -/
structure SelectsFirst (placed : PlacedLine) (name : List Char) (symbol : DocumentSymbol) : Prop where
  /-- It bears the name. -/
  name_eq : symbol.name = String.ofList name
  /-- It selects the first occurrence of the name, be it in a word or not. -/
  first : ∃ column, symbol.selectionRange = .onLine placed.number column (column + name.length) ∧
    OccursAt placed.line column name ∧ ∀ earlier < column, ¬OccursAt placed.line earlier name

/-- The first occurrence of a name that occurs is found. -/
theorem columnOf_spec {column : Nat} (h : OccursAt placed.line column name) :
    OccursAt placed.line (placed.columnOf name) name ∧
      ∀ earlier < placed.columnOf name, ¬OccursAt placed.line earlier name := by
  have hsome : (Text.indexOf? name placed.line).isSome :=
    (Text.indexOf?_isSome_iff name placed.line).mpr (h.isInfix.trans (List.drop_suffix _ _).isInfix)
  obtain ⟨first, hfirst⟩ := Option.isSome_iff_exists.mp hsome
  rw [PlacedLine.columnOf, hfirst]
  exact Text.indexOf?_eq_some_iff.mp hfirst

/-- The captured name is selected exactly if the name does not occur before it. -/
theorem SelectsFirst.selectionRange_eq_iff {capture : Captured} {symbol : DocumentSymbol}
    (h : SelectsFirst placed capture.name symbol)
    (hoccurs : OccursAt placed.line capture.column capture.name) :
    symbol.selectionRange = capture.span placed.number ↔
      ∀ earlier < capture.column, ¬OccursAt placed.line earlier capture.name := by
  obtain ⟨column, hrange, hat, hfirst⟩ := h.first
  rw [hrange]
  constructor
  · intro heq
    obtain rfl : column = capture.column := congrArg (·.start.character) heq
    exact hfirst
  · -- the captured name is an occurrence itself, so the first one does not come after it
    intro hnone
    obtain rfl : column = capture.column := by
      rcases Nat.lt_trichotomy column capture.column with hlt | heq | hlt
      · exact absurd hat (hnone column hlt)
      · exact heq
      · exact absurd hoccurs (hfirst _ hlt)
    rfl

/-- A symbol stands for a captured name: it bears the name and selects its first occurrence. -/
structure StandsFor (placed : PlacedLine) (capture : Captured) (symbol : DocumentSymbol) : Prop
    extends SelectsFirst placed capture.name symbol where
  /-- The captured name is a word of the line. -/
  word : IsWordOf placed.line capture.column capture.name
  /-- It is selected exactly if the name does not occur before it. -/
  selected_iff : symbol.selectionRange = capture.span placed.number ↔
    ∀ earlier < capture.column, ¬OccursAt placed.line earlier capture.name

/-- The symbols of a line bear the names and selections of what it declares. -/
theorem map_symbolsOn {content : LineContent} (hplaced : placedLine? text number = some placed)
    (hcontent : placed.content? (passedOn text number).depth = some content) :
    (topSymbolsOn text number ++ innerSymbolsOn text number).map
        (fun symbol => (symbol.name, symbol.selectionRange)) =
      content.declared.map fun declared => (declared.name, declared.selection) := by
  have htop : (topSymbolsOn text number).map (fun symbol => (symbol.name, symbol.selectionRange)) =
      (onLine number ((outline text).map (·.declared))).map
        fun declared => (declared.name, declared.selection) := by
    rw [topSymbolsOn, documentSymbols, onLine, List.filter_map, List.filter_map, List.map_map, List.map_map]
    rfl
  have hinner : (innerSymbolsOn text number).map (fun symbol => (symbol.name, symbol.selectionRange)) =
      (onLine number ((outline text).flatMap (·.fields))).map
        fun declared => (declared.name, declared.selection) := by
    rw [innerSymbolsOn_eq, List.map_map]
    rfl
  rw [List.map_append, htop, hinner, ← List.map_append]
  rcases onLine_outline_of_content hplaced hcontent with ⟨htops, hinside⟩ | ⟨-, htops, hinside⟩
  · rw [htops, hinside, List.append_nil]
  · rw [htops, hinside, List.nil_append]

/-- **Selections of declared names.** The symbols of a line that declares fields, a global variable or a
macro are those of the names that its declaration captures, in their order, and every captured name is a
word of the line. Each symbol selects the first occurrence of its name in the line, be it in a word or not;
this is the captured name exactly if the name does not occur before it. -/
theorem selections_of_captures {naming : Naming} (hplaced : placedLine? text number = some placed)
    (hcontent : placed.content? (passedOn text number).depth = some content)
    (hnaming : naming.content? placed (passedOn text number).depth = some content) :
    ∃ found : List Captured, found.Pairwise (·.column < ·.column) ∧
      (∀ capture, capture ∈ found ↔ naming.Captures placed.line capture) ∧
      List.Forall₂ (StandsFor placed) found (topSymbolsOn text number ++ innerSymbolsOn text number) := by
  obtain ⟨found, hfound⟩ := Naming.exists_lists hnaming
  obtain rfl := number_of_placedLine? hplaced
  refine ⟨found, hfound.sorted, hfound.mem_iff, ?_⟩
  have hpairs : List.Forall₂ (fun capture symbol =>
      (String.ofList capture.name, placed.firstSpan capture.name) = (symbol.name, symbol.selectionRange))
      found (topSymbolsOn text placed.number ++ innerSymbolsOn text placed.number) := by
    have heq := ((map_symbolsOn hplaced hcontent).trans hfound.declared).symm
    rwa [← List.forall₂_eq_eq_eq, List.forall₂_map_left_iff, List.forall₂_map_right_iff] at heq
  refine ((List.forall₂_and_left _ _).mpr ⟨fun capture => (hfound.mem_iff capture).mp, hpairs⟩).imp ?_
  rintro capture symbol ⟨hcaptures, heq⟩
  obtain ⟨hname, hselection⟩ := Prod.mk.inj heq
  have hword := hcaptures.isWordOf
  have hselects : SelectsFirst placed capture.name symbol :=
    ⟨hname.symm, placed.columnOf capture.name, hselection.symm, columnOf_spec hword.occursAt⟩
  exact ⟨hselects, hword, hselects.selectionRange_eq_iff hword.occursAt⟩

/-- Two fields, where the name of the second one occurs in that of the first. -/
def twoFields : String := "scalar phi0[], phi[];"

/-- The line with the two fields. -/
def twoFieldsLine : PlacedLine :=
  { number := 0, line := "scalar phi0[], phi[];".toList, above := [], below := [] }

/-- The two fields, both of which select a part of the first name. -/
def twoFieldsContent : LineContent :=
  .fields [twoFieldsLine.declare "phi0".toList .field "scalar" 7,
    twoFieldsLine.declare "phi".toList .field "scalar" 7]

theorem selections_of_captures_twoFields :
    placedLine? twoFields 0 = some twoFieldsLine ∧
    twoFieldsLine.content? (passedOn twoFields 0).depth = some twoFieldsContent ∧
    Naming.field.content? twoFieldsLine (passedOn twoFields 0).depth = some twoFieldsContent ∧
    ∃ found : List Captured, found.Pairwise (·.column < ·.column) ∧
      (∀ capture, capture ∈ found ↔ Naming.field.Captures twoFieldsLine.line capture) ∧
      List.Forall₂ (StandsFor twoFieldsLine) found
        (topSymbolsOn twoFields 0 ++ innerSymbolsOn twoFields 0) := by
  have hplaced : placedLine? twoFields 0 = some twoFieldsLine := by rfl
  have hdepth : (passedOn twoFields 0).depth = 0 := by decide +kernel
  have hcontent : twoFieldsLine.content? (passedOn twoFields 0).depth = some twoFieldsContent := by
    rw [hdepth]
    cbv
  have hnaming : Naming.field.content? twoFieldsLine (passedOn twoFields 0).depth =
      some twoFieldsContent := by
    rw [hdepth]
    cbv
  exact ⟨hplaced, hcontent, hnaming, selections_of_captures hplaced hcontent hnaming⟩

/-- A field whose name occurs in the name of its type. -/
def fieldInType : String := "scalar a[];"

/-- The line with the field. -/
def fieldInTypeLine : PlacedLine :=
  { number := 0, line := "scalar a[];".toList, above := [], below := [] }

/-- Not every symbol selects a captured name: the letter of the type is found first, and it is no word. -/
theorem selection_inside_fieldInType :
    ¬∀ (naming : Naming) (text : String) (number : Nat) (placed : PlacedLine) (content : LineContent),
      placedLine? text number = some placed →
      placed.content? (passedOn text number).depth = some content →
      naming.content? placed (passedOn text number).depth = some content →
      ∀ symbol ∈ topSymbolsOn text number ++ innerSymbolsOn text number,
        ∃ capture, naming.Captures placed.line capture ∧ symbol.selectionRange = capture.span number := by
  intro hclaim
  have hplaced : placedLine? fieldInType 0 = some fieldInTypeLine := by rfl
  have hdepth : (passedOn fieldInType 0).depth = 0 := by decide +kernel
  have hcontent : fieldInTypeLine.content? (passedOn fieldInType 0).depth =
      some (.fields [fieldInTypeLine.declare ['a'] .field "scalar" 2]) := by
    rw [hdepth]
    cbv
  have hnaming : Naming.field.content? fieldInTypeLine (passedOn fieldInType 0).depth =
      some (.fields [fieldInTypeLine.declare ['a'] .field "scalar" 2]) := by
    rw [hdepth]
    cbv
  have hselected : (topSymbolsOn fieldInType 0).map (·.selectionRange) = [.onLine 0 2 3] := by
    decide +kernel
  obtain ⟨symbol, hsymbol, hrange⟩ :=
    List.mem_map.mp (hselected ▸ List.mem_singleton_self (Wire.Range.onLine 0 2 3))
  obtain ⟨capture, hcaptures, hspan⟩ := hclaim .field fieldInType 0 _ _ hplaced hcontent hnaming symbol
    (List.mem_append_left _ hsymbol)
  obtain ⟨before, after, hline, hlength, hrun⟩ := hcaptures.isWordOf
  have hcolumn : capture.column = 2 := congrArg (·.start.character) (hspan.symm.trans hrange)
  -- A capture in that column would begin inside the type, but words are longest runs.
  have hbefore : before = ['s', 'c'] := by
    have htaken := congrArg (List.take 2) hline
    rw [List.append_assoc, List.take_left' (hlength.trans hcolumn)] at htaken
    exact htaken.symm
  subst hbefore
  have hleft : NoneBefore isWord (['s'] ++ ['c']) := hrun.left
  rw [Text.noneBefore_concat] at hleft
  exact absurd hleft (by decide)

end BasiliskServer.Source
