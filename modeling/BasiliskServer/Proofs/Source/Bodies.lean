import BasiliskServer.Proofs.Source.Outline

/-!
# Fields outside all blocks

A field that is declared while no block is open is expected at the top of the outline, and not inside an
event or function. The outline keeps an owner of fields: an event or function takes them from its line
on, and the brace that closes the last open block releases them. This module says when a field outside
all blocks has an owner nevertheless. The braces of a line are passed before the line is read, so an
event or function whose block is closed on its own line, or that has no block, stays the owner until a
brace on a later line (`owner_stateBefore_eq_none_iff`). A field outside all blocks therefore stands at
the top exactly if a brace has followed on a later line for every event and function above it
(`fields_outside_blocks`).
-/

namespace BasiliskServer.Source

open Wire (DocumentSymbol)

variable {text : String} {number : Nat} {placed : PlacedLine}

/-! ### Who owns fields -/

/-- A line starts an event or function. -/
def StartsBody (text : String) (number : Nat) : Prop :=
  ∃ placed, placedLine? text number = some placed ∧ placed.body? ≠ none

/-- For every event and function above a line a brace has followed on a later line above it. -/
def BodiesPassed (text : String) (number : Nat) : Prop :=
  ∀ head < number, StartsBody text head →
    ∃ brace ∈ braces text, head < brace.line ∧ brace.line < number

theorem startsBody_iff (h : placedLine? text number = some placed) :
    StartsBody text number ↔ placed.body? ≠ none := by
  refine ⟨fun ⟨other, hother, hbody⟩ => ?_, fun hbody => ⟨placed, h, hbody⟩⟩
  rw [h] at hother
  exact Option.some.inj hother ▸ hbody

/-- Braces on a line pass every body above it. -/
theorem bodiesPassed_succ_of_brace (h : ∃ brace ∈ braces text, brace.line = number) :
    BodiesPassed text (number + 1) ↔ ¬StartsBody text number := by
  obtain ⟨brace, hbrace, rfl⟩ := h
  constructor
  · intro hpassed hstarts
    obtain ⟨later, -, hlater, hline⟩ := hpassed _ (Nat.lt_succ_self _) hstarts
    omega
  · intro hnone head hhead hstarts
    rcases Nat.lt_succ_iff_lt_or_eq.mp hhead with habove | rfl
    · exact ⟨brace, hbrace, habove, Nat.lt_succ_self _⟩
    · exact absurd hstarts hnone

/-- A line without braces passes no body. -/
theorem bodiesPassed_succ_of_free (h : ∀ brace ∈ braces text, brace.line ≠ number) :
    BodiesPassed text (number + 1) ↔ ¬StartsBody text number ∧ BodiesPassed text number := by
  constructor
  · refine fun hpassed => ⟨fun hstarts => ?_, fun head hhead hstarts => ?_⟩
    · obtain ⟨later, -, hlater, hline⟩ := hpassed _ (Nat.lt_succ_self _) hstarts
      omega
    · obtain ⟨brace, hbrace, hlater, hline⟩ := hpassed head (Nat.lt_succ_of_lt hhead) hstarts
      exact ⟨brace, hbrace, hlater, Nat.lt_of_le_of_ne (Nat.le_of_lt_succ hline) (h brace hbrace)⟩
  · rintro ⟨hnone, hpassed⟩ head hhead hstarts
    rcases Nat.lt_succ_iff_lt_or_eq.mp hhead with habove | rfl
    · obtain ⟨brace, hbrace, hlater, hline⟩ := hpassed head habove hstarts
      exact ⟨brace, hbrace, hlater, Nat.lt_succ_of_lt hline⟩
    · exact absurd hstarts hnone

/-- After a line nobody owns fields exactly if the braces of the line leave no owner and the line starts
no event or function. -/
theorem owner_stateBefore_succ (hnumber : number < (Text.lines text).length) :
    (stateBefore text (number + 1)).owner = none ↔
      ¬StartsBody text number ∧ (passedOn text number).owner = none := by
  obtain ⟨placed, hplaced⟩ := Option.isSome_iff_exists.mp (placedLine?_isSome_iff.mpr hnumber)
  rw [startsBody_iff hplaced, not_not, stateBefore_succ_eq hplaced]
  cases hcontent : placed.content? (passedOn text number).depth with
  | none =>
    rw [PlacedLine.content?_eq_body?_orElse] at hcontent
    cases hbody : placed.body? with
    | none => simp
    | some content => rw [hbody] at hcontent; cases hcontent
  | some content =>
    rcases PlacedLine.content?_eq_some hcontent with ⟨declared, rfl, hbody, -, -⟩ | ⟨hnone, hrest⟩
    · simp [hbody, OutlineState.add]
    · have hkept : ∀ declared, content ≠ .body declared := by
        rintro declared rfl
        rcases hrest with ⟨_, h, -⟩ | ⟨_, h, -⟩ <;> cases h
      rw [OutlineState.owner_add _ hkept]
      simp [hnone]

/-- Where no block is open and none was closed that is not open, nobody owns fields exactly if all bodies
above are passed by a brace on a later line. -/
theorem owner_stateBefore_eq_none_iff (hstays : ∀ part, part <+: braces text → 0 ≤ height part)
    (hnumber : number ≤ (Text.lines text).length)
    (hends : height ((braces text).filter (·.line < number)) = 0) :
    (stateBefore text number).owner = none ↔ BodiesPassed text number := by
  induction number with
  | zero => exact iff_of_true rfl fun head hhead => absurd hhead (Nat.not_lt_zero head)
  | succ number ih =>
    have habove := depth_stateBefore (Nat.le_of_succ_le hnumber)
    rw [filter_line_lt_succ, height_append] at hends
    rw [owner_stateBefore_succ hnumber]
    by_cases hfree : ∀ brace ∈ braces text, brace.line ≠ number
    · have hnone : (braces text).filter (·.line = number) = [] := by simpa using hfree
      rw [hnone, height_nil, Int.add_zero] at hends
      have hsame : passedOn text number = stateBefore text number := by
        rw [passedOn, hnone]
        rfl
      rw [hsame, ih (Nat.le_of_succ_le hnumber) hends, bodiesPassed_succ_of_free hfree]
    · -- The last brace of the line leaves no block open, so it closes the last one.
      have hclosed : (passedOn text number).owner = none := by
        refine OutlineState.owner_pass_of_closes (by simpa using hfree) (fun part hpart => ?_)
          (by rwa [habove])
        rw [habove, ← height_append]
        refine hstays _ (List.IsPrefix.trans ?_ (prefix_filter_line_lt text (number + 1)))
        rw [filter_line_lt_succ]
        exact (List.prefix_append_right_inj _).mpr hpart
      rw [bodiesPassed_succ_of_brace (by simpa using hfree)]
      exact and_iff_left hclosed

/-! ### Where fields stand -/

/-- The declarations of a line at the top of an outline. -/
def topSymbolsOn (text : String) (number : Nat) : List DocumentSymbol :=
  (documentSymbols text).filter (·.range.start.line = number)

/-- The declarations of a line inside others. -/
def innerSymbolsOn (text : String) (number : Nat) : List DocumentSymbol :=
  ((documentSymbols text).flatMap (·.children.getD [])).filter (·.range.start.line = number)

/-- A field has nothing inside. -/
theorem fields_eq_nil_of_kind {state : OutlineState} (h : state.IsNested) {entry : OutlineEntry}
    (hmem : entry ∈ state.entries) (hkind : entry.declared.kind = .field) : entry.fields = [] := by
  by_contra hfields
  rcases h.hasBody entry hmem hfields with hevent | hfunction
  · rw [hkind] at hevent
    cases hevent
  · rw [hkind] at hfunction
    cases hfunction

/-- Fields of a line at the top of an outline. -/
theorem topSymbolsOn_eq (list : List Declared) (hkind : ∀ declared ∈ list, declared.kind = .field)
    (h : onLine number ((outline text).map (·.declared)) = list) :
    topSymbolsOn text number = list.map (·.toSymbol []) := by
  rw [onLine, List.filter_map] at h
  rw [topSymbolsOn, documentSymbols, List.filter_map, ← h, List.map_map]
  refine List.map_congr_left fun entry hentry => ?_
  have hfield : entry.declared.kind = .field :=
    hkind _ (h ▸ List.mem_map_of_mem hentry)
  have hnested : (stateBefore text (Text.lines text).length).IsNested :=
    isNested_stateBefore (Nat.le_refl _)
  have hmem := List.mem_of_mem_filter hentry
  rw [outline_eq_stateBefore] at hmem
  rw [OutlineEntry.toSymbol, fields_eq_nil_of_kind hnested hmem hfield]
  rfl

/-- Fields of a line inside others. -/
theorem innerSymbolsOn_eq (text : String) (number : Nat) :
    innerSymbolsOn text number =
      (onLine number ((outline text).flatMap (·.fields))).map (·.toSymbol []) := by
  have hchildren : (documentSymbols text).flatMap (·.children.getD []) =
      ((outline text).flatMap (·.fields)).map (·.toSymbol []) := by
    rw [documentSymbols, List.flatMap_map, List.map_flatMap]
    rfl
  rw [innerSymbolsOn, hchildren, List.filter_map]
  rfl

/-- **Fields outside all blocks.** In a text whose braces never close more blocks than are open, the fields
of a line before which no block is open and on which no brace stands are at the top of the outline if
all events and functions above are passed by a brace on a later line, and otherwise inside an event or
function. -/
theorem fields_outside_blocks {list : List Declared}
    (hstays : ∀ part, part <+: braces text → 0 ≤ height part)
    (hplaced : placedLine? text number = some placed)
    (hfields : placed.content? 0 = some (.fields list))
    (hends : height ((braces text).filter (·.line < number)) = 0)
    (hfree : ∀ brace ∈ braces text, brace.line ≠ number) :
    (BodiesPassed text number →
      topSymbolsOn text number = list.map (·.toSymbol []) ∧ innerSymbolsOn text number = []) ∧
    (¬BodiesPassed text number →
      topSymbolsOn text number = [] ∧ innerSymbolsOn text number = list.map (·.toSymbol [])) := by
  have hnumber : number < (Text.lines text).length :=
    placedLine?_isSome_iff.mp (Option.isSome_of_eq_some hplaced)
  have hsame : passedOn text number = stateBefore text number := by
    rw [passedOn, List.filter_eq_nil_iff.mpr (by simpa using hfree)]
    rfl
  have hadded : stateBefore text (number + 1) = (stateBefore text number).add (.fields list) := by
    rw [stateBefore_succ_eq hplaced, hsame, depth_stateBefore hnumber.le, hends, hfields]
  have hkind : ∀ declared ∈ list, declared.kind = .field := PlacedLine.suits_content? hfields
  have hline : onLine number list = list := by
    refine List.filter_eq_self.mpr fun declared hmem => decide_eq_true ?_
    rw [PlacedLine.holds_declared hfields declared hmem, number_of_placedLine? hplaced]
  obtain ⟨htops, hinner⟩ := onLine_outline hnumber
  obtain ⟨hnotops, hnoinner⟩ := onLine_stateBefore hnumber.le (Nat.le_refl number)
  rw [innerSymbolsOn_eq, hinner, hadded]
  rw [hadded] at htops
  rw [← owner_stateBefore_eq_none_iff hstays hnumber.le hends]
  -- Without an owner the fields are added to the outline itself, with one to what is inside it; the
  -- other part has nothing on this line.
  constructor
  · intro howner
    obtain ⟨hjoined, hkept⟩ := OutlineState.add_of_owner_none (.fields list)
      fun _ _ => howner
    rw [hkept, hnoinner]
    refine ⟨topSymbolsOn_eq list hkind ?_, rfl⟩
    rw [htops, hjoined, onLine, List.filter_append, ← onLine, hnotops]
    exact hline
  · intro howner
    obtain ⟨hkept, before, after, heq, hjoined⟩ := OutlineState.add_fields_of_owner
      (isNested_stateBefore hnumber.le) howner list
    rw [heq, onLine, List.filter_append, List.append_eq_nil_iff] at hnoinner
    constructor
    · exact topSymbolsOn_eq [] (fun _ h => absurd h List.not_mem_nil) (by rw [htops, hkept, hnotops])
    · rw [hjoined, onLine, List.filter_append, List.filter_append, hnoinner.1, hnoinner.2,
        List.append_nil, List.nil_append, ← onLine, hline]

/-- An event whose block is closed on the next line, and a field below. -/
def bodyThenField : String := "event a (i++) \x7b\n\x7d\nscalar t[];"

/-- The line with the field. -/
def fieldBelow : PlacedLine :=
  { number := 2, line := "scalar t[];".toList, above := ["\x7d".toList, "event a (i++) \x7b".toList]
    below := [] }

/-- The field that it declares. -/
def declaredBelow : Declared :=
  fieldBelow.declare ['t'] .field "scalar" 7

theorem fields_outside_blocks_bodyThenField :
    (∀ part, part <+: braces bodyThenField → 0 ≤ height part) ∧
    placedLine? bodyThenField 2 = some fieldBelow ∧
    fieldBelow.content? 0 = some (.fields [declaredBelow]) ∧
    height ((braces bodyThenField).filter (·.line < 2)) = 0 ∧
    (∀ brace ∈ braces bodyThenField, brace.line ≠ 2) ∧
    topSymbolsOn bodyThenField 2 = [declaredBelow.toSymbol []] ∧ innerSymbolsOn bodyThenField 2 = [] := by
  have hstays : ∀ part, part <+: braces bodyThenField → 0 ≤ height part := by
    simp only [← List.mem_inits]
    decide +kernel
  have hplaced : placedLine? bodyThenField 2 = some fieldBelow := by rfl
  have hfields : fieldBelow.content? 0 = some (.fields [declaredBelow]) := by cbv
  have hends : height ((braces bodyThenField).filter (·.line < 2)) = 0 := by decide +kernel
  have hfree : ∀ brace ∈ braces bodyThenField, brace.line ≠ 2 := by decide +kernel
  have hpassed : BodiesPassed bodyThenField 2 := by
    rw [bodiesPassed_succ_of_brace (by decide +kernel), startsBody_iff rfl]
    decide +kernel
  exact ⟨hstays, hplaced, hfields, hends, hfree,
    (fields_outside_blocks hstays hplaced hfields hends hfree).1 hpassed⟩

/-- An event whose block is closed on its own line, and a field below. -/
def bodyOnOneLine : String := "event a (i++) \x7b scalar s[]; \x7d\nscalar t[];"

/-- Fields outside all blocks are not always at the top of the outline: an event whose block is closed on
its own line keeps the field below. -/
theorem field_inside_bodyOnOneLine :
    ¬∀ (text : String) (number : Nat) (placed : PlacedLine) (list : List Declared),
      (∀ part, part <+: braces text → 0 ≤ height part) → placedLine? text number = some placed →
      placed.content? 0 = some (.fields list) →
      height ((braces text).filter (·.line < number)) = 0 →
      (∀ brace ∈ braces text, brace.line ≠ number) →
        topSymbolsOn text number = list.map (·.toSymbol []) ∧ innerSymbolsOn text number = [] := by
  intro hclaim
  have hstays : ∀ part, part <+: braces bodyOnOneLine → 0 ≤ height part := by
    simp only [← List.mem_inits]
    decide +kernel
  obtain ⟨-, hinner⟩ := hclaim bodyOnOneLine 1 _ _ hstays rfl rfl (by decide +kernel) (by decide +kernel)
  have hnames : (innerSymbolsOn bodyOnOneLine 1).map (·.name) = ["t"] := by decide +kernel
  rw [hinner] at hnames
  cases hnames

end BasiliskServer.Source
