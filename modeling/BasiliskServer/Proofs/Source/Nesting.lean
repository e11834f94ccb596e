import BasiliskServer.Proofs.Source.Outline

/-!
# Outlines are well-formed

Editors refuse a whole outline when one of its declarations does not select a part of itself. This module
shows that outlines are well-formed (`WellFormed`) at every level: a declaration has a range that does not
end before it starts and selects something within it, and what it has inside are fields that start below
it, in the order of their lines.

Every kind of declaration selects a part of itself, because it takes its whole line or more, and at least as
much as its name (`PlacedLine.Declares.selectsWithin`). Whatever there is of an outline before a line stands above
the line (`OutlineState.IsOrdered`), so what the line declares can be added at the end of the top or inside an
event or function (`OutlineState.IsOrdered.add`).
-/

namespace BasiliskServer.Source

open Text (Line)
open Wire (DocumentSymbol Position Range)

/-! ### Well-formed declarations -/

/-- The place is not after the other one in a text. -/
def NotAfter (a b : Position) : Prop :=
  a.line < b.line ∨ (a.line = b.line ∧ a.character ≤ b.character)

/-- The range holds the whole of another one. -/
structure Encloses (outer inner : Range) : Prop where
  /-- It does not start after the other one. -/
  start : NotAfter outer.start inner.start
  /-- It does not end before the other one. -/
  stop : NotAfter inner.stop outer.stop

/-- The declarations inside another one. -/
def childrenOf (symbol : DocumentSymbol) : List DocumentSymbol :=
  symbol.children.getD []

/-- The declaration starts on no later line than the other one. -/
def StartsNoLater (a b : DocumentSymbol) : Prop :=
  a.range.start.line ≤ b.range.start.line

/-- A declaration selects a part of itself, and what it has inside are fields below it. -/
structure IsSound (symbol : DocumentSymbol) : Prop where
  /-- Its range does not end before it starts. -/
  range : NotAfter symbol.range.start symbol.range.stop
  /-- It selects something within its range. -/
  selection : Encloses symbol.range symbol.selectionRange
  /-- Only events and functions have something inside. -/
  parent : childrenOf symbol ≠ [] →
    symbol.kind = Wire.SymbolKind.event ∨ symbol.kind = Wire.SymbolKind.function
  /-- What is inside is in order. -/
  ordered : (childrenOf symbol).Pairwise StartsNoLater
  /-- What is inside are fields with nothing inside, which start below it. -/
  fields : ∀ child ∈ childrenOf symbol, child.kind = Wire.SymbolKind.field ∧
    childrenOf child = [] ∧ symbol.range.start.line < child.range.start.line

/-- A declaration is sound at every level. -/
inductive WellFormed : DocumentSymbol → Prop
  | intro {symbol : DocumentSymbol} (here : IsSound symbol)
    (inside : ∀ child ∈ childrenOf symbol, WellFormed child) : WellFormed symbol

/-! ### What a line declares -/

/-- The declaration has a range that does not end before it starts, and selects something within it. -/
structure Declared.SelectsWithin (declared : Declared) : Prop where
  /-- Its range does not end before it starts. -/
  range : NotAfter declared.range.start declared.range.stop
  /-- It selects something within its range. -/
  selection : Encloses declared.range declared.selection

theorem PlacedLine.Declares.selectsWithin {placed : PlacedLine} {declared : Declared}
    (h : placed.Declares declared) : declared.SelectsWithin := by
  cases h with
  | onLine name kind detail start =>
    have hstop : start + name.length ≤ max placed.line.length (start + name.length) :=
      Nat.le_max_right _ _
    exact ⟨.inr ⟨rfl, Nat.zero_le _⟩, .inr ⟨rfl, Nat.zero_le _⟩, .inr ⟨rfl, hstop⟩⟩
  | toBelow name kind detail h =>
    exact ⟨.inl h, .inr ⟨rfl, Nat.zero_le _⟩, .inl h⟩

/-! ### What there is before a line -/

/-- A line of a declaration of an outline. -/
abbrev Declared.startLine (declared : Declared) : Nat :=
  declared.range.start.line

namespace OutlineState

variable {state : OutlineState} {number : Nat}

/-- What there is of an outline is in order and stands above a line. -/
structure IsOrdered (state : OutlineState) (number : Nat) : Prop where
  /-- The top is in order. -/
  tops : state.tops.Pairwise fun a b => a.startLine ≤ b.startLine
  /-- The top stands above the line. -/
  above : ∀ declared ∈ state.tops, declared.startLine < number
  /-- The fields inside an entry are in order. -/
  fields : ∀ entry ∈ state.entries, entry.fields.Pairwise fun a b => a.startLine ≤ b.startLine
  /-- The fields inside an entry stand below it and above the line. -/
  inside : ∀ entry ∈ state.entries, ∀ field ∈ entry.fields,
    entry.declared.startLine < field.startLine ∧ field.startLine < number
  /-- All entries and fields select something within themselves. -/
  selects : ∀ entry ∈ state.entries,
    entry.declared.SelectsWithin ∧ ∀ field ∈ entry.fields, field.SelectsWithin

theorem IsOrdered.pass (h : state.IsOrdered number) (list : List Brace) :
    (state.pass list).IsOrdered number := by
  have hentries := entries_pass state list
  exact ⟨by rw [OutlineState.tops, hentries]; exact h.tops,
    by rw [OutlineState.tops, hentries]; exact h.above, by rw [hentries]; exact h.fields,
    by rw [hentries]; exact h.inside, by rw [hentries]; exact h.selects⟩

/-- What stands above a line stands above the next one. -/
theorem IsOrdered.next (h : state.IsOrdered number) : state.IsOrdered (number + 1) where
  tops := h.tops
  above declared hmem := Nat.lt_succ_of_lt (h.above declared hmem)
  fields := h.fields
  inside entry hentry field hfield :=
    ⟨(h.inside entry hentry field hfield).1, Nat.lt_succ_of_lt (h.inside entry hentry field hfield).2⟩
  selects := h.selects

/-- Declarations of a line are in order behind what stands above the line. -/
theorem pairwise_append_of_startLine {front list : List Declared}
    (hfront : front.Pairwise fun a b => a.startLine ≤ b.startLine)
    (habove : ∀ declared ∈ front, declared.startLine < number)
    (hline : ∀ declared ∈ list, declared.startLine = number) :
    (front ++ list).Pairwise fun a b => a.startLine ≤ b.startLine := by
  refine List.pairwise_append.mpr ⟨hfront, ?_, fun a ha b hb => ?_⟩
  · exact List.pairwise_of_forall_mem_list fun a ha b hb => ((hline a ha).trans (hline b hb).symm).le
  · exact ((habove a ha).trans_eq (hline b hb).symm).le

/-- What a line declares joins what stands above the line. -/
theorem IsOrdered.add (h : state.IsOrdered number) (hnested : state.IsNested) {content : LineContent}
    (hline : ∀ declared ∈ content.declared, declared.startLine = number)
    (hselects : ∀ declared ∈ content.declared, declared.SelectsWithin) :
    (state.add content).IsOrdered (number + 1) := by
  rcases add_cases state content with ⟨list, index, rfl, howner, hentries⟩ | ⟨hfree, hentries⟩
  -- fields join their owner behind the fields it has; the top and all other entries stay as they are
  · obtain ⟨htops, -⟩ := add_fields_of_owner hnested (by simp [howner]) list
    obtain ⟨owner, howned, -⟩ := hnested.owner index howner
    have hmem : owner ∈ state.entries := List.mem_of_getElem? howned
    have habove : owner.declared.startLine < number := h.above _ (List.mem_map_of_mem hmem)
    have hnext := h.next
    refine ⟨by rw [htops]; exact hnext.tops, by rw [htops]; exact hnext.above, ?_, ?_, ?_⟩
    all_goals rw [hentries]
    · refine forall_mem_modify howned hnext.fields ?_
      exact pairwise_append_of_startLine (h.fields owner hmem)
        (fun field hfield => (h.inside owner hmem field hfield).2) hline
    · refine forall_mem_modify howned hnext.inside
        (List.forall_mem_append.mpr ⟨hnext.inside owner hmem, fun field hfield => ?_⟩)
      rw [hline field hfield]
      exact ⟨habove, Nat.lt_succ_self _⟩
    · obtain ⟨hselected, hfields⟩ := h.selects owner hmem
      exact forall_mem_modify howned hnext.selects
        ⟨hselected, List.forall_mem_append.mpr ⟨hfields, hselects⟩⟩
  · obtain ⟨htops, -⟩ := add_of_owner_none content hfree
    have hnext := h.next
    refine ⟨?_, ?_, ?_, ?_, ?_⟩
    · rw [htops]
      exact pairwise_append_of_startLine h.tops h.above hline
    · rw [htops]
      refine List.forall_mem_append.mpr ⟨hnext.above, fun declared hmem => ?_⟩
      rw [hline declared hmem]
      exact Nat.lt_succ_self _
    all_goals rw [hentries]
    · exact List.forall_mem_append.mpr ⟨hnext.fields, by simp⟩
    · exact List.forall_mem_append.mpr ⟨hnext.inside, by simp⟩
    · exact List.forall_mem_append.mpr ⟨hnext.selects, by simpa using hselects⟩

end OutlineState

theorem isOrdered_stateBefore {text : String} {number : Nat}
    (hnumber : number ≤ (Text.lines text).length) : (stateBefore text number).IsOrdered number := by
  induction number with
  | zero => exact ⟨.nil, nofun, nofun, nofun, nofun⟩
  | succ number ih =>
    have hpassed : (passedOn text number).IsOrdered number := (ih (Nat.le_of_succ_le hnumber)).pass _
    refine stateBefore_succ_cases (·.IsOrdered (number + 1)) hpassed.next
      (fun placed content hplaced hcontent =>
        hpassed.add (isNested_passedOn (Nat.le_of_succ_le hnumber)) ?_ ?_) hnumber
    · intro declared hmem
      rw [← number_of_placedLine? hplaced]
      exact PlacedLine.holds_declared hcontent declared hmem
    · exact fun declared hmem => (PlacedLine.declares_declared hcontent declared hmem).selectsWithin

/-! ### The outline of a text -/

theorem childrenOf_toSymbol (entry : OutlineEntry) :
    childrenOf entry.toSymbol = entry.fields.map (·.toSymbol []) :=
  rfl

/-- A declaration that selects something within itself is well-formed if it has nothing inside. -/
theorem Declared.SelectsWithin.wellFormed {declared : Declared} (h : declared.SelectsWithin) :
    WellFormed (declared.toSymbol []) :=
  .intro ⟨h.range, h.selection, fun hsome => absurd rfl hsome, .nil, nofun⟩ nofun

/-- **Outlines are well-formed.** For every text the declarations at the top of the outline are in the order
of their lines. At every level a declaration has a range that does not end before it starts and selects
something within it, only events and functions have something inside, and what they have inside are fields
with nothing inside that start on later lines, in the order of their lines. -/
theorem outline_wellFormed (text : String) :
    (documentSymbols text).Pairwise StartsNoLater ∧ ∀ symbol ∈ documentSymbols text, WellFormed symbol := by
  have hordered := @isOrdered_stateBefore text _ (Nat.le_refl _)
  have hnested := @isNested_stateBefore text _ (Nat.le_refl _)
  rw [documentSymbols, outline_eq_stateBefore]
  constructor
  · have htops := hordered.tops
    rw [OutlineState.tops, List.pairwise_map] at htops
    exact List.pairwise_map.mpr htops
  · intro symbol hsymbol
    obtain ⟨entry, hentry, rfl⟩ := List.mem_map.mp hsymbol
    obtain ⟨hselects, hfields⟩ := hordered.selects entry hentry
    refine .intro ⟨hselects.range, hselects.selection, fun hsome => ?_, ?_, fun child hchild => ?_⟩
      fun child hchild => ?_
    · rw [childrenOf_toSymbol] at hsome
      exact hnested.hasBody entry hentry (by simpa using hsome)
    · rw [childrenOf_toSymbol]
      exact List.pairwise_map.mpr (hordered.fields entry hentry)
    all_goals
      rw [childrenOf_toSymbol] at hchild
      obtain ⟨field, hfield, rfl⟩ := List.mem_map.mp hchild
    · exact ⟨hnested.kind entry hentry field hfield, rfl, (hordered.inside entry hentry field hfield).1⟩
    · exact (hfields field hfield).wellFormed

end BasiliskServer.Source
