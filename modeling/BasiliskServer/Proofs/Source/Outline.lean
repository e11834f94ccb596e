import BasiliskServer.Proofs.Source.Balance
import BasiliskServer.Source.Outline

/-!
# Outlines line by line

An outline is read from a text line by line. This module says what there is before each line
(`stateBefore`), so that the outline of a text is what there is after its last line
(`outline_eq_stateBefore`). How many blocks are open before a line is the height of the braces above it
(`depth_stateBefore`). Whatever a line declares starts on this line (`PlacedLine.holds_declared`), so a
declaration joins the outline when its line is read, and stays where it is from then on
(`onLine_outline`).
-/

namespace BasiliskServer.Source

open Text (Line)

/-! ### What a line declares -/

/-- All that is declared by a line. -/
def LineContent.declared : LineContent → List Declared
  | .body declared => [declared]
  | .fields list => list
  | .plain list => list

/-- An event or function, which can have fields in its body. -/
def Declared.HasBody (declared : Declared) : Prop :=
  declared.kind = .event ∨ declared.kind = .function

namespace PlacedLine

variable {placed : PlacedLine} {content : LineContent} {depth : Int}

/-- The event or function that a line starts. -/
def body? (placed : PlacedLine) : Option LineContent :=
  placed.event? <|> placed.function?

/-- The declarations start on the line. -/
def Holds (placed : PlacedLine) (list : List Declared) : Prop :=
  ∀ declared ∈ list, declared.range.start.line = placed.number

/-- A declaration of a line takes the line, or goes on to the end of a block on a line below. -/
inductive Declares (placed : PlacedLine) : Declared → Prop
  | onLine (name : List Char) (kind : Wire.SymbolKind) (detail : String) (start : Nat) :
    Declares placed (placed.declare name kind detail start)
  | toBelow (name : List Char) (kind : Wire.SymbolKind) (detail : String) {stop : Wire.Position}
    (h : placed.number < stop.line) :
    Declares placed { placed.declare name kind detail 0 with range := ⟨⟨placed.number, 0⟩, stop⟩ }

theorem Declares.line_eq {declared : Declared} (h : placed.Declares declared) :
    declared.range.start.line = placed.number := by
  cases h <;> rfl

theorem event?_eq_some (h : placed.event? = some content) :
    ∃ declared, content = .body declared ∧ declared.HasBody ∧ placed.Declares declared := by
  obtain ⟨head, -, hcontent⟩ := Option.bind_eq_some_iff.mp h
  exact ⟨_, (Option.some.inj hcontent).symm, .inl rfl, .onLine _ _ _ _⟩

theorem function?_eq_some (h : placed.function? = some content) :
    ∃ declared, content = .body declared ∧ declared.HasBody ∧ placed.Declares declared := by
  obtain ⟨head, -, hcontent⟩ := Option.bind_eq_some_iff.mp h
  split at hcontent
  · cases hcontent
  · exact ⟨_, (Option.some.inj hcontent).symm, .inr rfl, .onLine _ _ _ _⟩

theorem fields?_eq_some (h : placed.fields? = some content) :
    ∃ list, content = .fields list ∧ (∀ declared ∈ list, declared.kind = .field) ∧
      ∀ declared ∈ list, placed.Declares declared := by
  obtain ⟨found, -, hcontent⟩ := Option.bind_eq_some_iff.mp h
  refine ⟨_, (Option.some.inj hcontent).symm, fun declared hmem => ?_, fun declared hmem => ?_⟩
  all_goals obtain ⟨name, -, rfl⟩ := List.mem_map.mp hmem
  · rfl
  · exact .onLine _ _ _ _

theorem forall_mem_singleton_declare (placed : PlacedLine) (name : List Char) (kind : Wire.SymbolKind)
    (detail : String) (start : Nat) :
    ∀ declared ∈ [placed.declare name kind detail start], placed.Declares declared :=
  List.forall_mem_singleton.mpr (.onLine _ _ _ _)

theorem global?_eq_some (h : placed.global? depth = some content) :
    ∃ list, content = .plain list ∧ ∀ declared ∈ list, placed.Declares declared := by
  obtain ⟨head, -, hcontent⟩ := Option.bind_eq_some_iff.mp h
  dsimp only at hcontent
  split at hcontent
  · cases hcontent
  · split at hcontent
    · exact ⟨_, (Option.some.inj hcontent).symm, fun _ hmem => absurd hmem List.not_mem_nil⟩
    · exact ⟨_, (Option.some.inj hcontent).symm, forall_mem_singleton_declare _ _ _ _ _⟩

/-- The body of a structure does not end above the line from which its end is looked for. -/
theorem le_of_structEnd? {depth : Int} {number stop : Nat} {below : List Line} {line : Line}
    (h : structEnd? depth number below = some (stop, line)) : number ≤ stop := by
  induction below generalizing depth number with
  | nil => cases h
  | cons first rest ih =>
    rw [structEnd?] at h
    split at h
    · exact Nat.le_of_succ_le (ih h)
    · cases h
      exact Nat.le_refl _

theorem struct?_eq_some (h : placed.struct? = some content) :
    ∃ list, content = .plain list ∧ ∀ declared ∈ list, placed.Declares declared := by
  rw [struct?] at h
  split at h
  · refine ⟨_, (Option.some.inj h).symm, fun declared hmem => ?_⟩
    obtain ⟨⟨stop, line⟩, hend, hfound⟩ := Option.bind_eq_some_iff.mp (Option.mem_toList.mp hmem)
    obtain ⟨name, -, hdeclared⟩ := Option.bind_eq_some_iff.mp hfound
    rw [← Option.some.inj hdeclared]
    exact .toBelow _ _ _ (le_of_structEnd? hend)
  · cases h

theorem define?_eq_some (h : placed.define? = some content) :
    ∃ list, content = .plain list ∧ ∀ declared ∈ list, placed.Declares declared := by
  obtain ⟨⟨name, parameters⟩, -, hcontent⟩ := Option.bind_eq_some_iff.mp h
  cases parameters with
  | none => exact ⟨_, (Option.some.inj hcontent).symm, forall_mem_singleton_declare _ _ _ _ _⟩
  | some parameters => exact ⟨_, (Option.some.inj hcontent).symm, forall_mem_singleton_declare _ _ _ _ _⟩

theorem enum?_eq_some (h : placed.enum? = some content) :
    ∃ list, content = .plain list ∧ ∀ declared ∈ list, placed.Declares declared := by
  obtain ⟨name, -, hcontent⟩ := Option.bind_eq_some_iff.mp h
  exact ⟨_, (Option.some.inj hcontent).symm, forall_mem_singleton_declare _ _ _ _ _⟩

theorem orElse_eq_some {α : Type} {first second : Option α} {a : α} (h : (first <|> second) = some a) :
    first = some a ∨ (first = none ∧ second = some a) := by
  cases first with
  | none => exact .inr ⟨rfl, h⟩
  | some b => exact .inl h

theorem body?_eq_some (h : placed.body? = some content) :
    ∃ declared, content = .body declared ∧ declared.HasBody ∧ placed.Declares declared := by
  rcases orElse_eq_some h with h | ⟨-, h⟩
  · exact event?_eq_some h
  · exact function?_eq_some h

theorem content?_eq_body?_orElse (placed : PlacedLine) (depth : Int) :
    placed.content? depth = (placed.body? <|> (placed.fields? <|> placed.global? depth <|>
      placed.struct? <|> placed.define? <|> placed.enum?)) := by
  rw [content?, body?]
  cases placed.event? <;> rfl

/-- A line starts an event or function, or declares fields, or declares what never has fields inside. -/
theorem content?_eq_some (h : placed.content? depth = some content) :
    (∃ declared, content = .body declared ∧ placed.body? = some content ∧ declared.HasBody ∧
      placed.Declares declared) ∨
    (placed.body? = none ∧
      ((∃ list, content = .fields list ∧ (∀ declared ∈ list, declared.kind = .field) ∧
          ∀ declared ∈ list, placed.Declares declared) ∨
        ∃ list, content = .plain list ∧ ∀ declared ∈ list, placed.Declares declared)) := by
  rw [content?_eq_body?_orElse] at h
  rcases orElse_eq_some h with hbody | ⟨hnone, hrest⟩
  · obtain ⟨declared, rfl, hkind, hdeclares⟩ := body?_eq_some hbody
    exact .inl ⟨declared, rfl, hbody, hkind, hdeclares⟩
  · refine .inr ⟨hnone, ?_⟩
    rcases orElse_eq_some hrest with hfields | ⟨-, hrest⟩
    · exact .inl (fields?_eq_some hfields)
    · right
      rcases orElse_eq_some hrest with h | ⟨-, hrest⟩
      · exact global?_eq_some h
      rcases orElse_eq_some hrest with h | ⟨-, hrest⟩
      · exact struct?_eq_some h
      rcases orElse_eq_some hrest with h | ⟨-, h⟩
      · exact define?_eq_some h
      · exact enum?_eq_some h

/-- Whatever there is in what a line declares, the line declares it. -/
theorem declares_declared (h : placed.content? depth = some content) :
    ∀ declared ∈ content.declared, placed.Declares declared := by
  rcases content?_eq_some h with
    ⟨_, rfl, -, -, hdeclares⟩ | ⟨-, ⟨list, rfl, -, hdeclares⟩ | ⟨list, rfl, hdeclares⟩⟩
  · exact List.forall_mem_singleton.mpr hdeclares
  · exact hdeclares
  · exact hdeclares

/-- Whatever a line declares starts on it. -/
theorem holds_declared (h : placed.content? depth = some content) : placed.Holds content.declared :=
  fun declared hmem => (declares_declared h declared hmem).line_eq

end PlacedLine

/-- What a line declares is of a kind that suits its place: a body for what can have fields, and fields
for what joins a body. -/
def LineContent.Suits : LineContent → Prop
  | .body declared => declared.HasBody
  | .fields list => ∀ declared ∈ list, declared.kind = .field
  | .plain _ => True

theorem PlacedLine.suits_content? {placed : PlacedLine} {content : LineContent} {depth : Int}
    (h : placed.content? depth = some content) : content.Suits := by
  rcases content?_eq_some h with ⟨_, rfl, -, hkind, -⟩ | ⟨-, ⟨list, rfl, hkind, -⟩ | ⟨list, rfl, -⟩⟩
  · exact hkind
  · exact hkind
  · trivial

/-! ### Braces on a line -/

namespace OutlineState

variable {state : OutlineState} {list : List Brace}

/-- What there is after braces. -/
def pass (state : OutlineState) (list : List Brace) : OutlineState :=
  list.foldl passBrace state

theorem pass_append (before after : List Brace) :
    state.pass (before ++ after) = (state.pass before).pass after :=
  List.foldl_append

theorem depth_passBrace (state : OutlineState) (brace : Brace) :
    (state.passBrace brace).depth = state.depth + brace.rise := by
  rw [passBrace, Brace.rise]
  cases brace.opening with
  | true => rfl
  | false =>
    simp only [Bool.false_eq_true, if_false]
    split <;> dsimp only <;> omega

/-- Braces raise the number of open blocks by their height. -/
theorem depth_pass (state : OutlineState) (list : List Brace) :
    (state.pass list).depth = state.depth + height list := by
  induction list generalizing state with
  | nil => exact (Int.add_zero _).symm
  | cons brace rest ih =>
    rw [pass, List.foldl_cons, ← pass, ih, depth_passBrace, height_cons, Int.add_assoc]

theorem entries_passBrace (state : OutlineState) (brace : Brace) :
    (state.passBrace brace).entries = state.entries := by
  rw [passBrace]
  split
  · rfl
  · split <;> rfl

/-- Braces change no entry. -/
theorem entries_pass (state : OutlineState) (list : List Brace) :
    (state.pass list).entries = state.entries := by
  induction list generalizing state with
  | nil => rfl
  | cons brace rest ih => rw [pass, List.foldl_cons, ← pass, ih, entries_passBrace]

theorem owner_passBrace (state : OutlineState) (brace : Brace) :
    (state.passBrace brace).owner = state.owner ∨ (state.passBrace brace).owner = none := by
  rw [passBrace]
  split
  · exact .inl rfl
  · split
    · exact .inr rfl
    · exact .inl rfl

/-- Braces keep the owner of fields or leave none. -/
theorem owner_pass (state : OutlineState) (list : List Brace) :
    (state.pass list).owner = state.owner ∨ (state.pass list).owner = none := by
  induction list generalizing state with
  | nil => exact .inl rfl
  | cons brace rest ih =>
    rw [pass, List.foldl_cons, ← pass]
    rcases ih (state.passBrace brace) with hkept | hnone
    · rw [hkept]
      exact owner_passBrace state brace
    · exact .inr hnone

/-- Where braces have closed the last block, nobody owns fields. -/
theorem owner_pass_of_closes (hsome : list ≠ [])
    (hstays : ∀ part, part <+: list → 0 ≤ state.depth + height part)
    (hends : state.depth + height list = 0) : (state.pass list).owner = none := by
  obtain ⟨others, last, rfl⟩ := List.eq_nil_or_concat list |>.resolve_left hsome
  rw [List.concat_eq_append] at hstays hends ⊢
  have hothers := hstays others (List.prefix_append _ _)
  simp only [height_append, height_cons, height_nil] at hends
  have hclosing : last.opening = false := by
    by_contra hopening
    rw [Brace.rise_of_opening (by simpa using hopening)] at hends
    omega
  rw [Brace.rise_of_closing hclosing] at hends
  rw [pass_append]
  have hlast : (state.pass others).depth - 1 = 0 := by
    rw [depth_pass]
    omega
  change ((state.pass others).passBrace last).owner = none
  rw [passBrace, if_neg (by simp [hclosing]), if_pos hlast]

/-! ### Declarations that join an outline -/

/-- The declarations at the top of an outline. -/
def tops (state : OutlineState) : List Declared :=
  state.entries.map (·.declared)

/-- The fields in the bodies of an outline. -/
def inner (state : OutlineState) : List Declared :=
  state.entries.flatMap (·.fields)

theorem depth_add (state : OutlineState) (content : LineContent) :
    (state.add content).depth = state.depth := by
  cases content with
  | body declared => rfl
  | fields list => rw [add]; split <;> rfl
  | plain list => rfl

/-- Fields find an owner, or all that is declared joins the top. -/
theorem add_cases (state : OutlineState) (content : LineContent) :
    (∃ list index, content = .fields list ∧ state.owner = some index ∧
      (state.add content).entries = state.entries.modify index fun entry =>
        { entry with fields := entry.fields ++ list }) ∨
    ((∀ list, content = .fields list → state.owner = none) ∧
      (state.add content).entries =
        state.entries ++ content.declared.map fun declared => { declared := declared }) := by
  cases content with
  | body declared => exact .inr ⟨nofun, rfl⟩
  | plain list => exact .inr ⟨nofun, rfl⟩
  | fields list =>
    cases howner : state.owner with
    | none => exact .inr ⟨fun _ _ => rfl, by rw [add, howner]; rfl⟩
    | some index => exact .inl ⟨list, index, rfl, rfl, by rw [add, howner]⟩

/-- Only a body changes the owner of fields. -/
theorem owner_add (state : OutlineState) {content : LineContent}
    (h : ∀ declared, content ≠ .body declared) : (state.add content).owner = state.owner := by
  cases content with
  | body declared => exact absurd rfl (h declared)
  | plain list => rfl
  | fields list =>
    rw [add]
    split
    next index howner => exact howner.symm ▸ rfl
    · rfl

/-- Whoever owns fields can have a body, and whatever is inside an entry is a field in a body. -/
structure IsNested (state : OutlineState) : Prop where
  /-- The owner is an entry that can have a body. -/
  owner : ∀ index, state.owner = some index →
    ∃ entry, state.entries[index]? = some entry ∧ entry.declared.HasBody
  /-- Entries that have fields can have a body. -/
  hasBody : ∀ entry ∈ state.entries, entry.fields ≠ [] → entry.declared.HasBody
  /-- What entries have inside are fields. -/
  kind : ∀ entry ∈ state.entries, ∀ field ∈ entry.fields, field.kind = .field

theorem IsNested.pass (h : state.IsNested) : (state.pass list).IsNested where
  owner index howner := by
    rw [entries_pass]
    rcases owner_pass state list with hkept | hnone
    · exact h.owner index (hkept ▸ howner)
    · rw [hnone] at howner
      cases howner
  hasBody := by rw [entries_pass]; exact h.hasBody
  kind := by rw [entries_pass]; exact h.kind

/-- An entry in its place, and what changing it leaves. -/
theorem exists_modify_eq {entries : List OutlineEntry} {index : Nat} {entry : OutlineEntry}
    (h : entries[index]? = some entry) (f : OutlineEntry → OutlineEntry) :
    ∃ before after, entries = before ++ entry :: after ∧
      entries.modify index f = before ++ f entry :: after := by
  obtain ⟨hindex, rfl⟩ := List.getElem?_eq_some_iff.mp h
  refine ⟨entries.take index, entries.drop (index + 1), ?_, List.modify_eq_take_cons_drop hindex⟩
  rw [← List.drop_eq_getElem_cons hindex, List.take_append_drop]

/-- What holds of all entries and of a changed one holds of all when it has been changed. -/
theorem forall_mem_modify {entries : List OutlineEntry} {index : Nat} {entry : OutlineEntry}
    {f : OutlineEntry → OutlineEntry} {P : OutlineEntry → Prop} (hentry : entries[index]? = some entry)
    (hall : ∀ other ∈ entries, P other) (hchanged : P (f entry)) :
    ∀ other ∈ entries.modify index f, P other := by
  obtain ⟨before, after, rfl, hmodify⟩ := exists_modify_eq hentry f
  rw [hmodify]
  simp only [List.forall_mem_append, List.forall_mem_cons] at hall ⊢
  exact ⟨hall.1, hchanged, hall.2.2⟩

theorem IsNested.add (h : state.IsNested) {content : LineContent} (hsuits : content.Suits) :
    (state.add content).IsNested := by
  rcases add_cases state content with ⟨list, index, rfl, howner, hentries⟩ | ⟨-, hentries⟩
  -- fields join the owner, which has a body; all other entries stay as they are
  · obtain ⟨entry, hentry, hbody⟩ := h.owner index howner
    refine ⟨fun other hother => ?_, ?_, ?_⟩
    · rw [owner_add state (by simp), howner] at hother
      obtain rfl := Option.some.inj hother
      rw [hentries, List.getElem?_modify_eq, hentry]
      exact ⟨_, rfl, hbody⟩
    · rw [hentries]
      exact forall_mem_modify hentry h.hasBody fun _ => hbody
    · rw [hentries]
      have hkind := h.kind entry (List.mem_of_getElem? hentry)
      exact forall_mem_modify hentry h.kind (List.forall_mem_append.mpr ⟨hkind, hsuits⟩)
  · refine ⟨fun index howner => ?_, ?_, ?_⟩
    · rw [hentries]
      -- only a declaration with a body becomes the owner, and it is the entry that was added last
      by_cases hbody : ∃ declared, content = .body declared
      · obtain ⟨declared, rfl⟩ := hbody
        obtain rfl : state.entries.length = index := Option.some.inj howner
        exact ⟨_, List.getElem?_concat_length, hsuits⟩
      · rw [owner_add state (by simpa using hbody)] at howner
        obtain ⟨entry, hentry, hkind⟩ := h.owner index howner
        refine ⟨entry, ?_, hkind⟩
        rw [List.getElem?_append_left (List.getElem?_eq_some_iff.mp hentry).1, hentry]
    · rw [hentries]
      exact List.forall_mem_append.mpr ⟨h.hasBody, by simp⟩
    · rw [hentries]
      exact List.forall_mem_append.mpr ⟨h.kind, by simp⟩

/-- Where nobody owns fields, all that is declared joins the top. -/
theorem add_of_owner_none (content : LineContent)
    (h : ∀ list, content = .fields list → state.owner = none) :
    (state.add content).tops = state.tops ++ content.declared ∧
      (state.add content).inner = state.inner := by
  rcases add_cases state content with ⟨list, index, rfl, howner, -⟩ | ⟨-, hentries⟩
  · rw [h list rfl] at howner
    cases howner
  · constructor
    · rw [tops, hentries, List.map_append, List.map_map, ← tops]
      exact congrArg _ (List.map_id _)
    · simp [inner, hentries, List.flatMap_map]

/-- Fields that have an owner join its body. -/
theorem add_fields_of_owner (hnested : state.IsNested) (howner : state.owner ≠ none)
    (list : List Declared) :
    (state.add (.fields list)).tops = state.tops ∧
      ∃ before after, state.inner = before ++ after ∧
        (state.add (.fields list)).inner = before ++ list ++ after := by
  rcases add_cases state (.fields list) with ⟨_, index, hlist, hindex, hentries⟩ | ⟨hnone, -⟩
  · cases hlist
    obtain ⟨entry, hentry, -⟩ := hnested.owner index hindex
    obtain ⟨before, after, heq, hmodify⟩ := exists_modify_eq hentry fun entry =>
      { entry with fields := entry.fields ++ list }
    rw [tops, inner, tops, inner, hentries, hmodify, heq]
    refine ⟨by simp, before.flatMap (·.fields) ++ entry.fields, after.flatMap (·.fields), ?_, ?_⟩
    all_goals simp
  · exact absurd (hnone list rfl) howner

/-- Declarations on other lines stay where they are. -/
theorem filter_add (hnested : state.IsNested) {content : LineContent} {keep : Declared → Bool}
    (h : ∀ declared ∈ content.declared, keep declared = false) :
    (state.add content).tops.filter keep = state.tops.filter keep ∧
      (state.add content).inner.filter keep = state.inner.filter keep := by
  have hdropped : content.declared.filter keep = [] :=
    List.filter_eq_nil_iff.mpr fun declared hmem => by simp [h declared hmem]
  -- either the declarations join a body or they join the top, and the filter drops them in both
  by_cases howned : ∃ list, content = .fields list ∧ state.owner ≠ none
  · obtain ⟨list, rfl, howner⟩ := howned
    obtain ⟨htops, before, after, hinner, hadded⟩ := add_fields_of_owner hnested howner list
    rw [htops, hadded, hinner, List.filter_append, List.filter_append, List.filter_append]
    exact ⟨rfl, by rw [show list.filter keep = [] from hdropped, List.append_nil]⟩
  · obtain ⟨htops, hinner⟩ := add_of_owner_none content
      fun list hlist => by_contra fun howner => howned ⟨list, hlist, howner⟩
    rw [htops, hinner, List.filter_append, hdropped, List.append_nil]
    exact ⟨rfl, rfl⟩

end OutlineState

/-! ### Line by line -/

/-- The line of a text with a number, in its place. -/
def placedLine? (text : String) (number : Nat) : Option PlacedLine :=
  (Text.lines text)[number]?.map fun line =>
    { number, line
      above := ((Text.lines text).take number).reverse
      below := (Text.lines text).drop (number + 1) }

/-- What there is of the outline of a text before a line. -/
def stateBefore (text : String) : Nat → OutlineState
  | 0 => {}
  | number + 1 =>
    match placedLine? text number with
    | some placed => (stateBefore text number).readLine (braces text) placed
    | none => stateBefore text number

variable {text : String} {number : Nat} {placed : PlacedLine}

theorem stateBefore_succ (h : placedLine? text number = some placed) :
    stateBefore text (number + 1) = (stateBefore text number).readLine (braces text) placed := by
  rw [stateBefore, h]

theorem number_of_placedLine? (h : placedLine? text number = some placed) : placed.number = number := by
  obtain ⟨line, -, rfl⟩ := Option.map_eq_some_iff.mp h
  rfl

theorem placedLine?_isSome_iff : (placedLine? text number).isSome ↔ number < (Text.lines text).length := by
  rw [placedLine?, Option.isSome_map, isSome_getElem?]

/-- Reading the lines from a number on leads from what there is before them to what there is after
all. -/
theorem readLines_stateBefore (hnumber : number ≤ (Text.lines text).length) :
    (stateBefore text number).readLines (braces text) number
        ((Text.lines text).take number).reverse ((Text.lines text).drop number) =
      stateBefore text (Text.lines text).length := by
  -- induction on the lines below, which are those that `readLines` has still to read
  induction hrest : (Text.lines text).drop number generalizing number with
  | nil =>
    have hend : number = (Text.lines text).length :=
      hnumber.antisymm (List.drop_eq_nil_iff.mp hrest)
    rw [OutlineState.readLines, hend]
  | cons line below ih =>
    have hlt : number < (Text.lines text).length := by
      by_contra hge
      rw [List.drop_eq_nil_of_le (Nat.le_of_not_lt hge)] at hrest
      cases hrest
    have hparts := List.drop_eq_getElem_cons hlt
    rw [hrest] at hparts
    obtain ⟨rfl, rfl⟩ := List.cons.inj hparts
    have hplaced : placedLine? text number =
        some ⟨number, (Text.lines text)[number], ((Text.lines text).take number).reverse,
          (Text.lines text).drop (number + 1)⟩ := by
      rw [placedLine?, List.getElem?_eq_getElem hlt]
      rfl
    have habove : ((Text.lines text).take (number + 1)).reverse =
        (Text.lines text)[number] :: ((Text.lines text).take number).reverse := by
      rw [List.take_succ_eq_append_getElem hlt, List.reverse_concat]
    rw [OutlineState.readLines, ← stateBefore_succ hplaced, ← habove, ih hlt rfl]

/-- The outline of a text is what there is after its last line. -/
theorem outline_eq_stateBefore (text : String) :
    outline text = (stateBefore text (Text.lines text).length).entries := by
  rw [← readLines_stateBefore (Nat.zero_le _)]
  rfl

/-- What there is of the outline when the braces of a line are passed. -/
def passedOn (text : String) (number : Nat) : OutlineState :=
  (stateBefore text number).pass ((braces text).filter (·.line = number))

/-- A line that declares nothing leaves what its braces leave; otherwise its declarations are added. -/
theorem stateBefore_succ_eq (h : placedLine? text number = some placed) :
    stateBefore text (number + 1) =
      match placed.content? (passedOn text number).depth with
      | none => passedOn text number
      | some content => (passedOn text number).add content := by
  rw [stateBefore_succ h, OutlineState.readLine, number_of_placedLine? h]
  rfl

/-- What a line declares is added to what its braces leave. -/
theorem stateBefore_succ_of_content {content : LineContent} (hplaced : placedLine? text number = some placed)
    (hcontent : placed.content? (passedOn text number).depth = some content) :
    stateBefore text (number + 1) = (passedOn text number).add content := by
  rw [stateBefore_succ_eq hplaced, hcontent]

/-- Whatever holds of a line with declarations and of one without them holds of the next line. -/
theorem stateBefore_succ_cases (motive : OutlineState → Prop)
    (hnothing : motive (passedOn text number))
    (hcontent : ∀ placed content, placedLine? text number = some placed →
      placed.content? (passedOn text number).depth = some content →
        motive ((passedOn text number).add content))
    (hnumber : number < (Text.lines text).length) : motive (stateBefore text (number + 1)) := by
  obtain ⟨placed, hplaced⟩ := Option.isSome_iff_exists.mp (placedLine?_isSome_iff.mpr hnumber)
  rw [stateBefore_succ_eq hplaced]
  split
  · exact hnothing
  next content h => exact hcontent placed content hplaced h

/-! ### Depth -/

/-- The braces above a line stand before the others. -/
theorem filter_line_lt_append {all : List Brace} (h : all.Pairwise Brace.StandsBefore) (number : Nat) :
    all.filter (·.line < number) ++ all.filter (number ≤ ·.line) = all := by
  induction all with
  | nil => rfl
  | cons brace rest ih =>
    obtain ⟨hbrace, hrest⟩ := List.pairwise_cons.mp h
    by_cases hlt : brace.line < number
    · simp [hlt, ih hrest]
    · have hbelow : ∀ later ∈ brace :: rest, number ≤ later.line := by
        rw [List.forall_mem_cons]
        refine ⟨Nat.le_of_not_lt hlt, fun later hmem => ?_⟩
        have hlater := hbrace later hmem
        rw [Brace.StandsBefore] at hlater
        omega
      rw [List.filter_eq_nil_iff.mpr (by simpa using hbelow), List.nil_append,
        List.filter_eq_self.mpr (by simpa using hbelow)]

/-- The braces above a line are those with which the text starts. -/
theorem prefix_filter_line_lt (text : String) (number : Nat) :
    (braces text).filter (·.line < number) <+: braces text :=
  ⟨_, filter_line_lt_append (pairwise_braces text) number⟩

/-- The braces above the next line are those above the line and those on it. -/
theorem filter_line_lt_succ (text : String) (number : Nat) :
    (braces text).filter (·.line < number + 1) =
      (braces text).filter (·.line < number) ++ (braces text).filter (·.line = number) := by
  have hsorted := (pairwise_braces text).filter (·.line < number + 1)
  rw [← filter_line_lt_append hsorted number, List.filter_filter, List.filter_filter]
  congr 1
  all_goals
    refine List.filter_congr fun brace _ => ?_
    rw [← Bool.decide_and, decide_eq_decide]
    omega

/-- The number of open blocks before a line is the height of the braces above it. -/
theorem depth_stateBefore (hnumber : number ≤ (Text.lines text).length) :
    (stateBefore text number).depth = height ((braces text).filter (·.line < number)) := by
  induction number with
  | zero => simp [stateBefore]
  | succ number ih =>
    have hpassed : (passedOn text number).depth =
        height ((braces text).filter (·.line < number + 1)) := by
      rw [passedOn, OutlineState.depth_pass, ih (Nat.le_of_succ_le hnumber),
        filter_line_lt_succ, height_append]
    refine stateBefore_succ_cases
      (·.depth = height ((braces text).filter (·.line < number + 1))) hpassed
      (fun placed content _ _ => ?_) hnumber
    rw [OutlineState.depth_add, hpassed]

/-! ### Declarations stay where they are -/

theorem isNested_stateBefore (hnumber : number ≤ (Text.lines text).length) :
    (stateBefore text number).IsNested := by
  induction number with
  | zero =>
    exact ⟨nofun, nofun, nofun⟩
  | succ number ih =>
    have hpassed : (passedOn text number).IsNested := (ih (Nat.le_of_succ_le hnumber)).pass
    exact stateBefore_succ_cases _ hpassed
      (fun _ _ _ hcontent => hpassed.add (PlacedLine.suits_content? hcontent)) hnumber

theorem isNested_passedOn (hnumber : number ≤ (Text.lines text).length) :
    (passedOn text number).IsNested :=
  (isNested_stateBefore hnumber).pass

/-- The declarations that start on a line. -/
def onLine (number : Nat) (list : List Declared) : List Declared :=
  list.filter (·.range.start.line = number)

theorem tops_passedOn (text : String) (number : Nat) : (passedOn text number).tops = (stateBefore text number).tops := by
  rw [OutlineState.tops, passedOn, OutlineState.entries_pass]
  rfl

theorem inner_passedOn (text : String) (number : Nat) : (passedOn text number).inner = (stateBefore text number).inner := by
  rw [OutlineState.inner, passedOn, OutlineState.entries_pass]
  rfl

/-- What starts on another line is not touched when a line is read. -/
theorem onLine_stateBefore_succ (hnumber : number < (Text.lines text).length) (other : Nat)
    (hother : other ≠ number) :
    onLine other (stateBefore text (number + 1)).tops = onLine other (stateBefore text number).tops ∧
      onLine other (stateBefore text (number + 1)).inner =
        onLine other (stateBefore text number).inner := by
  rw [← tops_passedOn text number, ← inner_passedOn text number]
  refine stateBefore_succ_cases (fun state =>
    onLine other state.tops = onLine other (passedOn text number).tops ∧
      onLine other state.inner = onLine other (passedOn text number).inner) ⟨rfl, rfl⟩
    (fun placed content hplaced hcontent => ?_) hnumber
  refine OutlineState.filter_add (isNested_stateBefore hnumber.le).pass fun declared hmem =>
    decide_eq_false fun hline => hother ?_
  rw [← hline, PlacedLine.holds_declared hcontent declared hmem, number_of_placedLine? hplaced]

/-- Before a line is read, nothing is there that starts on it. -/
theorem onLine_stateBefore {later : Nat} (hnumber : number ≤ (Text.lines text).length)
    (hlater : number ≤ later) :
    onLine later (stateBefore text number).tops = [] ∧
      onLine later (stateBefore text number).inner = [] := by
  induction number with
  | zero => exact ⟨rfl, rfl⟩
  | succ number ih =>
    obtain ⟨htops, hinner⟩ := onLine_stateBefore_succ hnumber later (by omega)
    rw [htops, hinner]
    exact ih (Nat.le_of_succ_le hnumber) (Nat.le_of_succ_le hlater)

/-- When a line has been read, all that starts on it is where it will be. -/
theorem onLine_outline (hnumber : number < (Text.lines text).length) :
    onLine number ((outline text).map (·.declared)) =
        onLine number (stateBefore text (number + 1)).tops ∧
      onLine number ((outline text).flatMap (·.fields)) =
        onLine number (stateBefore text (number + 1)).inner := by
  have hstays : ∀ later, number + 1 ≤ later → later ≤ (Text.lines text).length →
      onLine number (stateBefore text later).tops =
          onLine number (stateBefore text (number + 1)).tops ∧
        onLine number (stateBefore text later).inner =
          onLine number (stateBefore text (number + 1)).inner := by
    intro later hlater hlength
    -- every line read later is another one
    induction later, hlater using Nat.le_induction with
    | base => exact ⟨rfl, rfl⟩
    | succ later hlater ih =>
      obtain ⟨htops, hinner⟩ := onLine_stateBefore_succ hlength number (by omega)
      obtain ⟨htops', hinner'⟩ := ih (Nat.le_of_succ_le hlength)
      exact ⟨htops.trans htops', hinner.trans hinner'⟩
  rw [outline_eq_stateBefore]
  exact hstays _ hnumber (Nat.le_refl _)

/-- What a line declares is all at the top of the outline, or it is fields that are all inside others. -/
theorem onLine_outline_of_content {content : LineContent} (hplaced : placedLine? text number = some placed)
    (hcontent : placed.content? (passedOn text number).depth = some content) :
    (onLine number ((outline text).map (·.declared)) = content.declared ∧
      onLine number ((outline text).flatMap (·.fields)) = []) ∨
    ((∃ list, content = .fields list) ∧ onLine number ((outline text).map (·.declared)) = [] ∧
      onLine number ((outline text).flatMap (·.fields)) = content.declared) := by
  have hnumber : number < (Text.lines text).length :=
    placedLine?_isSome_iff.mp (Option.isSome_of_eq_some hplaced)
  have hline : onLine number content.declared = content.declared := by
    refine List.filter_eq_self.mpr fun declared hmem => decide_eq_true ?_
    rw [PlacedLine.holds_declared hcontent declared hmem, number_of_placedLine? hplaced]
  obtain ⟨htops, hinner⟩ := onLine_outline hnumber
  obtain ⟨hnotops, hnoinner⟩ := onLine_stateBefore hnumber.le (Nat.le_refl number)
  rw [← tops_passedOn] at hnotops
  rw [← inner_passedOn] at hnoinner
  rw [htops, hinner, stateBefore_succ_of_content hplaced hcontent]
  -- Only fields below an owner are added inside; everything else is added at the top.
  by_cases howned : ∃ list, content = .fields list ∧ (passedOn text number).owner ≠ none
  · obtain ⟨list, rfl, howner⟩ := howned
    obtain ⟨hkept, before, after, heq, hjoined⟩ :=
      OutlineState.add_fields_of_owner (isNested_passedOn hnumber.le) howner list
    rw [heq, onLine, List.filter_append, List.append_eq_nil_iff] at hnoinner
    refine .inr ⟨⟨list, rfl⟩, by rw [hkept, hnotops], ?_⟩
    rw [hjoined, onLine, List.filter_append, List.filter_append, hnoinner.1, hnoinner.2,
      List.append_nil, List.nil_append]
    exact hline
  · obtain ⟨hjoined, hkept⟩ := OutlineState.add_of_owner_none content
      fun list hlist => by_contra fun howner => howned ⟨list, hlist, howner⟩
    refine .inl ⟨?_, by rw [hkept, hnoinner]⟩
    rw [hjoined, onLine, List.filter_append, ← onLine, hnotops]
    exact hline

end BasiliskServer.Source
