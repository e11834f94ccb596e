import BasiliskServer.Diagnostics.Merge
import BasiliskServer.Proofs.Diagnostics.Firsts

/-!
# Completions of two sides

What the companion process offers and what the server offers are put together, each label once, and every
item goes to the editor with its side wrapped around its data. It comes back when the editor wants to
know more, and its side must then find its own data again.

*Reading.* The companion answers with a plain list or with a list object. In the plain list a bad entry
costs only itself, in the list object it costs all others too (`mapM_eq_ite`), so the two forms of an
answer offer the same exactly if all entries are good or all are bad (`offers_of_forms`).

*Merging.* Both sides are scanned with one set of labels, so together they are scanned as one list
(`items_mergeCompletions`). Unwrapping gives an item back as it was (`untagItem_tagItem`), whatever its
data look like. Hence the merged items are, unwrapped, the first item of each label
(`merged_items_are_firsts`).
-/

namespace BasiliskServer.Wire

open Json (Value)

/-! ### The two forms of an answer -/

/-- Entries are read together if each of them is read. -/
theorem mapM_eq_ite {α : Type} (read : Value → Option α) (entries : List Value) :
    entries.mapM read =
      if ∀ entry ∈ entries, (read entry).isSome then some (entries.filterMap read) else none := by
  induction entries with
  | nil => simp
  | cons entry rest ih =>
    rw [List.mapM_cons, ih]
    simp only [List.forall_mem_cons]
    cases hentry : read entry with
    | none => simp
    | some a =>
      rw [List.filterMap_cons_some hentry]
      by_cases hrest : ∀ entry ∈ rest, (read entry).isSome
      · rw [if_pos hrest, if_pos ⟨rfl, hrest⟩]
        rfl
      · rw [if_neg hrest, if_neg fun h => hrest h.2]
        rfl

variable (readers : CompletionReaders)

/-- Whether a value is read as a completion item. -/
def IsItem (entry : Value) : Prop :=
  (readers.item? entry).isSome

instance (entry : Value) : Decidable (IsItem readers entry) :=
  inferInstanceAs (Decidable (_ = true))

/-- What is offered by an answer to a completion request. -/
def offeredBy (answer : Value) : List CompletionItem :=
  (CompletionResult.normalize (CompletionResult.ofJson? answer readers)).items

theorem offeredBy_array (entries : List Value) :
    offeredBy readers (.array entries) = entries.filterMap readers.item? :=
  rfl

theorem offeredBy_listAnswer (isIncomplete : Bool) (entries : List Value) :
    offeredBy readers (listAnswer isIncomplete entries) =
      if ∀ entry ∈ entries, IsItem readers entry then entries.filterMap readers.item? else [] := by
  have hread : CompletionResult.ofJson? (listAnswer isIncomplete entries) readers =
      (readers.list? (listAnswer isIncomplete entries)).map .list := rfl
  rw [offeredBy, hread, readers.list?_listAnswer, mapM_eq_ite]
  unfold IsItem
  split <;> rfl

/-- **The two forms of an answer.** Of a plain list what is read as an item is offered, and of a list
object this too if every entry is read as an item, and nothing otherwise. So the two forms of an answer
offer the same if and only if all entries are read as items or none is. -/
theorem offers_of_forms (isIncomplete : Bool) (entries : List Value) :
    offeredBy readers (.array entries) = entries.filterMap readers.item? ∧
    offeredBy readers (listAnswer isIncomplete entries) =
      (if ∀ entry ∈ entries, IsItem readers entry then entries.filterMap readers.item? else []) ∧
    (offeredBy readers (listAnswer isIncomplete entries) = offeredBy readers (.array entries) ↔
      (∀ entry ∈ entries, IsItem readers entry) ∨ ∀ entry ∈ entries, ¬IsItem readers entry) := by
  refine ⟨offeredBy_array readers entries, offeredBy_listAnswer readers isIncomplete entries, ?_⟩
  rw [offeredBy_array, offeredBy_listAnswer]
  by_cases hall : ∀ entry ∈ entries, IsItem readers entry
  · rw [if_pos hall]
    exact iff_of_true rfl (.inl hall)
  · -- the list object offers nothing, so the plain list has to offer nothing either
    rw [if_neg hall, or_iff_right hall, eq_comm, List.filterMap_eq_nil_iff]
    exact forall₂_congr fun entry _ => Option.not_isSome_iff_eq_none.symm

/-- An answer with one good entry and one without a label. -/
def spoiltEntries : List Value :=
  [.object [("label", .string "a")], .object []]

/-- In the list object the bad entry costs the good one too. -/
theorem item_lost_to_bad_entry :
    offeredBy .protocol (listAnswer false spoiltEntries) ≠ offeredBy .protocol (.array spoiltEntries) := by
  intro heq
  have hlist : offeredBy .protocol (listAnswer false spoiltEntries) = [] := rfl
  have hplain : (offeredBy .protocol (.array spoiltEntries)).map (·.label) = ["a"] := rfl
  rw [← heq, hlist] at hplain
  cases hplain

end BasiliskServer.Wire

namespace BasiliskServer

open Json (Value)
open Wire (CompletionItem CompletionResult)

/-! ### Wrapping -/

@[simp]
theorem Provenance.ofJson?_name (side : Provenance) :
    Provenance.ofJson? (.string side.name) = some side := by
  cases side <;> rfl

/-- Whatever its data are, an item is unwrapped as it was. -/
@[simp]
theorem untagItem_tagItem (side : Provenance) (item : CompletionItem) :
    untagItem (tagItem side item) = (item, some side) := by
  have hsource : Json.Fields.get? [("source", .string side.name), ("data", item.data)] "source" =
      some (.string side.name) := rfl
  have hdata : Json.Fields.get? [("source", .string side.name), ("data", item.data)] "data" =
      some item.data := rfl
  simp only [untagItem, tagItem, hsource, hdata, Option.getD_some, Provenance.ofJson?_name]

/-! ### Merging -/

/-- What the answer of the companion process offers; no answer offers nothing. -/
def entriesOf : Option CompletionResult → List CompletionItem
  | none => []
  | some (.items entries) => entries
  | some (.list whole) => whole.items

/-- What both sides offer, each item with its side, the companion process first. -/
def offered (companion : Option CompletionResult) (own : List CompletionItem) :
    List (CompletionItem × Provenance) :=
  (entriesOf companion).map (·, .companion) ++ own.map (·, .own)

theorem entriesOf_eq_normalize (companion : Option CompletionResult) :
    entriesOf companion = (Wire.CompletionResult.normalize companion).items := by
  match companion with
  | none => rfl
  | some (.items _) => rfl
  | some (.list _) => rfl

/-- One side is scanned for the first item of each label that is not taken, and takes the labels of
its items. -/
theorem takeNewLabels_eq (side : Provenance) (taken : List String) (items : List CompletionItem) :
    (takeNewLabels side taken items).1 = (firstsFrom (·.label) taken items).map (tagItem side) ∧
      ∀ label, label ∈ (takeNewLabels side taken items).2 ↔ label ∈ taken ++ items.map (·.label) := by
  induction items generalizing taken with
  | nil => exact ⟨rfl, by simp [takeNewLabels]⟩
  | cons item rest ih =>
    rw [takeNewLabels, firstsFrom]
    by_cases hknown : item.label ∈ taken
    · rw [if_pos (List.contains_iff_mem.mpr hknown), if_pos hknown]
      refine ⟨(ih taken).1, fun label => ?_⟩
      rw [(ih taken).2]
      simp only [List.map_cons, List.mem_append, List.mem_cons]
      grind
    · rw [if_neg (fun h => hknown (List.contains_iff_mem.mp h)), if_neg hknown]
      obtain ⟨hitems, htaken⟩ := ih (item.label :: taken)
      refine ⟨by rw [List.map_cons, ← hitems], fun label => ?_⟩
      refine (htaken label).trans ?_
      simp only [List.map_cons, List.mem_append, List.mem_cons]
      grind

/-- Both sides are scanned as one list. -/
theorem items_mergeCompletions (companion : Option CompletionResult) (own : List CompletionItem) :
    (mergeCompletions companion own).items =
      (firstsFrom (·.1.label) [] (offered companion own)).map fun entry => tagItem entry.2 entry.1 := by
  obtain ⟨hfirst, htaken⟩ := takeNewLabels_eq .companion [] (Wire.CompletionResult.normalize companion).items
  obtain ⟨hsecond, -⟩ := takeNewLabels_eq .own
    (takeNewLabels .companion [] (Wire.CompletionResult.normalize companion).items).2 own
  show (takeNewLabels _ _ _).1 ++ (takeNewLabels _ _ _).1 = _
  rw [hfirst, hsecond, firstsFrom_congr htaken, offered, entriesOf_eq_normalize, firstsFrom_append,
    firstsFrom_map, firstsFrom_map, List.map_append, List.map_map, List.map_map, List.map_map]
  rfl

/-- **Merging completions.** For every answer of the companion process and all items of the server, no label
occurs twice among the merged items. Unwrapped one by one, they are the first item of each label among
what the companion process offers followed by what the server offers, as they were and in this order, each
with the side that it comes from. The list is incomplete exactly if the answer says so. -/
theorem merged_items_are_firsts (companion : Option CompletionResult) (own : List CompletionItem) :
    ((mergeCompletions companion own).items.map (·.label)).Nodup ∧
    (∃ firsts, FirstOfEach (fun entry => entry.1.label) (offered companion own) firsts ∧
      (mergeCompletions companion own).items.map untagItem =
        firsts.map fun entry => (entry.1, some entry.2)) ∧
    ((mergeCompletions companion own).isIncomplete = true ↔
      ∃ whole, companion = some (.list whole) ∧ whole.isIncomplete = true) := by
  have hfirsts := firstOfEach_firstsFrom (fun entry => entry.1.label) (offered companion own)
  refine ⟨?_, ⟨_, hfirsts, ?_⟩, ?_⟩
  · rw [items_mergeCompletions, List.map_map]
    exact hfirsts.distinct
  · rw [items_mergeCompletions, List.map_map]
    exact List.map_congr_left fun entry _ => untagItem_tagItem entry.2 entry.1
  · show (Wire.CompletionResult.normalize companion).isIncomplete = true ↔ _
    match companion with
    | none => simp [Wire.CompletionResult.normalize]
    | some (.items _) => simp [Wire.CompletionResult.normalize]
    | some (.list _) => simp [Wire.CompletionResult.normalize]

end BasiliskServer
