import BasiliskServer.Proofs.Text.Line
import BasiliskServer.Source.SymbolIndex
import Mathlib.Data.List.Nodup

/-!
# The index holds the latest texts

An index is told to take texts in, to drop documents and to drop everything. What it answers later
is settled by the texts that are in it then: for every document the last one that was taken in
(`textAfter`). A document keeps the place at which it entered the index until it is dropped, so the
list of latest texts (`latestTexts`) is ordered by those entries.

Every change of the index changes this list in the same way (`entriesAfter_concat_index`,
`entriesAfter_concat_drop`), hence an index with any history holds what its latest texts contain,
and nothing else (`documents_ofHistory`). All answers follow (`ofHistory_answers`).
-/

namespace BasiliskServer.Source

open Wire (DocumentSymbol SymbolKind Location Range)

/-! ### Outlines as trees -/

mutual

/-- A symbol and then all that stand inside it, as records of a document; each names the symbol it
stands in. -/
def preorder (uri : String) (container : Option String) : DocumentSymbol → List IndexedSymbol
  | ⟨name, kind, _, selection, detail, _, _, children⟩ =>
    { name, kind, detail := detail.getD "", location := ⟨uri, selection⟩, container } ::
      (match children with
        | none => []
        | some list => preorderAll uri (some name) list)

/-- Symbols one after the other, each followed by all that stand inside it. -/
def preorderAll (uri : String) (container : Option String) :
    List DocumentSymbol → List IndexedSymbol
  | [] => []
  | symbol :: rest => preorder uri container symbol ++ preorderAll uri container rest

end

/-- What an outline tells of a record: everything but the comment above the declaration. -/
def IndexedSymbol.uncommented (record : IndexedSymbol) : IndexedSymbol :=
  { record with documentation := none }

theorem preorderAll_fields (uri : String) (container : Option String) (fields : List Declared) :
    preorderAll uri container (fields.map (·.toSymbol [])) =
      fields.map fun declared => (declared.toIndexed uri container).uncommented := by
  induction fields with
  | nil => rfl
  | cons declared rest ih =>
    rw [List.map_cons, preorderAll, ih]
    rfl

/-- The records of an outline are its symbols in preorder. -/
theorem uncommented_flattenOutline (uri : String) (entries : List OutlineEntry) :
    (flattenOutline uri entries).map IndexedSymbol.uncommented =
      preorderAll uri none (entries.map OutlineEntry.toSymbol) := by
  induction entries with
  | nil => rfl
  | cons entry rest ih =>
    have hfields := preorderAll_fields uri (some entry.declared.name) entry.fields
    have hentry : preorder uri none entry.toSymbol =
        (entry.declared.toIndexed uri none).uncommented ::
          preorderAll uri (some entry.declared.name) (entry.fields.map (·.toSymbol [])) := rfl
    rw [List.map_cons, preorderAll, ← ih, hentry, hfields, flattenOutline, List.flatMap_cons,
      List.map_append, List.map_cons, List.map_map]
    rfl

namespace SymbolIndex

/-! ### Histories -/

/-- What can be done to an index. -/
inductive Change where
  /-- The text of a document is taken in. -/
  | index (uri text : String)
  /-- A document is dropped. -/
  | remove (uri : String)
  /-- All documents are dropped. -/
  | clear
  deriving DecidableEq, Repr

/-- The index after a change. -/
def change (self : SymbolIndex) : Change → SymbolIndex
  | .index uri text => self.index uri text
  | .remove uri => self.remove uri
  | .clear => self.clear

/-- The index after all changes of a history. -/
def ofHistory (history : List Change) : SymbolIndex :=
  history.foldl change {}

/-- Whether a change drops a document. -/
def Change.drops (uri : String) : Change → Bool
  | .index _ _ => false
  | .remove other => other = uri
  | .clear => true

/-- The text that is known of a document after a change, given the one before. -/
def Change.retell (uri : String) (known : Option String) (change : Change) : Option String :=
  match change with
  | .index other text => if other = uri then some text else known
  | dropping => if dropping.drops uri then none else known

/-- The text of a document that a history leaves in the index: the last one that was taken in, unless
the document was dropped since. -/
def textAfter (history : List Change) (uri : String) : Option String :=
  history.foldl (Change.retell uri) none

/-- The document that a change makes enter the index for good, with its last text. The change takes
its text in while it is not in the index, and no later change drops it. -/
def entering? (before later : List Change) : Change → Option (String × String)
  | .index uri text =>
    if (textAfter before uri).isSome || later.any (·.drops uri) then none
    else some (uri, (textAfter later uri).getD text)
  | _ => none

/-- The documents that enter the index for good during later changes, in the order in which they
do. -/
def entriesAfter (before : List Change) : List Change → List (String × String)
  | [] => []
  | change :: later => (entering? before later change).toList ++ entriesAfter (before ++ [change]) later

/-- The documents in the index with their last texts, in the order in which they entered it. -/
def latestTexts (history : List Change) : List (String × String) :=
  entriesAfter [] history

/-- Taking a text in again keeps the place of the document; dropping it before does not. -/
example :
    latestTexts [.index "a" "x", .index "b" "y", .index "a" "z"] = [("a", "z"), ("b", "y")] ∧
      latestTexts [.index "a" "x", .index "b" "y", .remove "a", .index "a" "z"] =
        [("b", "y"), ("a", "z")] := by
  decide

/-! ### One more change -/

variable (before history : List Change) (uri text : String)

@[simp]
theorem textAfter_concat (change : Change) :
    textAfter (history ++ [change]) uri = change.retell uri (textAfter history uri) := by
  rw [textAfter, List.foldl_concat, textAfter]

theorem ofHistory_concat (change : Change) :
    ofHistory (history ++ [change]) = (ofHistory history).change change := by
  rw [ofHistory, List.foldl_concat, ofHistory]

/-- An entry with another text, if it is that of the document. -/
def retold (uri text : String) (entry : String × String) : String × String :=
  if entry.1 = uri then (uri, text) else entry

theorem entering?_concat_index (change : Change) :
    entering? before (history ++ [.index uri text]) change =
      (entering? before history change).map (retold uri text) := by
  cases change with
  | index other firstText =>
    have hdrops : (history ++ [Change.index uri text]).any (Change.drops other) =
        history.any (Change.drops other) := by
      rw [List.any_append, List.any_cons, List.any_nil]
      simp [Change.drops]
    simp only [entering?, hdrops, textAfter_concat]
    split
    · rfl
    · by_cases hsame : uri = other
      · simp [retold, Change.retell, hsame]
      · simp [retold, Change.retell, hsame, Ne.symm hsame]
  | remove other => rfl
  | clear => rfl

/-- One more text changes the entry of its document, or makes one at the end. -/
theorem entriesAfter_concat_index :
    entriesAfter before (history ++ [.index uri text]) =
      (entriesAfter before history).map (retold uri text) ++
        if (textAfter (before ++ history) uri).isSome then [] else [(uri, text)] := by
  -- induction on what comes before the new change, since `entriesAfter` looks at the whole rest of the
  -- history for each change
  induction history generalizing before with
  | nil =>
    have hnothing : textAfter [] uri = none := rfl
    cases hknown : textAfter before uri <;> simp [entriesAfter, entering?, hknown, hnothing]
  | cons first later ih =>
    have hlater := ih (before ++ [first])
    rw [List.append_assoc, List.singleton_append] at hlater
    simp only [List.cons_append, entriesAfter, entering?_concat_index, hlater, List.map_append,
      List.append_assoc, Option.toList_map]

theorem entering?_concat_drop (change : Change) {dropping : Change}
    (hdropping : ∀ uri text, dropping ≠ .index uri text) :
    entering? before (history ++ [dropping]) change =
      (entering? before history change).filter fun entry => !dropping.drops entry.1 := by
  cases change with
  | index other firstText =>
    have hany : (history ++ [dropping]).any (Change.drops other) =
        (history.any (Change.drops other) || dropping.drops other) := by
      rw [List.any_append, List.any_cons, List.any_nil, Bool.or_false]
    -- a document that is not dropped keeps its text
    have htext : dropping.drops other = false →
        textAfter (history ++ [dropping]) other = textAfter history other := by
      intro hkept
      rw [textAfter_concat]
      cases dropping with
      | index uri text => exact absurd rfl (hdropping uri text)
      | remove uri => simp [Change.retell, hkept]
      | clear => simp [Change.drops] at hkept
    simp only [entering?, hany]
    cases hdrops : dropping.drops other with
    | true =>
      rw [Bool.or_true, Bool.or_true, if_pos rfl]
      split
      · rfl
      · rw [Option.filter_some, hdrops]
        rfl
    | false =>
      rw [htext hdrops, Bool.or_false]
      split
      · rfl
      · rw [Option.filter_some, hdrops, Bool.not_false, if_pos rfl]
  | remove other => rfl
  | clear => rfl

/-- A change that drops documents takes their entries away. -/
theorem entriesAfter_concat_drop {dropping : Change}
    (hdropping : ∀ uri text, dropping ≠ .index uri text) :
    entriesAfter before (history ++ [dropping]) =
      (entriesAfter before history).filter fun entry => !dropping.drops entry.1 := by
  induction history generalizing before with
  | nil =>
    cases dropping with
    | index uri text => exact absurd rfl (hdropping uri text)
    | remove other => rfl
    | clear => rfl
  | cons first later ih =>
    simp only [List.cons_append, entriesAfter, entering?_concat_drop _ _ _ hdropping, ih,
      List.filter_append, Option.toList_filter]

/-! ### What an index holds -/

theorem fst_retold (entry : String × String) : (retold uri text entry).1 = entry.1 := by
  rw [retold]
  split
  next h => exact h.symm
  next => rfl

theorem mem_map_retold (entries : List (String × String)) (other newText : String) :
    (uri, text) ∈ entries.map (retold other newText) ↔
      if other = uri then newText = text ∧ ∃ known, (uri, known) ∈ entries
      else (uri, text) ∈ entries := by
  rw [List.mem_map]
  constructor
  · rintro ⟨⟨name, known⟩, hmem, heq⟩
    rw [retold] at heq
    split at heq
    next hname =>
      obtain ⟨rfl, rfl⟩ := Prod.mk.inj heq
      obtain rfl : name = other := hname
      rw [if_pos rfl]
      exact ⟨rfl, known, hmem⟩
    next hname =>
      obtain ⟨rfl, rfl⟩ := Prod.mk.inj heq
      rwa [if_neg (Ne.symm hname)]
  · intro h
    split at h
    next hsame =>
      obtain ⟨rfl, known, hmem⟩ := h
      exact ⟨(uri, known), hmem, by rw [retold, if_pos hsame.symm, hsame]⟩
    next hother => exact ⟨(uri, text), h, by rw [retold, if_neg (Ne.symm hother)]⟩

/-- The latest texts are those that the history leaves. -/
theorem mem_latestTexts : (uri, text) ∈ latestTexts history ↔ textAfter history uri = some text := by
  induction history using List.reverseRecOn generalizing text with
  | nil => simp [latestTexts, entriesAfter, textAfter]
  | append_singleton history change ih =>
    rw [textAfter_concat, latestTexts]
    cases change with
    | index other newText =>
      rw [entriesAfter_concat_index, ← latestTexts, List.nil_append, List.mem_append, mem_map_retold,
        Change.retell]
      split
      next hsame =>
        subst hsame
        simp only [ih]
        cases hknown : textAfter history other <;> simp [eq_comm]
      next hother =>
        rw [← ih]
        split <;> simp [Ne.symm hother]
    | remove other =>
      rw [entriesAfter_concat_drop _ _ (by simp), ← latestTexts, List.mem_filter, ih]
      by_cases hsame : other = uri <;> simp [Change.retell, Change.drops, hsame]
    | clear =>
      rw [entriesAfter_concat_drop _ _ (by simp), ← latestTexts, List.mem_filter]
      simp [Change.retell, Change.drops]

theorem mem_fst_latestTexts :
    uri ∈ (latestTexts history).map Prod.fst ↔ (textAfter history uri).isSome := by
  simp [mem_latestTexts, Option.isSome_iff_exists]

theorem map_fst_map_retold (entries : List (String × String)) :
    (entries.map (retold uri text)).map Prod.fst = entries.map Prod.fst := by
  rw [List.map_map]
  exact List.map_congr_left fun entry _ => fst_retold uri text entry

/-- No document has two latest texts. -/
theorem nodup_latestTexts : ((latestTexts history).map Prod.fst).Nodup := by
  induction history using List.reverseRecOn with
  | nil => exact List.nodup_nil
  | append_singleton history change ih =>
    rw [latestTexts]
    cases change with
    | index uri text =>
      rw [entriesAfter_concat_index, ← latestTexts, List.nil_append, List.map_append,
        map_fst_map_retold]
      split
      · simpa using ih
      -- a new entry is made only for a document that has none
      next hnew =>
        rw [← mem_fst_latestTexts] at hnew
        refine List.nodup_append.mpr ⟨ih, List.nodup_singleton _, fun name hname last hlast heq => ?_⟩
        obtain rfl := List.mem_singleton.mp hlast
        exact hnew (heq ▸ hname)
    | remove uri =>
      rw [entriesAfter_concat_drop _ _ (by simp)]
      exact ih.sublist (List.filter_sublist.map _)
    | clear =>
      rw [entriesAfter_concat_drop _ _ (by simp)]
      exact ih.sublist (List.filter_sublist.map _)

/-- What an index keeps of a document with a text. -/
def documentOf (entry : String × String) : IndexedDocument :=
  .ofText entry.1 entry.2

/-- A document that is taken in keeps its place, or comes last. -/
theorem replace_documentOf {entries : List (String × String)}
    (hnodup : (entries.map Prod.fst).Nodup) :
    replace (documentOf (uri, text)) (entries.map documentOf) =
      (entries.map (retold uri text) ++
        if uri ∈ entries.map Prod.fst then [] else [(uri, text)]).map documentOf := by
  induction entries with
  | nil => rfl
  | cons entry rest ih =>
    obtain ⟨hfirst, hrest⟩ := List.nodup_cons.mp hnodup
    have hname : (documentOf entry).uri = entry.1 := rfl
    have hnew : (documentOf (uri, text)).uri = uri := rfl
    rw [List.map_cons, replace, hname, hnew]
    by_cases hsame : entry.1 = uri
    · -- no other entry is that of the document, so nothing else changes
      have hothers : rest.map (retold uri text) = rest := by
        refine (List.map_congr_left fun other hother => ?_).trans (List.map_id rest)
        have hdiffers : other.1 ≠ uri := fun h =>
          hfirst (hsame.trans h.symm ▸ List.mem_map_of_mem hother)
        rw [retold, if_neg hdiffers, id]
      rw [if_pos hsame, List.map_cons, List.map_cons, hothers, hsame, if_pos List.mem_cons_self,
        List.append_nil, List.map_cons, retold, if_pos hsame]
    · have hmem : uri ∈ entry.1 :: rest.map Prod.fst ↔ uri ∈ rest.map Prod.fst := by
        rw [List.mem_cons, or_iff_right (Ne.symm hsame)]
      rw [if_neg hsame, ih hrest, List.map_cons, List.map_cons, List.cons_append, List.map_cons,
        retold, if_neg hsame]
      simp only [hmem]

theorem filter_map_documentOf (entries : List (String × String)) :
    (entries.map documentOf).filter (·.uri ≠ uri) =
      (entries.filter fun entry => !(Change.remove uri).drops entry.1).map documentOf := by
  rw [List.filter_map]
  congr 1
  refine List.filter_congr fun entry _ => ?_
  exact (decide_not).trans (congrArg _ (decide_eq_decide.mpr eq_comm))

/-- An index with any history holds the documents of its latest texts in their order, with what they
contain. -/
theorem documents_ofHistory :
    (ofHistory history).documents = (latestTexts history).map documentOf := by
  induction history using List.reverseRecOn with
  | nil => rfl
  | append_singleton history change ih =>
    rw [ofHistory_concat]
    cases change with
    | index uri text =>
      rw [latestTexts, entriesAfter_concat_index, ← latestTexts, List.nil_append]
      simp only [← mem_fst_latestTexts]
      rw [← replace_documentOf uri text (nodup_latestTexts history), ← ih]
      rfl
    | remove uri =>
      rw [latestTexts, entriesAfter_concat_drop _ _ (by simp), ← filter_map_documentOf,
        ← latestTexts, ← ih]
      rfl
    | clear =>
      rw [latestTexts, entriesAfter_concat_drop _ _ (by simp)]
      simp [change, clear, Change.drops]

/-! ### What an index answers -/

/-- Looking for a document among the latest texts finds the text that the history leaves. -/
theorem find?_latestTexts :
    (latestTexts history).find? (·.1 = uri) = (textAfter history uri).map (uri, ·) := by
  cases hfound : (latestTexts history).find? (·.1 = uri) with
  | none =>
    cases hknown : textAfter history uri with
    | none => rfl
    | some text =>
      have hmem := (mem_latestTexts history uri text).mpr hknown
      exact absurd rfl (of_decide_eq_false (Bool.not_eq_true _ ▸ List.find?_eq_none.mp hfound _ hmem))
  | some entry =>
    obtain ⟨name, text⟩ := entry
    obtain rfl : name = uri := of_decide_eq_true (List.find?_some hfound :)
    rw [(mem_latestTexts history name text).mp (List.mem_of_find?_eq_some hfound)]
    rfl

theorem documentSymbols_ofHistory :
    (ofHistory history).documentSymbols uri =
      ((textAfter history uri).map Source.documentSymbols).getD [] := by
  have hdocument : (fun document : IndexedDocument => decide (document.uri = uri)) ∘ documentOf =
      fun entry => decide (entry.1 = uri) := rfl
  rw [documentSymbols, documents_ofHistory, List.find?_map, hdocument, find?_latestTexts,
    Option.map_map, Option.map_map]
  rfl

theorem records_ofHistory :
    (ofHistory history).records =
      (latestTexts history).flatMap fun entry => flattenOutline entry.1 (outline entry.2) := by
  rw [records, documents_ofHistory, List.flatMap_map]
  rfl

/-- What is found for a query are the records of which the names hold it, case aside. -/
theorem find_eq_filter (self : SymbolIndex) (query : String) :
    self.find query = self.records.filter fun record =>
      (Text.lower query).toList <:+: (Text.lower record.name).toList := by
  rw [find]
  refine List.filter_congr fun record _ => ?_
  rw [Bool.eq_iff_iff, Text.indexOf?_isSome_iff, decide_eq_true_iff]

/-- The definition of a name is found for the name. -/
theorem definition?_eq_find? (self : SymbolIndex) (name : String) :
    self.definition? name = (self.find name).find? (·.name = name) := by
  rw [find_eq_filter, List.find?_filter, definition?]
  congr 1
  funext record
  by_cases h : record.name = name <;> simp [h]

/-- **The index answers from the latest texts.** Let an index have any history. The outline of a
document is the one of its latest text, and is empty if it has none. What is found for a query are the
declarations of the latest texts, document by document in the order in which these entered the index,
each outline in preorder with the name of the symbol that encloses a field, of which the names hold the
query, case aside. The definition of a name is the first declaration found for it that has the very
name. -/
theorem ofHistory_answers (history : List Change) :
    (∀ uri text, (uri, text) ∈ latestTexts history →
      (ofHistory history).documentSymbols uri = Source.documentSymbols text) ∧
    (∀ uri, (∀ text, (uri, text) ∉ latestTexts history) →
      (ofHistory history).documentSymbols uri = []) ∧
    (∀ query, (ofHistory history).find query =
      ((latestTexts history).flatMap fun entry => flattenOutline entry.1 (outline entry.2)).filter
        fun record => (Text.lower query).toList <:+: (Text.lower record.name).toList) ∧
    (∀ query, ((ofHistory history).find query).map IndexedSymbol.uncommented =
      ((latestTexts history).flatMap fun entry =>
        preorderAll entry.1 none (Source.documentSymbols entry.2)).filter
        fun record => (Text.lower query).toList <:+: (Text.lower record.name).toList) ∧
    (∀ name, (ofHistory history).definition? name =
      ((ofHistory history).find name).find? (·.name = name)) := by
  refine ⟨fun uri text hmem => ?_, fun uri hnone => ?_, fun query => ?_, fun query => ?_,
    definition?_eq_find? _⟩
  · rw [documentSymbols_ofHistory, (mem_latestTexts history uri text).mp hmem, Option.map_some,
      Option.getD_some]
  · have hunknown : textAfter history uri = none :=
      Option.eq_none_iff_forall_ne_some.mpr fun text h =>
        hnone text ((mem_latestTexts history uri text).mpr h)
    rw [documentSymbols_ofHistory, hunknown, Option.map_none, Option.getD_none]
  · rw [find_eq_filter, records_ofHistory]
  -- the query looks at names only, which a record without its comment still has
  · have htrees : ((ofHistory history).records).map IndexedSymbol.uncommented =
        (latestTexts history).flatMap fun entry =>
          preorderAll entry.1 none (Source.documentSymbols entry.2) := by
      rw [records_ofHistory, List.map_flatMap]
      simp only [uncommented_flattenOutline]
      rfl
    rw [find_eq_filter, ← htrees, List.filter_map]
    rfl

end SymbolIndex

end BasiliskServer.Source
