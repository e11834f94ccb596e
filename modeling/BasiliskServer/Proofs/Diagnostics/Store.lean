import BasiliskServer.Diagnostics.Store
import Mathlib.Data.List.Nodup

/-!
# The documents in the store

What each operation on the store does to the document at an address (`get?_put` and the lemmas that
follow from it), and that no address is stored twice (`Store.Distinct`).
-/

namespace BasiliskServer.Diagnostics

open Json (Value)
open Wire (Diagnostic)

namespace Store

/-! ## One document -/

theorem uri_of_get? {store : Store} {uri : String} {document : Document}
    (h : store.get? uri = some document) : document.uri = uri := by
  simpa using List.find?_some h

theorem find?_putIn (document : Document) (documents : List Document) (uri : String) :
    (putIn document documents).find? (·.uri = uri) =
      if document.uri = uri then some document else documents.find? (·.uri = uri) := by
  induction documents with
  | nil => by_cases huri : document.uri = uri <;> simp [putIn, huri]
  | cons first rest ih =>
    by_cases hfirst : first.uri = document.uri
    · rw [putIn, if_pos hfirst]
      by_cases huri : document.uri = uri <;> simp [hfirst, huri]
    · rw [putIn, if_neg hfirst]
      by_cases hhere : first.uri = uri
      · have hne : document.uri ≠ uri := fun h => hfirst (hhere.trans h.symm)
        simp [hhere, hne]
      · simp [hhere, ih]

@[simp]
theorem get?_put (store : Store) (document : Document) (uri : String) :
    (store.put document).get? uri =
      if document.uri = uri then some document else store.get? uri :=
  find?_putIn document store.documents uri

theorem get?_opened (store : Store) (address text : String) (language : Value) (version : Int)
    (uri : String) :
    (store.opened address text language version).get? uri =
      if address = uri then
        some { uri, text, language, clientVersion := version
               version := ((store.get? uri).map (·.version + 1)).getD 0 }
      else store.get? uri := by
  rw [opened, get?_put]
  by_cases h : address = uri
  · subst h
    cases store.get? address <;> simp
  · simp [h]

theorem get?_changed (store : Store) (address text : String) (version : Option Int)
    (uri : String) :
    (store.changed address text version).get? uri =
      if address = uri then
        (store.get? uri).map fun document =>
          { document with
            text
            version := document.version + 1
            clientVersion := version.getD document.clientVersion }
      else store.get? uri := by
  unfold changed
  cases hget : store.get? address with
  | none =>
    by_cases h : address = uri
    · subst h
      simp [hget]
    · simp [h]
  | some document =>
    have huri := uri_of_get? hget
    by_cases h : address = uri
    · subst h
      simp [hget, huri]
    · simp [huri, h]

@[simp]
theorem get?_closed (store : Store) (address uri : String) :
    (store.closed address).1.get? uri = if address = uri then none else store.get? uri := by
  simp only [closed, get?, List.find?_filter]
  by_cases h : address = uri
  · subst h
    simp
  · rw [if_neg h]
    refine congrArg (store.documents.find? ·) (funext fun document => ?_)
    by_cases hdoc : document.uri = uri <;> simp [hdoc, Ne.symm h]

@[simp]
theorem get?_clearCompanion (store : Store) (uri : String) :
    store.clearCompanion.get? uri =
      (store.get? uri).map fun document =>
        { document with companion := [], generation := document.generation + 1 } := by
  simp only [clearCompanion, get?, List.find?_map]
  rfl

/-- Putting a document back leaves what it does not change of the documents as it is. -/
theorem map_get?_put {α : Type} (view : Document → α) {store : Store} {address : String}
    {document next : Document} (hget : store.get? address = some document)
    (hview : view next = view document) (huri : next.uri = document.uri) (uri : String) :
    ((store.put next).get? uri).map view = (store.get? uri).map view := by
  have haddress := uri_of_get? hget
  rw [get?_put]
  by_cases h : next.uri = uri
  · obtain rfl : address = uri := by rw [← haddress, ← huri, h]
    simp [h, hget, hview]
  · rw [if_neg h]

/-! ## Markers -/

/-- The marker of the companion process for a document, if the document is open. -/
def generation? (store : Store) (uri : String) : Option Nat :=
  (store.get? uri).map (·.generation)

/-- A check is stored exactly if its marker is the current one. -/
theorem commitOwn_of_current {store : Store} {uri : String} {document : Document}
    (hget : store.get? uri = some document) (diagnostics : List Diagnostic) (limit : Int) :
    store.commitOwn uri document.version diagnostics limit =
      (store.put { document with own := diagnostics }, true,
        [⟨uri, fuse document.companion diagnostics limit⟩]) := by
  have huri := uri_of_get? hget
  simp [commitOwn, hget, publish, fused, huri]

theorem commitOwn_of_not_current {store : Store} {uri : String} {version : Int}
    (h : (store.beginOwn uri).map Int.ofNat ≠ some version) (diagnostics : List Diagnostic)
    (limit : Int) : store.commitOwn uri version diagnostics limit = (store, false, []) := by
  unfold commitOwn
  cases hget : store.get? uri with
  | none => rfl
  | some document =>
    have hne : (document.version : Int) ≠ version := by
      intro heq
      exact h (by simp [beginOwn, hget, heq])
    simp [hne]

/-- A report is stored exactly if its marker is the current one. -/
theorem commitPush_of_current {store : Store} {uri : String} {document : Document}
    (hget : store.get? uri = some document) (diagnostics : List Diagnostic) (shown : Bool)
    (limit : Int) :
    store.commitPush uri document.generation diagnostics shown limit =
      (store.put { document with companion := diagnostics }, true,
        if shown then [⟨uri, fuse diagnostics document.own limit⟩] else []) := by
  have huri := uri_of_get? hget
  simp [commitPush, hget, publish, fused, huri]

theorem commitPush_of_not_current {store : Store} {uri : String} {generation : Int}
    (h : (store.generation? uri).map Int.ofNat ≠ some generation) (diagnostics : List Diagnostic)
    (shown : Bool) (limit : Int) :
    store.commitPush uri generation diagnostics shown limit = (store, false, []) := by
  unfold commitPush
  cases hget : store.get? uri with
  | none => rfl
  | some document =>
    have hne : (document.generation : Int) ≠ generation := by
      intro heq
      exact h (by simp [generation?, hget, heq])
    simp [hne]

/-- A report is dropped if its document is not open, or if it is about an older version than the
editor's. Otherwise it gets the next marker. -/
theorem beginPush_eq (store : Store) (uri : String) (version : Option Int) :
    store.beginPush uri version = (store, none) ∨
      ∃ document, store.get? uri = some document ∧
        store.beginPush uri version =
          (store.put { document with generation := document.generation + 1 },
            some (document.generation + 1)) := by
  unfold beginPush
  cases hget : store.get? uri with
  | none => exact .inl rfl
  | some document =>
    cases version with
    | none => exact .inr ⟨document, rfl, rfl⟩
    | some version =>
      by_cases houtdated : decide (version < document.clientVersion) = true
      · exact .inl (if_pos houtdated)
      · exact .inr ⟨document, rfl, if_neg houtdated⟩

section View

variable {α : Type} {view : Document → α} (store : Store)

/-- Storing a check changes nothing but the server's own problems. -/
theorem map_get?_commitOwn (hview : ∀ document own, view { document with own } = view document)
    (address : String) (version : Int) (diagnostics : List Diagnostic) (limit : Int)
    (uri : String) :
    ((store.commitOwn address version diagnostics limit).1.get? uri).map view =
      (store.get? uri).map view := by
  unfold commitOwn
  split
  · rfl
  · rename_i document hget
    split
    · exact map_get?_put view hget (hview document diagnostics) rfl uri
    · rfl

/-- Storing a report changes nothing but the problems of the companion process. -/
theorem map_get?_commitPush
    (hview : ∀ document companion, view { document with companion } = view document)
    (address : String) (generation : Int) (diagnostics : List Diagnostic) (shown : Bool)
    (limit : Int) (uri : String) :
    ((store.commitPush address generation diagnostics shown limit).1.get? uri).map view =
      (store.get? uri).map view := by
  unfold commitPush
  split
  · rfl
  · rename_i document hget
    split
    · exact map_get?_put view hget (hview document diagnostics) rfl uri
    · rfl

/-- A report that arrives changes nothing but the marker of the companion process. -/
theorem map_get?_beginPush
    (hview : ∀ document generation, view { document with generation } = view document)
    (address : String) (version : Option Int) (uri : String) :
    ((store.beginPush address version).1.get? uri).map view = (store.get? uri).map view := by
  obtain h | ⟨document, hget, h⟩ := store.beginPush_eq address version
  · rw [h]
  · rw [h]
    exact map_get?_put view hget (hview document (document.generation + 1)) rfl uri

end View

/-! ## Addresses -/

/-- No address is stored twice. -/
def Distinct (store : Store) : Prop :=
  (store.documents.map Document.uri).Nodup

theorem map_uri_putIn (document : Document) (documents : List Document) :
    (putIn document documents).map Document.uri =
      if document.uri ∈ documents.map Document.uri then documents.map Document.uri
      else documents.map Document.uri ++ [document.uri] := by
  induction documents with
  | nil => simp [putIn]
  | cons first rest ih =>
    by_cases hfirst : first.uri = document.uri
    · simp [putIn, hfirst]
    · rw [putIn, if_neg hfirst, List.map_cons, ih]
      by_cases hrest : document.uri ∈ rest.map Document.uri <;>
        simp [hrest, Ne.symm hfirst]

theorem Distinct.put {store : Store} (h : store.Distinct) (document : Document) :
    (store.put document).Distinct := by
  rw [Distinct, Store.put, map_uri_putIn]
  split
  · exact h
  · rename_i hnew
    refine List.nodup_append.mpr ⟨h, List.nodup_singleton _, ?_⟩
    intro uri huri other hother heq
    rw [List.mem_singleton.mp hother] at heq
    exact hnew (heq ▸ huri)

theorem Distinct.closed {store : Store} (h : store.Distinct) (uri : String) :
    (store.closed uri).1.Distinct :=
  h.sublist (List.filter_sublist.map _)

theorem Distinct.clearCompanion {store : Store} (h : store.Distinct) :
    store.clearCompanion.Distinct := by
  have hmap : store.clearCompanion.documents.map Document.uri =
      store.documents.map Document.uri := by
    simp [Store.clearCompanion, Function.comp_def]
  rw [Distinct, hmap]
  exact h

/-- The store finds the documents in it under their addresses. -/
theorem Distinct.get?_eq_some_iff {store : Store} (h : store.Distinct) {uri : String}
    {document : Document} :
    store.get? uri = some document ↔ document ∈ store.documents ∧ document.uri = uri := by
  constructor
  · intro hget
    exact ⟨List.mem_of_find?_eq_some hget, uri_of_get? hget⟩
  · rintro ⟨hmem, rfl⟩
    cases hfind : store.get? document.uri with
    | none => simpa using List.find?_eq_none.mp hfind document hmem
    | some other =>
      rw [List.inj_on_of_nodup_map h (List.mem_of_find?_eq_some hfind) hmem (uri_of_get? hfind)]

/-- The store with the document at an address changed, and all others as they are. -/
def alter (store : Store) (uri : String) (change : Document → Document) : Store :=
  ⟨store.documents.map fun document => if document.uri = uri then change document else document⟩

/-- Putting a changed document back changes the one document at its address. -/
theorem Distinct.put_eq_alter {store : Store} (h : store.Distinct) {uri : String}
    {document : Document} (hget : store.get? uri = some document)
    (change : Document → Document) (huri : ∀ d, (change d).uri = d.uri) :
    store.put (change document) = store.alter uri change := by
  obtain ⟨hmem, rfl⟩ := h.get?_eq_some_iff.mp hget
  have hall : ∀ (documents : List Document), document ∈ documents →
      (documents.map Document.uri).Nodup → putIn (change document) documents =
        documents.map fun d => if d.uri = document.uri then change d else d := by
    intro documents
    induction documents with
    | nil => simp
    | cons first rest ih =>
      intro hin hnodup
      rw [List.map_cons, List.nodup_cons] at hnodup
      by_cases hfirst : first.uri = document.uri
      · -- The first document is the one in question, so the others have other addresses.
        have hsame : document = first := by
          rcases List.mem_cons.mp hin with heq | hrest
          · exact heq
          · exact absurd (List.mem_map_of_mem hrest) (hfirst ▸ hnodup.1)
        have hothers : ∀ d ∈ rest, (if d.uri = document.uri then change d else d) = d := by
          intro d hd
          refine if_neg fun heq => hnodup.1 ?_
          rw [hfirst, ← heq]
          exact List.mem_map_of_mem hd
        rw [putIn, huri, if_pos hfirst, List.map_cons, if_pos hfirst,
          List.map_congr_left hothers, List.map_id', hsame]
      · have hin' : document ∈ rest := by
          rcases List.mem_cons.mp hin with heq | hrest
          · exact absurd (heq ▸ rfl) hfirst
          · exact hrest
        rw [putIn, huri, if_neg hfirst, List.map_cons, if_neg hfirst, ih hin' hnodup.2]
  exact congrArg Store.mk (hall store.documents hmem h)

end Store

end BasiliskServer.Diagnostics
