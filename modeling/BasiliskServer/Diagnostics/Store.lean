import BasiliskServer.Diagnostics.Fusion

/-!
# Store of open documents

Every open document with the problems found in it so far. Finding problems takes time, so both
sides work in two steps: the first takes a marker, the second stores the problems if the marker is
still current. The marker of the server's own checks is the number of edits; the marker of the
companion process is a counter of its reports.

Operations that show problems to the editor return what is shown.
-/

namespace BasiliskServer.Diagnostics

open Json (Value)
open Wire (Diagnostic)

/-- An open document. -/
structure Document where
  /-- Its address. -/
  uri : String
  /-- Its text. -/
  text : String
  /-- The language the editor takes it for, as the editor gave it. -/
  language : Value := .string "c"
  /-- The version the editor gave it last. -/
  clientVersion : Int := 0
  /-- Number of edits: the marker of the server's own checks. -/
  version : Nat := 0
  /-- Problems found by the server and the compiler. -/
  own : List Diagnostic := []
  /-- Problems found by the companion process. -/
  companion : List Diagnostic := []
  /-- Number of reports: the marker of the companion process. -/
  generation : Nat := 0
  /-- The settings that are being looked up for it, by the number of the lookup. -/
  lookup : Option Nat := none

/-- Problems shown for a document. -/
structure Publication where
  /-- The document. -/
  uri : String
  /-- The problems. -/
  diagnostics : List Diagnostic

/-- The open documents, in the order in which they were opened. -/
structure Store where
  /-- The documents. -/
  documents : List Document := []

namespace Store

/-- The state of a document. -/
def get? (store : Store) (uri : String) : Option Document :=
  store.documents.find? (·.uri = uri)

/-- Replaces a document in its place, or appends it. -/
def putIn (document : Document) : List Document → List Document
  | [] => [document]
  | first :: rest =>
    if first.uri = document.uri then document :: rest else first :: putIn document rest

/-- Replaces a document in its place, or appends it. -/
def put (store : Store) (document : Document) : Store :=
  ⟨putIn document store.documents⟩

/-- Opens a document. Opening it again counts as an edit and forgets all problems. -/
def opened (store : Store) (uri text : String) (language : Value := .string "c")
    (clientVersion : Int := 0) : Store :=
  store.put
    { uri, text, language, clientVersion
      version := match store.get? uri with
        | none => 0
        | some previous => previous.version + 1 }

/-- Changes the text of an open document. -/
def changed (store : Store) (uri text : String) (clientVersion : Option Int := none) : Store :=
  match store.get? uri with
  | none => store
  | some document =>
    store.put
      { document with
        text
        version := document.version + 1
        clientVersion := clientVersion.getD document.clientVersion }

/-- Closes a document and shows that it has no problems. -/
def closed (store : Store) (uri : String) : Store × List Publication :=
  (⟨store.documents.filter (·.uri ≠ uri)⟩, [⟨uri, []⟩])

/-- The problems of both sides for a document. -/
def fused (store : Store) (uri : String) (limit : Int) : List Diagnostic :=
  match store.get? uri with
  | none => []
  | some document => fuse document.companion document.own limit

/-- What is shown for a document; nothing if it is not open. -/
def publish (store : Store) (uri : String) (limit : Int) : List Publication :=
  match store.get? uri with
  | none => []
  | some _ => [⟨uri, store.fused uri limit⟩]

/-- Takes the marker of the server's own checks. -/
def beginOwn (store : Store) (uri : String) : Option Nat :=
  (store.get? uri).map (·.version)

/-- Stores and shows the problems found by the server's own checks if their marker is current. -/
def commitOwn (store : Store) (uri : String) (version : Int) (diagnostics : List Diagnostic)
    (limit : Int) : Store × Bool × List Publication :=
  match store.get? uri with
  | none => (store, false, [])
  | some document =>
    if (document.version : Int) = version then
      let store := store.put { document with own := diagnostics }
      (store, true, store.publish uri limit)
    else (store, false, [])

/-- Takes the marker of a report of the companion process. A report on an older version than the
editor's is dropped. -/
def beginPush (store : Store) (uri : String) (version : Option Int := none) :
    Store × Option Nat :=
  match store.get? uri with
  | none => (store, none)
  | some document =>
    let outdated := match version with
      | none => false
      | some version => version < document.clientVersion
    if outdated then (store, none)
    else
      let generation := document.generation + 1
      (store.put { document with generation }, some generation)

/-- Whether the marker of a report is current. -/
def isCurrentPush (store : Store) (uri : String) (generation : Int) : Bool :=
  match store.get? uri with
  | none => false
  | some document => (document.generation : Int) = generation

/-- Stores the problems of a report if its marker is current, and shows them if asked to. -/
def commitPush (store : Store) (uri : String) (generation : Int) (diagnostics : List Diagnostic)
    (publish : Bool) (limit : Int) : Store × Bool × List Publication :=
  match store.get? uri with
  | none => (store, false, [])
  | some document =>
    if (document.generation : Int) = generation then
      let store := store.put { document with companion := diagnostics }
      (store, true, if publish then store.publish uri limit else [])
    else (store, false, [])

/-- Forgets all problems of the companion process; reports under way are no longer current. -/
def clearCompanion (store : Store) : Store :=
  ⟨store.documents.map fun document =>
    { document with companion := [], generation := document.generation + 1 }⟩

end Store

/-!
## What happens to the store

Everything that can happen to the store of open documents, one event after the other: documents are
opened, changed and closed, both sides take markers and store what they have found, and the problems
of a document are asked for or shown. `Store.step` says for each event what it does to the store,
what it answers, and what the editor is shown.
-/

/-- What can happen to the store. -/
inductive Event where
  /-- A document is opened. -/
  | opened (uri text : String) (language : Value) (clientVersion : Int)
  /-- A document is changed. -/
  | changed (uri text : String) (clientVersion : Option Int)
  /-- A document is closed. -/
  | closed (uri : String)
  /-- The server takes the marker of its own checks. -/
  | beginOwn (uri : String)
  /-- The server stores what its own checks have found. -/
  | commitOwn (uri : String) (version : Int) (diagnostics : List Diagnostic) (limit : Int)
  /-- A report of the companion process arrives, perhaps with the version that it is about. -/
  | beginPush (uri : String) (version : Option Int)
  /-- The marker of a report is compared with the current one. -/
  | isCurrentPush (uri : String) (generation : Int)
  /-- A report of the companion process is stored. -/
  | commitPush (uri : String) (generation : Int) (diagnostics : List Diagnostic) (publish : Bool)
      (limit : Int)
  /-- All problems of the companion process are forgotten. -/
  | clearCompanion
  /-- The problems of a document are asked for. -/
  | fused (uri : String) (limit : Int)
  /-- The problems of a document are shown. -/
  | publish (uri : String) (limit : Int)

/-- What an event answers. -/
inductive Reply where
  /-- Nothing. -/
  | nothing
  /-- The document, if it is open. -/
  | document (document : Option Document)
  /-- A marker, if one is given. -/
  | marker (marker : Option Nat)
  /-- Whether a marker is current. -/
  | verdict (accepted : Bool)
  /-- Problems. -/
  | problems (diagnostics : List Diagnostic)

/-- What an event makes visible. -/
structure Effect where
  /-- What it answers. -/
  reply : Reply := .nothing
  /-- What the editor is shown. -/
  shown : List Publication := []

namespace Store

/-- One event. -/
def step (store : Store) : Event → Store × Effect
  | .opened uri text language clientVersion =>
    let store := store.opened uri text language clientVersion
    (store, { reply := .document (store.get? uri) })
  | .changed uri text clientVersion =>
    let store := store.changed uri text clientVersion
    (store, { reply := .document (store.get? uri) })
  | .closed uri =>
    let (store, shown) := store.closed uri
    (store, { shown })
  | .beginOwn uri => (store, { reply := .marker (store.beginOwn uri) })
  | .commitOwn uri version diagnostics limit =>
    let (store, accepted, shown) := store.commitOwn uri version diagnostics limit
    (store, { reply := .verdict accepted, shown })
  | .beginPush uri version =>
    let (store, generation) := store.beginPush uri version
    (store, { reply := .marker generation })
  | .isCurrentPush uri generation =>
    (store, { reply := .verdict (store.isCurrentPush uri generation) })
  | .commitPush uri generation diagnostics publish limit =>
    let (store, accepted, shown) := store.commitPush uri generation diagnostics publish limit
    (store, { reply := .verdict accepted, shown })
  | .clearCompanion => (store.clearCompanion, {})
  | .fused uri limit => (store, { reply := .problems (store.fused uri limit) })
  | .publish uri limit => (store, { shown := store.publish uri limit })

/-- Events one after the other. -/
def run (store : Store) : List Event → Store
  | [] => store
  | event :: rest => (store.step event).1.run rest

end Store

end BasiliskServer.Diagnostics
