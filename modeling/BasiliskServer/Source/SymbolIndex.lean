import BasiliskServer.Source.Outline
import BasiliskServer.Text.Case

/-!
# Index of declarations

The declarations of all open documents. A document keeps its place when it is indexed again, and
searches go through the documents in the order of their places.
-/

namespace BasiliskServer.Source

open Wire (Location SymbolKind DocumentSymbol)

/-- A declaration in the index. -/
structure IndexedSymbol where
  /-- Its name. -/
  name : String
  /-- Its kind. -/
  kind : SymbolKind
  /-- A short description. -/
  detail : String
  /-- Where its name is. -/
  location : Location
  /-- The comment above it. -/
  documentation : Option String := none
  /-- The declaration it stands in. -/
  container : Option String := none
  deriving DecidableEq, Repr

/-- A declaration of a document in the index. -/
def Declared.toIndexed (declared : Declared) (uri : String) (container : Option String) :
    IndexedSymbol :=
  { name := declared.name
    kind := declared.kind
    detail := declared.detail
    location := ⟨uri, declared.selection⟩
    documentation := declared.documentation
    container }

/-- The declarations of an outline, each followed by those in its body. -/
def flattenOutline (uri : String) (entries : List OutlineEntry) : List IndexedSymbol :=
  entries.flatMap fun entry =>
    entry.declared.toIndexed uri none ::
      entry.fields.map (·.toIndexed uri (some entry.declared.name))

/-- A document in the index. -/
structure IndexedDocument where
  /-- The document. -/
  uri : String
  /-- Its outline. -/
  symbols : List DocumentSymbol
  /-- Its declarations. -/
  records : List IndexedSymbol

/-- Reads a document for the index. -/
def IndexedDocument.ofText (uri text : String) : IndexedDocument :=
  let entries := outline text
  { uri
    symbols := entries.map OutlineEntry.toSymbol
    records := flattenOutline uri entries }

/-- The declarations of all open documents. -/
structure SymbolIndex where
  /-- The documents, in the order in which they were first indexed. -/
  documents : List IndexedDocument := []

namespace SymbolIndex

/-- Replaces the entry of a document, or appends one. -/
def replace (document : IndexedDocument) : List IndexedDocument → List IndexedDocument
  | [] => [document]
  | first :: rest =>
    if first.uri = document.uri then document :: rest else first :: replace document rest

/-- Indexes the text of a document. -/
def index (self : SymbolIndex) (uri text : String) : SymbolIndex :=
  ⟨replace (.ofText uri text) self.documents⟩

/-- The outline of a document; one that is not indexed has an empty outline. -/
def documentSymbols (self : SymbolIndex) (uri : String) : List DocumentSymbol :=
  ((self.documents.find? (·.uri = uri)).map (·.symbols)).getD []

/-- All declarations in the order of the documents. -/
def records (self : SymbolIndex) : List IndexedSymbol :=
  self.documents.flatMap (·.records)

/-- The declarations whose names hold a text, case aside. -/
def find (self : SymbolIndex) (query : String) : List IndexedSymbol :=
  let needle := (Text.lower query).toList
  self.records.filter fun record =>
    (Text.indexOf? needle (Text.lower record.name).toList).isSome

/-- The first declaration of a name. -/
def definition? (self : SymbolIndex) (name : String) : Option IndexedSymbol :=
  self.records.find? (·.name = name)

/-- Removes a document. -/
def remove (self : SymbolIndex) (uri : String) : SymbolIndex :=
  ⟨self.documents.filter (·.uri ≠ uri)⟩

/-- Removes all documents. -/
def clear (_self : SymbolIndex) : SymbolIndex :=
  ⟨[]⟩

end SymbolIndex

end BasiliskServer.Source
