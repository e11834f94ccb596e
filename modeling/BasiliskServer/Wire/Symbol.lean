import BasiliskServer.Wire.Position

/-!
# Symbols

Declarations as the editor lists them: as an outline of one document, or flat over the workspace.
-/

namespace BasiliskServer.Wire

open Json (Value Fields)

/-- Code of the kind of a symbol, from 1 to 26. -/
abbrev SymbolKind := Nat

namespace SymbolKind

/-- A field declaration. -/
def field : SymbolKind := 8
/-- An enumeration. -/
def enumeration : SymbolKind := 10
/-- A function. -/
def function : SymbolKind := 12
/-- A variable. -/
def variableKind : SymbolKind := 13
/-- A constant. -/
def constant : SymbolKind := 14
/-- A structure. -/
def struct : SymbolKind := 23
/-- An event. -/
def event : SymbolKind := 24

end SymbolKind

/-- Reads the kind of a symbol. -/
def readSymbolKind? : Value → Option SymbolKind := readCode? 26

/-- A declaration in the outline of a document. -/
structure DocumentSymbol where
  /-- Its name. -/
  name : String
  /-- Its kind. -/
  kind : SymbolKind
  /-- The whole declaration. -/
  range : Range
  /-- Its name within the declaration. -/
  selectionRange : Range
  /-- A short description. -/
  detail : Option String := none
  /-- Codes of further properties. -/
  tags : Option (List Nat) := none
  /-- Whether it should no longer be used. -/
  deprecated : Option Bool := none
  /-- Declarations inside it. -/
  children : Option (List DocumentSymbol) := none

mutual

/-- Reads a declaration and those inside it, down to a depth. -/
def readDocumentSymbol (depth : Nat) (value : Value) : Option DocumentSymbol :=
  match depth with
  | 0 => none
  | depth + 1 => do
    let fields ← value.fields?
    let name ← readString (← required fields "name")
    let kind ← readSymbolKind? (← required fields "kind")
    let range ← Range.ofJson? (← required fields "range")
    let selectionRange ← Range.ofJson? (← required fields "selectionRange")
    let detail ← optional readString fields "detail"
    let tags ← optional (readList (readCode? 1)) fields "tags"
    let deprecated ← optional readBool fields "deprecated"
    let children ←
      match Json.Fields.get? fields "children" with
      | none => some none
      | some .null => some none
      | some value => ((listed? value).bind (readDocumentSymbols depth ·)).map some
    return { name, kind, range, selectionRange, detail, tags, deprecated, children }

/-- Reads a list of declarations, all or none. -/
def readDocumentSymbols (depth : Nat) (values : List Value) : Option (List DocumentSymbol) :=
  match values with
  | [] => some []
  | value :: rest => do
    let symbol ← readDocumentSymbol depth value
    let symbols ← readDocumentSymbols depth rest
    return symbol :: symbols

end

mutual

/-- How deeply lists and objects are nested in a value. -/
def depth : Value → Nat
  | .array items => depthOfItems items + 1
  | .object fields => depthOfFields fields + 1
  | _ => 1

/-- How deeply lists and objects are nested in the items of a list. -/
def depthOfItems : List Value → Nat
  | [] => 0
  | value :: rest => max (depth value) (depthOfItems rest)

/-- How deeply lists and objects are nested in the fields of an object. -/
def depthOfFields : List (String × Value) → Nat
  | [] => 0
  | (_, value) :: rest => max (depth value) (depthOfFields rest)

end

/-- Reads a declaration and those inside it. -/
def DocumentSymbol.ofJson? (value : Value) : Option DocumentSymbol :=
  readDocumentSymbol (depth value + 1) value

mutual

/-- Writes a declaration and those inside it. -/
def DocumentSymbol.toJson : DocumentSymbol → Value
  | ⟨name, kind, range, selectionRange, detail, tags, deprecated, children⟩ =>
    .object ([("name", .string name), ("kind", .nat kind), ("range", range.toJson),
      ("selectionRange", selectionRange.toJson)] ++
      optionalField "detail" .string detail ++
      optionalField "tags" (fun tags => .array (tags.map .nat)) tags ++
      optionalField "deprecated" .bool deprecated ++
      (match children with
        | none => []
        | some list => [("children", .array (DocumentSymbol.listToJson list))]))

/-- Writes a list of declarations. -/
def DocumentSymbol.listToJson : List DocumentSymbol → List Value
  | [] => []
  | symbol :: rest => symbol.toJson :: DocumentSymbol.listToJson rest

end

/-- A declaration somewhere in the workspace. -/
structure SymbolInformation where
  /-- Its name. -/
  name : String
  /-- Its kind. -/
  kind : SymbolKind
  /-- Where it is. -/
  location : Location
  /-- Whether it should no longer be used. -/
  deprecated : Option Bool := none
  /-- Codes of further properties. -/
  tags : Option (List Nat) := none
  /-- The name of the declaration it stands in. -/
  containerName : Option String := none
  deriving DecidableEq, Repr

/-- Reads a declaration somewhere in the workspace. -/
def SymbolInformation.ofJson? (value : Value) : Option SymbolInformation := do
  let fields ← value.fields?
  let name ← readString (← required fields "name")
  let kind ← readSymbolKind? (← required fields "kind")
  let location ← Location.ofJson? (← required fields "location")
  let deprecated ← optional readBool fields "deprecated"
  let tags ← optional (readList (readCode? 1)) fields "tags"
  let containerName ← optional readString fields "containerName"
  return { name, kind, location, deprecated, tags, containerName }

/-- Writes a declaration somewhere in the workspace. -/
def SymbolInformation.toJson (s : SymbolInformation) : Value :=
  .object ([("name", .string s.name), ("kind", .nat s.kind), ("location", s.location.toJson)] ++
    optionalField "deprecated" .bool s.deprecated ++
    optionalField "tags" (fun tags => .array (tags.map .nat)) s.tags ++
    optionalField "containerName" .string s.containerName)

/-- A place of which perhaps only the document is known. -/
inductive SymbolPlace where
  /-- Document and range. -/
  | location (l : Location)
  /-- Only the document. -/
  | document (uri : String)
  deriving DecidableEq, Repr

/-- Reads a place of which perhaps only the document is known. -/
def SymbolPlace.ofJson? (value : Value) : Option SymbolPlace := do
  let fields ← value.fields?
  if Json.Fields.has fields "range" then
    (Location.ofJson? value).map .location
  else
    let uri ← readString (← required fields "uri")
    return .document uri

/-- Writes a place of which perhaps only the document is known. -/
def SymbolPlace.toJson : SymbolPlace → Value
  | .location l => l.toJson
  | .document uri => .object [("uri", .string uri)]

/-- A declaration in the workspace whose exact place may have to be asked for. -/
structure WorkspaceSymbol where
  /-- Its name. -/
  name : String
  /-- Its kind. -/
  kind : SymbolKind
  /-- Where it is. -/
  location : SymbolPlace
  /-- Anything that the peer wants back. -/
  data : Value := .null
  /-- Codes of further properties. -/
  tags : Option (List Nat) := none
  /-- The name of the declaration it stands in. -/
  containerName : Option String := none

/-- Reads a declaration whose exact place may have to be asked for. -/
def WorkspaceSymbol.ofJson? (value : Value) : Option WorkspaceSymbol := do
  let fields ← value.fields?
  let name ← readString (← required fields "name")
  let kind ← readSymbolKind? (← required fields "kind")
  let location ← SymbolPlace.ofJson? (← required fields "location")
  let tags ← optional (readList (readCode? 1)) fields "tags"
  let containerName ← optional readString fields "containerName"
  return { name, kind, location, tags, containerName, data := anyValue fields "data" }

/-- Writes a declaration whose exact place may have to be asked for. -/
def WorkspaceSymbol.toJson (s : WorkspaceSymbol) : Value :=
  .object ([("location", s.location.toJson), ("name", .string s.name), ("kind", .nat s.kind)] ++
    anyField "data" s.data ++
    optionalField "tags" (fun tags => .array (tags.map .nat)) s.tags ++
    optionalField "containerName" .string s.containerName)

/-- An outline: declarations inside each other, or flat. -/
inductive Outline where
  /-- Declarations inside each other. -/
  | tree (symbols : List DocumentSymbol)
  /-- A flat list. -/
  | flat (symbols : List SymbolInformation)

/-- Reads an outline. It is flat when it has entries and every one of them names a location;
entries that cannot be read are left out. -/
def Outline.ofJson (value : Value) : Outline :=
  match value with
  | .array entries =>
    let located (entry : Value) : Bool := (entry.get? "location").isSome
    if !entries.isEmpty && entries.all located then
      .flat (entries.filterMap SymbolInformation.ofJson?)
    else .tree (entries.filterMap DocumentSymbol.ofJson?)
  | _ => .tree []

/-- Writes an outline. -/
def Outline.toJson : Outline → Value
  | .tree symbols => .array (DocumentSymbol.listToJson symbols)
  | .flat symbols => .array (symbols.map SymbolInformation.toJson)

/-- A declaration found in the workspace. -/
inductive FoundSymbol where
  /-- With its exact place. -/
  | located (symbol : SymbolInformation)
  /-- With a place that may have to be asked for. -/
  | pending (symbol : WorkspaceSymbol)

/-- Writes a declaration found in the workspace. -/
def FoundSymbol.toJson : FoundSymbol → Value
  | .located symbol => symbol.toJson
  | .pending symbol => symbol.toJson

/-- Reads the declarations found in the workspace. An entry whose location has a range is a
located one; entries that cannot be read are left out. -/
def FoundSymbol.listOfJson (value : Value) : List FoundSymbol :=
  (value.items?.getD []).filterMap fun entry =>
    match entry with
    | .object fields =>
      let located := (((Json.Fields.get? fields "location").getD .null).get? "range").isSome
      if located then (SymbolInformation.ofJson? entry).map .located
      else (WorkspaceSymbol.ofJson? entry).map .pending
    | _ => none

end BasiliskServer.Wire
