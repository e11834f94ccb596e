import BasiliskServer.Source.Brace
import BasiliskServer.Source.Declaration
import BasiliskServer.Source.DocComment
import BasiliskServer.Source.Vocabulary
import BasiliskServer.Wire.Symbol

/-!
# Outline of a source text

The declarations of a text as an outline. Fields declared inside the body of an event or function
belong to it; everything else is listed at the top. Which body a line stands in is told from the
braces up to and including that line.
-/

namespace BasiliskServer.Source

open Text (Line)
open Wire (Range Position Location SymbolKind DocumentSymbol)

/-- A declaration found in a text. -/
structure Declared where
  /-- Its name. -/
  name : String
  /-- Its kind. -/
  kind : SymbolKind
  /-- A short description. -/
  detail : String
  /-- The whole declaration. -/
  range : Range
  /-- Its name within the declaration. -/
  selection : Range
  /-- The comment above it. -/
  documentation : Option String
  deriving DecidableEq, Repr

/-- A declaration at the top of an outline and the fields declared in its body. -/
structure OutlineEntry where
  /-- The declaration. -/
  declared : Declared
  /-- The fields in its body. -/
  fields : List Declared := []
  deriving DecidableEq, Repr

/-- A line of a text in its place. -/
structure PlacedLine where
  /-- Its number. -/
  number : Nat
  /-- Its characters. -/
  line : Line
  /-- The lines above it, nearest first. -/
  above : List Line
  /-- The lines below it. -/
  below : List Line

/-- A declaration that takes one line; its name starts at a column. -/
def PlacedLine.declare (placed : PlacedLine) (name : List Char) (kind : SymbolKind)
    (detail : String) (start : Nat) : Declared :=
  let stop := start + name.length
  { name := String.ofList name
    kind, detail
    range := .onLine placed.number 0 (max placed.line.length stop)
    selection := .onLine placed.number start stop
    documentation := docComment? placed.above }

/-- Column of the first occurrence of a name in a line. -/
def PlacedLine.columnOf (placed : PlacedLine) (name : List Char) : Nat :=
  (Text.indexOf? name placed.line).getD 0

/-- What a line declares. -/
inductive LineContent where
  /-- An event or function, whose body may follow. -/
  | body (declared : Declared)
  /-- Fields. -/
  | fields (list : List Declared)
  /-- A declaration that never has fields inside. -/
  | plain (list : List Declared)

/-- The event that a line starts. -/
def PlacedLine.event? (placed : PlacedLine) : Option LineContent := do
  let (name, timing) ← eventHead? placed.line
  let detail := "event (" ++ String.ofList (Text.strip timing) ++ ")"
  return .body (placed.declare name .event detail 0)

/-- The function that a line starts, unless its name is a keyword. -/
def PlacedLine.function? (placed : PlacedLine) : Option LineContent := do
  let head ← functionHead? placed.line
  if isKeyword (String.ofList head.name) then none
  else
    let detail := String.ofList head.type ++ " " ++ String.ofList head.name ++ "(" ++
      String.ofList (Text.strip head.parameters) ++ ")"
    some (.body (placed.declare head.name .function detail 0))

/-- The fields that a line declares. -/
def PlacedLine.fields? (placed : PlacedLine) : Option LineContent := do
  let (type, body) ← fieldList? placed.line
  return .fields ((fieldNames body).map fun name =>
    placed.declare name .field (String.ofList type) (placed.columnOf name))

/-- The global variable that a line declares. A reserved name declares nothing. -/
def PlacedLine.global? (placed : PlacedLine) (depth : Int) : Option LineContent := do
  let (type, name) ← globalHead? placed.line
  if depth ≠ 0 then none
  else if isReserved (String.ofList name) then some (.plain [])
  else some (.plain [placed.declare name .variableKind type (placed.columnOf name)])

/-- The line on which the body of a structure ends, and its number: the first below on which as
many braces have closed as opened, every brace counting. -/
def structEnd? (depth : Int) (number : Nat) : List Line → Option (Nat × Line)
  | [] => none
  | line :: rest =>
    let depth := depth + line.count '{' - line.count '}'
    if 0 < depth then structEnd? depth (number + 1) rest else some (number, line)

/-- The structure type that a line starts. -/
def PlacedLine.struct? (placed : PlacedLine) : Option LineContent :=
  if startsStruct placed.line then
    let found : Option Declared := do
      let (number, line) ← structEnd? 1 (placed.number + 1) placed.below
      let name ← closingName? line
      let declared := placed.declare name .struct "typedef struct" 0
      return { declared with range := ⟨⟨placed.number, 0⟩, ⟨number, line.length⟩⟩ }
    some (.plain found.toList)
  else none

/-- The macro that a line defines. -/
def PlacedLine.define? (placed : PlacedLine) : Option LineContent := do
  let (name, parameters) ← defineHead? placed.line
  let text := "#define " ++ String.ofList name
  let column := placed.columnOf name
  match parameters with
  | some parameters =>
    some (.plain [placed.declare name .function (text ++ "(" ++ String.ofList parameters ++ ")")
      column])
  | none => some (.plain [placed.declare name .constant text column])

/-- The enumeration that a line starts. -/
def PlacedLine.enum? (placed : PlacedLine) : Option LineContent := do
  let name ← enumHead? placed.line
  let name := if name.isEmpty then "anonymous".toList else name
  return .plain [placed.declare name .enumeration "enum" 0]

/-- What a line declares; the first kind that fits decides. -/
def PlacedLine.content? (placed : PlacedLine) (depth : Int) : Option LineContent :=
  placed.event? <|> placed.function? <|> placed.fields? <|> placed.global? depth <|>
    placed.struct? <|> placed.define? <|> placed.enum?

/-- An outline while its text is read. -/
structure OutlineState where
  /-- The entries found so far. -/
  entries : List OutlineEntry := []
  /-- How many blocks are open. -/
  depth : Int := 0
  /-- The entry whose body is open. -/
  owner : Option Nat := none

/-- Passes a brace: when the last block closes, no body is open any more. -/
def OutlineState.passBrace (state : OutlineState) (brace : Brace) : OutlineState :=
  if brace.opening then { state with depth := state.depth + 1 }
  else if state.depth - 1 = 0 then { state with depth := 0, owner := none }
  else { state with depth := state.depth - 1 }

/-- Adds what a line declares. -/
def OutlineState.add (state : OutlineState) : LineContent → OutlineState
  | .body declared =>
    { state with
      entries := state.entries ++ [{ declared }]
      owner := some state.entries.length }
  | .fields list =>
    match state.owner with
    | some index =>
      { state with
        entries := state.entries.modify index fun entry =>
          { entry with fields := entry.fields ++ list } }
    | none => { state with entries := state.entries ++ list.map fun declared => { declared } }
  | .plain list => { state with entries := state.entries ++ list.map fun declared => { declared } }

/-- Reads one line: first its braces, then what it declares. -/
def OutlineState.readLine (state : OutlineState) (braces : List Brace) (placed : PlacedLine) :
    OutlineState :=
  let state := (braces.filter (·.line = placed.number)).foldl OutlineState.passBrace state
  match placed.content? state.depth with
  | none => state
  | some content => state.add content

/-- Reads lines from a line number on; `above` holds the lines before them, nearest first. -/
def OutlineState.readLines (state : OutlineState) (braces : List Brace) (number : Nat)
    (above : List Line) : List Line → OutlineState
  | [] => state
  | line :: below =>
    (state.readLine braces ⟨number, line, above, below⟩).readLines braces (number + 1)
      (line :: above) below

/-- The outline of a text. -/
def outline (text : String) : List OutlineEntry :=
  (OutlineState.readLines {} (braces text) 0 [] (Text.lines text)).entries

/-- A declaration as the editor lists it. -/
def Declared.toSymbol (declared : Declared) (children : List DocumentSymbol) : DocumentSymbol :=
  { name := declared.name
    kind := declared.kind
    detail := some declared.detail
    range := declared.range
    selectionRange := declared.selection
    children := some children }

/-- An entry as the editor lists it. -/
def OutlineEntry.toSymbol (entry : OutlineEntry) : DocumentSymbol :=
  entry.declared.toSymbol (entry.fields.map (·.toSymbol []))

/-- The outline of a text as the editor lists it. -/
def documentSymbols (text : String) : List DocumentSymbol :=
  (outline text).map OutlineEntry.toSymbol

end BasiliskServer.Source
