import BasiliskServer.Wire.Field

/-!
# Positions, ranges and locations

Places in documents. Lines and characters count from zero and stay below `2 ^ 31`; a position
outside that range cannot be built.
-/

namespace BasiliskServer.Wire

open Json (Value Fields)

/-- A place in a document: line and character, counted from zero in code points. -/
structure Position where
  /-- The line. -/
  line : Nat
  /-- The character within the line. -/
  character : Nat
  deriving DecidableEq, Repr, Inhabited

/-- The two coordinates of a position. -/
inductive Coordinate where
  /-- The line. -/
  | line
  /-- The character within the line. -/
  | character
  deriving DecidableEq, Repr

/-- A coordinate outside the range that positions allow. -/
structure OutOfRange where
  /-- Which coordinate. -/
  coordinate : Coordinate
  /-- The value it should have had. -/
  value : Int
  deriving DecidableEq, Repr

/-- The greatest line and character. -/
def Position.limit : Nat := 2147483647

/-- The name of a coordinate. -/
def Coordinate.name : Coordinate → String
  | .line => "line"
  | .character => "character"

/-- The wording for a coordinate outside the range. -/
def OutOfRange.message (fault : OutOfRange) : String :=
  "Position." ++ fault.coordinate.name ++ " should be in range [0:" ++ toString Position.limit ++
    "], but was " ++ toString fault.value ++ "."

/-- Builds a position; the line is checked before the character. -/
def Position.make (line character : Int) : Except OutOfRange Position :=
  if line < 0 ∨ Position.limit < line then .error ⟨.line, line⟩
  else if character < 0 ∨ Position.limit < character then .error ⟨.character, character⟩
  else .ok ⟨line.toNat, character.toNat⟩

/-- Reads a position. -/
def Position.ofJson? (value : Value) : Option Position := do
  let fields ← value.fields?
  let line ← readInt? (← required fields "line")
  let character ← readInt? (← required fields "character")
  (Position.make line character).toOption

/-- Writes a position. -/
def Position.toJson (p : Position) : Value :=
  .object [("line", .nat p.line), ("character", .nat p.character)]

/-- The text between two places. -/
structure Range where
  /-- Where it starts. -/
  start : Position
  /-- Where it ends. -/
  stop : Position
  deriving DecidableEq, Repr, Inhabited

/-- A range within one line. -/
def Range.onLine (line start stop : Nat) : Range :=
  ⟨⟨line, start⟩, ⟨line, stop⟩⟩

/-- Reads a range. -/
def Range.ofJson? (value : Value) : Option Range := do
  let fields ← value.fields?
  let start ← Position.ofJson? (← required fields "start")
  let stop ← Position.ofJson? (← required fields "end")
  return ⟨start, stop⟩

/-- Writes a range. -/
def Range.toJson (r : Range) : Value :=
  .object [("start", r.start.toJson), ("end", r.stop.toJson)]

/-- A range in a document. -/
structure Location where
  /-- The document. -/
  uri : String
  /-- The range. -/
  range : Range
  deriving DecidableEq, Repr

/-- Reads a location. -/
def Location.ofJson? (value : Value) : Option Location := do
  let fields ← value.fields?
  let uri ← readString (← required fields "uri")
  let range ← Range.ofJson? (← required fields "range")
  return ⟨uri, range⟩

/-- Writes a location. -/
def Location.toJson (l : Location) : Value :=
  .object [("uri", .string l.uri), ("range", l.range.toJson)]

/-- A link from a range of one document to a range of another. -/
structure LocationLink where
  /-- The document it leads to. -/
  targetUri : String
  /-- The whole range there. -/
  targetRange : Range
  /-- The range to select there. -/
  targetSelection : Range
  /-- The range it starts from. -/
  originSelection : Option Range := none
  deriving DecidableEq, Repr

/-- Reads a link. -/
def LocationLink.ofJson? (value : Value) : Option LocationLink := do
  let fields ← value.fields?
  let targetUri ← readString (← required fields "targetUri")
  let targetRange ← Range.ofJson? (← required fields "targetRange")
  let targetSelection ← Range.ofJson? (← required fields "targetSelectionRange")
  let originSelection ← optional Range.ofJson? fields "originSelectionRange"
  return { targetUri, targetRange, targetSelection, originSelection }

/-- Writes a link. -/
def LocationLink.toJson (l : LocationLink) : Value :=
  .object ([("targetUri", .string l.targetUri), ("targetRange", l.targetRange.toJson),
    ("targetSelectionRange", l.targetSelection.toJson)] ++
    optionalField "originSelectionRange" Range.toJson l.originSelection)

/-- Where a definition or reference was found. -/
inductive Target where
  /-- A plain location. -/
  | location (l : Location)
  /-- A link. -/
  | link (l : LocationLink)
  deriving DecidableEq, Repr

/-- Writes where something was found. -/
def Target.toJson : Target → Value
  | .location l => l.toJson
  | .link l => l.toJson

/-- Reads an answer that names one place or several. Entries that are not places are left out; an
entry that names a target document is a link. -/
def Target.listOfJson (value : Value) : List Target :=
  (value.items?.getD [value]).filterMap fun entry =>
    match entry with
    | .object fields =>
      if Json.Fields.has fields "targetUri" then (LocationLink.ofJson? entry).map .link
      else (Location.ofJson? entry).map .location
    | _ => none

end BasiliskServer.Wire
