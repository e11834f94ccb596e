import BasiliskServer.Wire.Position

/-!
# Diagnostics

Problems found in a document, as the editor shows them.
-/

namespace BasiliskServer.Wire

open Json (Value Fields)

/-- How serious a problem is. -/
inductive Severity where
  /-- The document cannot be compiled. -/
  | error
  /-- The document is suspicious. -/
  | warning
  /-- Something to know. -/
  | information
  /-- A suggestion. -/
  | hint
  deriving DecidableEq, Repr, Inhabited

/-- The code of a severity. -/
def Severity.code : Severity → Nat
  | .error => 1
  | .warning => 2
  | .information => 3
  | .hint => 4

/-- Reads a severity. -/
def Severity.ofJson? (value : Value) : Option Severity :=
  match readCode? 4 value with
  | some 1 => some .error
  | some 2 => some .warning
  | some 3 => some .information
  | some 4 => some .hint
  | _ => none

/-- A further place that a problem has to do with. -/
structure RelatedPlace where
  /-- The place. -/
  location : Location
  /-- What is said about it. -/
  message : String
  deriving DecidableEq, Repr

/-- Reads a related place. -/
def RelatedPlace.ofJson? (value : Value) : Option RelatedPlace := do
  let fields ← value.fields?
  let location ← Location.ofJson? (← required fields "location")
  let message ← readString (← required fields "message")
  return ⟨location, message⟩

/-- Writes a related place. -/
def RelatedPlace.toJson (r : RelatedPlace) : Value :=
  .object [("location", r.location.toJson), ("message", .string r.message)]

/-- A problem in a document. -/
structure Diagnostic where
  /-- Where it is. -/
  range : Range
  /-- What it is. -/
  message : String
  /-- How serious it is. -/
  severity : Option Severity := none
  /-- A code that the reporter gives it, of any kind. -/
  code : Value := .null
  /-- Where the code is explained. -/
  codeDescription : Option String := none
  /-- Who reports it. -/
  source : Option String := none
  /-- Codes of further properties: unnecessary or deprecated code. -/
  tags : Option (List Nat) := none
  /-- Further places. -/
  related : Option (List RelatedPlace) := none
  /-- Anything that the reporter wants back. -/
  data : Value := .null
  deriving Inhabited

/-- Reads where a code is explained. -/
def readCodeDescription? (value : Value) : Option String := do
  readString (← required (← value.fields?) "href")

/-- Reads a diagnostic. -/
def Diagnostic.ofJson? (value : Value) : Option Diagnostic := do
  let fields ← value.fields?
  let range ← Range.ofJson? (← required fields "range")
  let message ← readString (← required fields "message")
  let severity ← optional Severity.ofJson? fields "severity"
  let codeDescription ← optional readCodeDescription? fields "codeDescription"
  let source ← optional readString fields "source"
  let tags ← optional (readList (readCode? 2)) fields "tags"
  let related ← optional (readList RelatedPlace.ofJson?) fields "relatedInformation"
  return {
    range, message, severity, codeDescription, source, tags, related
    code := anyValue fields "code"
    data := anyValue fields "data" }

/-- Writes a diagnostic. -/
def Diagnostic.toJson (d : Diagnostic) : Value :=
  .object ([("range", d.range.toJson), ("message", .string d.message)] ++
    optionalField "severity" (fun s => .nat s.code) d.severity ++
    anyField "code" d.code ++
    optionalField "codeDescription" (fun href => .object [("href", .string href)])
      d.codeDescription ++
    optionalField "source" .string d.source ++
    optionalField "tags" (fun tags => .array (tags.map .nat)) d.tags ++
    optionalField "relatedInformation" (fun places => .array (places.map RelatedPlace.toJson))
      d.related ++
    anyField "data" d.data)

/-- Whether some diagnostic is an error. -/
def hasErrors (diagnostics : List Diagnostic) : Bool :=
  diagnostics.any fun d => d.severity = some .error

end BasiliskServer.Wire
