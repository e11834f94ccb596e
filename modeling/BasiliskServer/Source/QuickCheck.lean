import BasiliskServer.Source.Brace
import BasiliskServer.Wire.Diagnostic

/-!
# Quick checks

Cheap checks of a source text for common mistakes of Basilisk C: loops without braces, fields
declared without brackets, events without timing and braces without a partner.
-/

namespace BasiliskServer.Source

open Text (Line after? literal? blanks? word? dropBlanks allBlank isWord isBlank)
open Wire (Diagnostic Severity Range)

/-- The name under which the server itself reports problems. -/
def ownSource : String := "basilisk-lsp"

/-- A problem within one line, reported by the server itself. -/
def ownProblem (line start stop : Nat) (severity : Severity) (message : String) : Diagnostic :=
  { range := .onLine line start stop
    severity := some severity
    source := some ownSource
    message }

/-- Whether a line holds a loop head and nothing else. -/
def isBareLoop (line : Line) : Bool :=
  match (literal? "foreach" (dropBlanks line)).map dropBlanks with
  | some ('(' :: rest) =>
    match rest.dropWhile (· ≠ ')') with
    | _ :: rest => allBlank rest
    | [] => false
  | _ => false

/-- Whether a line after a loop head asks for braces around it: it is neither empty nor a block
nor a whole statement. -/
def asksForBraces (line : Line) : Bool :=
  let stripped := Text.strip line
  match stripped, stripped.getLast? with
  | [], _ => false
  | first :: _, last => first ≠ '{' && last ≠ some ';'

/-- A hint for a loop head whose body on the next line has no braces. -/
def checkLoop (index : Nat) (line : Line) (next : Option Line) : List Diagnostic :=
  match next with
  | none => []
  | some following =>
    if isBareLoop line && asksForBraces following then
      [ownProblem index 0 line.length .hint
        "Consider using braces \x7b\x7d for foreach loops for clarity"]
    else []

/-- A field declared without brackets: its type, its name and the columns it takes. -/
structure BareField where
  /-- First column. -/
  start : Nat
  /-- Column after the semicolon. -/
  stop : Nat
  /-- The type. -/
  type : List Char
  /-- The name. -/
  name : List Char

/-- A field declared without brackets at the start of a text, with the number of characters that
are left after it. -/
def bareFieldHere? (cs : List Char) : Option (List Char × List Char × Nat) :=
  ["scalar", "vector"].findSome? fun type => do
    let rest ← blanks? (← literal? type cs)
    let (name, rest) ← word? rest
    match dropBlanks rest with
    | ';' :: rest => some (type.toList, name, rest.length)
    | _ => none

/-- The first field declared without brackets from a column on; the flag says whether a word
character stands just before. -/
def bareField? (column : Nat) (afterWord : Bool) : Line → Option BareField
  | [] => none
  | c :: rest =>
    let here := if afterWord then none else bareFieldHere? (c :: rest)
    match here with
    | some (type, name, left) =>
      some ⟨column, column + (rest.length + 1 - left), type, name⟩
    | none => bareField? (column + 1) (isWord c) rest

/-- A warning for a field declared without brackets. -/
def checkField (index : Nat) (line : Line) : List Diagnostic :=
  match bareField? 0 false line with
  | none => []
  | some field =>
    let type := String.ofList field.type
    let name := String.ofList field.name
    [ownProblem index field.start field.stop .warning
      ("Field '" ++ name ++ "' should be declared with [], e.g., '" ++ type ++ " " ++ name ++
        "[]'")]

/-- Whether a line starts the definition of an event but has no opening parenthesis after the
name: something else follows the name, or more than one blank. -/
def isEventWithoutTiming (line : Line) : Bool :=
  let afterName : Option (List Char) := do
    let rest ← blanks? (← literal? "event" (dropBlanks line))
    let (_, rest) ← word? rest
    return rest
  match afterName with
  | none => false
  | some rest =>
    let gap := (rest.takeWhile isBlank).length
    match dropBlanks rest with
    | [] => 2 ≤ gap
    | c :: _ => 1 ≤ gap && c ≠ '('

/-- An error for an event without timing. -/
def checkEvent (index : Nat) (line : Line) : List Diagnostic :=
  if isEventWithoutTiming line then
    [ownProblem index 0 line.length .error
      "Event definition requires parentheses with timing parameters"]
  else []

/-- Hints for braces without a partner. -/
def checkBraces (text : String) : List Diagnostic :=
  (unmatched (braces text)).map fun brace =>
    ownProblem brace.line brace.column (brace.column + 1) .hint
      (if brace.opening then "Unclosed brace '\x7b'" else "Unmatched closing brace '\x7d'")

/-- The checks of single lines, from a line number on. -/
def checkLines (index : Nat) : List Line → List Diagnostic
  | [] => []
  | line :: rest =>
    checkLoop index line rest.head? ++ checkField index line ++ checkEvent index line ++
      checkLines (index + 1) rest

/-- All quick checks of a text: line by line, then the braces. -/
def quickCheck (text : String) : List Diagnostic :=
  checkLines 0 (Text.lines text) ++ checkBraces text

end BasiliskServer.Source
