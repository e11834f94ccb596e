import BasiliskServer.Failure
import BasiliskServer.Wire.Diagnostic

/-!
# Messages of the compiler

The compiler reports problems line by line: a file, a line, often a column, a grade and a text,
with colons between them. Lines without a column stand for the first one. A line with neither
column nor grade counts only if it speaks of an error. The file ends at the first colon after
which the rest of the line has the required shape. Numbers with too many digits are refused.
-/

namespace BasiliskServer.Compiler

open Wire (Diagnostic Position Severity)

/-- How the compiler grades a problem. -/
inductive Grade where
  /-- An error. -/
  | error
  /-- A warning. -/
  | warning
  /-- A note. -/
  | note
  deriving DecidableEq, Repr

/-- The grades. -/
def Grade.all : List Grade := [.error, .warning, .note]

/-- The word for a grade. -/
def Grade.name : Grade → String
  | .error => "error"
  | .warning => "warning"
  | .note => "note"

/-- The grade that a word stands for; a word that stands for none counts as an error. -/
def Grade.ofName : String → Grade
  | "warning" => .warning
  | "note" => .note
  | _ => .error

/-- The severity of a grade. -/
def Grade.severity : Grade → Severity
  | .error => .error
  | .warning => .warning
  | .note => .information

/-- A problem as it stands on a line of the compiler. -/
structure Reported where
  /-- The file. -/
  file : String
  /-- The digits of the line. -/
  line : List Char
  /-- The digits of the column. -/
  column : List Char := ['1']
  /-- How serious it is. -/
  grade : Grade
  /-- What it is. -/
  text : String
  deriving DecidableEq, Repr

/-- A problem reported by the compiler. -/
structure Message where
  /-- The file. -/
  file : String
  /-- The line, counted from one. -/
  line : Nat
  /-- The column, counted from one. -/
  column : Nat
  /-- How serious it is. -/
  grade : Grade
  /-- What it is. -/
  text : String
  deriving DecidableEq, Repr

/-- The digits of a number followed by a colon, and what follows. -/
def number? (cs : List Char) : Option (List Char × List Char) :=
  match cs.takeWhile Text.isDigit, cs.dropWhile Text.isDigit with
  | [], _ => none
  | digits, ':' :: rest => some (digits, rest)
  | _, _ => none

/-- A grade followed by a colon, after blanks, and what follows. -/
def grade? (cs : List Char) : Option (Grade × List Char) :=
  Grade.all.findSome? fun grade =>
    (Text.literal? (grade.name ++ ":") (Text.dropBlanks cs)).map (grade, ·)

/-- The text of a problem: what follows the blanks. If there are blanks only, it is the last of
them; if there is nothing, there is no text. -/
def text? (cs : List Char) : Option String :=
  match Text.dropBlanks cs with
  | [] => cs.getLast?.map fun c => String.ofList [c]
  | text => some (String.ofList text)

/-- What follows the file on a line with column and grade. -/
def gradedPlace? (file : String) (cs : List Char) : Option Reported := do
  let (line, cs) ← number? cs
  let (column, cs) ← number? cs
  let (grade, cs) ← grade? cs
  return { file, line, column, grade, text := ← text? cs }

/-- What follows the file on a line with a grade and no column. -/
def gradedLine? (file : String) (cs : List Char) : Option Reported := do
  let (line, cs) ← number? cs
  let (grade, cs) ← grade? cs
  return { file, line, grade, text := ← text? cs }

/-- What follows the file on a line with neither column nor grade. -/
def bareLine? (file : String) (cs : List Char) : Option Reported := do
  let (line, cs) ← number? cs
  return { file, line, grade := .error, text := ← text? cs }

/-- Tries every colon of a line, from the left, as the end of the file; `passed` holds the
characters before, nearest first. -/
def atColons (read : String → List Char → Option Reported) (passed : List Char) :
    List Char → Option Reported
  | [] => none
  | c :: rest =>
    let here :=
      if c = ':' && !passed.isEmpty then read (String.ofList passed.reverse) rest else none
    match here with
    | some message => some message
    | none => atColons read (c :: passed) rest

/-- Words that mark a line as speaking of an error. -/
def errorWords : List String := ["error", "undefined", "undeclared"]

/-- The problem reported on a line. -/
def parseLine? (line : List Char) : Option Reported :=
  match atColons gradedPlace? [] line with
  | some message => some message
  | none =>
    match atColons gradedLine? [] line with
    | some message => some message
    | none =>
      if errorWords.any (Text.occursIn · line) then atColons bareLine? [] line else none

/-- The number that digits spell. -/
def spelledNumber (digits : List Char) : Except Failure Nat :=
  if Text.hasTooManyDigits digits then .error (.tooManyDigits digits.length)
  else .ok (Text.digitsValue digits)

/-- A problem with its line and column as numbers. -/
def Reported.toMessage (reported : Reported) : Except Failure Message := do
  let line ← spelledNumber reported.line
  let column ← spelledNumber reported.column
  return { file := reported.file, line, column, grade := reported.grade, text := reported.text }

/-- The problems reported in an output. -/
def parseOutput (output : String) : Except Failure (List Message) :=
  ((Text.breakLines output.toList).filterMap parseLine?).mapM Reported.toMessage

/-- The name of the compiler as a reporter. -/
def reporter : String := "qcc"

/-- The diagnostic for a problem: one character wide, at its line and column counted from zero. -/
def Message.toDiagnostic (message : Message) : Except Wire.OutOfRange Diagnostic := do
  let line : Int := (message.line - 1 : Nat)
  let column : Int := (message.column - 1 : Nat)
  let start ← Position.make line column
  let stop ← Position.make line (column + 1)
  return {
    range := ⟨start, stop⟩
    severity := some message.grade.severity
    source := some reporter
    message := message.text }

/-- The diagnostic for a compiler that is missing. -/
def missingDiagnostic (command : String) : Diagnostic :=
  { range := .onLine 0 0 1
    severity := some .warning
    source := some "basilisk-lsp"
    message := "qcc compiler not found at '" ++ command ++ "'. Set basilisk.qccPath in settings." }

end BasiliskServer.Compiler
