import BasiliskServer.Source.Vocabulary
import BasiliskServer.Source.Word
import BasiliskServer.Text.Case
import BasiliskServer.Wire.Diagnostic

/-!
# Telling Basilisk C from plain C

A text looks like Basilisk C if it holds one of the words of the language or includes one of the
headers of the solver library. On lines that do, a plain C compiler reports problems that are none:
such noise is filtered out by its wording.
-/

namespace BasiliskServer.Source

open Text (isWord dropBlanks literal?)
open Wire (Diagnostic)

/-- The words that mark a text as Basilisk C. -/
def markerWords : List String :=
  controlKeywords ++ fieldTypes ++ constants ++ loopVariables

/-- Directories of the solver library whose headers mark a text. -/
def markerDirectories : List String := ["grid", "navier-stokes"]

/-- Headers of the solver library that mark a text, without their ending. -/
def markerHeaders : List String :=
  ["two-phase", "two-phase-generic", "vof", "run", "events", "common", "utils", "embed",
   "curvature", "fractions", "conservation", "view", "output", "draw"]

/-- Whether a header of the solver library is named at the start of a text. -/
def namesHeader (cs : List Char) : Bool :=
  let inDirectory (directory : String) : Bool :=
    match literal? (directory ++ "/") cs with
    | none => false
    | some rest =>
      !(rest.takeWhile fun c => isWord c || c = '-').isEmpty &&
        (literal? ".h" (rest.dropWhile fun c => isWord c || c = '-')).isSome
  markerDirectories.any inDirectory ||
    markerHeaders.any fun header => (literal? (header ++ ".h") cs).isSome

/-- Whether an include directive for a header of the solver library starts a text. -/
def includesHeader (cs : List Char) : Bool :=
  match cs with
  | '#' :: rest =>
    match (literal? "include" (dropBlanks rest)).map dropBlanks with
    | some (mark :: name) => (mark = '<' || mark = '"') && namesHeader name
    | _ => false
  | _ => false

/-- Whether an include directive for a header of the solver library stands in a text. -/
def hasMarkerInclude : List Char → Bool
  | [] => false
  | c :: rest => includesHeader (c :: rest) || hasMarkerInclude rest

/-- Whether one of the words of the language stands in a text. -/
def hasMarkerWord (cs : List Char) : Bool :=
  (wordRuns 0 cs).any fun run => markerWords.contains (String.ofList run.word)

/-- Whether a text looks like Basilisk C. -/
def looksBasilisk (cs : List Char) : Bool :=
  hasMarkerWord cs || hasMarkerInclude cs

/-- Wordings that a plain C compiler uses for correct Basilisk C. -/
def noiseWordings : List String :=
  ["unknown type name", "a type specifier is required",
   "expected ';' after top level declarator",
   "definition of variable with array type needs an explicit size",
   "use of undeclared identifier"]

/-- Whether a text starts with a lower-case wording, case aside. -/
def startsWithWording : List Char → List Char → Bool
  | [], _ => true
  | _ :: _, [] => false
  | letter :: wording, c :: rest => Text.sameLetter letter c && startsWithWording wording rest

/-- Whether a lower-case wording stands in a text, case aside. -/
def holdsWording (wording : List Char) : List Char → Bool
  | [] => wording.isEmpty
  | c :: rest => startsWithWording wording (c :: rest) || holdsWording wording rest

/-- Whether a message is worded like noise. -/
def isNoise (message : String) : Bool :=
  noiseWordings.any fun wording => holdsWording wording.toList message.toList

/-- The diagnostics without noise on lines that look like Basilisk C. A text that does not look
like it at all keeps everything. -/
def dropNoise (diagnostics : List Diagnostic) (text : String) : List Diagnostic :=
  if looksBasilisk text.toList then
    let lines := Text.lines text
    diagnostics.filter fun diagnostic =>
      !(looksBasilisk (lines[diagnostic.range.start.line]?.getD []) &&
        isNoise diagnostic.message)
  else diagnostics

end BasiliskServer.Source
