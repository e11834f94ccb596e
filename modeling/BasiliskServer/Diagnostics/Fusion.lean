import BasiliskServer.Settings.Basic
import BasiliskServer.Source.Dialect

/-!
# Fusing diagnostics

Problems come from two sides: the companion process, and the server itself together with the
compiler. They are put together, the companion's first, without repetitions, and cut off at a
number. Two problems are the same when they agree in place, severity, wording and reporter.
-/

namespace BasiliskServer.Diagnostics

open Wire (Diagnostic Severity Range)

/-- What makes two problems the same. -/
structure Key where
  /-- Where the problem is. -/
  range : Range
  /-- How serious it is. -/
  severity : Option Severity
  /-- What it is. -/
  message : String
  /-- Who reports it. -/
  source : Option String
  deriving DecidableEq, Repr

/-- The key of a problem. -/
def keyOf (d : Diagnostic) : Key :=
  ⟨d.range, d.severity, d.message, d.source⟩

/-- The problems whose keys are not among those seen, each key once. -/
def dedupeFrom (seen : List Key) : List Diagnostic → List Diagnostic
  | [] => []
  | d :: rest =>
    if seen.contains (keyOf d) then dedupeFrom seen rest
    else d :: dedupeFrom (keyOf d :: seen) rest

/-- The first problem of every key. -/
def dedupe (diagnostics : List Diagnostic) : List Diagnostic :=
  dedupeFrom [] diagnostics

/-- The problems of both sides without repetitions, at most `limit` of them. -/
def fuse (companion own : List Diagnostic) (limit : Int) : List Diagnostic :=
  (dedupe (companion ++ own)).take limit.toNat

/-- The name of the companion process as a reporter. -/
def companionSource : String := "clangd"

/-- Names the companion process as the reporter of a problem that names none. -/
def nameSource (d : Diagnostic) : Diagnostic :=
  if d.source.getD "" = "" then { d with source := some companionSource } else d

/-- The problems of the companion process that are shown. Noise can only be told where the text is
known. -/
def select (mode : DiagnosticsMode) (text : Option String) (diagnostics : List Diagnostic) :
    List Diagnostic :=
  match mode, text with
  | .none, _ => []
  | .filtered, some text => Source.dropNoise diagnostics text
  | _, _ => diagnostics

end BasiliskServer.Diagnostics
