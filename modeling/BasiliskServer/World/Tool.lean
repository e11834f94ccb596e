import BasiliskServer.Json.Printer
import BasiliskServer.Text.Terminal
import BasiliskServer.Tool.CommandLine
import BasiliskServer.World.Run

/-!
# Runs of the tool

What a run of the command line tool prints. Problems go to the output, messages and the error
output of the companion process to the error output, and the exit code says whether there were
errors. Codes for terminals are not printed.
-/

namespace BasiliskServer.World

open Json (Value)
open Wire (Diagnostic)

/-- What is printed to a stream. -/
inductive Stream where
  /-- How the tool is used. -/
  | usage
  /-- Lines. -/
  | lines (lines : List String)
  deriving DecidableEq, Repr

/-- What a run of the tool prints, and its exit code. -/
structure Printout where
  /-- The exit code. -/
  exitCode : Nat
  /-- The output. -/
  out : Stream := .lines []
  /-- The error output. -/
  err : Stream := .lines []
  /-- What the run has failed of, if it has. -/
  failure : Option Failure := none

/-- The lines of error output of the companion process as they are shown. -/
def echoLines (errors : List String) : List String :=
  errors.filterMap fun line =>
    match Text.stripRight line.toList with
    | [] => none
    | text => some ("[clangd] " ++ String.ofList text)

/-- Lines as they are printed. -/
def Stream.ofLines (lines : List String) : Stream :=
  .lines (lines.map fun line => String.ofList (Text.withoutCodes line.toList))

/-- The labels of an examination in one line. -/
def DoctorReport.text (report : DoctorReport) : String :=
  Text.joinWith " | " report.labels

/-- The lines for the problems that a check has found. -/
def CheckReport.lines (report : CheckReport) (json : Bool) : List String :=
  if json then
    [Json.renderIndented (.array (report.diagnostics.map Diagnostic.toJson))]
  else report.diagnostics.map (Tool.formatDiagnostic report.file.toString)

/-- What an activity of the tool comes to, printed; `echoed` is printed before the messages. -/
def printout (json : Bool) (echoed : List String) : Option Outcome → Printout
  | some (.ok (.check report)) =>
    { exitCode := report.exitCode
      out := .ofLines (report.lines json)
      err := .ofLines (echoed ++ report.messages) }
  | some (.ok (.doctor report)) =>
    { exitCode := report.exitCode
      out := .ofLines (if report.labels.isEmpty then [] else [report.text])
      err := .ofLines (echoed ++ report.messages) }
  | some (.error failure) => { exitCode := 1, err := .ofLines echoed, failure := some failure }
  | _ => { exitCode := 1, err := .ofLines echoed }

/-- Runs an activity of the tool to its end. -/
def runActivity (fuel : Nat) (w : World) (activity : Activity) (verbose json : Bool) :
    World × Printout :=
  let (w, outcome) := runToEnd fuel w activity
  (w, printout json (if verbose then echoLines w.record.errors else []) outcome)

/-- Runs the tool. -/
def runTool (fuel : Nat) (w : World) : Tool.Invocation → World × Printout
  | .nothing => (w, { exitCode := 2, out := .usage })
  | .help => (w, { exitCode := 0, out := .usage })
  | .misuse => (w, { exitCode := 2, err := .usage })
  | .check file options wrapHeader wrapIncludes json =>
    runActivity fuel w (.check { file, options, wrapHeader, wrapIncludes }) options.verbose json
  | .doctor options => runActivity fuel w (.doctor options w.host.cwd) options.verbose false

end BasiliskServer.World
