import BasiliskServer.Diagnostics.Fusion
import BasiliskServer.Files.Host

/-!
# Reports of the command line

How diagnostics are written for people: file, line and column counted from one, severity, reporter
and text. A header is checked through a small file that includes it.
-/

namespace BasiliskServer.Tool

open Files (Host Path)
open Wire (Diagnostic Severity)

/-- The word for a severity; a problem without one is a hint. -/
def severityLabel : Option Severity → String
  | some .error => "error"
  | some .warning => "warning"
  | some .information => "info"
  | some .hint => "hint"
  | none => "hint"

/-- A diagnostic on a line of its own. -/
def formatDiagnostic (file : String) (d : Diagnostic) : String :=
  let source := match d.source with
    | none => ""
    | some "" => ""
    | some source => source ++ ": "
  file ++ ":" ++ toString (d.range.start.line + 1) ++ ":" ++
    toString (d.range.start.character + 1) ++ ": " ++ severityLabel d.severity ++ ": " ++ source ++
    d.message

/-- What is included before a header if nothing else is asked for. -/
def defaultIncludes : List String := ["run.h"]

/-- A line that includes a file. -/
def includeLine (file : String) : String :=
  "#include \"" ++ file ++ "\""

/-- A file that includes what a header needs and then the header. -/
def headerWrapper (host : Host) (file : Path) (includes : List String := []) :
    Except Failure String :=
  (host.resolve file).map fun header =>
    let needed := if includes.isEmpty then defaultIncludes else includes
    String.join
      ((needed.map includeLine ++
        [includeLine header.toString, "int main() \x7b return 0; \x7d"]).map (· ++ "\n"))

/-- The problems that are reported: without repetitions, at most `limit` of them. -/
def reported (diagnostics : List Diagnostic) (limit : Int) : List Diagnostic :=
  (Diagnostics.dedupe diagnostics).take limit.toNat

end BasiliskServer.Tool
