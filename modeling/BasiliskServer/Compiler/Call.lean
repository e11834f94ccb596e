import BasiliskServer.Compiler.Message
import BasiliskServer.Files.Environment
import BasiliskServer.Files.Uri
import BasiliskServer.Settings.Resolve

/-!
# Calling the compiler

Where the compiler is looked for, how it is called on a document, and what is taken from its
output. The text of the document is compiled from a scratch copy, so that unsaved changes are seen,
while include paths still lead to the directory of the document.
-/

namespace BasiliskServer.Compiler

open Files (Host Path)
open Wire (Diagnostic)

/-- The places where the compiler is looked for, in order. -/
def candidates (host : Host) (settings : Settings) : List String :=
  let fromEnvironment := (host.env? "BASILISK").getD ""
  let roots := [settings.basiliskPath].filter (· ≠ "") ++
    [fromEnvironment].filter fun root => root ≠ "" && root ≠ settings.basiliskPath
  [settings.qccPath].filter (· ≠ "") ++
    roots.flatMap (fun root =>
      [Host.joinText root "qcc", Host.joinText (Host.joinText root "bin") "qcc"]) ++
    ["/opt/homebrew/bin/qcc", "/usr/local/bin/qcc"]

/-- The compiler. -/
def find (host : Host) (settings : Settings) : Except Failure (Option String) :=
  (candidates host settings).findSomeM? host.executable

/-- The include arguments for a document: its directory, local sources, and the settings. -/
def includeArguments (host : Host) (directory : Path) (settings : Settings) :
    Except Failure (List String) :=
  (ProjectConfig.localSources host directory).map fun localSources =>
    let directories :=
      directory.toString :: (localSources.toList.map Path.toString ++ settings.includePaths)
    (distinct (directories.filter (· ≠ ""))).flatMap fun directory => ["-I", directory]

/-- The name of the scratch copy of a document. -/
def scratchName (name : String) : String :=
  let scratch := "basilisk_" ++ name
  if scratch.endsWith ".c" then scratch else scratch ++ ".c"

/-- A call of the compiler on a document. -/
structure Call where
  /-- The program and its arguments. -/
  command : List String
  /-- The name of the document. -/
  document : String
  /-- The name of the scratch copy. -/
  scratch : String
  /-- What the scratch copy holds. -/
  source : String
  /-- The root of the solver library in the environment of the call. -/
  library : Option String

/-- Checks that a file of a name can be written. -/
def checkName (name : String) : Except Failure Unit :=
  if Host.holdsNull name then .error .nullByte
  else if Host.nameLimit < name.utf8ByteSize then .error .nameTooLong
  else .ok ()

/-- The call of a compiler on a document. -/
def Call.of (host : Host) (compiler uri source : String) (settings : Settings) :
    Except Failure Call := do
  let path ← (Files.uriToPath uri).mapError .address
  let scratch := scratchName path.name
  let includes ← includeArguments host path.parent settings
  checkName scratch
  return {
    command := [compiler, "-Wall", "-fsyntax-only"] ++ includes ++ [scratch]
    document := path.name
    scratch
    source
    library :=
      if settings.basiliskPath ≠ "" then some settings.basiliskPath
      else host.env? "BASILISK" }

/-- What follows the last slash of a spelled path. -/
def lastName (file : String) : String :=
  String.ofList ((file.toList.reverse.takeWhile (· ≠ '/')).reverse)

/-- Whether a problem is in the document and not in a file that it includes. -/
def Call.concerns (call : Call) (message : Message) : Bool :=
  let name := lastName message.file
  name = call.scratch || name = call.document || Text.occursIn call.scratch message.file.toList

/-- The diagnostics for problems, in order, until there are `limit` of them; `found` counts those
before. -/
def collectFrom (limit : Int) (found : Nat) : List Message → Except Failure (List Diagnostic)
  | [] => .ok []
  | message :: rest => do
    let diagnostic ← message.toDiagnostic.mapError .position
    if limit ≤ (found : Int) + 1 then return [diagnostic]
    else return diagnostic :: (← collectFrom limit (found + 1) rest)

/-- What a call of the compiler found. -/
structure Findings where
  /-- Problems in the document. -/
  diagnostics : List Diagnostic := []
  /-- All that the compiler wrote. -/
  output : String := ""

/-- What a finished command wrote and how it ended. -/
structure CommandOutput where
  /-- What it wrote to its output. -/
  stdout : String
  /-- What it wrote to its error output. -/
  stderr : String
  /-- Its return code, if it is known. -/
  code : Option Int

/-- What is found in the output of a call. The first problem counts whatever the limit is. -/
def Call.findings (call : Call) (settings : Settings) (output : CommandOutput) :
    Except Failure Findings := do
  let text := output.stderr ++ output.stdout
  let messages ← parseOutput text
  let diagnostics ← collectFrom settings.maxProblems 0 (messages.filter call.concerns)
  return { diagnostics, output := text }

/-- The time limit for a question for the version, in milliseconds. -/
def versionLimit : Nat := 5000

/-- The command that asks a program for its version. -/
def versionCommand (program : String) : List String :=
  [program, "--version"]

/-- Whether a program that was asked for its version works. -/
def CommandOutput.isWorking (output : CommandOutput) : Bool :=
  output.code = some 0 || Text.occursIn "gcc" output.stdout.toList ||
    Text.occursIn "gcc" output.stderr.toList

/-- The version that a program gives: the first line that it writes. -/
def CommandOutput.version? (output : CommandOutput) : Option String :=
  let text := if output.stdout.isEmpty then output.stderr else output.stdout
  if Text.allBlank text.toList then none
  else
    match Text.strip ((Text.breakLines text.toList).headD []) with
    | [] => none
    | line => some (String.ofList line)

end BasiliskServer.Compiler
