import BasiliskServer.Source.QuickCheck
import BasiliskServer.Tool.Report
import BasiliskServer.World.Connection

/-!
# Checks from the command line

A check puts together what the quick checks, the compiler and, where the compiler does not work,
the companion process find in a file. The companion process is started for the check alone and
always stopped before the check ends. An examination of the tools says which of them can be used.
-/

namespace BasiliskServer.World

open Files (Host Path)
open Json (Value)
open Wire (Diagnostic)

/-- The report of a check with the problems found so far. -/
def Check.report (check : Check) (exitCode : Nat) (messages : List String := []) : CheckReport :=
  { file := check.file
    diagnostics := Tool.reported check.diagnostics check.settings.maxProblems
    messages := check.messages ++ messages
    exitCode }

/-- Ends a check. -/
def conclude (check : Check) (consulted : Bool) : Act Next :=
  if !check.compilerWorks && !consulted then
    finish (.check (check.report 2 ["qcc not available and clangd fallback disabled."]))
  else
    let report := check.report 0
    finish (.check { report with exitCode := if Wire.hasErrors report.diagnostics then 1 else 0 })

/-- The address of a file, and the configuration of the companion process that is asked about
it. -/
def consultation (host : Host) (check : Check) : Except Failure (String × Companion.Config) := do
  let directory := check.file.parent
  let uri ← host.uriOf check.file
  let root ← host.uriOf directory
  return (uri, ← Companion.Config.ofSettings host check.settings (some directory) (some root))

/-- Asks the companion process for the problems of a file. -/
def consult (check : Check) : Act Next := do
  match consultation (← get).host check with
  | .error failure => fail failure
  | .ok (uri, config) =>
    let received ← promise
    let number ← newConnection { config, listener := .check uri received }
    under (.tool (.connected check number received uri)) (connect number)

/-- Stops the connection of a check. -/
def partWith (check : Check) (number : Nat) (result : Except Failure (List Value)) : Act Next :=
  under (.tool (.disconnected check result)) (disconnect number)

/-- Opens the file in the companion process and waits for the first report on it. -/
def awaitReport (check : Check) (number received : Nat) (uri : String) : Act Next := do
  let _ ← notify number "textDocument/didOpen" (.object [("textDocument", .object
    [("uri", .string uri), ("languageId", .string "c"), ("version", .int 1),
     ("text", .string check.text)])])
  match check.wait.map Except.ok |>.getD (← get).host.companionWait with
  | .error failure => partWith check number (.error failure)
  | .ok limit =>
    under (.tool (.received check number))
      (waitLimited received (Decimal.clockMilliseconds limit))

/-- Goes on with the companion process, if it is wanted and there is one. -/
def continueCheck (check : Check) : Act Next := do
  if !Companion.isWanted check.settings check.compilerWorks then conclude check false
  else
    match (← get).host.executable check.settings.clangd.path with
    | .error failure => fail failure
    | .ok none => conclude check false
    | .ok (some _) => under (.tool (.consulted check)) (consult check)

/-- Runs the compiler for a check. -/
def compileFor (check : Check) : Act Next := do
  match (← get).host.uriOf check.file with
  | .error failure => fail failure
  | .ok uri => under (.tool (.compiled check)) (compile uri check.source check.settings none none)

/-- Checks a file whose text and settings are known. -/
def beginCheck (check : Check) : Act Next := do
  if check.settings.enableDiagnostics then
    match Compiler.find (← get).host check.settings with
    | .error failure => fail failure
    | .ok (some compiler) => under (.tool (.tested check)) (testCompiler compiler)
    | .ok none => compileFor check
  else continueCheck check

/-- What a check starts with. -/
inductive CheckStart where
  /-- It ends before anything is checked. -/
  | ended (report : CheckReport)
  /-- The text and the settings are known. -/
  | ready (check : Check)

/-- Prepares the check of a file. -/
def prepareCheck (host : Host) (request : CheckRequest) : Except Failure CheckStart := do
  let file := Path.ofString (← host.anchorAt (Path.ofString request.file).toString host.cwd)
  if !(← host.isFile file) then
    return .ended { file, messages := ["File not found: " ++ file.toString], exitCode := 1 }
  let text ← (host.readText file).mapError fun _ => .undecodable
  let source ←
    if request.wrapHeader then Tool.headerWrapper host file request.wrapIncludes else pure text
  let loaded ← Tool.loadSettings host request.options file.parent host.cwd
  if loaded.fatal then return .ended { file, messages := loaded.messages, exitCode := 2 }
  return .ready {
    file
    text
    source
    settings := loaded.settings
    diagnostics := Source.quickCheck text
    messages := loaded.messages
    wait := request.wait }

/-- Checks a file. -/
def checkFile (request : CheckRequest) : Act Next := do
  match prepareCheck (← get).host request with
  | .error failure => fail failure
  | .ok (.ended report) => finish (.check report)
  | .ok (.ready check) => beginCheck check

/-- What an examination says about the tools. -/
def examine (host : Host) (settings : Settings) (compiler : Option String) (works : Bool)
    (cwd : Path) (messages : List String) : Except Failure DoctorReport := do
  let companion := settings.clangd
  let companionProgram ← if companion.enabled then host.executable companion.path else pure none
  let library ← settings.basiliskRoot host (some cwd)
  let compilerLabel :=
    if !settings.enableDiagnostics then "qcc=disabled"
    else if works then "qcc=found(" ++ compiler.getD "" ++ ")"
    else "qcc=missing(" ++ settings.qccPath ++ ")"
  let companionLabel :=
    if !companion.enabled then "clangd=disabled"
    else match companionProgram with
      | some program => "clangd=found(" ++ program ++ ")"
      | none => "clangd=missing(" ++ companion.path ++ ")"
  let libraryLabel := match library with
    | none => "basilisk=unset"
    | some "" => "basilisk=unset"
    | some root => "basilisk=" ++ root
  let fallbackLabel :=
    "clangd_fallback=" ++ if Companion.isWanted settings works then "on" else "off"
  return {
    labels := [compilerLabel, companionLabel, libraryLabel, fallbackLabel]
    messages
    exitCode :=
      if !(settings.enableDiagnostics && works) && companionProgram.isNone then 2 else 0 }

/-- Examines the tools. -/
def doctor (options : Tool.Options) (cwd : Path) : Act Next := do
  let host := (← get).host
  match Tool.loadSettings host options cwd cwd with
  | .error failure => fail failure
  | .ok loaded =>
    if loaded.fatal then finish (.doctor { messages := loaded.messages, exitCode := 2 })
    else
      match Compiler.find host loaded.settings with
      | .error failure => fail failure
      | .ok compiler =>
        under (.tool (.examined loaded.settings compiler cwd loaded.messages))
          (match compiler with
            | some compiler => testCompiler compiler
            | none => finish (.bool false))

/-- Goes on in the command line. -/
def ToolPoint.resume (point : ToolPoint) (outcome : Outcome) : Act Next := do
  match point, outcome with
  | .tested check, .ok (.bool works) => compileFor { check with compilerWorks := works }
  | .compiled check, .ok (.findings findings) =>
    continueCheck { check with diagnostics := check.diagnostics ++ findings.diagnostics }
  | .compiled check, .error failure =>
    if failure.isExpected then
      continueCheck
        { check with
          messages := check.messages ++ ["qcc diagnostics failed: " ++ failure.message] }
    else fail failure
  | .consulted check, .ok (.diagnostics found) =>
    conclude { check with diagnostics := check.diagnostics ++ found } true
  | .consulted check, .error failure =>
    if failure.isExpected then
      finish (.check (check.report 2 ["clangd error: " ++ failure.message]))
    else fail failure
  | .connected check number report uri, .ok (.bool true) => awaitReport check number report uri
  | .connected check number _ _, .ok _ =>
    partWith check number (.error (.startFailed check.settings.clangd.path))
  | .connected check number _ _, .error failure => partWith check number (.error failure)
  | .received check number, .ok (.json (.array problems)) => partWith check number (.ok problems)
  | .received check number, .ok _ => partWith check number (.ok [])
  | .received check number, .error .timedOut => partWith check number (.ok [])
  | .received check number, .error failure => partWith check number (.error failure)
  | .disconnected check result, .ok _ =>
    give (result.map fun problems =>
      .diagnostics (Diagnostics.select check.settings.clangd.diagnosticsMode (some check.text)
        (readReport problems)))
  | .examined settings compiler cwd messages, .ok (.bool works) =>
    give ((examine (← get).host settings compiler works cwd messages).map .doctor)
  | _, outcome => give outcome

end BasiliskServer.World
