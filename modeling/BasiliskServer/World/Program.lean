import BasiliskServer.World.Waiting

/-!
# Programs

What happens when programs are started, written to and ended, as their scripts say. Companion
processes read messages and write messages and error output until they end. Commands write their
output at once when they are finished.
-/

namespace BasiliskServer.World

open Json (Value Fields)

/-- Changes a companion process. -/
def updateProcess (number : Nat) (change : Process → Process) : Act Unit :=
  modify fun w => { w with processes := w.processes.modify number change }

/-- Records what can be seen from outside. -/
def note (change : Record → Record) : Act Unit :=
  modify fun w => { w with record := change w.record }

/-- The text of a failure to start a program. -/
def missingText (program : String) : String :=
  "[Errno 2] No such file or directory: " ++ Json.quoted program

/-- The program of a command. -/
def programOf (command : List String) : String :=
  command.headD ""

/-- Starts a companion program. -/
def startCompanion (command : List String) : Act Next := do
  let w ← get
  let script := (repeating w.companions w.companionCount).getD {}
  modify fun w => { w with companionCount := w.companionCount + 1 }
  note fun r => { r with launches := r.launches ++ [{ command }] }
  under (.program (.starting script command))
    (if script.startDelay = 0 then finish .unit else sleep script.startDelay)

/-- Tells the task that waits for bytes that there is news. -/
def wakeReader (reader : Reader) : Act Unit :=
  reader.waiter.forM fun waiter => settle waiter (.ok .unit)

/-- A process writes to its output; a process that has ended does not. -/
def writeOutput (number : Nat) (bytes : List UInt8) : Act Unit := do
  match (← get).processes[number]? with
  | none => return
  | some p =>
    if p.code.isNone && !bytes.isEmpty then
      updateProcess number fun p =>
        { p with stdout := { p.stdout with buffer := p.stdout.buffer ++ bytes, waiter := none } }
      wakeReader p.stdout

/-- A process writes to its error output; a process that has ended does not. -/
def writeErrors (number : Nat) (bytes : List UInt8) : Act Unit := do
  match (← get).processes[number]? with
  | none => return
  | some p =>
    if p.code.isNone && !bytes.isEmpty then
      updateProcess number fun p =>
        { p with stderr := { p.stderr with buffer := p.stderr.buffer ++ bytes, waiter := none } }
      wakeReader p.stderr

/-- The output of a process cannot be read any more. -/
def breakOutput (number : Nat) (text : String) : Act Unit := do
  match (← get).processes[number]? with
  | none => return
  | some p =>
    updateProcess number fun p =>
      { p with stdout := { p.stdout with fault := some text, waiter := none } }
    wakeReader p.stdout

/-- A process ends; a process ends once. -/
def quit (number : Nat) (code : Int) : Act Unit := do
  match (← get).processes[number]? with
  | none => return
  | some p =>
    if p.code.isNone then
      updateProcess number fun p =>
        { p with
          code := some code
          stdout := { p.stdout with ended := true, waiter := none }
          stderr := { p.stderr with ended := true, waiter := none }
          exitWaiters := [] }
      wakeReader p.stdout
      wakeReader p.stderr
      p.exitWaiters.forM fun waiter => settle waiter (.ok .unit)

/-- A process does something, after a delay if there is one. -/
def afterDelay (delay : Nat) (hook : Hook) (now : Act Unit) : Act Unit :=
  if delay = 0 then now else discard (timer delay (.hook hook))

/-- A process writes a message. -/
def say (number : Nat) (message : Fields) (delay : Nat := 0) : Act Unit :=
  let bytes := Rpc.frame message
  afterDelay delay (.write number bytes) (writeOutput number bytes)

/-- A process reports the problems of a document. -/
def sayProblems (number : Nat) (uri : Value) (problems : List Value) (version : Value) :
    Act Unit :=
  say number (Rpc.notificationMessage "textDocument/publishDiagnostics" (.object
    ([("uri", uri), ("diagnostics", .array problems)] ++
      if version.isNull then [] else [("version", version)])))

/-- The refusal of a request with any error. -/
def refusalMessage (id error : Value) : Fields :=
  [Rpc.versionField, ("id", id), ("error", error)]

/-- A process does what its script says about a request. -/
def carryOut (number : Nat) (id : Value) : Reply → Act Unit
  | .result value delay => say number (Rpc.resultMessage id value) delay
  | .refusal error delay => say number (refusalMessage id error) delay
  | .quit code delay => afterDelay delay (.quit number code) (quit number code)
  | .silence => return

/-- How many of the messages are requests of a method. -/
def countAsked (method : String) (messages : List Fields) : Nat :=
  (messages.filter fun m =>
    m.has "id" && (m.get? "method").bind Value.string? = some method).length

/-- A process tells of a document that is opened, as its script says. -/
def tellOnOpen (number : Nat) (script : CompanionScript) (method : String) (params : Value) :
    Act Unit :=
  if method = "textDocument/didOpen" then do
    writeErrors number script.errorsOnOpen
    match script.problemsOnOpen with
    | none => return
    | some problems =>
      let document := params.getD "textDocument"
      sayProblems number (document.getD "uri") problems (document.getD "version")
  else return

/-- A process receives a message. -/
def receive (number : Nat) (message : Fields) : Act Unit := do
  match (← get).processes[number]? with
  | none => return
  | some p =>
    note fun r => { r with sent := r.sent ++ [message] }
    updateProcess number fun p => { p with received := p.received ++ [message] }
    match message.get? "method" with
    | some (.string method) =>
      tellOnOpen number p.script method ((message.get? "params").getD .null)
      match message.get? "id" with
      | none => return
      | some id => carryOut number id (p.script.reply method (countAsked method p.received))
    | _ => return

/-- Something is handed to a process. The process understands nothing of bytes with too much of
something, and nothing reaches a process that cannot be written to. -/
def writeInput (number : Nat) (payload : Payload) : Act Unit := do
  match (← get).processes[number]? with
  | none => return
  | some p =>
    note fun r => { r with handed := r.handed ++ [(number, payload)] }
    if !p.script.refusesInput then
      let (messages, decoder) := p.decoder.feed payload.bytes
      updateProcess number fun p => { p with decoder }
      messages.toOption.forM (·.forM (receive number))

/-- A process is asked to end; the answer is whether it could be asked. -/
def askToEnd (number : Nat) : Act Bool := do
  note fun r => { r with signals := r.signals ++ ["terminate"] }
  match (← get).processes[number]? with
  | none => return true
  | some p =>
    if p.script.isUnreachable then return false
    if !p.script.ignoresEnd then quit number (-15)
    return true

/-- A process is killed. -/
def kill (number : Nat) : Act Unit := do
  note fun r => { r with signals := r.signals ++ ["kill"] }
  quit number (-9)

/-- The code with which a process has ended. -/
def exitCode? (w : World) (number : Nat) : Option Int :=
  w.processes[number]?.bind (·.code)

/-- Waits for the end of a process. -/
def awaitExit (number : Nat) : Act Next := do
  match exitCode? (← get) number with
  | some code => finish (.code (some code))
  | none =>
    let waiter ← promise
    updateProcess number fun p => { p with exitWaiters := p.exitWaiters ++ [waiter] }
    waitAt waiter (.program (.ending number))

/-! ## Commands -/

/-- A command has taken longer than the limit. -/
def lateFailure (command : List String) (limit : Int) : Failure :=
  match Decimal.nearestMilliseconds? limit, Decimal.wholeMilliseconds? limit with
  | some timeout, some shown => .commandTimeout (Text.joinWith " " command) timeout shown
  | _, _ => .limitTooLarge

/-- Runs a command, but not longer than the limit. -/
def runCommand (launch : Launch) (limit : Int) : Act Next := do
  let w ← get
  let script ←
    if launch.command.getLast? = some "--version" then pure w.versionScript
    else do
      modify fun w => { w with runCount := w.runCount + 1 }
      pure ((repeating w.runScripts w.runCount).getD {})
  note fun r => { r with launches := r.launches ++ [launch] }
  if script.isMissing then fail (.toolMissing (programOf launch.command))
  else
    let number := w.commands.length
    modify fun w => { w with commands := w.commands ++ [{ script }] }
    let (_, output) ← spawn (.communicate number)
    under (.program (.finished number launch.command limit))
      (waitLimited output (Decimal.clockMilliseconds limit))

/-- Waits for the output of a command. -/
def communicate (number : Nat) : Act Next := do
  match (← get).commands[number]? with
  | none => finish .unit
  | some c =>
    if c.script.hangs then waitAt (← promise) (.program .hanging)
    else
      under (.program (.working number))
        (if c.script.delay = 0 then finish .unit else sleep c.script.delay)

/-- What a command wrote. -/
def Command.output (c : Command) : Compiler.CommandOutput :=
  { stdout := Text.Utf8.decodeLenient c.script.stdout
    stderr := Text.Utf8.decodeLenient c.script.stderr
    code := c.code }

/-- Changes a command. -/
def updateCommand (number : Nat) (change : Command → Command) : Act Unit :=
  modify fun w => { w with commands := w.commands.modify number change }

/-- A command is killed. -/
def killCommand (number : Nat) : Act Unit :=
  updateCommand number fun c => if c.script.isUnreachable then c else { c with code := some (-9) }

/-- The call of the compiler on a document and its limit of time; nothing if there is no
compiler. -/
def prepareCall (host : Files.Host) (uri text : String) (settings : Settings)
    (compiler : Option String) (limit : Option Int) :
    Except Failure (Option (Compiler.Call × Int)) := do
  let compiler ← match compiler.filter (· ≠ "") with
    | some compiler => pure (some compiler)
    | none => Compiler.find host settings
  match compiler with
  | none => return none
  | some compiler =>
    let call ← Compiler.Call.of host compiler uri text settings
    match limit with
    | some limit => return some (call, limit)
    | none => return some (call, (← host.compilerLimit : Nat))

/-- Runs the compiler on a document. A compiler that is missing is reported as a problem. -/
def compile (uri text : String) (settings : Settings) (compiler : Option String)
    (limit : Option Int) : Act Next := do
  if !settings.enableDiagnostics then finish (.findings {})
  else
    match prepareCall (← get).host uri text settings compiler limit with
    | .error failure => fail failure
    | .ok none =>
      finish (.findings { diagnostics := [Compiler.missingDiagnostic settings.qccPath] })
    | .ok (some (call, limit)) =>
      under (.program (.compiled call settings))
        (runCommand
          { command := call.command, source := some call.source, library := call.library } limit)

/-- Asks a compiler for its version. -/
def askVersion (compiler : String) : Act Next := do
  match (← get).host.executable compiler with
  | .error failure => fail failure
  | .ok none => finish (.probe none)
  | .ok (some program) =>
    under (.program .probed)
      (runCommand { command := Compiler.versionCommand program } Compiler.versionLimit)

/-- Finds out whether a compiler works. -/
def testCompiler (compiler : String) : Act Next :=
  under (.program .tested) (askVersion compiler)

/-- Finds out the version of a compiler. -/
def compilerVersion (compiler : String) : Act Next :=
  under (.program .versioned) (askVersion compiler)

/-- Goes on in a program. -/
def ProgramPoint.resume (point : ProgramPoint) (outcome : Outcome) : Act Next := do
  match point, outcome with
  | .starting script command, .ok _ =>
    if script.isMissing then
      fail (.spawn (programOf command) (missingText (programOf command)))
    else
      let number := (← get).processes.length
      modify fun w => { w with processes := w.processes ++ [{ script }] }
      finish (.process number)
  | .ending number, .ok _ => finish (.code (exitCode? (← get) number))
  | .working number, .ok _ =>
    updateCommand number fun c => { c with code := some c.script.code }
    finish .unit
  | .hanging, .ok _ => finish .unit
  | .finished number _ _, .ok _ =>
    match (← get).commands[number]? with
    | some c => finish (.output c.output)
    | none => finish .unit
  | .finished number command limit, .error .timedOut =>
    killCommand number
    fail (lateFailure command limit)
  | .compiled call settings, .ok (.output output) =>
    give ((call.findings settings output).map .findings)
  | .compiled call _, .error (.toolMissing _) =>
    finish (.findings
      { diagnostics := [Compiler.missingDiagnostic (programOf call.command)] })
  | .probed, .ok (.output output) => finish (.probe (some output))
  | .probed, .error (.toolMissing _) => finish (.probe none)
  | .probed, .error (.commandTimeout _ _ _) => finish (.probe none)
  | .tested, .ok (.probe output) =>
    finish (.bool ((output.map (·.isWorking)).getD false))
  | .versioned, .ok (.probe output) => finish (.version (output.bind (·.version?)))
  | _, outcome => give outcome

end BasiliskServer.World
