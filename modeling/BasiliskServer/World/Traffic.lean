import BasiliskServer.World.Listener

/-!
# Traffic on a channel

Every open channel has three tasks: one reads messages, one reads error output line by line, and
one waits until all output is read and the process has ended, and then tells the owner of the
channel. Closing a channel asks the process to end, kills it if it does not, and ends the tasks;
the owner is not told then.
-/

namespace BasiliskServer.World

/-- How many bytes are read at once. -/
def readSize : Nat := 65536

/-- How long a process that is asked to end may take. -/
def endingGrace : Nat := 1000

/-- Starts the process of a channel. -/
def openChannel (number : Nat) : Act Next := do
  match (← get).channels[number]? with
  | none => finish .unit
  | some c =>
    if c.process.isSome then
      fail (.impossible "transport already started"
        [("command", .string (programOf c.command))])
    else under (.channel (.opened number)) (startCompanion c.command)

/-- The process of a channel is started, and its tasks begin. -/
def beginTraffic (number process : Nat) : Act Next := do
  updateChannel number fun c => { c with process := some process }
  let (reader, readerDone) ← spawn (.readOutput number)
  let (errors, _) ← spawn (.readErrors number)
  let (watcher, _) ← spawn (.watch number readerDone)
  updateChannel number fun c => { c with tasks := [reader, errors, watcher] }
  finish .unit

/-- The process that a task of a channel works on: that of the channel when the task begins. -/
def withProcess (number : Nat) (activity : Nat → Act Next) : Act Next := do
  match (← get).channels[number]?.bind (·.process) with
  | none => finish .unit
  | some process => activity process

/-- Reads what a process has written, or waits for more. Bytes with too much of something end the
reading. -/
def readOutput (number process : Nat) : Act Next := do
  match (← get).processes[process]?, (← get).channels[number]? with
  | some p, some c =>
    match p.stdout with
    | { fault := some text, .. } => fail (.readFailed text)
    | { buffer := [], ended, .. } =>
      if ended then finish .unit
      else
        let waiter ← promise
        updateProcess process fun p => { p with stdout := { p.stdout with waiter := some waiter } }
        waitAt waiter (.channel (.output number process))
    | { buffer, .. } =>
      updateProcess process fun p =>
        { p with stdout := { p.stdout with buffer := buffer.drop readSize } }
      let (messages, decoder) := c.decoder.feed (buffer.take readSize)
      updateChannel number fun c => { c with decoder }
      match messages with
      | .error excess => fail (.ofExcess excess)
      | .ok messages =>
        messages.forM c.owner.frame
        return .go (.ok .unit) [.channel (.output number process)]
  | _, _ => finish .unit

/-- The line at the front of a byte string with its end, and what follows it. -/
def firstLine? (bytes : List UInt8) : Option (List UInt8 × List UInt8) :=
  match bytes.dropWhile (· ≠ 10) with
  | [] => none
  | stop :: rest => some (bytes.takeWhile (· ≠ 10) ++ [stop], rest)

/-- Reads a line that a process has written to its error output, or waits for more. A line that is
longer than can be read at once ends the reading. -/
def readErrors (number process : Nat) : Act Next := do
  match (← get).processes[process]?, (← get).channels[number]? with
  | some p, some c =>
    match firstLine? p.stderr.buffer with
    | some (line, rest) =>
      updateProcess process fun p => { p with stderr := { p.stderr with buffer := rest } }
      if readSize < line.length - 1 then fail (.readFailed "")
      else
        c.owner.errors (Text.Utf8.decodeLenient line)
        return .go (.ok .unit) [.channel (.errors number process)]
    | none =>
      if readSize < p.stderr.buffer.length then
        updateProcess process fun p => { p with stderr := { p.stderr with buffer := [] } }
        fail (.readFailed "")
      else if p.stderr.ended then
        if p.stderr.buffer.isEmpty then finish .unit
        else
          updateProcess process fun p => { p with stderr := { p.stderr with buffer := [] } }
          c.owner.errors (Text.Utf8.decodeLenient p.stderr.buffer)
          return .go (.ok .unit) [.channel (.errors number process)]
      else
        let waiter ← promise
        updateProcess process fun p => { p with stderr := { p.stderr with waiter := some waiter } }
        waitAt waiter (.channel (.errors number process))
  | _, _ => finish .unit

/-- Ends the tasks of a channel whose process has ended. -/
def endTraffic (number : Nat) : Act Next := do
  let w ← get
  match w.channels[number]? with
  | none => finish .unit
  | some c =>
    c.tasks.forM fun task => modifyTasks (·.interrupt task)
    if c.tasks.isEmpty then
      updateChannel number fun c => { c with process := none }
      finish .unit
    else
      let results := c.tasks.filterMap fun task => w.tasks.tasks[task]?.map (·.result)
      waitAll results (.channel (.quiet number))

/-- Asks the process of a channel to end, if it has not ended and can be asked. -/
def endProcess (number process : Nat) : Act Next := do
  if (exitCode? (← get) process).isSome then endTraffic number
  else if ← askToEnd process then
    let (_, ended) ← spawn (.awaitExit process)
    under (.channel (.asked number process)) (waitLimited ended endingGrace)
  else endTraffic number

/-- Ends the process of a channel. -/
def closeChannel (number : Nat) : Act Next :=
  withProcess number fun process => do
    updateChannel number fun c => { c with closing := true }
    endProcess number process

/-- The process of a channel has ended on its own, and all it wrote is read. -/
def loseProcess (number : Nat) (code : Option Int) : Act Next := do
  match (← get).channels[number]? with
  | none => finish .unit
  | some c =>
    if !c.closing then
      updateChannel number fun c => { c with closing := true, process := none }
      c.owner.exit code
    finish .unit

/-- Goes on in a channel. -/
def ChannelPoint.resume (point : ChannelPoint) (outcome : Outcome) : Act Next := do
  match point, outcome with
  | .opened number, .ok (.process process) => beginTraffic number process
  | .output number process, .ok _ => readOutput number process
  | .errors number process, .ok _ => readErrors number process
  | .drained number process, .ok _ =>
    under (.channel (.gone number process)) (awaitExit process)
  | .gone number _, .ok (.code code) => loseProcess number code
  | .asked number _, .ok _ => endTraffic number
  | .asked number process, .error .timedOut =>
    kill process
    under (.channel (.killed number)) (awaitExit process)
  | .killed number, .ok _ => endTraffic number
  | .quiet number, .ok _ =>
    updateChannel number fun c => { c with process := none, tasks := [] }
    finish .unit
  | _, outcome => give outcome

end BasiliskServer.World
