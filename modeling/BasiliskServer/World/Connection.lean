import BasiliskServer.World.Traffic

/-!
# Connections

A connection starts a companion process, greets it, passes requests and notifications on, and
stops it. Nothing but the greeting reaches the process before it has answered the greeting:
notifications wait in a queue until then, and requests wait for the outcome of the greeting.
-/

namespace BasiliskServer.World

open Json (Value Fields)

/-- The number by which the server names itself to a process. -/
def ownProcessId : Nat := 0

/-- Makes a connection. -/
def newConnection (connection : Connection) : Act Nat := do
  let number := (← get).connections.length
  modify fun w => { w with connections := w.connections ++ [connection] }
  return number

/-- A connection begins to start: it gets a channel, and a promise that says whether it became
ready. -/
def beginStart (number : Nat) (command : List String) : Act Nat := do
  let started ← promise
  let channel ← newChannel command (.connection number)
  updateConnection number fun c =>
    { c with phase := .starting, started := some started, channel := some channel }
  return channel

/-- Starts a connection. It is not started twice. -/
def connect (number : Nat) : Act Next := do
  match (← get).connections[number]? with
  | none => finish (.bool false)
  | some c =>
    match c.phase with
    | .ready => finish (.bool true)
    | .stopped =>
      let channel ← beginStart number c.config.command
      under (.connection (.opened number channel)) (openChannel channel)
    | _ => finish (.bool false)

/-- Whether a connection is in a phase. -/
def isInPhase (phase : Phase) (number : Nat) : Act Bool := do
  match (← get).connections[number]? with
  | some c => return c.phase = phase
  | none => return false

/-- Greets the process of a connection. -/
def greet (number channel : Nat) : Act Next := do
  match (← get).connections[number]? with
  | none => finish (.bool false)
  | some c =>
    match ← requestThrough c.room channel "initialize"
        (c.config.greeting ownProcessId c.capabilities) with
    | .ok answer =>
      under (.connection (.greeted number channel answer)) (waitWithin answer c.greetingLimit)
    | .error what => fail (.ofExcess what)

/-- What a process says about itself in its answer to the greeting. -/
def serverInfoOf (answer : Value) : Option Fields :=
  match answer.get? "serverInfo" with
  | some (.object info) =>
    if (Json.Fields.get? info "name").any (·.truthy) then some info else none
  | _ => none

/-- What stands against writing a notification with so many levels left. -/
def obstacle? (room : Option Nat) (entry : String × Value) : Option Json.Excess :=
  Rpc.refusal? room (.object (Rpc.notificationMessage entry.1 entry.2))

/-- The notifications up to the first one that cannot be written. -/
def writable (room : Option Nat) (queue : List (String × Value)) : List (String × Value) :=
  queue.takeWhile fun entry => (obstacle? room entry).isNone

/-- The process has answered the greeting: the connection is ready, and what waited goes out. The
queue is empty from then on, even if one of the notifications cannot be written; those behind it are
lost then, and whoever starts the connection fails. That the process is welcome can always be
written. -/
def becomeReady (number channel : Nat) (answer : Value) : Act Next := do
  match (← get).connections[number]? with
  | none => finish (.bool false)
  | some c =>
    updateConnection number fun c => { c with phase := .ready }
    notifyThrough channel "initialized" (.object [])
    updateConnection number fun c => { c with queue := [] }
    (writable c.room c.queue).forM fun (method, params) => notifyThrough channel method params
    match c.queue.findSome? (obstacle? c.room) with
    | some what => fail (.ofExcess what)
    | none =>
      updateConnection number fun c => { c with serverInfo := serverInfoOf answer }
      settleStarted number true
      finish (.bool true)

/-- Ends the process of a connection that is being stopped. -/
def closeConnection (number : Nat) (channel : Option Nat) : Act Next :=
  under (.connection (.closed number channel))
    (match channel with
      | some channel => closeChannel channel
      | none => finish .unit)

/-- Stops a connection. A connection that is ready says goodbye first, which can always be
written. -/
def disconnect (number : Nat) : Act Next := do
  match (← get).connections[number]? with
  | none => finish .unit
  | some c =>
    match c.phase with
    | .stopped =>
      updateConnection number fun c => { c with queue := [] }
      finish .unit
    | .stopping => finish .unit
    | phase =>
      updateConnection number fun c => { c with phase := .stopping }
      match phase, c.channel with
      | .ready, some channel =>
        match ← requestThrough none channel "shutdown" with
        | .ok answer =>
          under (.connection (.parted number channel)) (waitWithin answer c.partingLimit)
        | .error what => fail (.ofExcess what)
      | _, channel => closeConnection number channel

/-- Sends a request over a connection that is ready. -/
def askReady (number : Nat) (method : String) (params : Value) (limit : Option Nat) :
    Act Next := do
  match (← get).connections[number]? with
  | none => fail (.notReady Phase.stopped.name method)
  | some c =>
    match c.phase, c.channel with
    | .ready, some channel =>
      match ← requestThrough c.room channel method params with
      | .ok answer => waitWithin answer limit
      | .error what => fail (.ofExcess what)
    | phase, _ => fail (.notReady phase.name method)

/-- Sends a request over a connection; one that is starting is waited for. -/
def ask (number : Nat) (method : String) (params : Value) (limit : Option Nat) : Act Next := do
  match (← get).connections[number]? with
  | some { phase := .starting, started := some started, .. } =>
    under (.connection (.awaited number method params limit)) (waitShielded started)
  | _ => askReady number method params limit

/-- Sends a notification over a connection; one that is being stopped drops it. The answer is what
stands against it, if it has to be written at once and cannot be. -/
def notify (number : Nat) (method : String) (params : Value := .null) :
    Act (Option Json.Excess) := do
  match (← get).connections[number]? with
  | none => return none
  | some c =>
    match c.phase, c.channel with
    | .ready, some channel =>
      match obstacle? c.room (method, params) with
      | some what => return some what
      | none =>
        notifyThrough channel method params
        return none
    | .stopping, _ => return none
    | _, _ =>
      updateConnection number fun c => { c with queue := c.queue ++ [(method, params)] }
      return none

/-- Whether a failure means that a request was not answered. -/
def isUnanswered (failure : Failure) : Bool :=
  failure.isExpected || failure matches .timedOut

/-- Goes on in a connection. -/
def ConnectionPoint.resume (point : ConnectionPoint) (outcome : Outcome) : Act Next := do
  match point, outcome with
  | .opened number channel, .ok _ =>
    if ← isInPhase .starting number then greet number channel
    else under (.connection .abandoned) (closeChannel channel)
  | .opened number _, .error (.spawn _ _) =>
    reset number
    finish (.bool false)
  | .abandoned, .ok _ => finish (.bool false)
  | .greeted number channel _, .ok answer =>
    if ← isInPhase .starting number then becomeReady number channel answer.value
    else finish (.bool false)
  | .greeted number channel _, .error failure =>
    if isUnanswered failure then
      if ← isInPhase .starting number then
        under (.connection (.refused number)) (closeChannel channel)
      else finish (.bool false)
    else fail failure
  | .refused number, .ok _ =>
    reset number
    finish (.bool false)
  | .parted number channel, .ok _ =>
    notifyThrough channel "exit"
    closeConnection number (some channel)
  | .parted number channel, .error failure =>
    if isUnanswered failure then
      notifyThrough channel "exit"
      closeConnection number (some channel)
    else fail failure
  | .closed number channel, .ok _ =>
    channel.forM fun channel => rejectAll channel (.exited none)
    reset number
    finish .unit
  | .awaited number method params limit, .ok (.bool ready) =>
    if ready then askReady number method params limit else fail (.neverStarted method)
  | _, outcome => give outcome

end BasiliskServer.World
