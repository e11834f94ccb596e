import BasiliskServer.World.Run

/-!
# Runs of a connection and of the keeper

What can happen to a world in which connections are at work without an editor session: the world
takes a step of its own, somebody calls for something that takes its time, a notification is passed
to a connection, a companion process does something that its script does not say, or time passes.
While a task runs nothing else happens, so that everything from outside waits until the task does.

Those who call deal either with connections themselves or with the keeper, who alone deals with
connections then. The world `World.ofConnection` begins with one connection that nobody has started,
the world `World.ofKeeper` with a keeper that has no connection; the machine and the programs are
free in both.
-/

namespace BasiliskServer.World

open Json (Value)

/-- With whom those who call deal. -/
inductive Counter where
  /-- With connections: they start and stop them. -/
  | connections
  /-- With the keeper, who starts and stops connections. -/
  | keeper
  deriving DecidableEq

/-- What can be called for. Requests over a connection are always possible. -/
def Counter.offers : Counter → Activity → Bool
  | .connections, .connect _ | .connections, .disconnect _ => true
  | .keeper, .ensure _ | .keeper, .release => true
  | _, .ask _ _ _ _ => true
  | _, _ => false

/-- What can happen to a world. -/
inductive Incident where
  /-- The world takes a step. -/
  | step
  /-- Somebody calls for something that takes its time. -/
  | call (activity : Activity)
  /-- Somebody passes a notification to a connection. -/
  | notify (connection : Nat) (method : String) (params : Value)
  /-- A process writes to its output. -/
  | output (process : Nat) (bytes : List UInt8)
  /-- A process writes to its error output. -/
  | errors (process : Nat) (bytes : List UInt8)
  /-- The output of a process cannot be read any more. -/
  | fault (process : Nat) (text : String)
  /-- A process ends. -/
  | exit (process : Nat) (code : Int)
  /-- Time moves on to a moment. -/
  | time (moment : Nat)

/-- What an incident from outside does. -/
def Incident.act (counter : Counter) : Incident → Act Unit
  | .step => stepAct
  | .call activity => if counter.offers activity then discard (spawn activity) else return
  | .notify connection method params => discard (World.notify connection method params)
  | .output process bytes => writeOutput process bytes
  | .errors process bytes => writeErrors process bytes
  | .fault process text => breakOutput process text
  | .exit process code => quit process code
  | .time moment => modifyTasks (·.moveTo moment)

/-- An incident happens. While a task runs, only steps do. -/
def undergo (counter : Counter) (w : World) (incident : Incident) : World :=
  match incident, w.tasks.running with
  | .step, _ => w.step
  | _, some _ => w
  | incident, none => w.perform (incident.act counter)

/-- Incidents happen one after the other. -/
def undergoAll (counter : Counter) (w : World) (incidents : List Incident) : World :=
  incidents.foldl (undergo counter) w

/-- A world with one connection that was not started yet. -/
def ofConnection (host : Files.Host) (companions : List CompanionScript)
    (config : Companion.Config) (capabilities : Value)
    (greetingLimit partingLimit room : Option Nat) : World :=
  { host, companions
    keeper := { listener := .recorder }
    connections :=
      [{ config, capabilities, listener := .recorder, greetingLimit, partingLimit, room }] }

/-- A world with a keeper that has no connection. -/
def ofKeeper (host : Files.Host) (companions : List CompanionScript) (observed : Bool) : World :=
  { host, companions, keeper := { listener := .recorder, observed } }

/-! ## What can be seen of a run -/

/-- How many companion processes are alive. -/
def aliveCount (w : World) : Nat :=
  w.processes.countP (·.code.isNone)

/-- The points at which a companion program takes its time to start. -/
def Point.isLaunch : Point → Bool
  | .program (.starting _ _) => true
  | _ => false

/-- The points at which a task starts or stops a connection. -/
def Point.isHandling : Point → Bool
  | .connection (.awaited _ _ _ _) => false
  | .connection _ => true
  | _ => false

/-- Whether a task starts or stops a connection. -/
def isHandled (w : World) : Bool :=
  (w.tasks.tasks.flatMap (·.stack)).any Point.isHandling

/-- The point at which the running task goes on, and the outcome with which it does. -/
def acting? (w : World) : Option (Point × Outcome) := do
  let (task, outcome) ← w.tasks.running
  let point ← (← w.tasks.tasks[task]?).stack.head?
  return (point, outcome)

/-- What a task begins when an incident happens, if one does. -/
def begins? (w : World) : Incident → Option Activity
  | .step =>
    match w.acting? with
    | some (.start activity, .ok _) => some activity
    | _ => none
  | _ => none

/-- How far a connection is. -/
def phaseOf? (w : World) (connection : Nat) : Option Phase :=
  (w.connections[connection]?).map (·.phase)

/-!
## Runs of a channel

What can happen to a world with one channel that was just opened: the world takes a step of its own,
the channel is to be closed, something is sent through it, the process does something, or time
passes. While a task runs nothing else happens, so that everything from outside waits until the task
does. The output can always be read.

The world `World.attached` begins where the channel has got its process and the tasks of the channel
have not begun yet.
-/

/-- What can happen to a world with one channel. -/
inductive Passage where
  /-- The world takes a step. -/
  | step
  /-- Somebody closes the channel, if it has a process. -/
  | close
  /-- Somebody sends something. -/
  | send (payload : Payload)
  /-- The process writes to its output. -/
  | output (bytes : List UInt8)
  /-- The process writes to its error output. -/
  | errors (bytes : List UInt8)
  /-- The process ends. -/
  | exit (code : Int)
  /-- Time moves on to a moment. -/
  | time (moment : Nat)

/-- Whether the channel has a process. -/
def isAttached (w : World) : Bool :=
  (w.channels[0]?.bind (·.process)).isSome

/-- The channel is closed if it has a process. -/
def closeIfAttached : Act Unit := do
  if (← get).isAttached then discard (spawn (.closeChannel 0)) else return

/-- What happens from outside. -/
def Passage.act : Passage → Act Unit
  | .step => stepAct
  | .close => closeIfAttached
  | .send payload => World.send 0 payload
  | .output bytes => writeOutput 0 bytes
  | .errors bytes => writeErrors 0 bytes
  | .exit code => quit 0 code
  | .time moment => modifyTasks (·.moveTo moment)

/-- Something happens. While a task runs, only steps do. -/
def pass (w : World) (passage : Passage) : World :=
  match passage, w.tasks.running with
  | .step, _ => w.step
  | _, some _ => w
  | passage, none => w.perform passage.act

/-- One thing happens after the other. -/
def passAll (w : World) (passages : List Passage) : World :=
  passages.foldl pass w

/-- How a channel takes what it reads. -/
structure Reception where
  /-- How many lists and objects may stand inside each other in a message. -/
  nesting : Nat
  /-- Which messages the receiver takes; it fails at the others. -/
  takes : Json.Fields → Bool

/-- A world with a channel that has just got its process. -/
def attached (script : CompanionScript) (command : List String) (full : Bool) (r : Reception) :
    World :=
  perform
    { processes := [{ script }]
      channels :=
        [{ command, owner := .recorder full r.takes, decoder := { nesting := r.nesting } }] }
    (beginTraffic 0 0)

/-! ## What can be seen of a run -/

/-- What the process has written and nobody has read yet. -/
def unread (w : World) : List UInt8 :=
  (w.processes[0]?.map (·.stdout.buffer)).getD []

/-- What the process writes to its output when something happens: the bytes that are new behind
those that were not read yet. -/
def emittedBy (w : World) (passage : Passage) : List UInt8 :=
  (w.pass passage).unread.drop w.unread.length

/-- What the process writes to its output in a run. -/
def emitted (w : World) : List Passage → List UInt8
  | [] => []
  | passage :: rest => w.emittedBy passage ++ (w.pass passage).emitted rest

/-- The closing of the channel begins when something happens: a task that is to close it goes on,
and there is a process. -/
def beginsClosing (w : World) : Passage → Bool
  | .step =>
    match w.acting? with
    | some (.start (.closeChannel 0), .ok _) => w.isAttached
    | _ => false
  | _ => false

end BasiliskServer.World
