import BasiliskServer.World.Basic

/-!
# Waiting

The steps from which activities are put together: making and settling promises, starting and
giving up tasks, and waiting, with or without a limit of time.

An activity runs until it waits. What it returns says for what it waits and where it goes on; an
activity that calls another one puts its own point under the points of the other.
-/

namespace BasiliskServer.World

open Tasks (Notice Scheduler)

/-- A step of an activity. -/
abbrev Act := StateM World

/-- How an activity goes on. -/
abbrev Next := Tasks.Next Point Answer

/-- What an activity comes to, or why it comes to nothing. -/
abbrev Outcome := Except Failure Answer

/-- Changes the tasks. -/
def onTasks {α : Type} (step : Scheduler Point Answer Hook → α × Scheduler Point Answer Hook) :
    Act α := fun w =>
  let (a, tasks) := step w.tasks
  (a, { w with tasks })

/-- Changes the tasks. -/
def modifyTasks (step : Scheduler Point Answer Hook → Scheduler Point Answer Hook) : Act Unit :=
  modify fun w => { w with tasks := step w.tasks }

/-- Makes a promise. -/
def promise (missing : Nat := 0) : Act Nat :=
  onTasks (·.addPromise missing)

/-- Settles a promise. -/
def settle (promise : Nat) (outcome : Outcome) : Act Unit :=
  modifyTasks (·.settle promise outcome)

/-- Observes a promise. -/
def observe (promise : Nat) (notice : Notice Hook) : Act Unit :=
  modifyTasks (·.observe promise notice)

/-- Starts a task; its number and the promise of its result. -/
def spawn (activity : Activity) : Act (Nat × Nat) :=
  onTasks (·.spawn (.start activity))

/-- Sets a timer. -/
def timer (delay : Nat) (notice : Notice Hook) : Act Nat :=
  onTasks (·.addTimer delay notice)

/-- Stops a timer. -/
def stopTimer (number : Nat) : Act Unit :=
  modifyTasks (·.stopTimer number)

/-- The activity is over. -/
def finish (answer : Answer) : Act Next :=
  return .go (.ok answer) []

/-- The activity fails. -/
def fail (failure : Failure) : Act Next :=
  return .go (.error failure) []

/-- The activity has the outcome. -/
def give (outcome : Outcome) : Act Next :=
  return .go outcome []

/-- Runs an activity and goes on at a point. -/
def under (point : Point) (activity : Act Next) : Act Next := do
  return (← activity).under point

/-- Waits for a promise and goes on at a point. -/
def waitAt (promise : Nat) (point : Point) : Act Next :=
  return .wait promise [point]

/-- Waits for some time. -/
def sleep (delay : Nat) : Act Next := do
  let done ← promise
  let alarm ← timer delay (.release done)
  waitAt done (.wait (.sleeping alarm))

/-- Gives a promise up and waits until that has taken effect. -/
def reap (inner : Nat) (alarm : Option Nat) (interrupted : Bool) : Act Next := do
  let done ← promise
  observe inner (.release done)
  modifyTasks (·.giveUp inner)
  waitAt done (.wait (.reaping inner alarm interrupted))

/-- Waits for a promise, but not longer than the limit. -/
def waitLimited (inner limit : Nat) : Act Next := do
  if limit = 0 then
    match (← get).tasks.outcome? inner with
    | some outcome => give outcome
    | none => reap inner none false
  else
    let done ← promise
    let alarm ← timer limit (.release done)
    observe inner (.release done)
    waitAt done (.wait (.limited inner alarm))

/-- Waits for a promise, but not longer than the limit if there is one. -/
def waitWithin (inner : Nat) (limit : Option Nat) : Act Next :=
  match limit with
  | none => return .wait inner []
  | some limit => waitLimited inner limit

/-- Waits for a promise in such a way that giving up the waiting does not give up the promise. -/
def waitShielded (inner : Nat) : Act Next := do
  match (← get).tasks.outcome? inner with
  | some outcome => give outcome
  | none =>
    let outer ← promise
    observe inner (.relay inner outer)
    return .wait outer []

/-- Waits for all of several promises, however they are settled, and goes on at a point. -/
def waitAll (promises : List Nat) (point : Point) : Act Next := do
  let done ← promise promises.length
  promises.forM fun p => observe p (.tally done)
  waitAt done point

/-- What a promise that was given up because it took too long has come to. -/
def lateOutcome : Option Outcome → Outcome
  | some (.error .cancelled) => .error .timedOut
  | some outcome => outcome
  | none => .error .timedOut

/-- Goes on after waiting. -/
def WaitPoint.resume (point : WaitPoint) (outcome : Outcome) : Act Next := do
  match point with
  | .sleeping alarm =>
    stopTimer alarm
    give outcome
  | .limited inner alarm =>
    match (← get).tasks.outcome? inner with
    | some result =>
      stopTimer alarm
      give result
    | none =>
      match outcome with
      | .ok _ => reap inner (some alarm) false
      | .error _ => reap inner (some alarm) true
  | .reaping inner alarm interrupted =>
    alarm.forM stopTimer
    match outcome with
    | .error failure => fail failure
    | .ok _ =>
      if interrupted then fail .cancelled
      else give (lateOutcome ((← get).tasks.outcome? inner))

end BasiliskServer.World
