import BasiliskServer.World.Check
import BasiliskServer.World.Editor

/-!
# Running the world

One step of the world: the task that runs goes on to its next point, or, if none runs, the first
thing in the queue happens. Steps are taken until nothing can run; then time moves on to the next
timer. Everything is total: the number of steps is given.
-/

namespace BasiliskServer

open World

namespace World

/-- What a task does at its start. -/
def beginActivity : Activity → Act Next
  | .openChannel channel => openChannel channel
  | .closeChannel channel => closeChannel channel
  | .readOutput channel => withProcess channel (readOutput channel)
  | .readErrors channel => withProcess channel (readErrors channel)
  | .watch channel reader =>
    withProcess channel fun process => waitAll [reader] (.channel (.drained channel process))
  | .awaitExit process => awaitExit process
  | .communicate command => communicate command
  | .connect connection => connect connection
  | .disconnect connection => disconnect connection
  | .ask connection method params limit => ask connection method params limit
  | .ensure config => ensure config
  | .release => release
  | .run command limit => runCommand { command } limit
  | .compile uri text settings compiler limit => compile uri text settings compiler limit
  | .probe compiler => testCompiler compiler
  | .version compiler => compilerVersion compiler
  | .check request => checkFile request
  | .doctor options cwd => doctor options cwd
  | .startup => refresh false
  | .registerAndStart => registerAndStart
  | .reconfigure payload => reconfigure payload
  | .shutdown => shutdown
  | .settleDown => settleDown
  | .lookUp uri => lookUp uri
  | .openDocument uri text language number => openDocument uri text language number
  | .changeDocument uri text number => changeDocument uri text number
  | .saveDocument uri => saveDocument uri
  | .validate uri trigger => validate uri trigger
  | .commitPush uri generation diagnostics => commitPush uri generation diagnostics
  | .republish uri => republish uri
  | .complete cursor => complete cursor
  | .resolveItem item => resolveItem item
  | .hover cursor => explain cursor
  | .define cursor => define cursor
  | .refer cursor => refer cursor
  | .outline uri params => outline uri params
  | .search query params => search query params

/-- What a task does at a point. -/
def Point.resume (point : Point) (outcome : Outcome) : Act Next :=
  match point with
  | .start activity =>
    match outcome with
    | .ok _ => beginActivity activity
    | .error failure => fail failure
  | .wait point => point.resume outcome
  | .program point => point.resume outcome
  | .channel point => point.resume outcome
  | .connection point => point.resume outcome
  | .keeper point => point.resume outcome
  | .tool point => point.resume outcome
  | .session point => point.resume outcome

/-- Something further happens. -/
def happenHook : Hook → Act Unit
  | .forget channel request => forget channel request
  | .retire task => retire task
  | .write process bytes => writeOutput process bytes
  | .quit process code => quit process code

/-- Something that was caused happens. -/
def happen (notice : Tasks.Notice Hook) : Act Unit := do
  match notice with
  | .wake task => modifyTasks (·.resume task)
  | .release promise => settle promise (.ok .unit)
  | .relay source target =>
    match (← get).tasks.outcome? source with
    | some outcome => settle target outcome
    | none => return
  | .tally promise => modifyTasks (·.countDown promise)
  | .hook hook => happenHook hook

/-- The task that runs goes on to its next point, or ends. -/
def advanceTask (task : Nat) (outcome : Outcome) : Act Unit := do
  match (← get).tasks.tasks[task]? with
  | none => modifyTasks fun s => { s with running := none }
  | some t =>
    match t.stack with
    | [] =>
      modifyTasks fun s => { s with running := none }
      settle t.result outcome
    | point :: rest =>
      modifyTasks fun s => { s with tasks := s.tasks.set task { t with stack := rest } }
      let next ← point.resume outcome
      modifyTasks (·.proceed task next)

/-- One step. -/
def stepAct : Act Unit := do
  let w ← get
  match w.tasks.running with
  | some (task, outcome) => advanceTask task outcome
  | none =>
    match w.tasks.takeNotice with
    | none => return
    | some (notice, tasks) =>
      set { w with tasks }
      happen notice

/-- Takes an action at once. -/
def perform {α : Type} (w : World) (action : Act α) : World :=
  (action.run w).2

/-- One step. -/
def step (w : World) : World :=
  w.perform stepAct

/-- Takes steps until nothing can run, at most the given number. -/
def runSteps : Nat → World → World
  | 0, w => w
  | fuel + 1, w => if w.tasks.isIdle then w else runSteps fuel w.step

/-- Moves time on to a moment. -/
def moveTo (w : World) (moment : Nat) : World :=
  { w with tasks := w.tasks.moveTo moment }

/-- Runs until a moment: everything that is due until then happens, in order. -/
def runUntil : Nat → Nat → World → World
  | 0, moment, w => w.moveTo moment
  | fuel + 1, moment, w =>
    let w := runSteps (fuel + 1) w
    match w.tasks.nextDue? with
    | some due => if due ≤ moment then runUntil fuel moment (w.moveTo due) else w.moveTo moment
    | none => w.moveTo moment

/-- The outcome of a task, by the promise of its result. -/
def outcome? (w : World) (result : Nat) : Option Outcome :=
  w.tasks.outcome? result

/-- Runs until a promise is settled, or until nothing more will happen. -/
def runUntilSettled : Nat → Nat → World → World
  | 0, _, w => w
  | fuel + 1, result, w =>
    let w := runSteps (fuel + 1) w
    if (w.outcome? result).isSome then w
    else
      match w.tasks.nextDue? with
      | some due => runUntilSettled fuel result (w.moveTo due)
      | none => w

/-- Starts a task; the promise of its result. -/
def begin (w : World) (activity : Activity) : World × Nat :=
  let ((_, result), w) := (spawn activity).run w
  (w, result)

/-- Runs an activity to its end. -/
def runToEnd (fuel : Nat) (w : World) (activity : Activity) : World × Option Outcome :=
  let (w, result) := w.begin activity
  let w := runUntilSettled fuel result w
  (w, w.outcome? result)

end World

end BasiliskServer
