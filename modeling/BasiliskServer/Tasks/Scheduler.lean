import BasiliskServer.Failure
import BasiliskServer.Tasks.Heap

/-!
# Cooperative tasks

Many things are under way at once, and every one of them waits most of the time. Each is a task: a
stack of points at which it goes on, together with the promise it waits for. Only one task runs at
a time, and it runs until it waits. A promise is settled once; whoever observes it is put at the
end of the queue then, so that everything happens in the order in which it was caused.

What is in the queue happens in turns: a turn takes everything that was in the queue when it began.
Time is a counter that moves only when nothing can run. Timers wait in a heap; one that is stopped
stays there until it comes to the front, or until there are too many of them.

The scheduler is generic: `Point` is the type of the points at which tasks go on, `Answer` the type
of the values that promises are settled with, and `Hook` the type of further things that can be
caused by a promise or a timer.
-/

namespace BasiliskServer.Tasks

/-- What is caused by a settled promise or by a timer that goes off. -/
inductive Notice (Hook : Type) where
  /-- A task goes on. -/
  | wake (task : Nat)
  /-- A promise is settled. -/
  | release (promise : Nat)
  /-- A promise is settled like another one. -/
  | relay (source target : Nat)
  /-- A promise that waits for several things has one of them. -/
  | tally (promise : Nat)
  /-- Anything else. -/
  | hook (hook : Hook)

/-- A value that will be known later. -/
structure Promise (Answer Hook : Type) where
  /-- The value, once it is known, or why there is none. -/
  outcome : Option (Except Failure Answer) := none
  /-- What is caused when it is known. -/
  observers : List (Notice Hook) := []
  /-- How many things it still waits for, if it waits for several. -/
  missing : Nat := 0
  /-- The task whose result it is, if it is one. -/
  task : Option Nat := none

/-- Something that is under way. -/
structure Task (Point : Type) where
  /-- Where it goes on, innermost first. -/
  stack : List Point
  /-- The promise of its result. -/
  result : Nat
  /-- The promise that it waits for. -/
  waiting : Option Nat := none
  /-- Whether it is to be given up when it goes on. -/
  interrupted : Bool := false
  /-- Whether it has run before. -/
  begun : Bool := false

/-- Something that happens at a time. -/
structure Timer (Hook : Type) where
  /-- Its number. -/
  number : Nat
  /-- When it goes off. -/
  due : Nat
  /-- What it causes. -/
  notice : Notice Hook
  /-- Whether it was stopped. -/
  stopped : Bool := false

/-- How a task goes on after a stretch of running. -/
inductive Next (Point Answer : Type) where
  /-- It waits for a promise and then goes on at the points. -/
  | wait (promise : Nat) (points : List Point)
  /-- It goes on at the points at once. -/
  | go (outcome : Except Failure Answer) (points : List Point)

/-- The same with a further point at which it goes on afterwards. -/
def Next.under {Point Answer : Type} (point : Point) : Next Point Answer → Next Point Answer
  | .wait promise points => .wait promise (points ++ [point])
  | .go outcome points => .go outcome (points ++ [point])

/-- All tasks, promises and timers. -/
structure Scheduler (Point Answer Hook : Type) where
  /-- The time. -/
  now : Nat := 0
  /-- The promises by number. -/
  promises : List (Promise Answer Hook) := []
  /-- The tasks by number. -/
  tasks : List (Task Point) := []
  /-- What has been caused and has not happened yet. -/
  ready : List (Notice Hook) := []
  /-- How much of that belongs to the turn that is going on. -/
  turn : Nat := 0
  /-- What happens later. -/
  timers : Heap (Timer Hook) := {}
  /-- How many timers there have been. -/
  timerCount : Nat := 0
  /-- How many timers were stopped while they waited, since all of them were last taken away; those
  that came to the front do not count, except when they were due. -/
  stoppedCount : Nat := 0
  /-- The task that runs, and the outcome with which it goes on. -/
  running : Option (Nat × Except Failure Answer) := none

namespace Scheduler

variable {Point Answer Hook : Type}

/-- The outcome of a promise. -/
def outcome? (s : Scheduler Point Answer Hook) (promise : Nat) : Option (Except Failure Answer) :=
  s.promises[promise]?.bind (·.outcome)

/-- Whether a promise is settled. -/
def isSettled (s : Scheduler Point Answer Hook) (promise : Nat) : Bool :=
  (s.outcome? promise).isSome

/-- Makes a promise that waits for the given number of things. -/
def addPromise (s : Scheduler Point Answer Hook) (missing : Nat := 0) :
    Nat × Scheduler Point Answer Hook :=
  (s.promises.length, { s with promises := s.promises ++ [{ missing }] })

/-- Settles a promise that is not settled yet, which causes what its observers say. -/
def settle (s : Scheduler Point Answer Hook) (promise : Nat) (outcome : Except Failure Answer) :
    Scheduler Point Answer Hook :=
  match s.promises[promise]? with
  | none => s
  | some p =>
    if p.outcome.isSome then s
    else
      { s with
        promises := s.promises.set promise { p with outcome := some outcome, observers := [] }
        ready := s.ready ++ p.observers }

/-- Observes a promise; if it is settled, the observation is caused at once. -/
def observe (s : Scheduler Point Answer Hook) (promise : Nat) (notice : Notice Hook) :
    Scheduler Point Answer Hook :=
  match s.promises[promise]? with
  | none => s
  | some p =>
    if p.outcome.isSome then { s with ready := s.ready ++ [notice] }
    else
      { s with
        promises := s.promises.set promise { p with observers := p.observers ++ [notice] } }

/-- Starts a task at a point; its number and the promise of its result. -/
def spawn (s : Scheduler Point Answer Hook) (point : Point) :
    (Nat × Nat) × Scheduler Point Answer Hook :=
  let task := s.tasks.length
  let promise := s.promises.length
  ((task, promise),
    { s with
      promises := s.promises ++ [{ task := some task }]
      tasks := s.tasks ++ [{ stack := [point], result := promise }]
      ready := s.ready ++ [.wake task] })

/-- Gives a task up: what it waits for is given up, and if that is settled already, the task is
interrupted when it goes on. -/
def interrupt (s : Scheduler Point Answer Hook) (task : Nat) : Scheduler Point Answer Hook :=
  match s.tasks[task]? with
  | none => s
  | some t =>
    if s.isSettled t.result then s
    else match t.waiting with
      | some promise =>
        if s.isSettled promise then
          { s with tasks := s.tasks.set task { t with interrupted := true } }
        else s.settle promise (.error .cancelled)
      | none => { s with tasks := s.tasks.set task { t with interrupted := true } }

/-- Gives a promise up: the task whose result it is, or else the promise itself. -/
def giveUp (s : Scheduler Point Answer Hook) (promise : Nat) : Scheduler Point Answer Hook :=
  match s.promises[promise]?.bind (·.task) with
  | some task => s.interrupt task
  | none => s.settle promise (.error .cancelled)

/-- Sets a timer; its number. -/
def addTimer (s : Scheduler Point Answer Hook) (delay : Nat) (notice : Notice Hook) :
    Nat × Scheduler Point Answer Hook :=
  (s.timerCount,
    { s with
      timers := s.timers.push Timer.due
        { number := s.timerCount, due := s.now + delay, notice }
      timerCount := s.timerCount + 1 })

/-- Stops a timer. -/
def stopTimer (s : Scheduler Point Answer Hook) (number : Nat) : Scheduler Point Answer Hook :=
  let isMeant (timer : Timer Hook) : Bool := timer.number = number && !timer.stopped
  { s with
    timers := s.timers.map fun timer =>
      if isMeant timer then { timer with stopped := true } else timer
    stoppedCount := s.stoppedCount + s.timers.items.countP isMeant }

/-- So many timers may wait before the stopped ones among them are counted. -/
def timerCrowd : Nat := 100

/-- Takes stopped timers away: all of them if they are more than half of a crowd, otherwise those
that have come to the front. -/
def dropStopped (s : Scheduler Point Answer Hook) : Scheduler Point Answer Hook :=
  if timerCrowd < s.timers.size && s.timers.size < 2 * s.stoppedCount then
    { s with
      timers := .ofList Timer.due (s.timers.items.filter (!·.stopped))
      stoppedCount := 0 }
  else
    let (dropped, timers) := s.timers.popWhile Timer.due Timer.stopped
    { s with timers, stoppedCount := s.stoppedCount - dropped.length }

/-- Takes what happens next from the queue; a turn begins when the last one is over. -/
def takeNotice (s : Scheduler Point Answer Hook) :
    Option (Notice Hook × Scheduler Point Answer Hook) :=
  match s.ready with
  | [] => none
  | notice :: rest =>
    if s.turn = 0 then some (notice, { s.dropStopped with ready := rest, turn := rest.length })
    else some (notice, { s with ready := rest, turn := s.turn - 1 })

/-- A promise that waits for several things has one of them. -/
def countDown [Inhabited Answer] (s : Scheduler Point Answer Hook) (promise : Nat) :
    Scheduler Point Answer Hook :=
  match s.promises[promise]? with
  | none => s
  | some p =>
    let s := { s with promises := s.promises.set promise { p with missing := p.missing - 1 } }
    if p.missing ≤ 1 then s.settle promise (.ok default) else s

/-- What a task has waited for has come to: nothing while the promise is not settled. -/
def news? [Inhabited Answer] (s : Scheduler Point Answer Hook) (t : Task Point) :
    Option (Except Failure Answer) :=
  match t.waiting with
  | none => some (.ok default)
  | some promise => s.outcome? promise

/-- A task goes on with the outcome of the promise that it waited for. A task that is given up
before it has run does not run at all. -/
def resume [Inhabited Answer] (s : Scheduler Point Answer Hook) (task : Nat) :
    Scheduler Point Answer Hook :=
  match s.tasks[task]? with
  | none => s
  | some t =>
    match s.news? t with
    | none => s
    | some outcome =>
      { s with
        tasks := s.tasks.set task
          { t with
            stack := if t.interrupted && !t.begun then [] else t.stack
            waiting := none
            interrupted := false
            begun := true }
        running := some (task, if t.interrupted then .error .cancelled else outcome) }

/-- The running task goes on as told, or waits. -/
def proceed (s : Scheduler Point Answer Hook) (task : Nat) (next : Next Point Answer) :
    Scheduler Point Answer Hook :=
  match s.tasks[task]? with
  | none => { s with running := none }
  | some t =>
    match next with
    | .go outcome points =>
      { s with
        tasks := s.tasks.set task { t with stack := points ++ t.stack }
        running := some (task, outcome) }
    | .wait promise points =>
      let stack := points ++ t.stack
      match s.outcome? promise with
      | some outcome =>
        { s with tasks := s.tasks.set task { t with stack }, running := some (task, outcome) }
      | none =>
        { s with
          tasks := s.tasks.set task { t with stack, waiting := some promise }
          running := none }.observe promise (.wake task)

/-- Whether nothing can run at the current time. -/
def isIdle (s : Scheduler Point Answer Hook) : Bool :=
  s.running.isNone && s.ready.isEmpty

/-- When the next timer goes off. -/
def nextDue? (s : Scheduler Point Answer Hook) : Option Nat :=
  s.dropStopped.timers.head?.map (·.due)

/-- Moves the time on to a moment; the timers that are due then go off, earliest first. -/
def moveTo (s : Scheduler Point Answer Hook) (moment : Nat) : Scheduler Point Answer Hook :=
  let s := s.dropStopped
  let (due, timers) := s.timers.popWhile Timer.due (·.due ≤ moment)
  let ready := s.ready ++ (due.filter (!·.stopped)).map (·.notice)
  { s with now := max s.now moment, timers, ready, turn := ready.length }

end Scheduler

end BasiliskServer.Tasks
