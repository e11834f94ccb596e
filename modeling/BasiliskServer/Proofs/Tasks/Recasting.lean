import BasiliskServer.Tasks.Scheduler

/-!
# What the scheduler does not look at

The scheduler keeps the points at which tasks go on and the values that promises are settled with,
but it decides nothing by them: it only has to know who is given up and what is known without a
value. So a scheduler in which points and outcomes are replaced by others does the same as before,
with those in their places (`Recasting.resume_scheduler`, `Recasting.proceed_scheduler`).
-/

namespace BasiliskServer.Tasks

/-- What takes the place of points and outcomes. Who is given up is so afterwards, and what is known
without a value is. -/
structure Recasting (Point Answer : Type) [Inhabited Answer] where
  /-- What takes the place of a point. -/
  point : Point → Point
  /-- What takes the place of an outcome. -/
  outcome : Except Failure Answer → Except Failure Answer
  /-- Who is given up is given up. -/
  outcome_cancelled : outcome (.error .cancelled) = .error .cancelled
  /-- What is known without a value is so. -/
  outcome_default : outcome (.ok default) = .ok default

namespace Recasting

variable {Point Answer Hook : Type} [Inhabited Answer] (ρ : Recasting Point Answer)
  (s : Scheduler Point Answer Hook)

/-- A promise that is settled with what takes the place of its outcome. -/
def promise (p : Promise Answer Hook) : Promise Answer Hook :=
  { p with outcome := p.outcome.map ρ.outcome }

/-- A task that goes on at what takes the place of its points. -/
def task (t : Task Point) : Task Point :=
  { t with stack := t.stack.map ρ.point }

/-- What takes the place of how a task goes on. -/
def next : Next Point Answer → Next Point Answer
  | .wait promise points => .wait promise (points.map ρ.point)
  | .go outcome points => .go (ρ.outcome outcome) (points.map ρ.point)

/-- A scheduler with other points and outcomes. -/
def scheduler : Scheduler Point Answer Hook :=
  { s with
    promises := s.promises.map ρ.promise
    tasks := s.tasks.map ρ.task
    running := s.running.map fun (task, outcome) => (task, ρ.outcome outcome) }

/-! ## Looking -/

theorem promises_scheduler (q : Nat) :
    (ρ.scheduler s).promises[q]? = (s.promises[q]?).map ρ.promise :=
  List.getElem?_map ..

theorem tasks_scheduler (n : Nat) : (ρ.scheduler s).tasks[n]? = (s.tasks[n]?).map ρ.task :=
  List.getElem?_map ..

theorem outcome?_scheduler (q : Nat) :
    (ρ.scheduler s).outcome? q = (s.outcome? q).map ρ.outcome := by
  rw [Scheduler.outcome?, promises_scheduler, Scheduler.outcome?]
  cases s.promises[q]? <;> rfl

theorem isSettled_scheduler (q : Nat) : (ρ.scheduler s).isSettled q = s.isSettled q := by
  rw [Scheduler.isSettled, outcome?_scheduler, Option.isSome_map, Scheduler.isSettled]

theorem isIdle_scheduler : (ρ.scheduler s).isIdle = s.isIdle := by
  simp [Scheduler.isIdle, scheduler]

/-! ## Promises -/

theorem addPromise_scheduler (missing : Nat) :
    (ρ.scheduler s).addPromise missing =
      ((s.addPromise missing).1, ρ.scheduler (s.addPromise missing).2) := by
  simp [Scheduler.addPromise, scheduler, promise]

theorem settle_scheduler (q : Nat) (outcome : Except Failure Answer) :
    (ρ.scheduler s).settle q (ρ.outcome outcome) = ρ.scheduler (s.settle q outcome) := by
  unfold Scheduler.settle
  rw [promises_scheduler]
  cases s.promises[q]? with
  | none => rfl
  | some p =>
    cases hp : p.outcome with
    | some known => simp [promise, hp]
    | none => simp [promise, hp, scheduler, List.map_set]

theorem settle_cancelled_scheduler (q : Nat) :
    (ρ.scheduler s).settle q (.error .cancelled) = ρ.scheduler (s.settle q (.error .cancelled)) := by
  rw [← settle_scheduler, outcome_cancelled]

theorem observe_scheduler (q : Nat) (notice : Notice Hook) :
    (ρ.scheduler s).observe q notice = ρ.scheduler (s.observe q notice) := by
  unfold Scheduler.observe
  rw [promises_scheduler]
  cases s.promises[q]? with
  | none => rfl
  | some p => cases hp : p.outcome <;> simp [promise, hp, scheduler, List.map_set]

theorem countDown_scheduler (q : Nat) :
    (ρ.scheduler s).countDown q = ρ.scheduler (s.countDown q) := by
  unfold Scheduler.countDown
  rw [promises_scheduler]
  cases s.promises[q]? with
  | none => rfl
  | some p =>
    have hless : { ρ.scheduler s with
        promises := (ρ.scheduler s).promises.set q
          { ρ.promise p with missing := (ρ.promise p).missing - 1 } } =
        ρ.scheduler { s with promises := s.promises.set q { p with missing := p.missing - 1 } } := by
      simp [scheduler, List.map_set, promise]
    simp only [Option.map_some]
    rw [hless]
    show (if p.missing ≤ 1 then _ else _) = ρ.scheduler (if p.missing ≤ 1 then _ else _)
    split
    · rw [← settle_scheduler, outcome_default]
    · rfl

/-! ## Tasks -/

theorem spawn_scheduler (point : Point) :
    (ρ.scheduler s).spawn (ρ.point point) =
      ((s.spawn point).1, ρ.scheduler (s.spawn point).2) := by
  simp [Scheduler.spawn, scheduler, promise, task]

theorem interrupt_scheduler (n : Nat) :
    (ρ.scheduler s).interrupt n = ρ.scheduler (s.interrupt n) := by
  unfold Scheduler.interrupt
  rw [tasks_scheduler]
  cases s.tasks[n]? with
  | none => rfl
  | some t =>
    simp only [Option.map_some]
    rw [show (ρ.task t).result = t.result from rfl, show (ρ.task t).waiting = t.waiting from rfl,
      isSettled_scheduler]
    split
    · rfl
    · cases t.waiting with
      | none => simp [scheduler, List.map_set, task]
      | some q =>
        simp only [isSettled_scheduler]
        split
        · simp [scheduler, List.map_set, task]
        · exact settle_cancelled_scheduler ρ s q

theorem giveUp_scheduler (q : Nat) : (ρ.scheduler s).giveUp q = ρ.scheduler (s.giveUp q) := by
  have htask : (ρ.scheduler s).promises[q]?.bind (·.task) = s.promises[q]?.bind (·.task) := by
    rw [promises_scheduler]
    cases s.promises[q]? <;> rfl
  unfold Scheduler.giveUp
  rw [htask]
  split
  · exact interrupt_scheduler ρ s _
  · exact settle_cancelled_scheduler ρ s q

/-- A task that was woken goes on as before, with what takes the place of its points and of what it has
waited for. -/
theorem resume_scheduler (n : Nat) : (ρ.scheduler s).resume n = ρ.scheduler (s.resume n) := by
  have hnews : ∀ t : Task Point,
      (ρ.scheduler s).news? (ρ.task t) = (s.news? t).map ρ.outcome := fun t => by
    unfold Scheduler.news?
    rw [show (ρ.task t).waiting = t.waiting from rfl]
    cases t.waiting with
    | none => exact congrArg some ρ.outcome_default.symm
    | some q => exact outcome?_scheduler ρ s q
  unfold Scheduler.resume
  rw [tasks_scheduler]
  cases s.tasks[n]? with
  | none => rfl
  | some t =>
    simp only [Option.map_some, hnews]
    cases s.news? t with
    | none => rfl
    | some outcome =>
      rw [show (ρ.task t).interrupted = t.interrupted from rfl, show (ρ.task t).begun = t.begun from rfl]
      cases t.interrupted <;> cases t.begun <;>
        simp [scheduler, List.map_set, task, outcome_cancelled]

/-- A task that has acted goes on as before, with what takes the place of its points and outcomes. -/
theorem proceed_scheduler (n : Nat) (next : Next Point Answer) :
    (ρ.scheduler s).proceed n (ρ.next next) = ρ.scheduler (s.proceed n next) := by
  unfold Scheduler.proceed
  rw [tasks_scheduler]
  cases s.tasks[n]? with
  | none => rfl
  | some t =>
    cases next with
    | go outcome points => simp [Recasting.next, scheduler, List.map_set, task]
    | wait q points =>
      simp only [Option.map_some, Recasting.next, outcome?_scheduler]
      cases s.outcome? q with
      | some outcome => simp [scheduler, List.map_set, task]
      | none =>
        simp only [Option.map_none]
        rw [← observe_scheduler]
        congr 1
        simp [scheduler, List.map_set, task]

/-! ## Time -/

theorem dropStopped_scheduler : (ρ.scheduler s).dropStopped = ρ.scheduler s.dropStopped := by
  unfold Scheduler.dropStopped
  rw [apply_ite ρ.scheduler]
  rfl

theorem takeNotice_scheduler :
    (ρ.scheduler s).takeNotice =
      s.takeNotice.map fun (notice, rest) => (notice, ρ.scheduler rest) := by
  unfold Scheduler.takeNotice
  rw [show (ρ.scheduler s).ready = s.ready from rfl, show (ρ.scheduler s).turn = s.turn from rfl,
    dropStopped_scheduler]
  cases s.ready with
  | nil => rfl
  | cons notice rest =>
    simp only
    split <;> rfl

theorem nextDue?_scheduler : (ρ.scheduler s).nextDue? = s.nextDue? := by
  rw [Scheduler.nextDue?, dropStopped_scheduler, Scheduler.nextDue?]
  rfl

theorem moveTo_scheduler (moment : Nat) :
    (ρ.scheduler s).moveTo moment = ρ.scheduler (s.moveTo moment) := by
  unfold Scheduler.moveTo
  rw [dropStopped_scheduler]
  rfl

end Recasting

end BasiliskServer.Tasks
