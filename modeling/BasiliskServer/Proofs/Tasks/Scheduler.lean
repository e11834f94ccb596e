import BasiliskServer.Proofs.Tasks.Operations

/-!
# What the scheduler leaves as it is

Everything that an activity does to the scheduler while it runs leaves the other tasks where they
are: tasks may be added, promises may be added and settled, notices may be queued, but no task is
moved. `Grows` says so, relative to a scheduler from which the activity started, together with what
is known about promises: a settled promise stays as it is, and a promise that was there before is
settled with an answer only if somebody was going to settle it (`targets`, and what the activity
calls its own). A promise that nobody else is going to settle is thus safe from everything that
grows the scheduler.
-/

namespace BasiliskServer.Tasks

/-! ## Who is going to settle a promise -/

variable {Point Answer Hook : Type}

/-- The promise that a notice settles. -/
def Notice.target? : Notice Hook → Option Nat
  | .release promise => some promise
  | .relay _ target => some target
  | .tally promise => some promise
  | .wake _ => none
  | .hook _ => none

/-- What matters to others about a task: its points, what it waits for, and whether it has run. -/
structure Standing (Point : Type) where
  /-- Where it goes on, innermost first. -/
  stack : List Point
  /-- The promise that it waits for. -/
  waiting : Option Nat := none
  /-- Whether it has run before. -/
  begun : Bool := false

/-- What matters to others about a task. -/
def Task.standing (t : Task Point) : Standing Point :=
  ⟨t.stack, t.waiting, t.begun⟩

namespace Scheduler

/-- The promises that a notice or the end of a task is going to settle. -/
def targets (s : Scheduler Point Answer Hook) : List Nat :=
  s.notices.filterMap Notice.target? ++ s.tasks.map (·.result)

/-- What matters about all tasks. -/
def standings (s : Scheduler Point Answer Hook) : List (Standing Point) :=
  s.tasks.map Task.standing

/-- The scheduler `s` has grown out of `base`: no task was moved, the tasks that were added are at
points that `start` allows, and of the promises of `base` only `own` ones and those that
were to be settled anyway have been settled with an answer. -/
structure Grows (start : Point → Prop) (own : Nat → Prop)
    (base s : Scheduler Point Answer Hook) : Prop where
  /-- The same task runs. -/
  running : s.running = base.running
  /-- Tasks were added. -/
  standings : ∃ points : List Point, (∀ point ∈ points, start point) ∧
    s.standings = base.standings ++ points.map ({ stack := [·] })
  /-- Promises were added. -/
  promises : base.promises.length ≤ s.promises.length
  /-- Nobody is going to settle a promise of others. -/
  targets : ∀ q ∈ s.targets, q ∈ base.targets ∨
    base.promises.length ≤ q ∧ q < s.promises.length
  /-- What was settled is as it was. -/
  kept : ∀ q outcome, base.outcome? q = some outcome → s.outcome? q = some outcome
  /-- What was settled meanwhile was somebody's to settle. -/
  settled : ∀ q answer, s.outcome? q = some (.ok answer) → base.outcome? q = some (.ok answer) ∨
    own q ∨ base.promises.length ≤ q

variable {start : Point → Prop} {own : Nat → Prop} {base s : Scheduler Point Answer Hook}

theorem mem_targets {q : Nat} : q ∈ s.targets ↔
    (∃ notice ∈ s.notices, notice.target? = some q) ∨ ∃ t ∈ s.tasks, t.result = q := by
  simp [targets]

/-- Changing one item does not show in what its change leaves as it was. -/
theorem map_set_of_eq {α β : Type} {items : List α} {number : Nat} {a b : α} {f : α → β}
    (ha : items[number]? = some a) (hb : f b = f a) : (items.set number b).map f = items.map f := by
  refine List.ext_getElem? fun i => ?_
  rw [List.map_set, List.getElem?_set]
  split
  · subst i
    obtain ⟨hlt, heq⟩ := List.getElem?_eq_some_iff.1 ha
    simp [hlt, heq, hb]
  · rfl

/-- A task that is moved settles what it was going to settle. -/
theorem targets_set {task : Nat} {t : Task Point} (ht : s.tasks[task]? = some t) (t' : Task Point)
    (hresult : t'.result = t.result) (running : Option (Nat × Except Failure Answer)) :
    targets { s with tasks := s.tasks.set task t', running } = s.targets := by
  have hresults : (s.tasks.set task t').map (·.result) = s.tasks.map (·.result) :=
    map_set_of_eq ht hresult
  simp only [targets, notices, hresults]

namespace Grows

protected theorem refl : Grows start own s s where
  running := rfl
  standings := ⟨[], by simp, by simp⟩
  promises := Nat.le_refl _
  targets := fun _ h => .inl h
  kept := fun _ _ h => h
  settled := fun _ _ h => .inl h

/-- Promises that somebody is going to settle were targets before, or are new. -/
theorem targets_of_notices {s' : Scheduler Point Answer Hook} (h : Grows start own base s)
    (tasks : s'.tasks = s.tasks) (length : s'.promises.length = s.promises.length)
    (notices : ∀ notice ∈ s'.notices, notice ∈ s.notices ∨
      ∀ q, notice.target? = some q → base.promises.length ≤ q ∧ q < s.promises.length)
    {q : Nat} (hq : q ∈ s'.targets) :
    q ∈ base.targets ∨ base.promises.length ≤ q ∧ q < s'.promises.length := by
  rw [length]
  rcases mem_targets.1 hq with ⟨notice, hnotice, hq⟩ | ⟨t, ht, hq⟩
  · rcases notices notice hnotice with hold | hfresh
    · exact h.targets q (mem_targets.2 (.inl ⟨notice, hold, hq⟩))
    · exact .inr (hfresh q hq)
  · exact h.targets q (mem_targets.2 (.inr ⟨t, tasks ▸ ht, hq⟩))

/-- Grows from the same base again where only notices, timers and the time have changed. -/
theorem of_notices {s' : Scheduler Point Answer Hook} (h : Grows start own base s)
    (running : s'.running = s.running) (tasks : s'.tasks = s.tasks)
    (promises : s'.promises = s.promises)
    (notices : ∀ notice ∈ s'.notices, notice ∈ s.notices ∨
      ∀ q, notice.target? = some q → base.promises.length ≤ q ∧ q < s.promises.length) :
    Grows start own base s' where
  running := by rw [running, h.running]
  standings := by rw [Scheduler.standings, tasks]; exact h.standings
  promises := by rw [promises]; exact h.promises
  targets := fun _ => h.targets_of_notices tasks (congrArg List.length promises) notices
  kept := by simp only [outcome?, promises]; exact h.kept
  settled := by simp only [outcome?, promises]; exact h.settled

/-- Grows from the same base again where one promise was changed, and with it what is queued. -/
theorem of_promise {s' : Scheduler Point Answer Hook} {promise : Nat} {p p' : Promise Answer Hook}
    (h : Grows start own base s) (halters : s.Alters s' promise p p')
    (notices : ∀ notice ∈ s'.notices, notice ∈ s.notices ∨
      ∀ q, notice.target? = some q → base.promises.length ≤ q ∧ q < s.promises.length)
    (kept : ∀ outcome, p.outcome = some outcome → p'.outcome = some outcome)
    (settled : ∀ answer, p'.outcome = some (.ok answer) → p.outcome = some (.ok answer) ∨
      own promise ∨ base.promises.length ≤ promise) :
    Grows start own base s' where
  running := by rw [halters.running, h.running]
  standings := by rw [Scheduler.standings, halters.tasks]; exact h.standings
  promises := by rw [halters.length]; exact h.promises
  targets := fun _ => h.targets_of_notices halters.tasks halters.length notices
  kept := fun q outcome hq => halters.outcome?_of_outcome? kept (h.kept q outcome hq)
  settled := by
    intro q answer hq
    rw [halters.outcome?] at hq
    split at hq
    · subst q
      rcases settled answer hq with hold | hown
      · exact h.settled promise answer (halters.outcome?_of_self.trans hold)
      · exact .inr hown
    · exact h.settled q answer hq

theorem addPromise (h : Grows start own base s) (missing : Nat) :
    Grows start own base (s.addPromise missing).2 where
  running := h.running
  standings := h.standings
  promises := by
    have := h.promises
    simp only [Scheduler.addPromise, List.length_append, List.length_singleton]
    omega
  targets := by
    intro q hq
    have hq : q ∈ s.targets := by simpa [Scheduler.addPromise, Scheduler.targets, notices] using hq
    refine (h.targets q hq).imp id (And.imp_right fun hlt => ?_)
    simp only [Scheduler.addPromise, List.length_append, List.length_singleton]
    omega
  kept := by
    intro q outcome hq
    have hs := h.kept q outcome hq
    simp only [outcome?, Option.bind_eq_some_iff, Scheduler.addPromise] at hs ⊢
    obtain ⟨p, hp, ho⟩ := hs
    exact ⟨p, getElem?_append_of_some hp _, ho⟩
  settled := by
    intro q answer hq
    simp only [outcome?, Scheduler.addPromise, List.getElem?_append] at hq
    split at hq
    · exact h.settled q answer hq
    · have := h.promises
      exact .inr (.inr (by omega))

/-- Settles a promise with a failure, or one that is the activity's own with anything. -/
theorem settle (h : Grows start own base s) {promise : Nat} {outcome : Except Failure Answer}
    (hown : (∃ failure, outcome = .error failure) ∨ own promise ∨
      base.promises.length ≤ promise) :
    Grows start own base (s.settle promise outcome) := by
  rcases s.settle_cases promise outcome with ⟨hsame, -⟩ | ⟨p, hopen, halters, -⟩
  · rw [hsame]
    exact h
  · refine h.of_promise halters (fun _ hnotice => .inl (mem_notices_settle hnotice)) (by simp [hopen])
      fun answer heq => ?_
    rcases hown with ⟨failure, rfl⟩ | hown
    · cases heq
    · exact .inr hown

/-- Observes a promise with a notice that concerns nobody else. -/
theorem observe (h : Grows start own base s) {promise : Nat} {notice : Notice Hook}
    (hfresh : ∀ q, notice.target? = some q → base.promises.length ≤ q ∧ q < s.promises.length) :
    Grows start own base (s.observe promise notice) := by
  have hnotices : ∀ other ∈ (s.observe promise notice).notices, other ∈ s.notices ∨
      ∀ q, other.target? = some q → base.promises.length ≤ q ∧ q < s.promises.length := by
    intro other hother
    rcases mem_notices_observe hother with hold | rfl
    · exact .inl hold
    · exact .inr hfresh
  rcases s.observe_cases promise notice with ⟨-, hsame⟩ | ⟨-, hqueued⟩ | ⟨p, -, halters, -⟩
  · rw [hsame]
    exact h
  · rw [hqueued] at hnotices ⊢
    exact h.of_notices rfl rfl rfl hnotices
  · exact h.of_promise halters hnotices (fun _ heq => heq) fun _ heq => .inl heq

/-- Starts a task at a point that is allowed. -/
theorem spawn (h : Grows start own base s) {point : Point} (hpoint : start point) :
    Grows start own base (s.spawn point).2 where
  running := h.running
  standings := by
    obtain ⟨points, hpoints, heq⟩ := h.standings
    refine ⟨points ++ [point], ?_, ?_⟩
    · simpa [or_imp, forall_and] using ⟨hpoints, hpoint⟩
    · rw [List.map_append, ← List.append_assoc, ← heq]
      simp [Scheduler.spawn, Scheduler.standings, Task.standing]
  promises := by
    have := h.promises
    simp only [Scheduler.spawn, List.length_append, List.length_singleton]
    omega
  targets := by
    intro q hq
    -- Of what is queued for promises only the result of the new task is new.
    have hcases : q ∈ s.targets ∨ q = s.promises.length := by
      simp only [mem_targets, mem_notices, Scheduler.spawn, List.mem_append,
        List.mem_singleton] at hq ⊢
      rcases hq with ⟨notice, (hready | rfl) | htimer | ⟨p, hp | rfl, hin⟩, hq⟩ |
        ⟨t, ht | rfl, rfl⟩
      · exact .inl (.inl ⟨notice, .inl hready, hq⟩)
      · simp [Notice.target?] at hq
      · exact .inl (.inl ⟨notice, .inr (.inl htimer), hq⟩)
      · exact .inl (.inl ⟨notice, .inr (.inr ⟨p, hp, hin⟩), hq⟩)
      · simp at hin
      · exact .inl (.inr ⟨t, ht, rfl⟩)
      · exact .inr rfl
    have := h.promises
    simp only [Scheduler.spawn, List.length_append, List.length_singleton]
    rcases hcases with hq | rfl
    · exact (h.targets q hq).imp id (And.imp_right fun hlt => by omega)
    · exact .inr ⟨h.promises, by omega⟩
  kept := by
    intro q outcome hq
    have hs := h.kept q outcome hq
    simp only [outcome?, Option.bind_eq_some_iff, Scheduler.spawn] at hs ⊢
    obtain ⟨p, hp, ho⟩ := hs
    exact ⟨p, getElem?_append_of_some hp _, ho⟩
  settled := by
    intro q answer hq
    simp only [outcome?, Scheduler.spawn, List.getElem?_append] at hq
    split at hq
    · exact h.settled q answer hq
    · have := h.promises
      exact .inr (.inr (by omega))

/-- Marks a task as given up. -/
theorem mark (h : Grows start own base s) {task : Nat} {t : Task Point}
    (ht : s.tasks[task]? = some t) :
    Grows start own base
      { s with tasks := s.tasks.set task { t with interrupted := true } } where
  running := h.running
  standings := by
    have heq : (s.tasks.set task { t with interrupted := true }).map Task.standing =
        s.tasks.map Task.standing := map_set_of_eq ht rfl
    rw [Scheduler.standings, heq]
    exact h.standings
  promises := h.promises
  targets := by
    have hsame : ({ s with tasks := s.tasks.set task { t with interrupted := true } } :
        Scheduler Point Answer Hook).targets = s.targets := targets_set ht { t with interrupted := true } rfl s.running
    rw [hsame]
    exact h.targets
  kept := h.kept
  settled := h.settled

theorem interrupt (h : Grows start own base s) (task : Nat) :
    Grows start own base (s.interrupt task) := by
  rcases s.interrupt_cases task with heq | ⟨t, ht, heq | ⟨q, -, heq⟩⟩ <;> rw [heq]
  · exact h
  · exact h.mark ht
  · exact h.settle (.inl ⟨_, rfl⟩)

theorem giveUp (h : Grows start own base s) (promise : Nat) :
    Grows start own base (s.giveUp promise) := by
  rcases s.giveUp_cases promise with ⟨task, -, heq⟩ | ⟨-, heq⟩ <;> rw [heq]
  · exact h.interrupt task
  · exact h.settle (.inl ⟨_, rfl⟩)

/-- Sets a timer with a notice that concerns nobody else. -/
theorem addTimer (h : Grows start own base s) {delay : Nat} {notice : Notice Hook}
    (hfresh : ∀ q, notice.target? = some q → base.promises.length ≤ q ∧ q < s.promises.length) :
    Grows start own base (s.addTimer delay notice).2 := by
  refine h.of_notices rfl rfl rfl fun other hother => ?_
  rcases mem_notices_addTimer hother with hold | rfl
  · exact .inl hold
  · exact .inr hfresh

theorem stopTimer (h : Grows start own base s) (number : Nat) :
    Grows start own base (s.stopTimer number) :=
  h.of_notices rfl rfl rfl fun _ hother => .inl (mem_notices_stopTimer hother)

/-- What is next in the queue is taken. -/
theorem takeNotice (h : Grows start own base s) {notice : Notice Hook}
    {s' : Scheduler Point Answer Hook} (htake : s.takeNotice = some (notice, s')) :
    Grows start own base s' ∧ notice ∈ s.ready := by
  obtain ⟨hrunning, htasks, hpromises, -⟩ := takeNotice_same htake
  exact ⟨h.of_notices hrunning htasks hpromises fun _ hother => .inl (mem_notices_takeNotice htake hother),
    mem_ready_of_takeNotice htake⟩

/-- A promise that is the activity's own has one more of the things that it waits for. -/
theorem countDown [Inhabited Answer] (h : Grows start own base s) {promise : Nat}
    (hown : own promise ∨ base.promises.length ≤ promise) :
    Grows start own base (s.countDown promise) := by
  rcases s.countDown_cases promise with hsame | ⟨p, counted, halters, hready, heq⟩
  · rw [hsame]
    exact h
  have hcounted : Grows start own base counted := by
    exact h.of_promise halters (fun _ hnotice => .inl (halters.mem_notices_of_same hready rfl hnotice))
      (fun _ heq => heq) fun _ heq => .inl heq
  rcases heq with heq | heq <;> rw [heq]
  · exact hcounted
  · exact hcounted.settle (.inr hown)

/-- Time moves on. -/
theorem moveTo (h : Grows start own base s) (moment : Nat) :
    Grows start own base (s.moveTo moment) := by
  obtain ⟨hrunning, htasks, hpromises⟩ := s.moveTo_same moment
  exact h.of_notices hrunning htasks hpromises fun _ hother => .inl (mem_notices_moveTo hother)

/-- Growing twice is growing, if what is settled the second time was to be settled before. -/
protected theorem trans {own' : Nat → Prop} {s' : Scheduler Point Answer Hook}
    (h : Grows start own base s) (h' : Grows start own' s s')
    (hown : ∀ q, own' q → own q ∨ base.promises.length ≤ q) : Grows start own base s' where
  running := h'.running.trans h.running
  standings := by
    obtain ⟨points, hpoints, heq⟩ := h.standings
    obtain ⟨points', hpoints', heq'⟩ := h'.standings
    refine ⟨points ++ points', ?_, ?_⟩
    · intro point hpoint
      exact (List.mem_append.1 hpoint).elim (hpoints point) (hpoints' point)
    · rw [heq', heq, List.map_append, List.append_assoc]
  promises := Nat.le_trans h.promises h'.promises
  targets := by
    intro q hq
    have hle := h.promises
    have hle' := h'.promises
    rcases h'.targets q hq with hq | ⟨hge, hlt⟩
    · exact (h.targets q hq).imp id (And.imp_right fun hlt => by omega)
    · exact .inr ⟨by omega, hlt⟩
  kept := fun q outcome hq => h'.kept q outcome (h.kept q outcome hq)
  settled := by
    intro q answer hq
    have hle := h.promises
    rcases h'.settled q answer hq with hq | hq | hge
    · exact h.settled q answer hq
    · exact .inr (hown q hq)
    · exact .inr (.inr (by omega))

end Grows

end Scheduler

end BasiliskServer.Tasks
