import BasiliskServer.Proofs.World.Ledger.Purposes

/-!
# Promises, timers and time as the ledger says

`Books` says that everything in the scheduler is as the ledger says: promises are settled as they may
be, notices settle what they may, the points of every task fit together, and a task that does not run
waits for something that it can go on with. Making, settling and observing promises keeps it so, with
new entries in the ledger where promises are made, and so does what time does.
-/

namespace BasiliskServer.World

open Tasks (Notice Scheduler Standing)

/-- A task that does not run waits for something that it can go on with, or has not begun, or is
over. -/
structure Ledger.Rests (Γ : Ledger) (below : Expectation) (task : Tasks.Task Point) : Prop where
  /-- It waits for something that it can go on with. -/
  feeds : ∀ q, task.waiting = some q →
    Γ.Feeds task.result q (expected below task.stack) ∧ task.begun = true
  /-- If it waits for nothing, it has not begun or is over. -/
  fresh : task.waiting = none →
    task.stack = [] ∨ task.begun = false ∧ ∃ activity, task.stack = [.start activity]

/-- A task is as the ledger says. -/
structure Ledger.Keeps (Γ : Ledger) (counter : Counter) (rests : Prop) (task : Tasks.Task Point)
    (below : Expectation) : Prop where
  /-- What the task comes to is as the promise of its result is for. -/
  purpose : ∃ purpose, Γ.purposes[task.result]? = some purpose ∧ purpose.expectation? = some below
  /-- Its points fit together. -/
  sits : Γ.Sits counter task.result below task.stack
  /-- If it is to be given up, the promise of its result is. -/
  interrupted : task.interrupted = true → task.result ∈ Γ.dropped
  /-- If it does not run, it can go on. -/
  rests : rests → Γ.Rests below task

/-- Everything in the scheduler is as the ledger says; the task with the result `owner` runs, if any,
and does not wait. -/
structure Books (counter : Counter) (owner : Option Nat) (Γ : Ledger) (f : Facts)
    (s : Scheduler Point Answer Hook) : Prop where
  /-- Every promise has its entry. -/
  length : Γ.purposes.length = s.promises.length
  /-- What was given up could be given up. -/
  dropped : ∀ q ∈ Γ.dropped, ∃ purpose, Γ.purposes[q]? = some purpose ∧
    ∃ other, purpose.IsDroppable other
  /-- What was settled was settled as it may be. -/
  outcomes : ∀ (q : Nat) (purpose : Purpose) (outcome : Outcome), Γ.purposes[q]? = some purpose →
    s.outcome? q = some outcome → Γ.Permits f q purpose outcome
  /-- What is going to be settled will be settled as it may be. -/
  notices : ∀ notice ∈ s.notices, Γ.Allows notice
  /-- Every task is as the ledger says. -/
  tasks : ∀ (number : Nat) (task : Tasks.Task Point), s.tasks[number]? = some task →
    ∃ below, Γ.Keeps counter (∀ outcome, s.running ≠ some (number, outcome)) task below
  /-- The result of a task that is over is known. -/
  finished : ∀ (number : Nat) (task : Tasks.Task Point), s.tasks[number]? = some task →
    (∀ outcome, s.running ≠ some (number, outcome)) → task.stack = [] → task.waiting = none →
    (s.outcome? task.result).isSome
  /-- The promise of the result of a task says so. -/
  results : ∀ (number : Nat) (task : Tasks.Task Point), s.tasks[number]? = some task →
    (s.promises[task.result]?).bind (·.task) = some number
  /-- A promise that says so is that of the result of a task. -/
  owners : ∀ (q number : Nat), (s.promises[q]?).bind (·.task) = some number →
    ∃ task, s.tasks[number]? = some task ∧ task.result = q
  /-- Other promises are for something else. -/
  bare : ∀ (q : Nat) (purpose : Purpose), Γ.purposes[q]? = some purpose →
    (s.promises[q]?).bind (·.task) = none → purpose.expectation? = none
  /-- Tasks in the background are known by their numbers. -/
  errands : ∀ (q number : Nat), Γ.purposes[q]? = some (.errand number) →
    (s.promises[q]?).bind (·.task) = some number
  /-- The task that runs has begun and waits for nothing. -/
  running : ∀ (number : Nat) (outcome : Outcome), s.running = some (number, outcome) →
    ∃ task, s.tasks[number]? = some task ∧ task.waiting = none ∧ task.begun = true
  /-- The task with the result runs, and no point of it waits. -/
  acting : ∀ result, owner = some result → ∃ number outcome task,
    s.running = some (number, outcome) ∧ s.tasks[number]? = some task ∧ task.result = result ∧
      ∀ point ∈ task.stack, point.isWait = false

/-- An entry for a promise that is made. -/
def Ledger.add (Γ : Ledger) (purpose : Purpose) : Ledger :=
  { Γ with purposes := Γ.purposes ++ [purpose] }

/-- An entry for a promise that is given up. -/
def Ledger.drop (Γ : Ledger) (q : Nat) : Ledger :=
  { Γ with dropped := q :: Γ.dropped }

variable {Γ Γ' : Ledger} {f f' : Facts} {counter : Counter} {owner : Option Nat} {result : Nat}
  {below e : Expectation} {outcome : Outcome}

theorem Ledger.extends_add (purpose : Purpose) : Γ.Extends owner (Γ.add purpose) where
  purposes := fun _ _ hq => Tasks.getElem?_append_of_some hq [purpose]
  dropped := fun _ hq => hq
  droppable := fun _ hq => .inl hq

theorem Ledger.extends_drop {q : Nat} {purpose : Purpose} (hpurpose : Γ.purposes[q]? = some purpose)
    (hdroppable : purpose.IsDroppable owner) : Γ.Extends owner (Γ.drop q) where
  purposes := fun _ _ h => h
  dropped := fun _ h => List.mem_cons_of_mem _ h
  droppable := by
    intro other hother
    rcases List.mem_cons.1 hother with rfl | hother
    · exact .inr ⟨purpose, hpurpose, hdroppable⟩
    · exact .inl hother

theorem Ledger.purposes_add_of {q : Nat} {known : Purpose} (h : Γ.purposes[q]? = some known)
    (purpose : Purpose) : (Γ.add purpose).purposes[q]? = some known :=
  (Ledger.extends_add purpose : Γ.Extends none (Γ.add purpose)).purposes q known h

theorem Ledger.purposes_add_length (purpose : Purpose) :
    (Γ.add purpose).purposes[Γ.purposes.length]? = some purpose := by
  simp [Ledger.add]

/-- What a promise is for when there is another one. -/
theorem Ledger.purposes_add_cases {q : Nat} {known purpose : Purpose}
    (h : (Γ.add purpose).purposes[q]? = some known) :
    Γ.purposes[q]? = some known ∨ q = Γ.purposes.length ∧ known = purpose :=
  Tasks.getElem?_concat_cases h

/-- A task that is not running keeps waiting for what it can go on with. -/
theorem Ledger.Rests.mono {task : Tasks.Task Point} (h : Γ.Rests below task)
    (hext : Γ.Extends owner Γ') (hother : owner ≠ some task.result) : Γ'.Rests below task where
  feeds := fun q hq => ⟨(h.feeds q hq).1.mono hext hother, (h.feeds q hq).2⟩
  fresh := h.fresh

theorem Ledger.Keeps.mono {rests : Prop} {task : Tasks.Task Point}
    (h : Γ.Keeps counter rests task below) (hext : Γ.Extends owner Γ')
    (hsafe : owner ≠ some task.result ∨ (∀ point ∈ task.stack, point.isWait = false) ∧ ¬ rests) :
    Γ'.Keeps counter rests task below where
  purpose := h.purpose.imp fun _ hp => ⟨hext.purposes _ _ hp.1, hp.2⟩
  sits := h.sits.mono hext (hsafe.imp id And.left)
  interrupted := fun hflag => hext.dropped _ (h.interrupted hflag)
  rests := fun hrests => hsafe.elim (fun hother => (h.rests hrests).mono hext hother)
    fun hnot => absurd hrests hnot.2

namespace Books

variable {s s' : Scheduler Point Answer Hook}

/-- Two tasks with the same result are the same. -/
theorem eq_of_result (h : Books counter owner Γ f s) {i j : Nat} {a b : Tasks.Task Point}
    (ha : s.tasks[i]? = some a) (hb : s.tasks[j]? = some b) (hresult : a.result = b.result) :
    i = j := by
  have hi := h.results i a ha
  rw [hresult, h.results j b hb] at hi
  exact (Option.some.inj hi).symm

/-- The tasks are as a ledger with further entries says. -/
theorem tasks_mono (h : Books counter owner Γ f s) (hext : Γ.Extends owner Γ') {number : Nat}
    {task : Tasks.Task Point} (ht : s.tasks[number]? = some task) :
    ∃ below, Γ'.Keeps counter (∀ outcome, s.running ≠ some (number, outcome)) task below := by
  obtain ⟨below, hkeeps⟩ := h.tasks number task ht
  refine ⟨below, hkeeps.mono hext ?_⟩
  by_cases howner : owner = some task.result
  · obtain ⟨other, outcome, acting, hrunning, hacting, hresult, hcalm⟩ := h.acting _ howner
    obtain rfl := h.eq_of_result hacting ht hresult
    rw [hacting] at ht
    obtain rfl := Option.some.inj ht
    exact .inr ⟨hcalm, fun hnot => hnot outcome hrunning⟩
  · exact .inl howner

/-- More is known of processes and channels. -/
theorem grow (h : Books counter owner Γ f s) (hgrow : f.Grow f') : Books counter owner Γ f' s :=
  { h with
    outcomes := fun q purpose outcome hq ho =>
      (h.outcomes q purpose outcome hq ho).mono (Ledger.Extends.refl : Γ.Extends owner Γ) hgrow }

/-- Only notices, timers and the time have changed. -/
theorem of_notices (h : Books counter owner Γ f s) (hrunning : s'.running = s.running)
    (htasks : s'.tasks = s.tasks) (hpromises : s'.promises = s.promises)
    (hnotices : ∀ notice ∈ s'.notices, notice ∈ s.notices ∨ Γ.Allows notice) :
    Books counter owner Γ f s' where
  length := by rw [hpromises]; exact h.length
  dropped := h.dropped
  outcomes := by simp only [Scheduler.outcome?, hpromises]; exact h.outcomes
  notices := fun notice hnotice => (hnotices notice hnotice).elim (h.notices notice) id
  tasks := by rw [htasks, hrunning]; exact h.tasks
  finished := by rw [htasks, hrunning]; simp only [Scheduler.outcome?, hpromises]; exact h.finished
  results := by rw [htasks, hpromises]; exact h.results
  owners := by rw [htasks, hpromises]; exact h.owners
  bare := by rw [hpromises]; exact h.bare
  errands := by rw [hpromises]; exact h.errands
  running := by rw [hrunning, htasks]; exact h.running
  acting := by rw [hrunning, htasks]; exact h.acting

/-- One promise was changed, and with it what is queued. -/
theorem of_promise {q : Nat} {p p' : Tasks.Promise Answer Hook} (h : Books counter owner Γ f s)
    (halters : s.Alters s' q p p')
    (hnotices : ∀ notice ∈ s'.notices, notice ∈ s.notices ∨ Γ.Allows notice)
    (hsettled : p.outcome.isSome → p'.outcome.isSome)
    (houtcome : ∀ outcome, p'.outcome = some outcome → p.outcome = some outcome ∨
      ∀ purpose, Γ.purposes[q]? = some purpose → Γ.Permits f q purpose outcome) :
    Books counter owner Γ f s' := by
  -- the promises say what they did about tasks
  have hsame := halters.bind_task
  refine ⟨?length, h.dropped, ?outcomes, ?notices, ?tasks, ?finished, ?results, ?owners, ?bare,
    ?errands, ?running, ?acting⟩
  case length =>
    rw [halters.length]
    exact h.length
  case outcomes =>
    intro other purpose outcome hpurpose ho
    rw [halters.outcome?] at ho
    split at ho
    · subst other
      rcases houtcome outcome ho with hold | hpermits
      · exact h.outcomes q purpose outcome hpurpose (halters.outcome?_of_self.trans hold)
      · exact hpermits purpose hpurpose
    · exact h.outcomes other purpose outcome hpurpose ho
  case notices => exact fun notice hnotice => (hnotices notice hnotice).elim (h.notices notice) id
  case tasks =>
    rw [halters.tasks, halters.running]
    exact h.tasks
  case finished =>
    rw [halters.tasks, halters.running]
    intro number task ht hidle hnil hnone
    have hsome := h.finished number task ht hidle hnil hnone
    rw [halters.outcome?]
    split
    · rename_i heq
      rw [heq, halters.outcome?_of_self] at hsome
      exact hsettled hsome
    · exact hsome
  case results =>
    rw [halters.tasks]
    exact fun number task ht => (hsame _).trans (h.results number task ht)
  case owners =>
    rw [halters.tasks]
    exact fun other number ho => h.owners other number ((hsame other).symm.trans ho)
  case bare =>
    exact fun other purpose hpurpose ho => h.bare other purpose hpurpose ((hsame other).symm.trans ho)
  case errands =>
    exact fun other number hpurpose => (hsame other).trans (h.errands other number hpurpose)
  case running =>
    rw [halters.running, halters.tasks]
    exact h.running
  case acting =>
    rw [halters.running, halters.tasks]
    exact h.acting

/-! ## Promises -/

/-- A promise is settled as it may be. -/
theorem settle (h : Books counter owner Γ f s) {q : Nat}
    (hpermits : ∀ purpose, Γ.purposes[q]? = some purpose → Γ.Permits f q purpose outcome) :
    Books counter owner Γ f (s.settle q outcome) := by
  rcases s.settle_cases q outcome with ⟨hsame, -⟩ | ⟨p, -, halters, -⟩
  · rw [hsame]
    exact h
  · refine h.of_promise halters (fun _ hnotice => .inl (Scheduler.mem_notices_settle hnotice))
      (fun _ => rfl) fun outcome' ho => ?_
    rw [← Option.some.inj ho]
    exact .inr hpermits

/-- A promise is observed with a notice that settles what it may. -/
theorem observe (h : Books counter owner Γ f s) (q : Nat) {notice : Notice Hook}
    (hallows : Γ.Allows notice) : Books counter owner Γ f (s.observe q notice) := by
  have hnotices : ∀ other ∈ (s.observe q notice).notices, other ∈ s.notices ∨ Γ.Allows other := by
    intro other hother
    rcases Scheduler.mem_notices_observe hother with hold | rfl
    · exact .inl hold
    · exact .inr hallows
  rcases s.observe_cases q notice with ⟨-, hsame⟩ | ⟨-, hqueued⟩ | ⟨p, -, halters, -⟩
  · rw [hsame]
    exact h
  · rw [hqueued] at hnotices ⊢
    exact h.of_notices rfl rfl rfl hnotices
  · exact h.of_promise halters hnotices id fun _ ho => .inl ho

/-- What is known of promises that were there before one was added. -/
theorem outcome?_append {p : Tasks.Promise Answer Hook} {promises : List (Tasks.Promise Answer Hook)}
    {q : Nat} (hnone : p.outcome = none)
    (ho : ((promises ++ [p])[q]?).bind (·.outcome) = some outcome) :
    (promises[q]?).bind (·.outcome) = some outcome := by
  refine (Tasks.bind_concat_cases ho).resolve_right fun ⟨_, hnew⟩ => ?_
  rw [hnone] at hnew
  cases hnew

/-- A promise is made for something else than the result of a task. -/
theorem addPromise (h : Books counter owner Γ f s) (missing : Nat) {purpose : Purpose}
    (hpurpose : purpose.expectation? = none) :
    Books counter owner (Γ.add purpose) f (s.addPromise missing).2 := by
  have hext : Γ.Extends owner (Γ.add purpose) := Ledger.extends_add purpose
  have hlength := h.length
  have hnew : (s.addPromise missing).2.promises = s.promises ++ [{ missing := missing }] := rfl
  -- the new promise says nothing about tasks
  have hsame : ∀ q : Nat, ((s.addPromise missing).2.promises[q]?).bind (·.task) =
      (s.promises[q]?).bind (·.task) := by
    intro q
    rw [hnew, List.getElem?_append]
    split
    · rfl
    · rename_i hge
      have hnone : s.promises[q]? = none := List.getElem?_eq_none (by omega)
      rw [hnone]
      cases hq : ([{ missing := missing }] : List (Tasks.Promise Answer Hook))[q - s.promises.length]? with
      | none => rfl
      | some p => rw [List.mem_singleton.1 (List.mem_of_getElem? hq)]; rfl
  refine ⟨?length, ?dropped, ?outcomes, ?notices, ?tasks, ?finished, ?results, ?owners, ?bare,
    ?errands, h.running, h.acting⟩
  case length => simp [Ledger.add, hnew, hlength]
  case dropped =>
    intro q hq
    obtain ⟨other, hother, hdroppable⟩ := h.dropped q hq
    exact ⟨other, hext.purposes _ _ hother, hdroppable⟩
  case outcomes =>
    intro q other outcome hother ho
    have ho : s.outcome? q = some outcome := outcome?_append rfl ho
    obtain ⟨p, hp, -⟩ := Option.bind_eq_some_iff.1 ho
    have hlt := (List.getElem?_eq_some_iff.1 hp).1
    rw [Ledger.add, List.getElem?_append_left (by omega)] at hother
    exact (h.outcomes q other outcome hother ho).mono hext (.refl f)
  case notices =>
    intro notice hnotice
    have hnotice : notice ∈ s.notices := by
      simpa [Scheduler.notices, Scheduler.addPromise] using hnotice
    exact (h.notices notice hnotice).mono hext
  case tasks => exact fun number task ht => h.tasks_mono hext ht
  case finished =>
    exact fun number task ht hidle hnil hnone =>
      Tasks.isSome_bind_append (h.finished number task ht hidle hnil hnone) _
  case results => exact fun number task ht => (hsame _).trans (h.results number task ht)
  case owners => exact fun q number hq => h.owners q number ((hsame q).symm.trans hq)
  case bare =>
    intro q other hother hq
    rw [hsame] at hq
    rcases Ledger.purposes_add_cases hother with hold | ⟨-, rfl⟩
    · exact h.bare q other hold hq
    · exact hpurpose
  case errands =>
    intro q number hq
    rw [hsame]
    rcases Ledger.purposes_add_cases hq with hold | ⟨-, rfl⟩
    · exact h.errands q number hold
    · cases hpurpose

/-- A promise that waits for several things has one of them. -/
theorem countDown (h : Books counter owner Γ f s) {q : Nat} (hallows : Γ.Allows (.tally q)) :
    Books counter owner Γ f (s.countDown q) := by
  rcases s.countDown_cases q with hsame | ⟨p, counted, halters, hready, heq⟩
  · rw [hsame]
    exact h
  -- To count down alone settles nothing.
  have hcounted : Books counter owner Γ f counted :=
    h.of_promise halters (fun _ hnotice => .inl (halters.mem_notices_of_same hready rfl hnotice)) id
      fun _ ho => .inl ho
  rcases heq with heq | heq <;> rw [heq]
  · exact hcounted
  · refine hcounted.settle fun purpose hpurpose => ?_
    rcases hallows with hpause | hidle
    · rw [hpause] at hpurpose
      rw [← Option.some.inj hpurpose]
      exact ⟨_, rfl⟩
    · rw [hidle] at hpurpose
      rw [← Option.some.inj hpurpose]
      trivial

/-! ## Timers and time -/

/-- A timer is set with a notice that settles what it may. -/
theorem addTimer (h : Books counter owner Γ f s) (delay : Nat) {notice : Notice Hook}
    (hallows : Γ.Allows notice) : Books counter owner Γ f (s.addTimer delay notice).2 := by
  refine h.of_notices rfl rfl rfl fun other hother => ?_
  rcases Scheduler.mem_notices_addTimer hother with hold | rfl
  · exact .inl hold
  · exact .inr hallows

theorem stopTimer (h : Books counter owner Γ f s) (number : Nat) :
    Books counter owner Γ f (s.stopTimer number) :=
  h.of_notices rfl rfl rfl fun _ hother => .inl (Scheduler.mem_notices_stopTimer hother)

/-- What is next in the queue is taken. -/
theorem takeNotice (h : Books counter owner Γ f s) {notice : Notice Hook}
    (htake : s.takeNotice = some (notice, s')) :
    Books counter owner Γ f s' ∧ notice ∈ s.ready := by
  obtain ⟨hrunning, htasks, hpromises, -⟩ := Scheduler.takeNotice_same htake
  exact ⟨h.of_notices hrunning htasks hpromises fun _ hother =>
    .inl (Scheduler.mem_notices_takeNotice htake hother), Scheduler.mem_ready_of_takeNotice htake⟩

/-- Time moves on. -/
theorem moveTo (h : Books counter owner Γ f s) (moment : Nat) :
    Books counter owner Γ f (s.moveTo moment) := by
  obtain ⟨hrunning, htasks, hpromises⟩ := s.moveTo_same moment
  exact h.of_notices hrunning htasks hpromises fun _ hother => .inl (Scheduler.mem_notices_moveTo hother)

end Books

end BasiliskServer.World
