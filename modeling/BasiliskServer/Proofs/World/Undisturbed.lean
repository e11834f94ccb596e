import BasiliskServer.Proofs.World.Ledger.Tasks
import BasiliskServer.Proofs.World.Bystanders

/-!
# A channel that nobody closes

While nobody closes a channel, none of its tasks is given up, and nothing is settled but the results
of tasks that are over, what those who wait for bytes or for the end of the process wait for, and the
promise of the task that waits until all output is read. That promise is settled by the result of the
reader alone: it is a tally, and the notice for it is caused by the first promise.

`Undisturbed` says so. It brings that the end of the process is reported only when the reader is over
(`gone`), which it is because there is nothing more to read, or because it has failed. Every
elementary action that can happen while nobody closes the channel keeps it.
-/

namespace BasiliskServer.World

open Tasks (Notice Scheduler)

/-! ## Promises and notices -/

/-- A promise that is nobody's result. -/
def IsPlain (s : Scheduler Point Answer Hook) (q : Nat) : Prop :=
  ∃ promise, s.promises[q]? = some promise ∧ promise.task = none

/-- The notices that settle nothing by themselves. -/
def isLight : Notice Hook → Bool
  | .wake _ | .hook _ => true
  | _ => false

/-- The notices of tallies. -/
def isTally : Notice Hook → Bool
  | .tally _ => true
  | _ => false

/-- The points at which a task waits until all output is read. -/
def Point.isDrained : Point → Bool
  | .channel (.drained _ _) => true
  | _ => false

/-- The points of other tasks than the reader while nobody closes the channel. -/
def Point.isCalm : Point → Bool
  | .start (.readErrors _) | .start (.closeChannel _) => true
  | .start (.watch _ reader) => reader = 0
  | .program (.ending _) => true
  | .channel (.errors _ _) | .channel (.drained _ _) | .channel (.gone _ _) => true
  | _ => false

/-- Nothing disturbs the tasks of a channel; the `waiters` are the promises that the process
settles. The first task is the reader, and the first promise that of its result. -/
structure Undisturbed (s : Scheduler Point Answer Hook) (waiters : List Nat) : Prop where
  /-- The first promise is that of the result of the reader. -/
  reader : ∃ t, s.tasks[0]? = some t ∧ t.result = 0
  /-- The promise of the result of a task says so. -/
  results : ∀ (i : Nat) (t : Tasks.Task Point), s.tasks[i]? = some t →
    ∃ promise, s.promises[t.result]? = some promise ∧ promise.task = some i
  /-- The other tasks are those of the channel that do not read its output, or will close it. -/
  calm : ∀ (i : Nat) (t : Tasks.Task Point), s.tasks[i]? = some t → i ≠ 0 →
    ∀ point ∈ t.stack, point.isCalm
  /-- Nobody waits for the result of a task. -/
  waits : ∀ t ∈ s.tasks, ∀ q, t.waiting = some q → IsPlain s q
  /-- Nothing that somebody waits for was given up. -/
  unharmed : ∀ q, IsPlain s q → ∀ failure, s.outcome? q ≠ some (.error failure)
  /-- No task is to be given up. -/
  eager : ∀ t ∈ s.tasks, t.interrupted = false
  /-- What the process settles is nobody's result. -/
  served : ∀ q ∈ waiters, IsPlain s q
  /-- Tallies are counted down when the reader is over. -/
  ready : ∀ notice ∈ s.ready, isLight notice ∨ isTally notice ∧ s.isSettled 0
  /-- Nothing is settled because time has passed. -/
  timers : ∀ timer ∈ s.timers.items, isLight timer.notice
  /-- Only the result of the reader counts tallies down. -/
  observers : ∀ (q : Nat) (promise : Tasks.Promise Answer Hook), s.promises[q]? = some promise →
    ∀ notice ∈ promise.observers, isLight notice ∨ isTally notice ∧ q = 0
  /-- The task that runs waits for nothing, and the reader goes on only if all is well. -/
  running : ∀ (i : Nat) (outcome : Outcome), s.running = some (i, outcome) →
    ∃ t, s.tasks[i]? = some t ∧ t.waiting = none ∧
      (i = 0 → t.stack ≠ [] → ∃ answer, outcome = .ok answer)
  /-- When the result of the reader is known, the reader is over. -/
  silent : s.isSettled 0 → ∀ t, s.tasks[0]? = some t → t.stack = []
  /-- Who waits until all output is read waits for a promise that nothing settles before. -/
  drained : ∀ t ∈ s.tasks, (∃ point ∈ t.stack, point.isDrained) →
    s.isSettled 0 ∨ ∃ q, t.waiting = some q ∧ q ∉ waiters ∧ s.isSettled q = false
  /-- The end of the process is waited for when the reader is over. -/
  gone : ∀ t ∈ s.tasks, (∃ point ∈ t.stack, point.isGone) → s.isSettled 0

namespace Undisturbed

variable {s s' : Scheduler Point Answer Hook} {waiters waiters' : List Nat}

/-- The first promise is the result of the reader. -/
theorem reader_promise (h : Undisturbed s waiters) :
    ∃ promise, s.promises[0]? = some promise ∧ promise.task = some 0 := by
  obtain ⟨t, ht, hresult⟩ := h.reader
  simpa only [hresult] using h.results 0 t ht

theorem not_isPlain_result (h : Undisturbed s waiters) {i : Nat} {t : Tasks.Task Point}
    (ht : s.tasks[i]? = some t) : ¬ IsPlain s t.result := by
  rintro ⟨promise, hpromise, hnone⟩
  obtain ⟨other, hother, htask⟩ := h.results i t ht
  obtain rfl := Option.some.inj (hpromise.symm.trans hother)
  rw [hnone] at htask
  cases htask

/-- Only notices and timers have changed. -/
theorem of_notices (h : Undisturbed s waiters)
    (hrunning : s'.running = s.running) (htasks : s'.tasks = s.tasks)
    (hpromises : s'.promises = s.promises)
    (hready : ∀ notice ∈ s'.ready, notice ∈ s.ready ∨ isLight notice ∨
      isTally notice ∧ s.isSettled 0)
    (htimers : ∀ timer ∈ s'.timers.items, timer ∈ s.timers.items ∨ isLight timer.notice) :
    Undisturbed s' waiters := by
  have houtcome : s'.outcome? = s.outcome? := by
    funext q
    rw [Scheduler.outcome?, Scheduler.outcome?, hpromises]
  have hsettled : s'.isSettled = s.isSettled := by
    funext q
    rw [Scheduler.isSettled, Scheduler.isSettled, houtcome]
  have hplain : ∀ q, IsPlain s' q ↔ IsPlain s q := fun q => by rw [IsPlain, IsPlain, hpromises]
  refine ⟨?reader, ?results, ?calm, ?waits, ?unharmed, ?eager, ?served, ?ready, ?timers,
    ?observers, ?running, ?silent, ?drained, ?gone⟩
  case reader => rw [htasks]; exact h.reader
  case results => rw [htasks, hpromises]; exact h.results
  case calm => rw [htasks]; exact h.calm
  case waits =>
    intro t ht q hq
    exact (hplain q).2 (h.waits t (htasks ▸ ht) q hq)
  case unharmed =>
    intro q hq
    rw [houtcome]
    exact h.unharmed q ((hplain q).1 hq)
  case eager => rw [htasks]; exact h.eager
  case served => exact fun q hq => (hplain q).2 (h.served q hq)
  case ready =>
    intro notice hnotice
    rw [hsettled]
    exact (hready notice hnotice).elim (h.ready notice) id
  case timers => exact fun timer htimer => (htimers timer htimer).elim (h.timers timer) id
  case observers => rw [hpromises]; exact h.observers
  case running => rw [hrunning, htasks]; exact h.running
  case silent => rw [hsettled, htasks]; exact h.silent
  case drained =>
    intro t ht hpoint
    rw [hsettled]
    exact h.drained t (htasks ▸ ht) hpoint
  case gone =>
    intro t ht hpoint
    rw [hsettled]
    exact h.gone t (htasks ▸ ht) hpoint

section Promises

variable {q : Nat} {p p' : Tasks.Promise Answer Hook}

theorem isPlain_of_alters (halters : s.Alters s' q p p') (r : Nat) : IsPlain s' r ↔ IsPlain s r := by
  by_cases heq : q = r
  · subst heq
    rw [IsPlain, IsPlain, halters.self, halters.promise]
    simp [halters.task]
  · rw [IsPlain, IsPlain, halters.getElem?_of_ne heq]

/-- A promise has changed, and with it what is queued. If it was settled, then it was one that could
be: with success if it is nobody's result, and the first one when the reader is over. -/
theorem of_promise (h : Undisturbed s waiters) (halters : s.Alters s' q p p')
    (hready : ∀ notice ∈ s'.ready, notice ∈ s.ready ∨ isLight notice ∨
      isTally notice ∧ s'.isSettled 0)
    (hobservers : ∀ notice ∈ p'.observers, notice ∈ p.observers ∨ isLight notice ∨
      isTally notice ∧ q = 0)
    (houtcome : p'.outcome = p.outcome ∨ p.outcome = none ∧
      (IsPlain s q → ∃ answer, p'.outcome = some (.ok answer)) ∧
      (q = 0 → ∀ t, s.tasks[0]? = some t → t.stack = []) ∧
      (s.isSettled 0 ∨ q ∈ waiters ∨ ¬ IsPlain s q)) : Undisturbed s' waiters := by
  have htasks := halters.tasks
  have hplain := isPlain_of_alters halters
  have hother := halters.outcome?
  have hq := halters.outcome?_of_self
  -- What was settled still is.
  have hkept : ∀ r, s.isSettled r → s'.isSettled r := by
    intro r hr
    rw [Scheduler.isSettled] at hr ⊢
    rw [hother]
    split
    · subst r
      rw [hq] at hr
      rcases houtcome with heq | ⟨hnone, -⟩
      · rwa [heq]
      · simp [hnone] at hr
    · exact hr
  -- What is settled now was, or it is this promise.
  have hnew : ∀ r, s'.isSettled r → s.isSettled r ∨ r = q := by
    intro r hr
    rw [Scheduler.isSettled, hother] at hr
    split at hr
    · exact .inr ‹_›
    · exact .inl hr
  refine ⟨?reader, ?results, ?calm, ?waits, ?unharmed, ?eager, ?served, ?ready, ?timers,
    ?observers, ?running, ?silent, ?drained, ?gone⟩
  case reader => rw [htasks]; exact h.reader
  case results =>
    intro i t ht
    obtain ⟨promise, hpromise, hi⟩ := h.results i t (htasks ▸ ht)
    by_cases heq : q = t.result
    · subst heq
      obtain rfl := Option.some.inj (halters.promise.symm.trans hpromise)
      exact ⟨p', halters.self, halters.task.trans hi⟩
    · exact ⟨promise, (halters.getElem?_of_ne heq).trans hpromise, hi⟩
  case calm => rw [htasks]; exact h.calm
  case waits =>
    intro t ht r hr
    exact (hplain r).2 (h.waits t (htasks ▸ ht) r hr)
  case unharmed =>
    intro r hr failure
    have hold := h.unharmed r ((hplain r).1 hr) failure
    rw [hother]
    split
    · subst r
      rcases houtcome with heq | ⟨-, hok, -⟩
      · rwa [heq, ← hq]
      · obtain ⟨answer, hanswer⟩ := hok ((hplain q).1 hr)
        simp [hanswer]
    · exact hold
  case eager => rw [htasks]; exact h.eager
  case served => exact fun r hr => (hplain r).2 (h.served r hr)
  case ready =>
    intro notice hnotice
    rcases hready notice hnotice with hold | hnew
    · exact (h.ready notice hold).imp id (And.imp_right (hkept 0))
    · exact hnew
  case timers => rw [halters.timers]; exact h.timers
  case observers =>
    intro r promise hr notice hnotice
    by_cases heq : q = r
    · subst heq
      obtain rfl := Option.some.inj (halters.self.symm.trans hr)
      exact (hobservers notice hnotice).elim (h.observers q p halters.promise notice) id
    · exact h.observers r promise ((halters.getElem?_of_ne heq).symm.trans hr) notice hnotice
  case running => rw [halters.running, htasks]; exact h.running
  case silent =>
    intro hsettled t ht
    rw [htasks] at ht
    rcases hnew 0 hsettled with hold | hzero
    · exact h.silent hold t ht
    · rcases houtcome with heq | ⟨-, -, hstack, -⟩
      · refine h.silent ?_ t ht
        rw [Scheduler.isSettled, hother, if_pos hzero, heq, ← hq, ← hzero] at hsettled
        rwa [Scheduler.isSettled]
      · exact hstack hzero.symm t ht
  case drained =>
    intro t ht hpoint
    rw [htasks] at ht
    rcases h.drained t ht hpoint with hsettled | ⟨r, hr, hwaiter, hopen⟩
    · exact .inl (hkept 0 hsettled)
    · by_cases hnow : s'.isSettled r
      · -- The promise that it waits for was settled just now, so that the reader is over.
        rcases hnew r hnow with hold | rfl
        · rw [hold] at hopen
          cases hopen
        · rcases houtcome with heq | ⟨-, -, -, hsettled | hin | hresult⟩
          · rw [Scheduler.isSettled, hother, if_pos rfl, heq, ← hq] at hnow
            rw [Scheduler.isSettled] at hopen
            rw [hopen] at hnow
            cases hnow
          · exact .inl (hkept 0 hsettled)
          · exact absurd hin hwaiter
          · exact absurd (h.waits t ht r hr) hresult
      · exact .inr ⟨r, hr, hwaiter, by simpa using hnow⟩
  case gone =>
    intro t ht hpoint
    exact hkept 0 (h.gone t (htasks ▸ ht) hpoint)

/-- A promise is settled that can be. -/
theorem settle (h : Undisturbed s waiters) (q : Nat) {outcome : Outcome}
    (hok : IsPlain s q → ∃ answer, outcome = .ok answer)
    (hreader : q = 0 → ∀ t, s.tasks[0]? = some t → t.stack = [])
    (hmay : s.isSettled 0 ∨ q ∈ waiters ∨ ¬ IsPlain s q) :
    Undisturbed (s.settle q outcome) waiters := by
  rcases s.settle_cases q outcome with ⟨hsame, -⟩ | ⟨p, hopen, halters, hready⟩
  · rw [hsame]
    exact h
  · refine h.of_promise halters (fun notice hnotice => ?_) (fun _ hin => absurd hin List.not_mem_nil)
      (.inr ⟨hopen, fun hplain => (hok hplain).imp fun _ heq => by rw [heq], hreader, hmay⟩)
    -- The observers of the promise are queued; a tally is only among those of the first.
    rw [hready] at hnotice
    rcases List.mem_append.1 hnotice with hold | hobserver
    · exact .inl hold
    · refine .inr ((h.observers q p halters.promise notice hobserver).imp id (And.imp_right ?_))
      rintro rfl
      rw [Scheduler.isSettled, halters.outcome?, if_pos rfl]
      rfl

/-- What the process settles is settled with success. -/
theorem settle_waiter (h : Undisturbed s waiters) (hq : q ∈ waiters) (answer : Answer) :
    Undisturbed (s.settle q (.ok answer)) waiters := by
  refine h.settle q (fun _ => ⟨answer, rfl⟩) (fun hzero => ?_) (.inr (.inl hq))
  -- The first promise is the result of the reader.
  subst hzero
  obtain ⟨t, ht, hresult⟩ := h.reader
  exact absurd (hresult ▸ h.served 0 hq) (hresult ▸ h.not_isPlain_result ht)

/-- A task that is over settles its result. -/
theorem settle_result (h : Undisturbed s waiters) {i : Nat} {t : Tasks.Task Point}
    (ht : s.tasks[i]? = some t) (hover : t.stack = []) (outcome : Outcome) :
    Undisturbed (s.settle t.result outcome) waiters := by
  refine h.settle t.result (fun hplain => absurd hplain (h.not_isPlain_result ht)) ?_
    (.inr (.inr (h.not_isPlain_result ht)))
  intro hzero t' ht'
  obtain ⟨promise, hpromise, htask⟩ := h.results i t ht
  obtain ⟨first, hfirst, hfirstTask⟩ := h.reader_promise
  rw [hzero, hfirst] at hpromise
  obtain rfl := Option.some.inj hpromise
  obtain rfl : i = 0 := Option.some.inj (htask.symm.trans hfirstTask)
  obtain rfl := Option.some.inj (ht.symm.trans ht')
  exact hover

/-- A tally is counted down when the reader is over. -/
theorem countDown (h : Undisturbed s waiters) (hover : s.isSettled 0) (q : Nat) :
    Undisturbed (s.countDown q) waiters := by
  rcases s.countDown_cases q with hsame | ⟨p, counted, halters, hready, heq⟩
  · rw [hsame]
    exact h
  have hcounted : Undisturbed counted waiters :=
    h.of_promise halters (fun _ hin => .inl (hready ▸ hin)) (fun _ hin => .inl hin) (.inl rfl)
  have hstill : counted.isSettled 0 := by
    rw [Scheduler.isSettled] at hover ⊢
    rw [halters.outcome?]
    split
    · rename_i hzero
      rwa [hzero, halters.outcome?_of_self] at hover
    · exact hover
  rcases heq with heq | heq <;> rw [heq]
  · exact hcounted
  · exact hcounted.settle q (fun _ => ⟨_, rfl⟩) (fun _ => hcounted.silent hstill) (.inl hstill)

/-- A promise is observed by something that settles nothing, or by a tally if it is the first. -/
theorem observe (h : Undisturbed s waiters) (q : Nat) {notice : Notice Hook}
    (hnotice : isLight notice ∨ isTally notice ∧ q = 0) :
    Undisturbed (s.observe q notice) waiters := by
  rcases s.observe_cases q notice with ⟨-, hsame⟩ | ⟨hsettled, hqueued⟩ | ⟨p, -, halters, hready⟩
  · rw [hsame]
    exact h
  · rw [hqueued]
    refine h.of_notices rfl rfl rfl (fun other hother => ?_) fun _ hin => .inl hin
    rcases List.mem_append.1 hother with hold | hother
    · exact .inl hold
    · rw [List.mem_singleton.1 hother]
      refine .inr (hnotice.imp id (And.imp_right ?_))
      rintro rfl
      exact hsettled
  · refine h.of_promise halters (fun _ hin => .inl (hready ▸ hin)) (fun other hother => ?_) (.inl rfl)
    rcases List.mem_append.1 hother with hold | hother
    · exact .inl hold
    · rw [List.mem_singleton.1 hother]
      exact .inr hnotice

theorem isPlain_observe (q : Nat) (notice : Notice Hook) (r : Nat) :
    IsPlain (s.observe q notice) r ↔ IsPlain s r := by
  rcases s.observe_cases q notice with ⟨-, hsame⟩ | ⟨-, hqueued⟩ | ⟨p, -, halters, -⟩
  · rw [hsame]
  · rw [hqueued]
    rfl
  · exact isPlain_of_alters halters r

end Promises

/-! ## New promises, tasks and timers -/

/-- What is known of a promise is known when promises were added. -/
theorem outcome?_added {promises : List (Tasks.Promise Answer Hook)}
    (hpromises : s'.promises = s.promises ++ promises)
    (hopen : ∀ promise ∈ promises, promise.outcome = none) : s'.outcome? = s.outcome? := by
  funext q
  rw [Scheduler.outcome?, Scheduler.outcome?, hpromises, List.getElem?_append]
  split
  · rfl
  · rename_i hge
    rw [List.getElem?_eq_none (Nat.le_of_not_lt hge)]
    cases hq : promises[q - s.promises.length]? with
    | none => rfl
    | some promise => exact hopen promise (List.mem_of_getElem? hq)

theorem isPlain_added {promises : List (Tasks.Promise Answer Hook)}
    (hpromises : s'.promises = s.promises ++ promises) {q : Nat} (h : IsPlain s q) :
    IsPlain s' q := by
  obtain ⟨promise, hpromise, hnone⟩ := h
  refine ⟨promise, ?_, hnone⟩
  rw [hpromises, Tasks.getElem?_append_of_some hpromise]

/-- A promise was added that is not settled and that nobody observes, and tasks that have not begun,
whose results they are. -/
theorem of_added (h : Undisturbed s waiters) {promise : Tasks.Promise Answer Hook}
    (added : List (Tasks.Task Point)) (hopen : promise.outcome = none)
    (hobservers : promise.observers = []) (hrunning : s'.running = s.running)
    (htasks : s'.tasks = s.tasks ++ added) (hpromises : s'.promises = s.promises ++ [promise])
    (hready : ∀ notice ∈ s'.ready, notice ∈ s.ready ∨ isLight notice)
    (htimers : s'.timers = s.timers)
    (hadded : ∀ (i : Nat) (t : Tasks.Task Point), added[i]? = some t → t.result = s.promises.length ∧
      promise.task = some (s.tasks.length + i) ∧ t.waiting = none ∧ t.interrupted = false ∧
      ∀ point ∈ t.stack, point.isDrained = false ∧ point.isGone = false ∧ point.isCalm) :
    Undisturbed s' waiters := by
  have houtcome : s'.outcome? = s.outcome? := outcome?_added hpromises (by simpa using hopen)
  have hsettled : s'.isSettled = s.isSettled := by
    funext q
    rw [Scheduler.isSettled, Scheduler.isSettled, houtcome]
  have hplain : ∀ q, IsPlain s q → IsPlain s' q := fun q => isPlain_added hpromises
  have hold : ∀ {i : Nat} {t : Tasks.Task Point}, s.tasks[i]? = some t → s'.tasks[i]? = some t := by
    intro i t ht
    rw [htasks, Tasks.getElem?_append_of_some ht]
  -- A task is an old one, or one of those that were added.
  have hcases : ∀ {t : Tasks.Task Point}, t ∈ s'.tasks →
      t ∈ s.tasks ∨ ∃ i : Nat, added[i]? = some t := by
    intro t ht
    rw [htasks] at ht
    exact (List.mem_append.1 ht).imp id List.getElem?_of_mem
  obtain ⟨first, hfirst, hresult⟩ := h.reader
  refine ⟨⟨first, hold hfirst, hresult⟩, ?results, ?calm, ?waits, ?unharmed, ?eager, ?served,
    ?ready, ?timers, ?observers, ?running, ?silent, ?drained, ?gone⟩
  case results =>
    intro i t ht
    rw [htasks, List.getElem?_append] at ht
    rw [hpromises]
    split at ht
    · obtain ⟨other, hother, hi⟩ := h.results i t ht
      exact ⟨other, Tasks.getElem?_append_of_some hother _, hi⟩
    · rename_i hge
      obtain ⟨hresult, htask, -⟩ := hadded _ t ht
      rw [Nat.add_sub_cancel' (Nat.le_of_not_lt hge)] at htask
      exact ⟨promise, by rw [hresult, List.getElem?_concat_length], htask⟩
  case calm =>
    intro i t ht hi point hpoint
    rw [htasks, List.getElem?_append] at ht
    split at ht
    · exact h.calm i t ht hi point hpoint
    · exact ((hadded _ t ht).2.2.2.2 point hpoint).2.2
  case waits =>
    intro t ht q hq
    rcases hcases ht with ht | ⟨i, hi⟩
    · exact hplain q (h.waits t ht q hq)
    · rw [(hadded i t hi).2.2.1] at hq
      cases hq
  case unharmed =>
    rintro q ⟨other, hother, hnone⟩ failure
    rw [houtcome]
    rw [hpromises, List.getElem?_append] at hother
    split at hother
    · exact h.unharmed q ⟨other, hother, hnone⟩ failure
    · rename_i hge
      rw [Scheduler.outcome?, List.getElem?_eq_none (Nat.le_of_not_lt hge)]
      exact fun heq => by cases heq
  case eager =>
    intro t ht
    rcases hcases ht with ht | ⟨i, hi⟩
    · exact h.eager t ht
    · exact (hadded i t hi).2.2.2.1
  case served => exact fun q hq => hplain q (h.served q hq)
  case ready =>
    intro notice hnotice
    rw [hsettled]
    exact (hready notice hnotice).elim (h.ready notice) .inl
  case timers => rw [htimers]; exact h.timers
  case observers =>
    intro q other hother notice hnotice
    rw [hpromises] at hother
    rcases Tasks.getElem?_concat_cases hother with hold | ⟨-, rfl⟩
    · exact h.observers q other hold notice hnotice
    · rw [hobservers] at hnotice
      exact absurd hnotice List.not_mem_nil
  case running =>
    intro i outcome hi
    obtain ⟨t, ht, hwaits⟩ := h.running i outcome (hrunning ▸ hi)
    exact ⟨t, hold ht, hwaits⟩
  case silent =>
    intro hover t ht
    rw [hsettled] at hover
    obtain rfl := Option.some.inj ((hold hfirst).symm.trans ht)
    exact h.silent hover first hfirst
  case drained =>
    rintro t ht ⟨point, hpoint, hdrained⟩
    rw [hsettled]
    rcases hcases ht with ht | ⟨i, hi⟩
    · exact h.drained t ht ⟨point, hpoint, hdrained⟩
    · rw [((hadded i t hi).2.2.2.2 point hpoint).1] at hdrained
      cases hdrained
  case gone =>
    rintro t ht ⟨point, hpoint, hgone⟩
    rw [hsettled]
    rcases hcases ht with ht | ⟨i, hi⟩
    · exact h.gone t ht ⟨point, hpoint, hgone⟩
    · rw [((hadded i t hi).2.2.2.2 point hpoint).2.1] at hgone
      cases hgone

theorem addPromise (h : Undisturbed s waiters) (missing : Nat) :
    Undisturbed (s.addPromise missing).2 waiters :=
  h.of_added [] rfl rfl rfl (by simp [Scheduler.addPromise]) rfl (fun _ hin => .inl hin) rfl
    fun i t ht => by simp at ht

theorem spawn (h : Undisturbed s waiters) {point : Point} (hdrained : point.isDrained = false)
    (hgone : point.isGone = false) (hcalm : point.isCalm) :
    Undisturbed (s.spawn point).2 waiters := by
  refine h.of_added [_] rfl rfl rfl rfl rfl ?_ rfl ?_
  · intro notice hnotice
    rcases List.mem_append.1 hnotice with hold | hwake
    · exact .inl hold
    · rw [List.mem_singleton.1 hwake]
      exact .inr rfl
  · intro i t ht
    cases i with
    | zero =>
      obtain rfl := Option.some.inj ht
      exact ⟨rfl, rfl, rfl, rfl, fun other hother => by
        rw [List.mem_singleton.1 hother]; exact ⟨hdrained, hgone, hcalm⟩⟩
    | succ i => simp at ht

theorem addTimer (h : Undisturbed s waiters) (delay : Nat) {notice : Notice Hook}
    (hnotice : isLight notice) : Undisturbed (s.addTimer delay notice).2 waiters := by
  refine h.of_notices rfl rfl rfl (fun _ hin => .inl hin) fun timer htimer => ?_
  rcases Tasks.Heap.mem_of_mem_push htimer with hold | rfl
  · exact .inl hold
  · exact .inr hnotice

/-- The process settles other promises, which nobody waits for yet. -/
theorem serve (h : Undisturbed s waiters)
    (hserved : ∀ q ∈ waiters', q ∈ waiters ∨ IsPlain s q ∧ ∀ t ∈ s.tasks, t.waiting ≠ some q) :
    Undisturbed s waiters' :=
  { h with
    served := fun q hq => (hserved q hq).elim (h.served q) And.left
    drained := by
      intro t ht hpoint
      rcases h.drained t ht hpoint with hsettled | ⟨q, hwaiting, hq, hopen⟩
      · exact .inl hsettled
      · refine .inr ⟨q, hwaiting, fun hin => ?_, hopen⟩
        rcases hserved q hin with hold | ⟨-, hfree⟩
        · exact hq hold
        · exact hfree t ht hwaiting }

/-- Nobody waits for a promise before it is made. -/
theorem addPromise_fresh (h : Undisturbed s waiters) (missing : Nat) :
    IsPlain (s.addPromise missing).2 s.promises.length ∧
      ∀ t ∈ (s.addPromise missing).2.tasks, t.waiting ≠ some s.promises.length := by
  refine ⟨⟨{ missing }, List.getElem?_concat_length, rfl⟩, fun t ht hwaiting => ?_⟩
  obtain ⟨promise, hpromise, -⟩ := h.waits t ht _ hwaiting
  exact absurd (List.getElem?_eq_some_iff.1 hpromise).1 (Nat.lt_irrefl _)

/-! ## The queue and the time -/

theorem takeNotice (h : Undisturbed s waiters) {notice : Notice Hook}
    (htake : s.takeNotice = some (notice, s')) :
    Undisturbed s' waiters ∧ notice ∈ s.ready ∧ s'.isSettled = s.isSettled := by
  obtain ⟨hrunning, htasks, hpromises, hready, htimers⟩ := Scheduler.takeNotice_same htake
  refine ⟨h.of_notices hrunning htasks hpromises (fun other hother => .inl (hready other hother))
    fun timer htimer => .inl (htimers timer htimer), Scheduler.mem_ready_of_takeNotice htake, ?_⟩
  funext q
  rw [Scheduler.isSettled, Scheduler.isSettled, Scheduler.outcome?, Scheduler.outcome?, hpromises]

theorem moveTo (h : Undisturbed s waiters) (moment : Nat) :
    Undisturbed (s.moveTo moment) waiters := by
  obtain ⟨hrunning, htasks, hpromises⟩ := s.moveTo_same moment
  obtain ⟨hready, htimers⟩ := s.moveTo_timers moment
  refine h.of_notices hrunning htasks hpromises (fun notice hnotice => ?_) fun timer htimer =>
    .inl (htimers timer htimer)
  rcases hready notice hnotice with hold | ⟨timer, htimer, rfl⟩
  · exact .inl hold
  · exact .inr (.inl (h.timers timer htimer))

/-! ## Tasks that go on -/

/-- Nothing but a task, and what runs, has changed. -/
theorem setTask (h : Undisturbed s waiters) {i : Nat} {t : Tasks.Task Point}
    (ht : s.tasks[i]? = some t) (t' : Tasks.Task Point) (hresult : t'.result = t.result)
    (hinterrupted : t'.interrupted = false) (running : Option (Nat × Outcome))
    (hcalm : i ≠ 0 → ∀ point ∈ t'.stack, point.isCalm)
    (hwaits : ∀ q, t'.waiting = some q → IsPlain s q)
    (hrunning : ∀ other outcome, running = some (other, outcome) → other = i ∧ t'.waiting = none ∧
      (i = 0 → t'.stack ≠ [] → ∃ answer, outcome = .ok answer))
    (hover : i = 0 → s.isSettled 0 → t'.stack = [])
    (hdrained : (∃ point ∈ t'.stack, point.isDrained) →
      s.isSettled 0 ∨ ∃ q, t'.waiting = some q ∧ q ∉ waiters ∧ s.isSettled q = false)
    (hgone : (∃ point ∈ t'.stack, point.isGone) → s.isSettled 0) :
    Undisturbed { s with tasks := s.tasks.set i t', running } waiters := by
  have hlt := (List.getElem?_eq_some_iff.1 ht).1
  have hself : (s.tasks.set i t')[i]? = some t' := List.getElem?_set_self hlt
  obtain ⟨first, hfirst, hzero⟩ := h.reader
  -- promises and notices are the same: for the task that was changed the hypotheses say what is needed
  refine ⟨?reader, ?results, ?calm, ?waits, h.unharmed, ?eager, h.served, h.ready, h.timers,
      h.observers, ?running, ?silent, ?drained, ?gone⟩
  case reader =>
    obtain ⟨now, hnow, ⟨-, rfl, rfl⟩ | ⟨-, rfl⟩⟩ := Tasks.exists_getElem?_set ht hfirst t'
    · exact ⟨now, hnow, hresult.trans hzero⟩
    · exact ⟨now, hnow, hzero⟩
  case results =>
    intro j u hu
    rcases Tasks.getElem?_set_cases hu with ⟨rfl, rfl⟩ | ⟨-, hu⟩
    · rw [hresult]
      exact h.results i t ht
    · exact h.results j u hu
  case calm =>
    intro j u hu hj
    rcases Tasks.getElem?_set_cases hu with ⟨rfl, rfl⟩ | ⟨-, hu⟩
    · exact hcalm hj
    · exact h.calm j u hu hj
  case waits =>
    intro u hu q hq
    rcases List.mem_or_eq_of_mem_set hu with hu | rfl
    · exact h.waits u hu q hq
    · exact hwaits q hq
  case eager =>
    intro u hu
    rcases List.mem_or_eq_of_mem_set hu with hu | rfl
    · exact h.eager u hu
    · exact hinterrupted
  case running =>
    intro j outcome hj
    obtain ⟨rfl, hnone, hok⟩ := hrunning j outcome hj
    exact ⟨t', hself, hnone, hok⟩
  case silent =>
    intro hsettled u hu
    rcases Tasks.getElem?_set_cases hu with ⟨hi, rfl⟩ | ⟨-, hu⟩
    · exact hover hi hsettled
    · exact h.silent hsettled u hu
  case drained =>
    intro u hu hpoint
    rcases List.mem_or_eq_of_mem_set hu with hu | rfl
    · exact h.drained u hu hpoint
    · exact hdrained hpoint
  case gone =>
    intro u hu hpoint
    rcases List.mem_or_eq_of_mem_set hu with hu | rfl
    · exact h.gone u hu hpoint
    · exact hgone hpoint

/-- No task runs. -/
theorem rest (h : Undisturbed s waiters) : Undisturbed { s with running := none } waiters :=
  { h with running := fun _ _ hrunning => by cases hrunning }

/-- A task goes on where it waited. -/
theorem resume (h : Undisturbed s waiters) (i : Nat) : Undisturbed (s.resume i) waiters := by
  rcases s.resume_eq_or i with heq | ⟨t, outcome, ht, hnews, heq⟩ <;> rw [heq]
  · exact h
  have hmem := List.mem_of_getElem? ht
  have heager := h.eager t hmem
  have hstack : t.woken.stack = t.stack := t.stack_woken (.inl heager)
  rw [if_neg (by simp [heager])]
  refine h.setTask ht t.woken rfl rfl (some (i, outcome)) (hstack ▸ h.calm i t ht)
    (fun q hq => by cases hq) ?_ ?_ ?_ (hstack ▸ h.gone t hmem)
  · rintro other news ⟨rfl, rfl⟩
    refine ⟨rfl, rfl, fun _ _ => ?_⟩
    -- What it waited for was not given up.
    rcases Scheduler.news?_eq_some hnews with ⟨-, hok⟩ | ⟨q, hq, hsettled⟩
    · exact ⟨_, hok⟩
    · cases outcome with
      | ok answer => exact ⟨answer, rfl⟩
      | error failure => exact absurd hsettled (h.unharmed q (h.waits t hmem q hq) failure)
  · intro hi hsettled
    subst hi
    exact hstack.trans (h.silent hsettled t ht)
  · intro hpoint
    rw [hstack] at hpoint
    rcases h.drained t hmem hpoint with hsettled | ⟨q, hq, -, hopen⟩
    · exact .inl hsettled
    · -- What it waits for is settled.
      rcases Scheduler.news?_eq_some hnews with ⟨hnone, -⟩ | ⟨q', hq', hsettled⟩
      · rw [hq] at hnone
        cases hnone
      · obtain rfl := Option.some.inj (hq.symm.trans hq')
        rw [Scheduler.isSettled, hsettled] at hopen
        cases hopen

/-- The running task leaves the point at which it goes on. -/
theorem pop (h : Undisturbed s waiters) {i : Nat} {outcome : Outcome} {t : Tasks.Task Point}
    (hrunning : s.running = some (i, outcome)) (ht : s.tasks[i]? = some t) {point : Point}
    {rest : List Point} (hstack : t.stack = point :: rest) (hreader : i = 0 → rest = []) :
    Undisturbed { s with tasks := s.tasks.set i { t with stack := rest } } waiters := by
  have hmem := List.mem_of_getElem? ht
  obtain ⟨t', ht', hnone, hok⟩ := h.running i outcome hrunning
  obtain rfl := Option.some.inj (ht.symm.trans ht')
  have hsub : ∀ other ∈ rest, other ∈ t.stack := fun other hother => by simp [hstack, hother]
  have hset := h.setTask ht { t with stack := rest } rfl (h.eager t hmem) s.running
    (fun hi other hother => h.calm i t ht hi other (hsub other hother)) (h.waits t hmem) ?_ ?_ ?_ ?_
  · exact hset
  · intro other news hother
    obtain ⟨rfl, rfl⟩ := Prod.mk.inj (Option.some.inj (hrunning.symm.trans hother))
    exact ⟨rfl, hnone, fun hzero hne => absurd (hreader hzero) hne⟩
  · exact fun hzero _ => hreader hzero
  · rintro ⟨other, hother, hdrained⟩
    exact h.drained t hmem ⟨other, hsub other hother, hdrained⟩
  · rintro ⟨other, hother, hgone⟩
    exact h.gone t hmem ⟨other, hsub other hother, hgone⟩

end Undisturbed

/-- An activity of a task goes on in a way that disturbs nothing. -/
structure Complies (s : Scheduler Point Answer Hook) (waiters : List Nat) (i : Nat) (next : Next) :
    Prop where
  /-- It waits for something that is nobody's result. -/
  waits : ∀ q front, next = .wait q front → IsPlain s q
  /-- It waits until all output is read for a promise that nothing settles before. -/
  drained : (∃ point ∈ points next, point.isDrained) →
    s.isSettled 0 ∨ ∃ q front, next = .wait q front ∧ q ∉ waiters ∧ s.isSettled q = false
  /-- It waits for the end of the process when the reader is over. -/
  gone : (∃ point ∈ points next, point.isGone) → s.isSettled 0
  /-- The points are those of other tasks than the reader. -/
  calm : i ≠ 0 → ∀ point ∈ points next, point.isCalm
  /-- The reader goes on only if all is well, and while its result is not known. -/
  reader : i = 0 → (∀ outcome front, next = .go outcome front → front ≠ [] →
      ∃ answer, outcome = .ok answer) ∧ (s.isSettled 0 → points next = [])

namespace Undisturbed

variable {s : Scheduler Point Answer Hook} {waiters : List Nat}

/-- The running task goes on as its activity says. -/
theorem proceed (h : Undisturbed s waiters) {i : Nat} {outcome : Outcome} {t : Tasks.Task Point}
    (hrunning : s.running = some (i, outcome)) (ht : s.tasks[i]? = some t)
    (hreader : i = 0 → t.stack = []) {next : Next} (hcomplies : Complies s waiters i next) :
    Undisturbed (s.proceed i next) waiters := by
  have hmem := List.mem_of_getElem? ht
  obtain ⟨t', ht', hnone, -⟩ := h.running i outcome hrunning
  obtain rfl := Option.some.inj (ht.symm.trans ht')
  -- The new points come before those that were there.
  have hdrained (q : Option Nat) (hq : ∀ r front, next = .wait r front → q = some r ∨ s.isSettled r) :
      (∃ point ∈ points next ++ t.stack, point.isDrained) →
        s.isSettled 0 ∨ ∃ r, q = some r ∧ r ∉ waiters ∧ s.isSettled r = false := by
    rintro ⟨point, hpoint, hdrained⟩
    rcases List.mem_append.1 hpoint with hnew | hold
    · rcases hcomplies.drained ⟨point, hnew, hdrained⟩ with hsettled | ⟨r, front, heq, hr, hopen⟩
      · exact .inl hsettled
      · rcases hq r front heq with hq | hsettled
        · exact .inr ⟨r, hq, hr, hopen⟩
        · rw [hopen] at hsettled
          cases hsettled
    · rcases h.drained t hmem ⟨point, hold, hdrained⟩ with hsettled | ⟨r, hr, -⟩
      · exact .inl hsettled
      · rw [hnone] at hr
        cases hr
  have hgone : (∃ point ∈ points next ++ t.stack, point.isGone) → s.isSettled 0 := by
    rintro ⟨point, hpoint, hgone⟩
    rcases List.mem_append.1 hpoint with hnew | hold
    · exact hcomplies.gone ⟨point, hnew, hgone⟩
    · exact h.gone t hmem ⟨point, hold, hgone⟩
  have hcalm : i ≠ 0 → ∀ point ∈ points next ++ t.stack, point.isCalm := by
    intro hi point hpoint
    exact (List.mem_append.1 hpoint).elim (hcomplies.calm hi point) (h.calm i t ht hi point)
  have hover : i = 0 → s.isSettled 0 → points next ++ t.stack = [] := by
    intro hzero hsettled
    rw [hreader hzero, (hcomplies.reader hzero).2 hsettled, List.append_nil]
  rcases s.proceed_cases ht next with ⟨news, front, hnext, heq⟩ | ⟨q, front, rfl, -, heq⟩ <;> rw [heq]
  · have hfront : points next = front := by
      rcases hnext with rfl | ⟨q, rfl, -⟩ <;> rfl
    rw [hfront] at hdrained hgone hcalm hover
    refine h.setTask ht { t with stack := front ++ t.stack } rfl (h.eager t hmem) _
      hcalm (h.waits t hmem) ?_ hover ?_ hgone
    · rintro other _ ⟨rfl, rfl⟩
      refine ⟨rfl, hnone, fun hzero hne => ?_⟩
      rcases hnext with rfl | ⟨q, rfl, hnews⟩
      · refine (hcomplies.reader hzero).1 news front rfl fun hempty => hne ?_
        rw [hempty, hreader hzero]
        rfl
      · cases news with
        | ok answer => exact ⟨answer, rfl⟩
        | error failure => exact absurd hnews (h.unharmed q (hcomplies.waits q front rfl) failure)
    · refine hdrained t.waiting fun r front' heq => .inr ?_
      rcases hnext with rfl | ⟨q, rfl, hnews⟩
      · cases heq
      · obtain ⟨rfl, -⟩ := Tasks.Next.wait.inj heq
        rw [Scheduler.isSettled, hnews]
        rfl
  · have hset := h.setTask ht { t with stack := front ++ t.stack, waiting := some q } rfl
      (h.eager t hmem) none hcalm ?_ ?_ hover ?_ hgone
    · exact hset.observe q (.inl rfl)
    · intro r hr
      rw [← Option.some.inj hr]
      exact hcomplies.waits q front rfl
    · exact fun other news heq => by cases heq
    · refine hdrained (some q) fun r front' heq => .inl ?_
      rw [(Tasks.Next.wait.inj heq).1]

end Undisturbed

end BasiliskServer.World
