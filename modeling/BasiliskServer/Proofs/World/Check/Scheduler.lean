import BasiliskServer.Proofs.World.Check.Guarantees

/-!
# A scheduler whose promises can be relied on

The scheduler of a check stays as its promises pledge (`Trust.Sound`). Whatever happens to it between
two steps of a task, most of it stays as it was: this is said once (`Trust.Develops`), and what settles,
makes and observes promises, sets timers and starts tasks follows from it. What is left are the moves of
a single task: it is taken up, goes on, waits, is given up and ends.
-/

namespace BasiliskServer.World

open Tasks (Notice Scheduler)

namespace Trust

variable {T T' : Trust} {e e' : Ended} {s s' : Scheduler Point Answer Hook} {pledge : Pledge}
  {outcome : Outcome} {task : Tasks.Task Point} {number q : Nat}

/-! ## What stays as it was -/

/-- A scheduler has become another one in which no task was moved: tasks may have been started, and
promises made, and settled as they pledge. -/
structure Develops (T T' : Trust) (e e' : Ended) (s s' : Scheduler Point Answer Hook) : Prop where
  /-- What was pledged is. -/
  grows : T.Grows T'
  /-- The first task is not over now if it was not. -/
  closed : T'.closed = T.closed
  /-- What has ended has ended. -/
  ends : e.Grow e'
  /-- Only the first task gives promises up. -/
  given : T'.given = T.given ∨ ∃ outcome, s.running = some (0, outcome)
  /-- What was given up was promised. -/
  bound : ∀ q ∈ T'.given, q < T'.pledges.length
  /-- Every promise pledges something. -/
  length : T'.pledges.length = s'.promises.length
  /-- The same task runs. -/
  running : s'.running = s.running
  /-- What was settled is so, or was settled as it may be. -/
  outcomes : ∀ (q : Nat) (pledge : Pledge) (outcome : Outcome), T'.pledges[q]? = some pledge →
    s'.outcome? q = some outcome → s.outcome? q = some outcome ∨ T'.Allows e' pledge outcome
  /-- What was settled stays so. -/
  settled : ∀ q, (s.outcome? q).isSome → (s'.outcome? q).isSome
  /-- New notices settle nothing that guarantees anything. -/
  notices : ∀ notice ∈ s'.notices, notice ∈ s.notices ∨ T'.Announces notice
  /-- Tasks were not moved. -/
  kept : ∀ (number : Nat) (task : Tasks.Task Point), s.tasks[number]? = some task →
    s'.tasks[number]? = some task
  /-- New tasks are as they should be. -/
  tasks : ∀ (number : Nat) (task : Tasks.Task Point), s'.tasks[number]? = some task →
    s.tasks[number]? = some task ∨ task.stack ≠ [] ∧ T'.Employs e' number True task
  /-- A new promise that says so is that of the result of a task. -/
  owners : ∀ (q number : Nat), (s'.promises[q]?).bind (·.task) = some number →
    (s.promises[q]?).bind (·.task) = some number ∨ ∃ task, s'.tasks[number]? = some task ∧ task.result = q

namespace Sound

/-- Only the first task leads. -/
theorem employs (h : T.Sound e s) (hdevelops : T.Develops T' e e' s s')
    (ht : s.tasks[number]? = some task) :
    T'.Employs e' number (∀ outcome, s.running ≠ some (number, outcome)) task := by
  -- what the first task waits for while it does not run was not given up meanwhile: only it gives up
  refine (h.tasks number task ht).mono hdevelops.grows hdevelops.ends hdevelops.closed id ?_
  rintro rfl hidle
  rcases hdevelops.given with hgiven | ⟨outcome, hrunning⟩
  · exact hgiven
  · exact absurd hrunning (hidle outcome)

/-- Everything is as pledged after what may happen. -/
theorem develop (h : T.Sound e s) (hdevelops : T.Develops T' e e' s s') : T'.Sound e' s' where
  length := hdevelops.length
  given := hdevelops.bound
  outcomes := by
    intro q pledge outcome hpledge ho
    rcases hdevelops.outcomes q pledge outcome hpledge ho with hold | hnew
    · -- what was settled before had been promised before
      obtain ⟨p, hp, -⟩ := Option.bind_eq_some_iff.1 hold
      have hlt : q < T.pledges.length := by
        rw [h.length]
        exact (List.getElem?_eq_some_iff.1 hp).1
      have hbefore := List.getElem?_eq_getElem hlt
      rw [hdevelops.grows.pledges q _ hbefore] at hpledge
      obtain rfl := Option.some.inj hpledge
      exact (h.outcomes q _ outcome hbefore hold).mono hdevelops.grows hdevelops.ends
    · exact hnew
  notices := fun notice hnotice => (hdevelops.notices notice hnotice).elim
    (fun hold => (h.notices notice hold).mono hdevelops.grows) id
  tasks := by
    intro number task ht
    rw [hdevelops.running]
    -- tasks that were there stay as they were, new ones have not begun
    rcases hdevelops.tasks number task ht with hold | ⟨-, hnew⟩
    · exact h.employs hdevelops hold
    · exact hnew.mono .refl (.refl e') rfl (fun _ => trivial) fun _ _ => rfl
  finished := by
    intro number task ht hidle hnil hnone
    rw [hdevelops.running] at hidle
    rcases hdevelops.tasks number task ht with hold | ⟨hsome, -⟩
    · exact hdevelops.settled _ (h.finished number task hold hidle hnil hnone)
    · exact absurd hnil hsome
  owners := by
    intro q number hq
    rcases hdevelops.owners q number hq with hold | hnew
    · exact (h.owners q number hold).imp fun task ht => ⟨hdevelops.kept number task ht.1, ht.2⟩
    · exact hnew
  running := by
    intro number outcome hrunning
    rw [hdevelops.running] at hrunning
    exact (h.running number outcome hrunning).imp fun task ht => ⟨hdevelops.kept number task ht.1, ht.2⟩

/-- Only notices, timers and the time have changed. -/
theorem of_notices (h : T.Sound e s) (hrunning : s'.running = s.running)
    (htasks : s'.tasks = s.tasks) (hpromises : s'.promises = s.promises)
    (hnotices : ∀ notice ∈ s'.notices, notice ∈ s.notices ∨ T.Announces notice) : T.Sound e s' :=
  h.develop {
    grows := .refl
    closed := rfl
    ends := .refl e
    given := .inl rfl
    bound := h.given
    length := by rw [hpromises]; exact h.length
    running := hrunning
    outcomes := fun q _ outcome _ ho => .inl (by simpa only [Scheduler.outcome?, hpromises] using ho)
    settled := fun q hq => by simpa only [Scheduler.outcome?, hpromises] using hq
    notices := hnotices
    kept := by rw [htasks]; exact fun _ _ ht => ht
    tasks := by rw [htasks]; exact fun _ _ ht => .inl ht
    owners := by rw [hpromises]; exact fun _ _ hq => .inl hq }

/-- More has ended. -/
theorem grow (h : T.Sound e s) (hends : e.Grow e') : T.Sound e' s :=
  h.develop {
    grows := .refl
    closed := rfl
    ends := hends
    given := .inl rfl
    bound := h.given
    length := h.length
    running := rfl
    outcomes := fun _ _ _ _ ho => .inl ho
    settled := fun _ hq => hq
    notices := fun _ hnotice => .inl hnotice
    kept := fun _ _ ht => ht
    tasks := fun _ _ ht => .inl ht
    owners := fun _ _ hq => .inl hq }

/-- The first task gives a promise up on paper. -/
theorem drop (h : T.Sound e s) (hleads : ∃ outcome, s.running = some (0, outcome))
    (hq : q < T.pledges.length) : (T.drop q).Sound e s :=
  h.develop {
    grows := grows_drop q
    closed := rfl
    ends := .refl e
    given := .inr hleads
    bound := fun other hother => (List.mem_cons.1 hother).elim (· ▸ hq) (h.given other)
    length := h.length
    running := rfl
    outcomes := fun _ _ _ _ ho => .inl ho
    settled := fun _ hq => hq
    notices := fun _ hnotice => .inl hnotice
    kept := fun _ _ ht => ht
    tasks := fun _ _ ht => .inl ht
    owners := fun _ _ hq => .inl hq }

/-! ## Promises -/

/-- One promise was changed, and with it what is queued. -/
theorem of_promise {p p' : Tasks.Promise Answer Hook} (h : T.Sound e s) (halters : s.Alters s' q p p')
    (hnotices : ∀ notice ∈ s'.notices, notice ∈ s.notices ∨ T.Announces notice)
    (houtcome : p'.outcome = p.outcome ∨ ∃ outcome, p'.outcome = some outcome ∧
      ∀ pledge, T.pledges[q]? = some pledge → T.Allows e pledge outcome) : T.Sound e s' := by
  -- apart from the promise itself nothing that is known has changed
  refine h.develop {
    grows := .refl
    closed := rfl
    ends := .refl e
    given := .inl rfl
    bound := h.given
    length := by rw [halters.length]; exact h.length
    running := halters.running
    outcomes := ?_
    settled := ?_
    notices := hnotices
    kept := by rw [halters.tasks]; exact fun _ _ ht => ht
    tasks := by rw [halters.tasks]; exact fun _ _ ht => .inl ht
    owners := fun r number hr => .inl ((halters.bind_task r).symm.trans hr) }
  · intro r pledge outcome hpledge ho
    rw [halters.outcome?] at ho
    split at ho
    · subst r
      rcases houtcome with hsame | ⟨settled, hsettled, hallows⟩
      · exact .inl (by rw [halters.outcome?_of_self, ← hsame, ho])
      · rw [hsettled] at ho
        exact .inr (Option.some.inj ho ▸ hallows pledge hpledge)
    · exact .inl ho
  · intro r hr
    rw [halters.outcome?]
    split
    · subst r
      rcases houtcome with hsame | ⟨settled, hsettled, -⟩
      · rwa [hsame, ← halters.outcome?_of_self]
      · rw [hsettled]
        rfl
    · exact hr

/-- A promise is settled as it may be. -/
theorem settle (h : T.Sound e s)
    (hallows : ∀ pledge, T.pledges[q]? = some pledge → T.Allows e pledge outcome) :
    T.Sound e (s.settle q outcome) := by
  rcases s.settle_cases q outcome with ⟨hsame, -⟩ | ⟨p, -, halters, -⟩
  · rw [hsame]
    exact h
  · exact h.of_promise halters (fun _ hnotice => .inl (Scheduler.mem_notices_settle hnotice))
      (.inr ⟨outcome, rfl, hallows⟩)

/-- A promise is observed with a notice that settles what it may. -/
theorem observe (h : T.Sound e s) (q : Nat) {notice : Notice Hook} (hannounces : T.Announces notice) :
    T.Sound e (s.observe q notice) := by
  have hnotices : ∀ other ∈ (s.observe q notice).notices, other ∈ s.notices ∨ T.Announces other := by
    intro other hother
    rcases Scheduler.mem_notices_observe hother with hold | rfl
    · exact .inl hold
    · exact .inr hannounces
  rcases s.observe_cases q notice with ⟨-, hsame⟩ | ⟨-, hqueued⟩ | ⟨p, -, halters, -⟩
  · rw [hsame]
    exact h
  · rw [hqueued] at hnotices ⊢
    exact h.of_notices rfl rfl rfl hnotices
  · exact h.of_promise halters hnotices (.inl rfl)

/-- A promise that waits for several things has one of them. -/
theorem countDown (h : T.Sound e s) (hannounces : T.Announces (.tally q)) :
    T.Sound e (s.countDown q) := by
  rcases s.countDown_cases q with hsame | ⟨p, counted, halters, hready, heq⟩
  · rw [hsame]
    exact h
  have hcounted : T.Sound e counted :=
    h.of_promise halters (fun _ hnotice => .inl (halters.mem_notices_of_same hready rfl hnotice)) (.inl rfl)
  rcases heq with heq | heq <;> rw [heq]
  · exact hcounted
  · refine hcounted.settle fun pledge hpledge => ?_
    obtain ⟨known, hknown, hnothing⟩ := hannounces
    rw [hpledge] at hknown
    obtain rfl := Option.some.inj hknown
    show T.Grants e pledge.guarantee
    rw [hnothing]
    trivial

/-- A promise is made. -/
theorem addPromise (h : T.Sound e s) (missing : Nat) (pledge : Pledge) :
    (T.add pledge).Sound e (s.addPromise missing).2 :=
  h.develop {
    grows := grows_add pledge
    closed := rfl
    ends := .refl e
    given := .inl rfl
    bound := fun q hq => by
      have hlt := h.given q hq
      simp only [add, List.length_append, List.length_singleton]
      omega
    length := by simp [add, Scheduler.addPromise, h.length]
    running := rfl
    outcomes := fun _ _ _ _ ho => .inl (Books.outcome?_append rfl ho)
    settled := fun _ hq => Tasks.isSome_bind_append hq _
    notices := fun notice hnotice => .inl (by
      simpa [Scheduler.notices, Scheduler.addPromise] using hnotice)
    kept := fun _ _ ht => ht
    tasks := fun _ _ ht => .inl ht
    owners := fun q number hq => (Tasks.bind_concat_cases hq).imp_right fun hnew => by cases hnew.2 }

/-! ## Timers and time -/

/-- A timer is set with a notice that settles what it may. -/
theorem addTimer (h : T.Sound e s) (delay : Nat) {notice : Notice Hook} (hannounces : T.Announces notice) :
    T.Sound e (s.addTimer delay notice).2 := by
  refine h.of_notices rfl rfl rfl fun other hother => ?_
  rcases Scheduler.mem_notices_addTimer hother with hold | rfl
  · exact .inl hold
  · exact .inr hannounces

theorem stopTimer (h : T.Sound e s) (number : Nat) : T.Sound e (s.stopTimer number) :=
  h.of_notices rfl rfl rfl fun _ hother => .inl (Scheduler.mem_notices_stopTimer hother)

/-- What is next in the queue is taken. -/
theorem takeNotice (h : T.Sound e s) {notice : Notice Hook}
    (htake : s.takeNotice = some (notice, s')) : T.Sound e s' ∧ T.Announces notice := by
  obtain ⟨hrunning, htasks, hpromises, -⟩ := Scheduler.takeNotice_same htake
  exact ⟨h.of_notices hrunning htasks hpromises fun _ hother =>
      .inl (Scheduler.mem_notices_takeNotice htake hother),
    h.notices notice (Scheduler.mem_notices.2 (.inl (Scheduler.mem_ready_of_takeNotice htake)))⟩

/-- Time moves on. -/
theorem moveTo (h : T.Sound e s) (moment : Nat) : T.Sound e (s.moveTo moment) := by
  obtain ⟨hrunning, htasks, hpromises⟩ := s.moveTo_same moment
  exact h.of_notices hrunning htasks hpromises fun _ hother => .inl (Scheduler.mem_notices_moveTo hother)

/-! ## Tasks -/

/-- A task that helps begins. -/
theorem spawn (h : T.Sound e s) {activity : Activity} (hfirst : s.tasks ≠ [])
    (hchain : pledge.Chain e [.start activity]) :
    (T.add pledge).Sound e (s.spawn (.start activity)).2 := by
  let p : Tasks.Promise Answer Hook := { task := some s.tasks.length }
  let task : Tasks.Task Point := { stack := [.start activity], result := s.promises.length }
  -- the new task stands behind all others, so it is not the first
  have hcases : ∀ {number : Nat} {other : Tasks.Task Point},
      (s.tasks ++ [task])[number]? = some other →
      s.tasks[number]? = some other ∨ number = s.tasks.length ∧ other = task :=
    Tasks.getElem?_concat_cases
  have hself : (s.tasks ++ [task])[s.tasks.length]? = some task := by simp
  refine h.develop {
    grows := grows_add pledge
    closed := rfl
    ends := .refl e
    given := .inl rfl
    bound := fun q hq => by
      have hlt := h.given q hq
      simp only [add, List.length_append, List.length_singleton]
      omega
    length := by simp [add, Scheduler.spawn, h.length]
    running := rfl
    outcomes := fun _ _ _ _ ho => .inl (Books.outcome?_append rfl ho)
    settled := fun _ hq => Tasks.isSome_bind_append hq _
    notices := ?_
    kept := fun number other ho => ?_
    tasks := ?_
    owners := fun q number hq => (Tasks.bind_concat_cases hq).imp_right ?_ }
  · intro notice hnotice
    rcases Scheduler.mem_notices_spawn hnotice with hold | rfl
    · exact .inl hold
    · exact .inr trivial
  · exact Tasks.getElem?_append_of_some ho _
  · intro number other ho
    rcases hcases ho with hother | ⟨rfl, rfl⟩
    · exact .inl hother
    · refine .inr ⟨List.cons_ne_nil _ _, fun hzero => absurd (List.length_eq_zero_iff.1 hzero) hfirst,
        fun _ => ⟨pledge, ?_, hchain, fun hflag => (by cases hflag), fun _ q hq => (by cases hq),
          fun _ _ => .inr ⟨rfl, activity, rfl⟩⟩⟩
      show (T.add pledge).pledges[s.promises.length]? = _
      rw [← h.length]
      exact pledges_add pledge
  · rintro ⟨rfl, htask⟩
    obtain rfl := Option.some.inj htask
    exact ⟨task, hself, rfl⟩

/-- One task is moved, and runs or does not. -/
theorem setTask {task' : Tasks.Task Point} (running' : Option (Nat × Outcome)) (h : T.Sound e s)
    (ht : s.tasks[number]? = some task) (hresult : task'.result = task.result)
    (hemploys : T.Employs e number (∀ outcome, running' ≠ some (number, outcome)) task')
    (hover : (∀ outcome, running' ≠ some (number, outcome)) → task'.stack = [] →
      task'.waiting = none → (s.outcome? task'.result).isSome)
    (hothers : ∀ other outcome, other ≠ number → s.running = some (other, outcome) →
      running' = some (other, outcome))
    (hruns : ∀ other outcome, running' = some (other, outcome) →
      other ≠ number ∧ s.running = some (other, outcome) ∨
        other = number ∧ task'.waiting = none ∧ task'.begun = true) :
    T.Sound e { s with tasks := s.tasks.set number task', running := running' } := by
  -- promises and notices are the same: what is said of tasks holds of the moved one by assumption
  refine ⟨h.length, h.given, h.outcomes, h.notices, ?tasks, ?finished, ?owners, ?running⟩
  case tasks =>
    intro other moved ho
    rcases Tasks.getElem?_set_cases ho with ⟨rfl, rfl⟩ | ⟨hne, ho⟩
    · exact hemploys
    · exact (h.tasks other moved ho).mono .refl (.refl e) rfl
        (fun hidle outcome hrunning => hidle outcome (hothers other outcome (Ne.symm hne) hrunning))
        fun _ _ => rfl
  case finished =>
    intro other moved ho hidle
    rcases Tasks.getElem?_set_cases ho with ⟨rfl, rfl⟩ | ⟨hne, ho⟩
    · exact hover hidle
    · exact h.finished other moved ho fun outcome hrunning =>
        hidle outcome (hothers other outcome (Ne.symm hne) hrunning)
  case owners =>
    intro q other hq
    obtain ⟨owned, howned, howns⟩ := h.owners q other hq
    obtain ⟨now, hnow, ⟨-, rfl, rfl⟩ | ⟨-, rfl⟩⟩ := Tasks.exists_getElem?_set ht howned task'
    · exact ⟨now, hnow, hresult.trans howns⟩
    · exact ⟨now, hnow, howns⟩
  case running =>
    intro other outcome hrunning
    rcases hruns other outcome hrunning with ⟨hne, hold⟩ | ⟨rfl, hrest⟩
    · obtain ⟨moved, hmoved, hrest⟩ := h.running other outcome hold
      exact ⟨moved, (List.getElem?_set_ne (Ne.symm hne)).trans hmoved, hrest⟩
    · exact ⟨task', List.getElem?_set_self (List.getElem?_eq_some_iff.1 ht).1, hrest⟩

/-- A task that helps is to be given up when it goes on. -/
theorem mark (h : T.Sound e s) (ht : s.tasks[number]? = some task) (hhelper : number ≠ 0)
    (hpledge : T.pledges[task.result]? = some pledge) (hexcuse : T.Excuses pledge.excuse .cancelled) :
    T.Sound e { s with tasks := s.tasks.set number { task with interrupted := true } } := by
  obtain ⟨known, hhelps⟩ := (h.tasks number task ht).helps hhelper
  obtain rfl : known = pledge := Option.some.inj (hhelps.result.symm.trans hpledge)
  refine h.setTask s.running ht rfl ⟨fun hzero => absurd hzero hhelper, fun _ => ⟨known,
    hhelps.result, hhelps.chain, fun _ => hexcuse, hhelps.waits, hhelps.fresh⟩⟩
    (h.finished number task ht) (fun _ _ _ hr => hr) fun other outcome hrunning => ?_
  -- a task may give itself up while it runs
  by_cases heq : other = number
  · subst heq
    obtain ⟨running, hr, hrest⟩ := h.running other outcome hrunning
    obtain rfl := Option.some.inj (ht.symm.trans hr)
    exact .inr ⟨rfl, hrest⟩
  · exact .inl ⟨heq, hrunning⟩

/-- A task that helps is given up. -/
theorem interrupt (h : T.Sound e s) (ht : s.tasks[number]? = some task) (hhelper : number ≠ 0)
    (hpledge : T.pledges[task.result]? = some pledge) (hexcuse : T.Excuses pledge.excuse .cancelled) :
    T.Sound e (s.interrupt number) := by
  rcases s.interrupt_cases number with heq | ⟨same, hsame, heq | ⟨q, hwaiting, heq⟩⟩ <;> rw [heq]
  · exact h
  · obtain rfl := Option.some.inj (ht.symm.trans hsame)
    exact h.mark ht hhelper hpledge hexcuse
  · -- what the task waits for may be given up like the task
    obtain rfl := Option.some.inj (ht.symm.trans hsame)
    have hidle : ∀ outcome, s.running ≠ some (number, outcome) := by
      intro outcome hrunning
      obtain ⟨running, hr, hnone, -⟩ := h.running number outcome hrunning
      rw [← Option.some.inj (ht.symm.trans hr), hwaiting] at hnone
      cases hnone
    obtain ⟨known, hhelps⟩ := (h.tasks number task ht).helps hhelper
    obtain rfl : known = pledge := Option.some.inj (hhelps.result.symm.trans hpledge)
    obtain ⟨-, waited, hwaited, hsame, -⟩ := hhelps.waits hidle q hwaiting
    refine h.settle fun other hother => ?_
    obtain rfl : waited = other := Option.some.inj (hwaited.symm.trans hother)
    show T.Excuses waited.excuse .cancelled
    rw [hsame]
    exact hexcuse

/-- The first task gives up what it waits for. -/
theorem giveUp (h : T.Sound e s) {point : Point} (hleads : ∃ outcome, s.running = some (0, outcome))
    (hpledge : T.pledges[q]? = some pledge) (hmeets : pledge.Meets q point) :
    (T.drop q).Sound e (s.giveUp q) := by
  have hdropped := h.drop hleads (List.getElem?_eq_some_iff.1 hpledge).1
  have hexcuse := excuses_of_meets (T := T) hmeets
  rcases s.giveUp_cases q with ⟨number, hnumber, heq⟩ | ⟨-, heq⟩ <;> rw [heq]
  · obtain ⟨task, ht, rfl⟩ := h.owners q number hnumber
    refine hdropped.interrupt ht ?_ hpledge hexcuse
    -- nobody waits for the first task
    rintro rfl
    have hlast := ((h.tasks 0 task ht).leads rfl).result
    obtain rfl := Option.some.inj (hlast.symm.trans hpledge)
    exact not_meets_last hmeets
  · refine hdropped.settle fun other hother => ?_
    obtain rfl : pledge = other := Option.some.inj (hpledge.symm.trans hother)
    exact hexcuse

/-! ## Going on -/

/-- The task that runs takes a point off its stack. -/
theorem pop (h : T.Sound e s) {point : Point} {rest : List Point}
    (hrunning : s.running = some (number, outcome)) (ht : s.tasks[number]? = some task)
    (hstack : task.stack = point :: rest) :
    T.Sound e { s with
      tasks := s.tasks.set number { task with stack := rest }, running := some (number, outcome) } := by
  obtain ⟨same, hsame, hwaiting, hbegun⟩ := h.running number outcome hrunning
  obtain rfl := Option.some.inj (ht.symm.trans hsame)
  -- the task runs, so nothing is asked of what it waits for
  have hbusy : ¬ ∀ outcome', some (number, outcome) ≠ some (number, outcome') := fun hnot => hnot _ rfl
  refine h.setTask (some (number, outcome)) ht rfl ⟨fun hzero => ?_, fun hhelper => ?_⟩
    (fun hnot => absurd hnot hbusy) (fun _ _ _ hr => hrunning ▸ hr) fun other outcome' hother => ?_
  · have hleads := (h.tasks number task ht).leads hzero
    refine ⟨hleads.result, fun hclosed => ?_, hleads.interrupted, ?_, fun hnot => absurd hnot hbusy,
      fun hnot => absurd hnot hbusy⟩
    · have hnil := hleads.closed hclosed
      rw [hstack] at hnil
      cases hnil
    · exact layered_tail (hstack ▸ hleads.layered)
  · obtain ⟨pledge, hhelps⟩ := (h.tasks number task ht).helps hhelper
    have hchain := hhelps.chain
    rw [hstack] at hchain
    exact ⟨pledge, hhelps.result, hchain.2.2.2, hhelps.interrupted, fun hnot => absurd hnot hbusy,
      fun hnot => absurd hnot hbusy⟩
  · cases hother
    exact .inr ⟨rfl, hwaiting, hbegun⟩

/-- A task that is moved and runs is told what it relies on. -/
theorem told_setTask {task' : Tasks.Task Point} (ht : s.tasks[number]? = some task)
    (hleader : number = 0 → T.Takes e task'.stack outcome)
    (hhelper : number ≠ 0 → ∀ pledge, T.pledges[task'.result]? = some pledge →
      task'.stack = [] ∧ (s.outcome? task'.result).isSome ∨
        T.Allows e ⟨relied pledge.guarantee task'.stack, pledge.excuse⟩ outcome) :
    T.Told e { s with tasks := s.tasks.set number task', running := some (number, outcome) } := by
  have hself : (s.tasks.set number task')[number]? = some task' :=
    List.getElem?_set_self (List.getElem?_eq_some_iff.1 ht).1
  constructor
  · intro outcome' moved hrunning hmoved
    obtain ⟨rfl, rfl⟩ := Prod.mk.inj (Option.some.inj hrunning)
    obtain rfl := Option.some.inj (hself.symm.trans hmoved)
    exact hleader rfl
  · intro other outcome' moved pledge hrunning hother hmoved hpledge
    obtain ⟨rfl, rfl⟩ := Prod.mk.inj (Option.some.inj hrunning)
    obtain rfl := Option.some.inj (hself.symm.trans hmoved)
    exact hhelper hother pledge hpledge

/-- Where no task runs, nobody is told anything. -/
theorem told_of_idle (hidle : s.running = none) : T.Told e s := by
  constructor <;> intros <;> simp_all

/-- A task that runs may stand at further points: the first one in layers, one that helps by a chain
of what is pledged. Where it waits, it waits for a promise that it can rely on. -/
theorem employs_moved (h : T.Sound e s) (hrunning : s.running = some (number, outcome))
    (ht : s.tasks[number]? = some task) (hclosed : number = 0 → T.closed = false)
    (front : List Point) (waiting : Option Nat) (idle : Prop)
    (hlayered : number = 0 → Layered (front ++ task.stack))
    (hchain : number ≠ 0 → ∀ pledge, T.pledges[task.result]? = some pledge →
      Pledge.Chain e ⟨relied pledge.guarantee task.stack, pledge.excuse⟩ front)
    (hwaits : idle → ∃ q, waiting = some q ∧
      (number = 0 → T.pledges[q]? = some .signal ∧ T.Awaits (front ++ task.stack)) ∧
      (number ≠ 0 → ∀ pledge, T.pledges[task.result]? = some pledge → ∃ other,
        T.pledges[q]? = some other ∧ other.excuse = pledge.excuse ∧
          other.guarantee.Gives (relied pledge.guarantee (front ++ task.stack)))) :
    T.Employs e number idle { task with stack := front ++ task.stack, waiting := waiting } := by
  obtain ⟨same, hsame, -, hbegun⟩ := h.running number outcome hrunning
  obtain rfl := Option.some.inj (ht.symm.trans hsame)
  have hemploys := h.tasks number task ht
  -- a task that waits for nothing does not rest
  have hbusy : idle → waiting ≠ none := by
    intro hidle hnone
    obtain ⟨waited, hwaited, -⟩ := hwaits hidle
    rw [hnone] at hwaited
    cases hwaited
  refine ⟨fun hzero => ?_, fun hhelper => ?_⟩
  · have hlead := hemploys.leads hzero
    refine ⟨hlead.result, fun hover => ?_, hlead.interrupted, hlayered hzero, ?_,
      fun hidle hnone => absurd hnone (hbusy hidle)⟩
    · rw [hclosed hzero] at hover
      cases hover
    · intro hidle q hq
      obtain ⟨waited, hwaited, hfirst, -⟩ := hwaits hidle
      obtain rfl := Option.some.inj (hwaited.symm.trans hq)
      exact ⟨hbegun, hfirst hzero⟩
  · obtain ⟨pledge, hhelp⟩ := hemploys.helps hhelper
    refine ⟨pledge, hhelp.result, chain_append.2 ⟨hchain hhelper pledge hhelp.result, hhelp.chain⟩,
      hhelp.interrupted, ?_, fun hidle hnone => absurd hnone (hbusy hidle)⟩
    intro hidle q hq
    obtain ⟨waited, hwaited, -, hother⟩ := hwaits hidle
    obtain rfl := Option.some.inj (hwaited.symm.trans hq)
    exact ⟨hbegun, hother hhelper pledge hhelp.result⟩

/-- A task that has acted runs on at further points. -/
theorem runs_on (h : T.Sound e s) (hrunning : s.running = some (number, outcome))
    (ht : s.tasks[number]? = some task) (hclosed : number = 0 → T.closed = false) (outcome' : Outcome)
    (front : List Point)
    (hfirst : number = 0 → Layered (front ++ task.stack) ∧ T.Takes e (front ++ task.stack) outcome')
    (hother : number ≠ 0 → ∀ pledge, T.pledges[task.result]? = some pledge →
      Pledge.Chain e ⟨relied pledge.guarantee task.stack, pledge.excuse⟩ front ∧
        T.Allows e ⟨relied pledge.guarantee (front ++ task.stack), pledge.excuse⟩ outcome') :
    T.Sound e { s with
        tasks := s.tasks.set number { task with stack := front ++ task.stack }
        running := some (number, outcome') } ∧
      T.Told e { s with
        tasks := s.tasks.set number { task with stack := front ++ task.stack }
        running := some (number, outcome') } := by
  obtain ⟨same, hsame, hwaiting, hbegun⟩ := h.running number outcome hrunning
  obtain rfl := Option.some.inj (ht.symm.trans hsame)
  have hbusy : ¬ ∀ outcome, some (number, outcome') ≠ some (number, outcome) := fun hnot => hnot _ rfl
  -- The task runs on, so nothing has to be said of what it would wait for.
  have hnext := h.employs_moved hrunning ht hclosed front task.waiting
    (∀ outcome, some (number, outcome') ≠ some (number, outcome)) (fun hzero => (hfirst hzero).1)
    (fun hhelper pledge hpledge => (hother hhelper pledge hpledge).1) fun hnot => absurd hnot hbusy
  refine ⟨h.setTask (some (number, outcome')) ht rfl hnext (fun hnot => absurd hnot hbusy) ?_ ?_,
    told_setTask ht (fun hzero => (hfirst hzero).2) fun hhelper pledge hpledge =>
      .inr (hother hhelper pledge hpledge).2⟩
  · intro other outcome'' hne hrun
    rw [hrunning] at hrun
    cases hrun
    exact absurd rfl hne
  · intro other outcome'' hrun
    cases hrun
    exact .inr ⟨rfl, hwaiting, hbegun⟩

/-- A task that has acted goes on as told, or waits. -/
theorem proceed (h : T.Sound e s) {next : Next} (hrunning : s.running = some (number, outcome))
    (ht : s.tasks[number]? = some task)
    (hleads : number = 0 → T.closed = false ∧ T.Steers e task.stack next)
    (hhelps : number ≠ 0 → ∀ pledge, T.pledges[task.result]? = some pledge →
      T.Continues e ⟨relied pledge.guarantee task.stack, pledge.excuse⟩ next) :
    T.Sound e (s.proceed number next) ∧ T.Told e (s.proceed number next) := by
  have hclosed : number = 0 → T.closed = false := fun hzero => (hleads hzero).1
  rcases s.proceed_cases ht next with ⟨outcome', front, hnext, heq⟩ | ⟨q, front, rfl, -, heq⟩ <;> rw [heq]
  · rcases hnext with rfl | ⟨q, rfl, hsettled⟩
    · refine h.runs_on hrunning ht hclosed outcome' front (fun hzero => (hleads hzero).2.symm)
        fun hhelper pledge hpledge => ?_
      rw [relied_append]
      exact hhelps hhelper pledge hpledge
    · -- What the task wants to wait for is known already, so that it runs on with that.
      refine h.runs_on hrunning ht hclosed outcome' front (fun hzero => ?_) fun hhelper pledge hpledge => ?_
      · obtain ⟨-, hsignal, hawaits, hlayered⟩ := hleads hzero
        exact ⟨hlayered, takes_of_awaits hawaits
          (ok_of_signal (h.outcomes q _ outcome' hsignal hsettled))⟩
      · obtain ⟨hchain, other, hpromised, hexcuse, hgives⟩ := hhelps hhelper pledge hpledge
        rw [relied_append]
        exact ⟨hchain, (h.outcomes q other outcome' hpromised hsettled).gives hgives hexcuse⟩
  · refine ⟨Sound.observe ?_ q trivial, told_of_idle (Scheduler.observe_same _ _ _).1⟩
    have hnext := h.employs_moved hrunning ht hclosed front (some q)
      (∀ outcome : Outcome, none ≠ some (number, outcome)) (fun hzero => (hleads hzero).2.2.2)
      (fun hhelper pledge hpledge => (hhelps hhelper pledge hpledge).1) fun _ => ⟨q, rfl,
        fun hzero => ⟨(hleads hzero).2.1, (hleads hzero).2.2.1⟩, fun hhelper pledge hpledge => by
          rw [relied_append]
          exact (hhelps hhelper pledge hpledge).2⟩
    refine h.setTask none ht rfl hnext (fun _ _ hnone => (by cases hnone))
      (fun other outcome' hne hrun => ?_) fun _ _ hnone => (by cases hnone)
    rw [hrunning] at hrun
    cases hrun
    exact absurd rfl hne

/-- When a task goes on, the first one has kept its points, and one that helps has kept them or has
none left. -/
theorem employs_resumed {idle idle' : Prop} (h : T.Employs e number idle task) (hbusy : ¬ idle') :
    T.Employs e number idle' task.woken := by
  refine ⟨fun hzero => ?_, fun hhelper => ?_⟩
  · have hlead := h.leads hzero
    -- nobody gives the first task up, so that it keeps its points
    have hstack : task.woken.stack = task.stack := task.stack_woken (.inl hlead.interrupted)
    exact ⟨hlead.result, fun hclosed => hstack.trans (hlead.closed hclosed), rfl,
      (congrArg Layered hstack).mpr hlead.layered, fun hnot => absurd hnot hbusy,
      fun hnot => absurd hnot hbusy⟩
  · obtain ⟨pledge, hhelp⟩ := h.helps hhelper
    refine ⟨pledge, hhelp.result, ?_, fun hflag => (by cases hflag), fun hnot => absurd hnot hbusy,
      fun hnot => absurd hnot hbusy⟩
    show pledge.Chain e (if task.interrupted && !task.begun then [] else task.stack)
    split
    · trivial
    · exact hhelp.chain

/-- The first task can go on with what it is told. -/
theorem takes_news {idle : Prop} (h : T.Sound e s) (hlead : T.Leads idle task) (hidle : idle)
    (hnews : s.news? task = some outcome) : T.Takes e task.stack outcome := by
  rcases Scheduler.news?_eq_some hnews with ⟨hwaiting, -⟩ | ⟨q, hwaiting, hsettled⟩
  · -- it is woken at its start, where it takes anything, or once more when it is over
    rcases hlead.fresh hidle hwaiting with hnil | ⟨-, activity, hstart⟩
    · rw [hnil]
      trivial
    · rw [hstart]
      trivial
  · obtain ⟨-, hsignal, hawaits⟩ := hlead.waits hidle q hwaiting
    exact takes_of_awaits hawaits (ok_of_signal (h.outcomes q _ outcome hsignal hsettled))

/-- A task that helps is over, or is told what it relies on. -/
theorem allows_news {pledge : Pledge} (h : T.Sound e s) (ht : s.tasks[number]? = some task)
    (hidle : ∀ outcome, s.running ≠ some (number, outcome))
    (hhelp : T.Helps e pledge (∀ outcome, s.running ≠ some (number, outcome)) task)
    (hnews : s.news? task = some outcome) :
    task.stack = [] ∧ (s.outcome? task.result).isSome ∨
      T.Allows e ⟨relied pledge.guarantee task.stack, pledge.excuse⟩ outcome := by
  rcases Scheduler.news?_eq_some hnews with ⟨hwaiting, rfl⟩ | ⟨q, hwaiting, hsettled⟩
  · -- it starts, relying on nothing, or is woken once more when it is over
    rcases hhelp.fresh hidle hwaiting with hnil | ⟨-, activity, hstart⟩
    · exact .inl ⟨hnil, h.finished number task ht hidle hnil hwaiting⟩
    · rw [hstart]
      exact .inr trivial
  · obtain ⟨-, other, hother, hexcuse, hgives⟩ := hhelp.waits hidle q hwaiting
    exact .inr ((h.outcomes q other outcome hother hsettled).gives hgives hexcuse)

/-- A task that waited goes on, or one that was given up ends. -/
theorem resume (h : T.Sound e s) (hidle : s.running = none) (number : Nat) :
    T.Sound e (s.resume number) ∧ T.Told e (s.resume number) := by
  rcases s.resume_eq_or number with heq | ⟨task, outcome, ht, hnews, heq⟩ <;> rw [heq]
  · exact ⟨h, told_of_idle hidle⟩
  have hidles : ∀ outcome, s.running ≠ some (number, outcome) := by
    intro outcome hrunning
    rw [hidle] at hrunning
    cases hrunning
  have hemploys := h.tasks number task ht
  -- a task that was to be given up is told so, whatever it waited for has come to
  let outcome' : Outcome := if task.interrupted then .error .cancelled else outcome
  have hbusy : ¬ ∀ outcome, some (number, outcome') ≠ some (number, outcome) := fun hnot => hnot _ rfl
  refine ⟨h.setTask (some (number, outcome')) ht rfl (employs_resumed hemploys hbusy)
    (fun hnot => absurd hnot hbusy) ?others ?runs, told_setTask ht (fun hzero => ?leader)
      fun hhelper pledge hpledge => ?helper⟩
  case others =>
    intro other outcome'' hne hrun
    rw [hidle] at hrun
    cases hrun
  case runs =>
    intro other outcome'' hrun
    cases hrun
    exact .inr ⟨rfl, rfl, rfl⟩
  case leader =>
    have hlead := hemploys.leads hzero
    rw [if_neg (by simp [hlead.interrupted]), task.stack_woken (.inl hlead.interrupted)]
    exact h.takes_news hlead hidles hnews
  case helper =>
    obtain ⟨known, hhelp⟩ := hemploys.helps hhelper
    obtain rfl : known = pledge := Option.some.inj (hhelp.result.symm.trans hpledge)
    cases hinterrupted : task.interrupted with
    | true => exact .inr (hhelp.interrupted hinterrupted)
    | false =>
      rw [if_neg Bool.false_ne_true, task.stack_woken (.inl hinterrupted)]
      exact h.allows_news ht hidles hhelp hnews

/-- The first task is over when it has no points left. -/
theorem close (h : T.Sound e s) (hover : ∀ task, s.tasks[0]? = some task → task.stack = []) :
    T.close.Sound e s where
  length := h.length
  given := h.given
  outcomes := fun q pledge outcome hpledge ho =>
    (h.outcomes q pledge outcome hpledge ho).mono grows_close (.refl e)
  notices := fun notice hnotice => (h.notices notice hnotice).mono grows_close
  tasks := by
    intro number task ht
    refine ⟨?_, fun hhelper => ((h.tasks number task ht).helps hhelper).imp fun _ hhelps =>
      hhelps.mono grows_close (.refl e) id⟩
    rintro rfl
    have hlead := (h.tasks 0 task ht).leads rfl
    exact { hlead with closed := fun _ => hover task ht }
  finished := h.finished
  owners := h.owners
  running := h.running

/-- A task that runs and has no points left is over. -/
theorem finish (h : T.Sound e s) (hrunning : s.running = some (number, outcome))
    (ht : s.tasks[number]? = some task) (hstack : task.stack = [])
    (hallows : ∀ pledge, T.pledges[task.result]? = some pledge →
      (s.outcome? task.result).isSome ∨ T.Allows e pledge outcome) :
    T.Sound e ({ s with running := none }.settle task.result outcome) := by
  have hemploys := h.tasks number task ht
  obtain ⟨pledge, hpledge⟩ : ∃ pledge, T.pledges[task.result]? = some pledge := by
    by_cases hzero : number = 0
    · exact ⟨_, (hemploys.leads hzero).result⟩
    · exact (hemploys.helps hzero).imp fun _ hhelps => hhelps.result
  have hlt : task.result < s.promises.length := by
    rw [← h.length]
    exact (List.getElem?_eq_some_iff.1 hpledge).1
  -- the result may be what it is
  have hsettled : T.Sound e (s.settle task.result outcome) := by
    rcases hallows pledge hpledge with hsome | hallows
    · rw [Scheduler.settle_of_isSome hsome]
      exact h
    · refine h.settle fun other hother => ?_
      obtain rfl := Option.some.inj (hpledge.symm.trans hother)
      exact hallows
  -- the task itself stays as it is: it no longer runs
  obtain ⟨hsame, htasks⟩ := Scheduler.settle_same s task.result outcome
  have ht' : (s.settle task.result outcome).tasks[number]? = some task := htasks ▸ ht
  have hset : (s.settle task.result outcome).tasks.set number task =
      (s.settle task.result outcome).tasks := Tasks.set_of_getElem? ht'
  obtain ⟨same, hsameTask, hwaiting, -⟩ := h.running number outcome hrunning
  obtain rfl := Option.some.inj (ht.symm.trans hsameTask)
  have hover := hsettled.setTask none ht' rfl ⟨fun hzero => ?_, fun hhelper => ?_⟩
    (fun _ _ _ => Scheduler.isSome_settle hlt) (fun other outcome' hne hrun => ?_)
    (fun _ _ hnone => (by cases hnone))
  · rw [hset] at hover
    rw [Books.settle_running]
    exact hover
  · have hlead := hemploys.leads hzero
    exact ⟨hlead.result, hlead.closed, hlead.interrupted, hlead.layered,
      fun _ q hq => (by rw [hwaiting] at hq; cases hq), fun _ _ => .inl hstack⟩
  · obtain ⟨pledge, hhelp⟩ := hemploys.helps hhelper
    exact ⟨pledge, hhelp.result, hhelp.chain, hhelp.interrupted,
      fun _ q hq => (by rw [hwaiting] at hq; cases hq), fun _ _ => .inl hstack⟩
  · rw [hsame, hrunning] at hrun
    cases hrun
    exact absurd rfl hne

end Sound

end Trust

end BasiliskServer.World
