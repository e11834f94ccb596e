import BasiliskServer.Proofs.World.Lifecycle

/-!
# Runs keep worlds in order

In an ordered world everything is as a ledger says and the task that runs is told what it relies on.
A step leaves a world ordered, and so does whatever else can happen to it, so that every world that a
run can come to is ordered (`Ordered.undergoAll`).
-/

namespace BasiliskServer.World

open Tasks (Notice Scheduler)

/-- Everything in a world is as the ledger says, and the task that runs is told what it relies on. -/
structure Ordered (counter : Counter) (Γ : Ledger) (w : World) : Prop where
  /-- Everything is as the ledger says. -/
  kept : Kept counter none [] Γ w
  /-- The task that runs is told what it relies on. -/
  told : Books.Told Γ w.facts w.tasks

variable {Γ Γ' : Ledger} {counter : Counter} {w w' : World} {task : Nat} {t : Tasks.Task Point}
  {point : Point} {rest : List Point} {outcome : Outcome}

/-! ## Steps -/

/-- The task that runs takes a point off its stack, and goes on as the point says. -/
theorem step_of_point (hrunning : w.tasks.running = some (task, outcome))
    (ht : w.tasks.tasks[task]? = some t) (hstack : t.stack = point :: rest) :
    w.step = (w.moveTask task { t with stack := rest } (some outcome)).perform
      (do modifyTasks (·.proceed task (← point.resume outcome))) := by
  have hpopped : { w with
      tasks := { w.tasks with tasks := w.tasks.tasks.set task { t with stack := rest } } } =
      w.moveTask task { t with stack := rest } (some outcome) := by
    simp [moveTask, ← hrunning]
  have hstep : w.step = ((advanceTask task outcome).run w).2 := by
    simp only [step, perform, stepAct, run_bind, run_get, hrunning]
  rw [hstep]
  simp only [advanceTask, run_bind, run_get, ht, hstack]
  rw [← hpopped]
  rfl

/-- A task that runs and has no points left ends. -/
theorem step_of_nil (hrunning : w.tasks.running = some (task, outcome))
    (ht : w.tasks.tasks[task]? = some t) (hstack : t.stack = []) :
    w.step = { w with tasks := { w.tasks with running := none }.settle t.result outcome } := by
  simp only [step, perform, stepAct, run_bind, run_get, hrunning, advanceTask, ht, hstack]
  rfl

/-- Where no task runs, the first notice in the queue happens. -/
theorem step_of_idle (hidle : w.tasks.running = none) :
    w.step = match w.tasks.takeNotice with
      | none => w
      | some (notice, tasks) => { w with tasks }.perform (happen notice) := by
  simp only [step, perform, stepAct, run_bind, run_get, hidle]
  cases w.tasks.takeNotice with
  | none => rfl
  | some pair => rfl

/-- A promise is settled like another one, if that is settled. -/
theorem perform_relay (source target : Nat) :
    w.perform (happen (.relay source target)) = match w.tasks.outcome? source with
      | none => w
      | some known => { w with tasks := w.tasks.settle target known } := by
  simp only [perform, happen, run_bind, run_get]
  cases w.tasks.outcome? source with
  | none => rfl
  | some known => rfl

/-- A promise that waits for several things has one of them. -/
theorem Onward.countDown {s : Scheduler Point Answer Hook} (q : Nat) :
    Onward s (s.countDown q) := by
  rcases s.countDown_cases q with hsame | ⟨p, counted, halters, -, heq⟩
  · rw [hsame]
    exact .refl
  have hcounted : Onward s counted := .of_tasks halters.running halters.tasks fun _ _ hknown =>
    halters.outcome?_of_outcome? (fun _ ho => ho) hknown
  rcases heq with heq | heq <;> rw [heq]
  · exact hcounted
  · exact hcounted.trans (.settle q)

namespace Ordered

/-- There is a task that runs, and it is told what it relies on. -/
theorem exists_task (h : Ordered counter Γ w) (hrunning : w.tasks.running = some (task, outcome)) :
    ∃ t below, w.tasks.tasks[task]? = some t ∧
      (∃ purpose, Γ.purposes[t.result]? = some purpose ∧ purpose.expectation? = some below) ∧
      Γ.Sits counter t.result below t.stack ∧
      (t.stack = [] ∨ Γ.Admits w.facts t.result (expected below t.stack) outcome) := by
  obtain ⟨t, ht, -⟩ := h.kept.books.running task outcome hrunning
  obtain ⟨below, ⟨purpose, hpurpose, hbelow⟩, hsits, -⟩ := h.kept.books.tasks task t ht
  exact ⟨t, below, ht, ⟨purpose, hpurpose, hbelow⟩, hsits,
    (h.told task outcome t purpose below hrunning ht hpurpose hbelow).imp And.left id⟩

/-- With its first point taken off, the task that runs acts. -/
theorem pop (h : Ordered counter Γ w) (hrunning : w.tasks.running = some (task, outcome))
    (ht : w.tasks.tasks[task]? = some t) (hstack : t.stack = point :: rest) :
    Kept counter (some t.result) [] Γ
      (w.moveTask task { t with stack := rest } (some outcome)) := by
  have hpopped := h.kept.books.pop hrunning ht hstack
  rw [hrunning] at hpopped
  have hposts : Posts [] Γ
      { w.tasks with
        tasks := w.tasks.tasks.set task { t with stack := rest }
        running := some (task, outcome) } :=
    h.kept.posts.of_same rfl rfl fun _ ht => ht
  refine h.kept.setTasks (.refl : Γ.Extends none Γ) (Kept.backed_self Γ _) ?_ hposts
    (fun _ _ ho => ho) fun _ hq => absurd hq List.not_mem_nil
  exact hpopped

/-- What was settled is so after a task has gone on. -/
theorem outcome?_proceed {s : Scheduler Point Answer Hook} (next : Next) {q : Nat}
    {known : Outcome} (hknown : s.outcome? q = some known) :
    (s.proceed task next).outcome? q = some known := by
  cases ht : s.tasks[task]? with
  | none =>
    rw [Scheduler.proceed_of_none ht]
    exact hknown
  | some t =>
    rcases s.proceed_cases ht next with ⟨_, _, -, heq⟩ | ⟨_, _, -, -, heq⟩ <;> rw [heq]
    · exact hknown
    · rw [Scheduler.outcome?_observe]
      exact hknown

/-- A task that has acted goes on as told. -/
theorem of_moves {below : Expectation} {purpose : Purpose} {next : Next}
    (hmoves : Moves counter (some t.result) (some t.result) Γ w Γ' w')
    (hrunning : w.tasks.running = some (task, outcome)) (ht : w.tasks.tasks[task]? = some t)
    (hpurpose : Γ.purposes[t.result]? = some purpose) (hbelow : purpose.expectation? = some below)
    (hleads : Γ'.Leads w'.facts counter t.result (expected below t.stack) next) :
    Ordered counter Γ' { w' with tasks := w'.tasks.proceed task next } := by
  -- the task still stands where it did
  obtain ⟨number, outcome', t', hrunning', ht', hresult, -⟩ :=
    hmoves.kept.books.acting t.result rfl
  have hsame : some (number, outcome') = some (task, outcome) :=
    hrunning'.symm.trans (hmoves.onward.running.trans hrunning)
  obtain ⟨rfl, rfl⟩ := Prod.mk.inj (Option.some.inj hsame)
  have hstack : t'.stack = t.stack := by
    obtain ⟨activities, heq⟩ := hmoves.onward.standings
    have hstanding := standings_getElem? ht'
    rw [heq, Tasks.getElem?_append_of_some (standings_getElem? ht)] at hstanding
    exact (congrArg Tasks.Standing.stack (Option.some.inj hstanding)).symm
  obtain ⟨below', hkeeps⟩ := hmoves.kept.books.tasks number t' ht'
  obtain rfl : below = below' := by
    refine Books.below_unique hkeeps ?_ hbelow
    rw [hresult]
    exact hmoves.ledger.purposes _ _ hpurpose
  rw [← hresult, ← hstack] at hleads
  obtain ⟨hbooks, htold⟩ := hmoves.kept.books.proceed hrunning' ht' hkeeps (fun _ hq => hq) hleads
  exact ⟨hmoves.kept.setTasks (.refl : Γ'.Extends none Γ') (Kept.backed_self Γ' _) hbooks
    (hmoves.kept.posts.proceed number next) (fun _ _ => outcome?_proceed next)
    fun _ hq => absurd hq List.not_mem_nil, htold.grow (.of_tasks fun _ _ => outcome?_proceed next)⟩

/-- The task that runs goes on at a point. It does what is expected below the point, and everything
stays in order. -/
theorem advance (h : Ordered counter Γ w) (hrunning : w.tasks.running = some (task, outcome))
    (ht : w.tasks.tasks[task]? = some t) (hstack : t.stack = point :: rest) :
    ∃ Γ' below, Γ.Passes counter t.result (expected below rest) point ∧
      Γ.Admits w.facts t.result point.expectation outcome ∧
      Γ.Sits counter t.result below rest ∧
      Moves counter (some t.result) (some t.result) Γ
        (w.moveTask task { t with stack := rest } (some outcome)) Γ'
        ((point.resume outcome).run
          (w.moveTask task { t with stack := rest } (some outcome))).2 ∧
      Γ'.Leads
        ((point.resume outcome).run
          (w.moveTask task { t with stack := rest } (some outcome))).2.facts
        counter t.result (expected below rest)
        ((point.resume outcome).run
          (w.moveTask task { t with stack := rest } (some outcome))).1 ∧
      Ordered counter Γ' w.step := by
  obtain ⟨same, below, hsame, ⟨purpose, hpurpose, hbelow⟩, hsits, htold⟩ := h.exists_task hrunning
  rw [ht] at hsame
  obtain rfl := Option.some.inj hsame
  rw [hstack] at hsits htold
  have hadmits : Γ.Admits w.facts t.result point.expectation outcome :=
    htold.resolve_left (List.cons_ne_nil _ _)
  -- The point is taken off, and then does what is expected below it.
  obtain ⟨Γ', hmoves, hleads⟩ := resume_pursues (h.pop hrunning ht hstack) hsits.1 hadmits
  refine ⟨Γ', below, hsits.1, hadmits, hsits.2, hmoves, hleads, ?_⟩
  rw [step_of_point hrunning ht hstack]
  let popped : Tasks.Task Point := { t with stack := rest }
  have ht₁ : (w.moveTask task popped (some outcome)).tasks.tasks[task]? = some popped :=
    List.getElem?_set_self (List.getElem?_eq_some_iff.1 ht).1
  exact of_moves (t := popped) hmoves rfl ht₁ hpurpose hbelow hleads

/-- The task that runs ends. -/
theorem finish (h : Ordered counter Γ w) (hrunning : w.tasks.running = some (task, outcome))
    (ht : w.tasks.tasks[task]? = some t) (hstack : t.stack = []) : Ordered counter Γ w.step := by
  have hposts : Posts [] Γ { w.tasks with running := none } :=
    h.kept.posts.of_same rfl rfl fun _ ht => ht
  rw [step_of_nil hrunning ht hstack]
  refine ⟨h.kept.setTasks (.refl : Γ.Extends none Γ) (Kept.backed_self Γ _)
    (h.kept.books.finish h.told hrunning ht hstack) (hposts.settle_any _) ?_
    fun _ hq => absurd hq List.not_mem_nil, ?_⟩
  · exact (Onward.settle (s := { w.tasks with running := none }) t.result).outcomes
  · intro number outcome' _ _ _ hnone
    rw [(Scheduler.settle_same _ _ _).1] at hnone
    cases hnone

/-- Where no task runs, nobody has to be told anything. -/
theorem of_idle (h : Kept counter none [] Γ w) (hidle : w.tasks.running = none) :
    Ordered counter Γ w := by
  refine ⟨h, fun task outcome _ _ _ hrunning => ?_⟩
  rw [hidle] at hrunning
  cases hrunning

/-- What leaves everything in order while no task runs. -/
theorem of_minds {α : Type} {act : Act α} {post : Ledger → World → α → Prop}
    (hidle : w.tasks.running = none) (h : Minds counter none none Γ w post act) :
    ∃ Γ', Γ.Extends none Γ' ∧ w.facts.Grow (w.perform act).facts ∧
      Ordered counter Γ' (w.perform act) := by
  obtain ⟨Γ', hmoves, -⟩ := h
  exact ⟨Γ', hmoves.ledger, hmoves.grows,
    of_idle hmoves.kept (hmoves.onward.running.trans hidle)⟩

/-- Something further happens that was caused. -/
theorem happenHook_minds (h : Kept counter none [] Γ w) {hook : Hook}
    (hsource : isSourced (.hook hook) = true →
      ∃ q, Γ.Sends q (.hook hook) ∧ (w.tasks.outcome? q).isSome) :
    Minds counter none none Γ w (fun _ _ _ => True) (happenHook hook) := by
  cases hook with
  | forget channel request =>
    obtain ⟨q, ⟨asker, hanswer⟩, hsettled⟩ := hsource rfl
    exact .of_moves (forget_moves h hanswer hsettled) trivial
  | retire task => exact updateSession_tidy _ _ _ _ _ h
  | write process bytes => exact writeOutput_tidy process bytes _ _ _ _ h
  | quit process code => exact quit_tidy process code _ _ _ _ h

/-- A notice that was taken from the queue happens. -/
theorem happen (h : Ordered counter Γ w) (hidle : w.tasks.running = none) {notice : Notice Hook}
    {s : Scheduler Point Answer Hook} (htake : w.tasks.takeNotice = some (notice, s)) :
    ∃ Γ', Γ.Extends none Γ' ∧ w.facts.Grow (({ w with tasks := s } : World).perform
        (World.happen notice)).facts ∧
      Ordered counter Γ' (({ w with tasks := s } : World).perform (World.happen notice)) := by
  obtain ⟨hrunning, htasks, hpromises, -⟩ := Scheduler.takeNotice_same htake
  obtain ⟨hbooks, hqueued⟩ := h.kept.books.takeNotice htake
  obtain ⟨hposts, hsource⟩ := h.kept.posts.takeNotice htake
  have hallows : Γ.Allows notice := h.kept.books.notices notice (by
    rw [Scheduler.mem_notices]
    exact .inl hqueued)
  have houtcome : ∀ q, s.outcome? q = w.tasks.outcome? q := fun q => by
    rw [Scheduler.outcome?, Scheduler.outcome?, hpromises]
  have htaken : Kept counter none (Posts.dueAfter [] notice) Γ { w with tasks := s } :=
    h.kept.setTasks (.refl : Γ.Extends none Γ) (Kept.backed_self Γ _) hbooks hposts
      (fun q known hknown => (houtcome q).trans hknown) fun _ hq => absurd hq List.not_mem_nil
  have hstill : ({ w with tasks := s } : World).tasks.running = none := hrunning.trans hidle
  have hgrow : w.facts.Grow { w with tasks := s : World }.facts :=
    .of_tasks fun q known hknown => (houtcome q).trans hknown
  have hrelease : ∀ {w' : World}, (∃ Γ', Γ.Extends none Γ' ∧
      { w with tasks := s : World }.facts.Grow w'.facts ∧ Ordered counter Γ' w') →
      ∃ Γ', Γ.Extends none Γ' ∧ w.facts.Grow w'.facts ∧ Ordered counter Γ' w' := by
    rintro w' ⟨Γ', hext, hgrow', hordered⟩
    exact ⟨Γ', hext, hgrow.trans hgrow', hordered⟩
  cases notice with
  | wake task =>
    obtain ⟨hresumed, htold⟩ := htaken.books.resume (fun _ hq => hq) hstill task
    have hkept : ∀ q known, s.outcome? q = some known → (s.resume task).outcome? q = some known := by
      rcases s.resume_cases task with heq | ⟨_, _, _, -, -, -, heq, -⟩ <;> rw [heq]
      · exact fun _ _ hknown => hknown
      · exact fun _ _ hknown => hknown
    have hgrow' : { w with tasks := s : World }.facts.Grow { w with tasks := s.resume task : World }.facts :=
      .of_tasks hkept
    exact hrelease ⟨Γ, .refl, hgrow', htaken.setTasks (.refl : Γ.Extends none Γ) (Kept.backed_self Γ _)
      hresumed (hposts.resume task) hkept fun _ hq => absurd hq List.not_mem_nil, htold.grow hgrow'⟩
  | release promise =>
    have hreleased : Minds counter none none Γ { w with tasks := s } (fun _ _ _ => True)
        (World.happen (.release promise)) :=
      .of_moves (htaken.settle_of hallows ⟨_, rfl⟩) trivial
    exact hrelease (of_minds hstill hreleased)
  | relay source target =>
    -- whoever waits for a connection is told
    obtain ⟨q, rfl, hsettled⟩ := hsource rfl
    obtain ⟨known, hknown⟩ := Option.isSome_iff_exists.1 hsettled
    rw [perform_relay, show ({ w with tasks := s } : World).tasks.outcome? q = some known from hknown]
    refine hrelease ⟨Γ, .refl, .of_tasks (Onward.settle target).outcomes,
      of_idle (htaken.settle_due fun purpose hpurpose => ?_) ((Scheduler.settle_same _ _ _).1.trans hstill)⟩
    have hshield : Γ.purposes[target]? = some (.shield q) := hallows
    rw [hshield] at hpurpose
    obtain rfl := Option.some.inj hpurpose
    trivial
  | tally promise =>
    have honward : Onward s (s.countDown promise) := .countDown promise
    exact hrelease ⟨Γ, .refl, .of_tasks honward.outcomes, of_idle
      (htaken.setTasks (.refl : Γ.Extends none Γ) (Kept.backed_self Γ _)
        (htaken.books.countDown hallows) (hposts.countDown promise)
        honward.outcomes fun _ hq => absurd hq List.not_mem_nil) (honward.running.trans hstill)⟩
  | hook hook => exact hrelease (of_minds hstill (happenHook_minds htaken hsource))

/-- A step leaves a world in order. -/
theorem step (h : Ordered counter Γ w) :
    ∃ Γ', (∃ owner, Γ.Extends owner Γ') ∧ w.facts.Grow w.step.facts ∧ Ordered counter Γ' w.step := by
  cases hrunning : w.tasks.running with
  | some pair =>
    obtain ⟨task, outcome⟩ := pair
    obtain ⟨t, below, ht, -⟩ := h.exists_task hrunning
    cases hstack : t.stack with
    | nil =>
      refine ⟨Γ, ⟨none, .refl⟩, ?_, h.finish hrunning ht hstack⟩
      rw [step_of_nil hrunning ht hstack]
      exact .of_tasks (Onward.settle (s := { w.tasks with running := none }) t.result).outcomes
    | cons point rest =>
      obtain ⟨Γ', -, -, -, -, hmoves, -, hordered⟩ := h.advance hrunning ht hstack
      refine ⟨Γ', ⟨_, hmoves.ledger⟩, ?_, hordered⟩
      rw [step_of_point hrunning ht hstack]
      exact hmoves.grows.trans (.of_tasks fun _ _ => outcome?_proceed _)
  | none =>
    rw [step_of_idle hrunning]
    cases htake : w.tasks.takeNotice with
    | none => exact ⟨Γ, ⟨none, .refl⟩, .refl _, h⟩
    | some pair =>
      obtain ⟨Γ', hext, hgrow, hordered⟩ := h.happen hrunning htake
      exact ⟨Γ', ⟨none, hext⟩, hgrow, hordered⟩

/-! ## Runs -/

theorem moveTo_tidy (moment : Nat) : Tidy (modifyTasks (·.moveTo moment)) := by
  intro counter owner Γ w h
  refine .of_moves (h.moves .refl (Kept.backed_self Γ _) (h.books.moveTo moment)
    (h.posts.moveTo moment) ?_) trivial
  obtain ⟨hrunning, htasks, hpromises, -⟩ := Scheduler.dropStopped_same w.tasks
  refine .of_tasks hrunning htasks fun q known hknown => ?_
  rwa [Scheduler.outcome?, show (w.tasks.moveTo moment).promises = w.tasks.promises from hpromises]

/-- Somebody calls for something. -/
theorem call_tidy (counter : Counter) (h : Kept counter none [] Γ w) {activity : Activity}
    (hoffers : counter.offers activity = true) :
    Minds counter none none Γ w (fun _ _ _ => True) (discard (spawn activity)) := by
  have hspawn : Moves counter none none Γ w (Γ.add .call) ((spawn activity).run w).2 :=
    h.spawn rfl hoffers (fun _ heq => (by cases heq)) fun _ _ heq => (by cases heq)
  exact ⟨_, hspawn, trivial⟩

/-- What happens from outside leaves a world in order. -/
theorem act_minds (h : Kept counter none [] Γ w) {incident : Incident} (hstep : incident ≠ .step) :
    Minds counter none none Γ w (fun _ _ _ => True) (incident.act counter) := by
  cases incident with
  | step => exact absurd rfl hstep
  | call activity =>
    unfold Incident.act
    simp only
    split
    · exact call_tidy counter h ‹_›
    · exact .pure h trivial
  | notify connection method params => exact notify_tidy connection method params _ _ _ _ h
  | output process bytes => exact writeOutput_tidy process bytes _ _ _ _ h
  | errors process bytes => exact writeErrors_tidy process bytes _ _ _ _ h
  | fault process text => exact breakOutput_tidy process text _ _ _ _ h
  | exit process code => exact quit_tidy process code _ _ _ _ h
  | time moment => exact moveTo_tidy moment _ _ _ _ h

/-- Whatever happens leaves a world in order. -/
theorem undergo (h : Ordered counter Γ w) (incident : Incident) :
    ∃ Γ', (∃ owner, Γ.Extends owner Γ') ∧ w.facts.Grow (w.undergo counter incident).facts ∧
      Ordered counter Γ' (w.undergo counter incident) := by
  unfold World.undergo
  split
  · exact h.step
  · exact ⟨Γ, ⟨none, .refl⟩, .refl _, h⟩
  · rename_i hstep hidle
    obtain ⟨Γ', hext, hgrow, hordered⟩ :=
      of_minds hidle (act_minds h.kept hstep)
    exact ⟨Γ', ⟨none, hext⟩, hgrow, hordered⟩

/-- A run leaves a world in order. -/
theorem undergoAll (h : Ordered counter Γ w) (incidents : List Incident) :
    ∃ Γ', Ordered counter Γ' (w.undergoAll counter incidents) := by
  induction incidents generalizing Γ w with
  | nil => exact ⟨Γ, h⟩
  | cons incident rest ih =>
    obtain ⟨Γ', -, -, hordered⟩ := h.undergo incident
    exact ih hordered

/-- Before anything has happened, a world is in order. -/
theorem fresh (htasks : w.tasks = {}) (hprocesses : w.processes = []) (hchannels : w.channels = [])
    (hconnections : ∀ c ∈ w.connections, c.started = none ∧ c.listener.IsPlain)
    (htickets : w.keeper.tickets = []) (hlistener : w.keeper.listener = .recorder) :
    Ordered counter {} w := by
  have hnone : ∀ (q : Nat) (purpose : Purpose), ({} : Ledger).purposes[q]? ≠ some purpose := by
    simp
  -- There are no promises and no tasks yet, so nothing is said of any.
  have hbooks : Books counter none {} w.facts w.tasks := by
    rw [htasks]
    refine ⟨rfl, ?_, ?_, ?_, ?_, ?_, ?_, ?_, ?_, ?_, ?_, ?_⟩ <;> simp [Scheduler.notices]
  have hposts : Posts [] {} w.tasks := by
    rw [htasks]
    refine ⟨?_, ?_, ?_, ?_, ?_⟩ <;> simp
  refine of_idle ⟨hbooks, hposts, ?_, ?_, ?_, ?_, hlistener, ?_, ?_, ?_,
    fun _ hq => absurd hq List.not_mem_nil, fun q _ hq => absurd hq (hnone q _),
    fun c hc _ source hsource => ?_⟩ (by rw [htasks])
  · simp [hprocesses]
  · simp [hchannels]
  · refine fun c hc => ⟨fun q hq => ?_, (hconnections c hc).2⟩
    rw [(hconnections c hc).1] at hq
    cases hq
  · simp [htickets]
  · exact fun q channel id asker hq => absurd hq (hnone q _)
  · exact fun q process asker hq => absurd hq (hnone q _)
  · simp [hchannels]
  · rw [(hconnections c hc).1] at hsource
    cases hsource

end Ordered

end BasiliskServer.World
