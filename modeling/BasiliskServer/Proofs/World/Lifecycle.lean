import BasiliskServer.Proofs.World.Conduct

/-!
# Channels, connections and the keeper leave everything in order

The activities that open and close channels, start and stop connections and see to the one
connection of the keeper go on as is expected of them wherever they are begun, and so does every
point at which they wait (`resume_pursues`). Channels know the tasks and the process that they have,
and that is what closing them relies on.
-/

namespace BasiliskServer.World

open Json (Value Fields)
open Tasks (Notice Scheduler)

variable {Γ Γ' : Ledger} {counter : Counter} {owner dropper : Option Nat} {result : Nat}
  {below e : Expectation} {outcome : Outcome} {w w' : World}

/-! ## What connections are told -/

/-- A listener that involves no session. -/
def Listener.IsPlain (listener : Listener) : Prop :=
  listener = .nobody ∨ listener = .recorder

namespace Listener.IsPlain

variable {listener : Listener}

theorem report_tidy (h : listener.IsPlain) (uri : String) (problems : List Value)
    (version : Option Value) : Tidy (listener.report uri problems version) := by
  rcases h with rfl | rfl
  · exact .pure ()
  · exact note_tidy _

theorem message_tidy (h : listener.IsPlain) (text : String) : Tidy (listener.message text) := by
  rcases h with rfl | rfl
  · exact .pure ()
  · exact note_tidy _

theorem errors_tidy (h : listener.IsPlain) (line : String) : Tidy (listener.errors line) := by
  rcases h with rfl | rfl
  · exact .pure ()
  · exact note_tidy _

theorem exit_tidy (h : listener.IsPlain) (code : Option Int) : Tidy (listener.exit code) := by
  rcases h with rfl | rfl
  · exact .pure ()
  · exact note_tidy _

end Listener.IsPlain

/-- A connection is changed in a way that concerns no promise. -/
theorem updateConnection_tidy (number : Nat) {change : Connection → Connection}
    (hchange : ∀ c, (change c).started = c.started ∧ (change c).listener = c.listener ∧
      ((change c).phase = .stopped → c.phase = .stopped)) :
    Tidy (updateConnection number change) := by
  intro counter owner Γ w h
  refine .of_moves (.of_kept ⟨.refl _, h.setConnection number (fun c hjoins => ⟨?_, ?_⟩)
    (fun c _ => .inl (hchange c).1) fun c hc hphase => ?_⟩ rfl) trivial
  · rw [(hchange c).1]
    exact hjoins.started
  · rw [(hchange c).2.1]
    exact hjoins.listener
  · rw [(hchange c).1]
    exact h.halted c (List.mem_of_getElem? hc) ((hchange c).2.2 hphase)

theorem settleStarted_tidy (number : Nat) (ready : Bool) : Tidy (settleStarted number ready) := by
  refine .of_get fun counter owner Γ w h => ?_
  split
  · rename_i hc
    have hstarted := (h.connections _ (List.mem_of_getElem? hc)).started _ rfl
    exact .of_moves (h.settle_of hstarted ⟨_, rfl⟩) trivial
  · exact .pure h trivial

/-- What comes of telling whether a connection has become ready. -/
theorem settleStarted_run (w : World) (number : Nat) (ready : Bool) :
    ((settleStarted number ready).run w).2 =
      match (w.connections[number]?).bind (·.started) with
      | some source => { w with tasks := w.tasks.settle source (.ok (.bool ready)) }
      | none => w := by
  simp only [settleStarted, run_bind, run_get]
  rcases w.connections[number]? with - | ⟨_, _, _, _, _, _, _, _, _, - | started, _⟩ <;> rfl

theorem reset_tidy (number : Nat) : Tidy (reset number) := by
  intro counter owner Γ w h
  refine ⟨Γ, ?_, trivial⟩
  let change : Connection → Connection := fun c => { c with channel := none, queue := [], phase := .stopped }
  have hrun : ((reset number).run w).2 = ((settleStarted number false).run
      { w with connections := w.connections.modify number change }).2 := rfl
  have hsame : ((w.connections.modify number change)[number]?).bind (·.started) =
      (w.connections[number]?).bind (·.started) := by
    cases hc : w.connections[number]? <;> simp [hc, change]
  -- a connection that has told whether it became ready may be stopped
  have hstops : ∀ {w₁ : World}, Kept counter owner [] Γ w₁ →
      (∀ c, w₁.connections[number]? = some c → ∀ source, c.started = some source → w₁.facts.heard source) →
      Moves counter owner none Γ w₁ Γ { w₁ with connections := w₁.connections.modify number change } :=
    fun h₁ hheard => .of_kept ⟨.refl _, h₁.setConnection number
      (fun c hjoins => ⟨hjoins.started, hjoins.listener⟩) (fun c _ => .inl rfl)
      fun c hc _ => hheard c hc⟩ rfl
  rw [hrun, settleStarted_run, hsame]
  cases hstarted : (w.connections[number]?).bind (·.started) with
  | none =>
    refine hstops h fun c hc source hsource => ?_
    rw [hc, Option.bind_some, hsource] at hstarted
    cases hstarted
  | some source =>
    obtain ⟨c, hc, hsource⟩ := Option.bind_eq_some_iff.1 hstarted
    have hpurpose := (h.connections c (List.mem_of_getElem? hc)).started source hsource
    have hsettles : Moves counter owner none Γ w Γ
        { w with tasks := w.tasks.settle source (.ok (.bool false)) } :=
      h.settle_of hpurpose ⟨_, rfl⟩
    refine hsettles.trans (hstops hsettles.kept fun c' hc' source' hsource' => ?_)
    rw [← Option.some.inj (hc.symm.trans hc'), hsource] at hsource'
    rw [← Option.some.inj hsource']
    refine Scheduler.isSome_settle ?_
    rw [← h.books.length]
    exact (List.getElem?_eq_some_iff.1 hpurpose).1

theorem takeNotification_tidy {c : Connection} (hplain : c.listener.IsPlain) (method : String)
    (params : Value) : Tidy (takeNotification c method params) := by
  have htext : Tidy (takeNotification.takeText c params) := by
    unfold takeNotification.takeText
    split
    · split
      · exact .pure ()
      · exact hplain.message_tidy _
    · exact .pure ()
  unfold takeNotification
  split
  · split
    · exact hplain.report_tidy _ _ _
    · exact .pure ()
  · exact htext
  · exact htext
  · exact .pure ()

theorem takeFrame_tidy (number : Nat) (message : Fields) : Tidy (takeFrame number message) := by
  refine .of_get fun counter owner Γ w h => ?_
  cases hc : w.connections[number]? with
  | none => exact .pure h trivial
  | some c =>
    simp only
    cases c.channel with
    | none => exact .pure h trivial
    | some channel =>
      refine (takeMessage_tidy c.room channel message).andThen h fun Γ₁ w₁ told _ hmoves => ?_
      cases told with
      | none => exact .pure hmoves.kept trivial
      | some told =>
        have hplain := (h.connections c (List.mem_of_getElem? hc)).listener
        exact takeNotification_tidy hplain _ _ _ _ _ _ hmoves.kept

theorem takeLoss_tidy (number : Nat) (code : Option Int) : Tidy (takeLoss number code) := by
  refine .of_get fun counter owner Γ w h => ?_
  cases hc : w.connections[number]? with
  | none => exact .pure h trivial
  | some c =>
    have hplain : c.listener.IsPlain := (h.connections c (List.mem_of_getElem? hc)).listener
    have hreject : Tidy (c.channel.forM fun channel => rejectAll channel (.exited code)) :=
      .forM_option fun channel => rejectAll_tidy channel rfl
    refine hreject.andThen h fun Γ₁ w₁ _ _ hmoves₁ => ?_
    refine Tidy.andThen ?_ hmoves₁.kept fun Γ₂ w₂ _ _ hmoves₂ => ?_
    · exact updateConnection_tidy number fun _ => ⟨rfl, rfl, id⟩
    split
    · exact (reset_tidy number).andThen hmoves₂.kept fun _ _ _ _ hmoves₃ =>
        hplain.exit_tidy code _ _ _ _ hmoves₃.kept
    · exact .pure hmoves₂.kept trivial

theorem Owner.frame_tidy (holder : Owner) (message : Fields) : Tidy (holder.frame message) := by
  cases holder with
  | recorder full takes =>
    unfold Owner.frame
    simp only
    split
    · exact .pure ()
    · exact note_tidy _
  | connection number => exact takeFrame_tidy number message

theorem Owner.errors_tidy (holder : Owner) (line : String) : Tidy (holder.errors line) := by
  cases holder with
  | recorder full takes =>
    unfold Owner.errors
    simp only
    split
    · exact note_tidy _
    · exact .pure ()
  | connection number =>
    refine .of_get fun counter owner Γ w h => ?_
    cases hc : w.connections[number]? with
    | none => exact .pure h trivial
    | some c =>
      have hplain : c.listener.IsPlain := (h.connections c (List.mem_of_getElem? hc)).listener
      exact hplain.errors_tidy line _ _ _ _ h

theorem Owner.exit_tidy (holder : Owner) (code : Option Int) : Tidy (holder.exit code) := by
  cases holder with
  | recorder full takes =>
    unfold Owner.exit
    simp only
    split
    · exact note_tidy _
    · exact .pure ()
  | connection number => exact takeLoss_tidy number code

/-! ## Traffic -/

namespace Pursues

/-- After an action that leaves everything in order. -/
theorem after {α : Type} {act : Act α} {rest : α → Act Next} (hact : Tidy act)
    (h : Kept counter (some result) [] Γ w)
    (hrest : ∀ (Γ' : Ledger) (w' : World) (a : α), act.run w = (a, w') →
      Moves counter (some result) none Γ w Γ' w' → Pursues counter result below Γ' w' (rest a)) :
    Pursues counter result below Γ w (act >>= rest) :=
  hact.andThen h hrest

/-- An activity that is over. -/
theorem finish {answer : Answer} (h : Kept counter (some result) [] Γ w)
    (hsuits : Expectation.Suits counter e below) (he : e.IsSuccess) :
    Pursues counter result below Γ w (finish answer) := by
  refine report h hsuits ?_
  cases e <;> first | exact ⟨_, rfl⟩ | cases he

end Pursues

theorem openChannel_pursues (h : Kept counter (some result) [] Γ w) {number : Nat} {c : Channel}
    (hc : w.channels[number]? = some c) (hprocess : c.process = none)
    (hsuits : Expectation.Suits counter .opening below) :
    Pursues counter result below Γ w (openChannel number) := by
  refine Minds.get_bind ?_
  rw [hc]
  simp only [hprocess, Option.isSome_none, Bool.false_eq_true, if_false]
  exact Pursues.under (startCompanion_pursues h _ (.same _)) fun _ => ⟨_, rfl, hsuits⟩

/-- A task is started in the background. -/
theorem spawnErrand_moves (h : Kept counter owner [] Γ w) {activity : Activity}
    (hbegins : counter.Begins activity .idle) :
    Moves counter owner dropper Γ w (Γ.add (.errand w.tasks.tasks.length))
      ((spawn activity).run w).2 :=
  h.spawn rfl hbegins (fun _ heq => (Purpose.errand.inj heq).symm) fun _ _ heq => (by cases heq)

/-- A process is started, and the tasks of its channel begin. -/
theorem beginTraffic_pursues (h : Kept counter (some result) [] Γ w) (number : Nat) {process : Nat}
    (hknown : w.facts.known process) (hbelow : ∀ (Γ' : Ledger) (f : Facts), Γ'.Admits f result below (.ok .unit)) :
    Pursues counter result below Γ w (beginTraffic number process) := by
  refine Minds.after (updateChannel_moves h (fun _ => rfl) (fun _ => rfl) fun c hc hcarries =>
    ⟨fun p hp => ?_, hcarries.tasks⟩) fun h₁ => ?_
  · exact Option.some.inj hp ▸ hknown
  refine .after (spawnErrand_moves h₁ (.inl ⟨_, rfl⟩)) fun h₂ => ?_
  refine .after (spawnErrand_moves h₂ (.inr (.inl ⟨_, rfl⟩))) fun h₃ => ?_
  refine .after (spawnErrand_moves h₃ (.inr (.inr ⟨_, _, rfl⟩))) fun h₄ => ?_
  refine .after (updateChannel_moves h₄ (fun _ => rfl) (fun _ => rfl) fun c hc hcarries =>
    ⟨hcarries.process, fun task htask => ?_⟩) fun h₅ => Pursues.give h₅ (hbelow _ _)
  -- every one of the three has its entry
  simp only [List.mem_cons, List.not_mem_nil, or_false] at htask
  rcases htask with rfl | rfl | rfl
  · exact ⟨_, Ledger.purposes_add_of (Ledger.purposes_add_of (Ledger.purposes_add_length _) _) _⟩
  · exact ⟨_, Ledger.purposes_add_of (Ledger.purposes_add_length _) _⟩
  · exact ⟨_, Ledger.purposes_add_length _⟩

theorem withProcess_pursues (h : Kept counter (some result) [] Γ w) (number : Nat)
    {activity : Nat → Act Next} (hnone : ∀ f : Facts, Γ.Admits f result below (.ok .unit))
    (hactivity : ∀ process, w.facts.known process →
      Pursues counter result below Γ w (activity process)) :
    Pursues counter result below Γ w (withProcess number activity) := by
  refine Minds.get_bind ?_
  cases hprocess : w.channels[number]?.bind (·.process) with
  | none => exact Pursues.give h (hnone _)
  | some process =>
    obtain ⟨c, hc, hp⟩ := Option.bind_eq_some_iff.1 hprocess
    exact hactivity process ((h.channels number c hc).process process hp)

/-- A task in the background waits for something that may be given up. -/
theorem waitReader_pursues (h : Kept counter (some result) [] Γ w) (process : Nat) {point : Point}
    {change : Nat → Process → Process} (hpoint : point.expectation = .idle)
    (hpasses : ∀ Γ' : Ledger, Γ'.Passes counter result below point)
    (hchange : ∀ q p, (change q p).code = p.code ∧ (change q p).exitWaiters = p.exitWaiters ∧
      ((change q p).stdout.waiter = p.stdout.waiter ∨ (change q p).stdout.waiter = some q) ∧
      ((change q p).stderr.waiter = p.stderr.waiter ∨ (change q p).stderr.waiter = some q)) :
    Pursues counter result below Γ w (do
      let waiter ← promise
      updateProcess process (change waiter)
      waitAt waiter point) := by
  refine Minds.after (h.promise 0 .idle trivial) fun h₁ => ?_
  -- A process may lose the reader that it had, but gets none other than the new promise.
  refine .after (updateProcess_moves h₁ process fun p _ hserves => ⟨?_, ⟨fun q hq => ?_, ?_⟩⟩)
    fun h₂ => Pursues.waitAt h₂ (h.feeds_add hpoint) (hpasses _)
  · rw [(hchange _ p).1]
    exact id
  · have hnew := h.purposes_add .idle
    obtain ⟨-, -, hstdout, hstderr⟩ := hchange w.tasks.promises.length p
    rcases hq with hq | hq
    · rcases hstdout with heq | heq
      · exact hserves.readers q (.inl (heq ▸ hq))
      · obtain rfl := Option.some.inj (heq.symm.trans hq)
        exact hnew
    · rcases hstderr with heq | heq
      · exact hserves.readers q (.inr (heq ▸ hq))
      · obtain rfl := Option.some.inj (heq.symm.trans hq)
        exact hnew
  · rw [(hchange _ p).2.1]
    exact hserves.exits

theorem readOutput_pursues (h : Kept counter (some result) [] Γ w) (number process : Nat)
    (hsuits : Expectation.Suits counter .idle below) :
    Pursues counter result below Γ w (readOutput number process) := by
  have hpasses : ∀ Γ' : Ledger,
      Γ'.Passes counter result below (.channel (.output number process)) := fun _ => ⟨_, rfl, hsuits⟩
  refine Minds.get_bind (.get_bind ?_)
  cases hp : w.processes[process]? with
  | none => exact Pursues.report h hsuits trivial
  | some p =>
    cases hc : w.channels[number]? with
    | none => exact Pursues.report h hsuits trivial
    | some c =>
      simp only
      split
      · exact Pursues.report h hsuits trivial
      · split
        · exact Pursues.report h hsuits trivial
        · exact waitReader_pursues h process rfl hpasses fun _ _ => ⟨rfl, rfl, .inr rfl, .inl rfl⟩
      · refine Pursues.after (updateProcess_tidy process fun _ => ⟨id, rfl, rfl, rfl⟩) h
          fun Γ₁ w₁ _ _ hmoves₁ => ?_
        refine Pursues.after (updateChannel_tidy number fun _ => ⟨rfl, rfl, .inl rfl, .inl rfl⟩)
          hmoves₁.kept fun Γ₂ w₂ _ _ hmoves₂ => ?_
        split
        · exact Pursues.report hmoves₂.kept hsuits trivial
        · rename_i messages _
          refine Pursues.after (.forM fun message _ => Owner.frame_tidy c.owner message) hmoves₂.kept
            fun Γ₃ w₃ _ _ hmoves₃ => ?_
          exact .pure hmoves₃.kept ⟨⟨hpasses Γ₃, trivial⟩, trivial⟩

theorem readErrors_pursues (h : Kept counter (some result) [] Γ w) (number process : Nat)
    (hsuits : Expectation.Suits counter .idle below) :
    Pursues counter result below Γ w (readErrors number process) := by
  have hpasses : ∀ Γ' : Ledger,
      Γ'.Passes counter result below (.channel (.errors number process)) := fun _ => ⟨_, rfl, hsuits⟩
  refine Minds.get_bind (.get_bind ?_)
  cases hp : w.processes[process]? with
  | none => exact Pursues.report h hsuits trivial
  | some p =>
    cases hc : w.channels[number]? with
    | none => exact Pursues.report h hsuits trivial
    | some c =>
      -- a line is passed on, and the reading goes on
      have hpass : ∀ (line : String) (Γ₁ : Ledger) (w₁ : World),
          Kept counter (some result) [] Γ₁ w₁ →
          Pursues counter result below Γ₁ w₁ (do
            c.owner.errors line
            return .go (.ok .unit) [.channel (.errors number process)]) :=
        fun line Γ₁ w₁ h₁ => Pursues.after (Owner.errors_tidy c.owner line) h₁
          fun Γ₂ w₂ _ _ hmoves => .pure hmoves.kept ⟨⟨hpasses Γ₂, trivial⟩, trivial⟩
      have hdrop : ∀ buffer : List UInt8, Tidy (updateProcess process fun p =>
          { p with stderr := { p.stderr with buffer := buffer } }) :=
        fun _ => updateProcess_tidy process fun _ => ⟨id, rfl, rfl, rfl⟩
      simp only
      split
      · refine Pursues.after (hdrop _) h fun Γ₁ w₁ _ _ hmoves₁ => ?_
        split
        · exact Pursues.report hmoves₁.kept hsuits trivial
        · exact hpass _ _ _ hmoves₁.kept
      · split
        · exact Pursues.after (hdrop _) h fun Γ₁ w₁ _ _ hmoves₁ =>
            Pursues.report hmoves₁.kept hsuits trivial
        · split
          · split
            · exact Pursues.report h hsuits trivial
            · exact Pursues.after (hdrop _) h fun Γ₁ w₁ _ _ hmoves₁ => hpass _ _ _ hmoves₁.kept
          · exact waitReader_pursues h process rfl hpasses fun _ _ => ⟨rfl, rfl, .inl rfl, .inr rfl⟩

/-- The tasks of a channel are given up. -/
theorem interruptAll_minds (tasks : List Nat) (h : Kept counter owner [] Γ w)
    (htasks : ∀ task ∈ tasks, ∃ q : Nat, Γ.purposes[q]? = some (.errand task)) :
    Minds counter owner dropper Γ w (fun _ _ _ => True)
      (tasks.forM fun task => modifyTasks (·.interrupt task)) := by
  induction tasks generalizing Γ w with
  | nil => exact .pure h trivial
  | cons task rest ih =>
    obtain ⟨q, hq⟩ := htasks task List.mem_cons_self
    exact .after (h.interrupt hq) fun h₁ =>
      ih h₁ fun other hother => htasks other (List.mem_cons_of_mem _ hother)

theorem endTraffic_pursues (h : Kept counter (some result) [] Γ w) (number : Nat)
    (hsuits : Expectation.Suits counter .closing below) :
    Pursues counter result below Γ w (endTraffic number) := by
  refine Minds.get_bind ?_
  cases hc : w.channels[number]? with
  | none => exact Pursues.finish h hsuits trivial
  | some c =>
    refine Minds.bind (interruptAll_minds c.tasks h (h.channels number c hc).tasks)
      fun Γ₁ w₁ _ _ hmoves₁ _ => ?_
    split
    · exact Pursues.after (updateChannel_tidy number fun _ => ⟨rfl, rfl, .inr rfl, .inl rfl⟩)
        hmoves₁.kept fun Γ₂ w₂ _ _ hmoves₂ => Pursues.finish hmoves₂.kept hsuits trivial
    · exact waitAll_pursues hmoves₁.kept _ (.inl rfl) (.inr rfl) fun _ => ⟨_, rfl, hsuits⟩

theorem endProcess_pursues (h : Kept counter (some result) [] Γ w) (number : Nat) {process : Nat}
    (hknown : w.facts.known process) (hsuits : Expectation.Suits counter .closing below) :
    Pursues counter result below Γ w (endProcess number process) := by
  refine Minds.get_bind ?_
  split
  · exact endTraffic_pursues h number hsuits
  · refine Pursues.after (askToEnd_tidy process) h fun Γ₁ w₁ asked _ hmoves₁ => ?_
    split
    · have hspawn : Moves counter (some result) (some result) Γ₁ w₁
          (Γ₁.add (.ending process result)) ((spawn (.awaitExit process)).run w₁).2 := by
        refine hmoves₁.kept.spawn rfl rfl (fun _ heq => (by cases heq)) fun other asker heq => ?_
        obtain ⟨rfl, -⟩ := Purpose.ending.inj heq
        exact hmoves₁.grows.known _ hknown
      refine Minds.after hspawn fun h₂ => Pursues.under ?_ fun _ => ⟨_, rfl, hsuits⟩
      exact waitLimited_pursues h₂ (hmoves₁.kept.purposes_add _) hmoves₁.kept.fresh ⟨rfl, rfl⟩ _
    · exact endTraffic_pursues hmoves₁.kept number hsuits

theorem closeChannel_pursues (h : Kept counter (some result) [] Γ w) (number : Nat)
    (hsuits : Expectation.Suits counter .closing below) :
    Pursues counter result below Γ w (closeChannel number) := by
  refine withProcess_pursues h number
    (fun _ => Ledger.Admits.suits (e := .closing) ⟨.unit, rfl⟩ hsuits) fun process hknown => ?_
  exact Pursues.after (updateChannel_tidy number fun _ => ⟨rfl, rfl, .inl rfl, .inl rfl⟩) h
    fun Γ₁ w₁ _ _ hmoves => endProcess_pursues hmoves.kept number (hmoves.grows.known _ hknown) hsuits

theorem loseProcess_pursues (h : Kept counter (some result) [] Γ w) (number : Nat)
    (code : Option Int) (hsuits : Expectation.Suits counter .idle below) :
    Pursues counter result below Γ w (loseProcess number code) := by
  refine Minds.get_bind ?_
  cases hc : w.channels[number]? with
  | none => exact Pursues.report h hsuits trivial
  | some c =>
    simp only
    split
    · refine Pursues.after (updateChannel_tidy number fun _ => ⟨rfl, rfl, .inr rfl, .inl rfl⟩) h
        fun Γ₁ w₁ _ _ hmoves₁ => ?_
      exact Pursues.after (Owner.exit_tidy c.owner code) hmoves₁.kept
        fun Γ₂ w₂ _ _ hmoves₂ => Pursues.report hmoves₂.kept hsuits trivial
    · exact Pursues.report h hsuits trivial

/-- A task goes on in a channel. -/
theorem channelResume_pursues (h : Kept counter (some result) [] Γ w) {point : ChannelPoint}
    (hpasses : Γ.Passes counter result below (.channel point))
    (hadmits : Γ.Admits w.facts result (Point.channel point).expectation outcome) :
    Pursues counter result below Γ w (point.resume outcome) := by
  obtain ⟨e, he, hsuits⟩ := hpasses
  cases point with
  | opened number =>
    cases he
    rcases hadmits with ⟨process, rfl, hknown⟩ | ⟨command, text, rfl⟩
    · exact beginTraffic_pursues h number hknown fun Γ' f =>
        Ledger.Admits.suits (e := .opening) (.inl ⟨_, rfl⟩) hsuits
    · exact Pursues.report h hsuits (.inr ⟨_, _, rfl⟩)
  | output number process =>
    cases he
    cases outcome with
    | ok answer => exact readOutput_pursues h number process hsuits
    | error failure => exact Pursues.report h hsuits trivial
  | errors number process =>
    cases he
    cases outcome with
    | ok answer => exact readErrors_pursues h number process hsuits
    | error failure => exact Pursues.report h hsuits trivial
  | drained number process =>
    cases he
    cases outcome with
    | ok answer =>
      exact Pursues.under (awaitExit_pursues h process (.gone process)) fun _ => ⟨_, rfl, hsuits⟩
    | error failure => exact Pursues.report h hsuits trivial
  | gone number process =>
    cases he
    unfold ChannelPoint.resume
    split
    · rename_i heq
      cases heq
    all_goals first
      | exact loseProcess_pursues h _ _ hsuits
      | exact Pursues.report h hsuits trivial
      | (rename_i heq; cases heq)
  | asked number process =>
    cases he
    cases outcome with
    | ok answer => exact endTraffic_pursues h number hsuits
    | error failure =>
      -- It has not ended in time, so it is killed, and then its end is known.
      obtain ⟨rfl, hknown⟩ := hadmits.2 failure rfl
      refine Minds.bind (kill_minds h process) fun Γ₁ w₁ _ _ hmoves hended => ?_
      refine Pursues.under ?_ fun _ => ⟨_, rfl, hsuits⟩
      exact awaitExit_pursues_ended hmoves.kept process (hended hknown) fun a => ⟨a, rfl⟩
  | killed number =>
    cases he
    obtain ⟨answer, rfl⟩ := hadmits
    exact endTraffic_pursues h number hsuits
  | quiet number =>
    cases he
    obtain ⟨answer, rfl⟩ := hadmits
    exact Pursues.after (updateChannel_tidy number fun _ => ⟨rfl, rfl, .inr rfl, .inr rfl⟩) h
      fun Γ₁ w₁ _ _ hmoves => Pursues.finish hmoves.kept hsuits trivial

/-! ## Connections -/

/-- A connection begins to start with a channel of its own. -/
theorem beginStart_minds (h : Kept counter owner [] Γ w) (number : Nat) (command : List String)
    (hstopped : ∀ c, w.connections[number]? = some c → c.phase = .stopped) :
    Minds counter owner dropper Γ w
      (fun _ w' channel => ∃ c, w'.channels[channel]? = some c ∧ c.process = none)
      (beginStart number command) := by
  refine .after (h.promise 0 .started trivial) fun h₁ => ?_
  refine .after (newChannel_moves h₁ command (.connection number)) fun h₂ => ?_
  have hstarted := h.purposes_add .started
  -- an earlier start of the connection has told what became of it
  have htold : ∀ c, w.connections[number]? = some c → ∀ source, c.started = some source →
      ((newChannel command (.connection number)).run ((promise 0).run w).2).2.facts.heard source :=
    fun c hc source hsource =>
      (Facts.Grow.of_tasks (w := w) (Onward.addPromise 0).outcomes).heard source
        (h.halted c (List.mem_of_getElem? hc) (hstopped c hc) source hsource)
  refine .after (.of_kept ⟨.refl _, h₂.setConnection number (fun c hjoins => ⟨?_, hjoins.listener⟩)
    (fun c hc => .inr (htold c hc)) fun c _ hphase => (by cases hphase)⟩ rfl)
    fun h₃ => .pure h₃ ⟨_, List.getElem?_concat_length, rfl⟩
  intro q hq
  exact Option.some.inj hq ▸ hstarted

theorem connect_pursues (h : Kept counter (some result) [] Γ w) (number : Nat)
    (hsuits : Expectation.Suits counter .readiness below) :
    Pursues counter result below Γ w (connect number) := by
  refine Minds.get_bind ?_
  cases hc : w.connections[number]? with
  | none => exact Pursues.report h hsuits (.inl ⟨_, rfl⟩)
  | some c =>
    simp only
    split
    · exact Pursues.report h hsuits (.inl ⟨_, rfl⟩)
    · rename_i hstopped
      refine Minds.bind (beginStart_minds h number _ fun c' hc' => ?_)
        fun Γ₁ w₁ channel _ hmoves hfresh => ?_
      · rw [← Option.some.inj (hc.symm.trans hc')]
        exact hstopped
      obtain ⟨line, hline, hprocess⟩ := hfresh
      exact Pursues.under (openChannel_pursues hmoves.kept hline hprocess (.same _)) fun _ =>
        ⟨_, rfl, hsuits⟩
    · exact Pursues.report h hsuits (.inl ⟨_, rfl⟩)

/-- Looking at the phase of a connection changes nothing. -/
theorem isInPhase_bind {rest : Bool → Act Next} (phase : Phase) (number : Nat)
    (hrest : ∀ b, Pursues counter result below Γ w (rest b)) :
    Pursues counter result below Γ w (isInPhase phase number >>= rest) := by
  have hrun : ∃ b, (isInPhase phase number).run w = (b, w) := by
    simp only [isInPhase, run_bind, run_get]
    cases w.connections[number]? with
    | none => exact ⟨_, rfl⟩
    | some c => exact ⟨_, rfl⟩
  obtain ⟨b, hb⟩ := hrun
  obtain ⟨Γ', hmoves, hpost⟩ := hrest b
  have hbind : (isInPhase phase number >>= rest).run w = (rest b).run w := by
    rw [StateT.run_bind, hb]
    rfl
  exact ⟨Γ', hbind ▸ hmoves, hbind ▸ hpost⟩

theorem greet_pursues (h : Kept counter (some result) [] Γ w) (number channel : Nat)
    (hsuits : Expectation.Suits counter .readiness below) :
    Pursues counter result below Γ w (greet number channel) := by
  refine Minds.get_bind ?_
  cases hc : w.connections[number]? with
  | none => exact Pursues.report h hsuits (.inl ⟨_, rfl⟩)
  | some c =>
    refine Minds.bind (requestThrough_minds h c.room channel _ _ result)
      fun Γ₁ w₁ asked _ hmoves hasked => ?_
    cases asked with
    | ok q =>
      obtain ⟨hfresh, id, hpurpose⟩ := hasked.2 q rfl
      exact Pursues.under (waitWithin_pursues hmoves.kept hpurpose hfresh (.inr (.inr rfl)) _)
        fun _ => ⟨_, rfl, hsuits⟩
    | error what => exact Pursues.report hmoves.kept hsuits (.inr ⟨what, rfl⟩)

theorem becomeReady_pursues (h : Kept counter (some result) [] Γ w) (number channel : Nat)
    (answer : Value) (hsuits : Expectation.Suits counter .readiness below) :
    Pursues counter result below Γ w (becomeReady number channel answer) := by
  refine Minds.get_bind ?_
  have hchange : ∀ change : Connection → Connection,
      (∀ c, (change c).started = c.started ∧ (change c).listener = c.listener ∧
        ((change c).phase = .stopped → c.phase = .stopped)) →
      Tidy (updateConnection number change) := fun change => updateConnection_tidy number
  cases hc : w.connections[number]? with
  | none => exact Pursues.report h hsuits (.inl ⟨_, rfl⟩)
  | some c =>
    refine Pursues.after (hchange _ fun _ => ⟨rfl, rfl, nofun⟩) h fun Γ₁ w₁ _ _ hmoves₁ => ?_
    refine Pursues.after (notifyThrough_tidy channel _ _) hmoves₁.kept fun Γ₂ w₂ _ _ hmoves₂ => ?_
    refine Pursues.after (hchange _ fun _ => ⟨rfl, rfl, id⟩) hmoves₂.kept fun Γ₃ w₃ _ _ hmoves₃ => ?_
    refine Pursues.after (.forM fun item _ => notifyThrough_tidy channel item.1 item.2) hmoves₃.kept
      fun Γ₄ w₄ _ _ hmoves₄ => ?_
    split
    · exact Pursues.report hmoves₄.kept hsuits (.inr ⟨_, rfl⟩)
    refine Pursues.after (hchange _ fun _ => ⟨rfl, rfl, id⟩) hmoves₄.kept fun Γ₅ w₅ _ _ hmoves₅ => ?_
    exact Pursues.after (settleStarted_tidy number true) hmoves₅.kept fun Γ₆ w₆ _ _ hmoves₆ =>
      Pursues.report hmoves₆.kept hsuits (.inl ⟨_, rfl⟩)

theorem closeConnection_pursues (h : Kept counter (some result) [] Γ w) (number : Nat)
    (channel : Option Nat) (hsuits : Expectation.Suits counter .departure below) :
    Pursues counter result below Γ w (closeConnection number channel) := by
  refine Pursues.under ?_ fun _ => ⟨_, rfl, hsuits⟩
  cases channel with
  | some channel => exact closeChannel_pursues h channel (.same _)
  | none => exact Pursues.finish h (.same _) trivial

theorem disconnect_pursues (h : Kept counter (some result) [] Γ w) (number : Nat)
    (hsuits : Expectation.Suits counter .departure below) :
    Pursues counter result below Γ w (disconnect number) := by
  refine Minds.get_bind ?_
  have hchange : ∀ change : Connection → Connection,
      (∀ c, (change c).started = c.started ∧ (change c).listener = c.listener ∧
        ((change c).phase = .stopped → c.phase = .stopped)) →
      Tidy (updateConnection number change) := fun change => updateConnection_tidy number
  cases hc : w.connections[number]? with
  | none => exact Pursues.finish h hsuits trivial
  | some c =>
    simp only
    split
    · exact Pursues.after (hchange _ fun _ => ⟨rfl, rfl, id⟩) h fun Γ₁ w₁ _ _ hmoves₁ =>
        Pursues.finish hmoves₁.kept hsuits trivial
    · exact Pursues.finish h hsuits trivial
    · refine Pursues.after (hchange _ fun _ => ⟨rfl, rfl, nofun⟩) h fun Γ₁ w₁ _ _ hmoves₁ => ?_
      split
      · rename_i channel _ _ _
        refine Minds.bind (requestThrough_minds hmoves₁.kept none _ _ _ result)
          fun Γ₂ w₂ asked _ hmoves₂ hasked => ?_
        obtain ⟨q, rfl⟩ := hasked.1 rfl
        obtain ⟨hfresh, id, hpurpose⟩ := hasked.2 q rfl
        exact Pursues.under (waitWithin_pursues hmoves₂.kept hpurpose hfresh (.inl rfl) _)
          fun _ => ⟨_, rfl, hsuits⟩
      · exact closeConnection_pursues hmoves₁.kept number _ hsuits

theorem askReady_pursues (h : Kept counter (some result) [] Γ w) (number : Nat) (method : String)
    (params : Value) (limit : Option Nat) :
    Pursues counter result .result Γ w (askReady number method params limit) := by
  refine Minds.get_bind ?_
  cases hc : w.connections[number]? with
  | none => exact Pursues.give h trivial
  | some c =>
    simp only
    split
    · refine Minds.bind (requestThrough_minds h c.room _ _ _ result)
        fun Γ₁ w₁ asked _ hmoves hasked => ?_
      cases asked with
      | ok q =>
        obtain ⟨hfresh, id, hpurpose⟩ := hasked.2 q rfl
        exact waitWithin_pursues hmoves.kept hpurpose hfresh (.inr (.inl rfl)) limit
      | error what => exact Pursues.give hmoves.kept trivial
    · exact Pursues.give h trivial

theorem ask_pursues (h : Kept counter (some result) [] Γ w) (number : Nat) (method : String)
    (params : Value) (limit : Option Nat) :
    Pursues counter result .result Γ w (ask number method params limit) := by
  refine Minds.get_bind ?_
  split
  · rename_i hc
    have hstarted := (h.connections _ (List.mem_of_getElem? hc)).started _ rfl
    exact Pursues.under (waitShielded_pursues h hstarted ⟨_, List.mem_of_getElem? hc, rfl⟩)
      fun _ => ⟨_, rfl, .same _⟩
  · exact askReady_pursues h number method params limit

theorem notify_tidy (number : Nat) (method : String) (params : Value) :
    Tidy (notify number method params) := by
  refine .of_get fun counter owner Γ w h => ?_
  cases hc : w.connections[number]? with
  | none => exact .pure h trivial
  | some c =>
    have hchange : Tidy (updateConnection number fun c =>
        { c with queue := c.queue ++ [(method, params)] }) :=
      updateConnection_tidy number fun _ => ⟨rfl, rfl, id⟩
    simp only
    split
    · split
      · exact .pure h trivial
      · exact (notifyThrough_tidy _ _ _).seq (fun _ => .pure _) _ _ _ _ h
    · exact .pure h trivial
    · exact hchange.seq (fun _ => .pure _) _ _ _ _ h

/-- A task goes on in a connection. -/
theorem connectionResume_pursues (h : Kept counter (some result) [] Γ w) {point : ConnectionPoint}
    (hpasses : Γ.Passes counter result below (.connection point))
    (hadmits : Γ.Admits w.facts result (Point.connection point).expectation outcome) :
    Pursues counter result below Γ w (point.resume outcome) := by
  obtain ⟨e, he, hsuits⟩ := hpasses
  have hlater : ∀ point : ConnectionPoint, (Point.connection point).delivery? = some e →
      ∀ Γ' : Ledger, Γ'.Passes counter result below (.connection point) := fun point hpoint _ =>
    ⟨e, hpoint, hsuits⟩
  cases point with
  | opened number channel =>
    cases he
    rcases hadmits with ⟨answer, rfl⟩ | ⟨command, text, rfl⟩
    · refine isInPhase_bind .starting number fun inPhase => ?_
      cases inPhase with
      | true => exact greet_pursues h number channel hsuits
      | false => exact Pursues.under (closeChannel_pursues h channel (.same _)) (hlater .abandoned rfl)
    · exact Pursues.after (reset_tidy number) h fun Γ₁ w₁ _ _ hmoves =>
        Pursues.report hmoves.kept hsuits (.inl ⟨_, rfl⟩)
  | abandoned =>
    cases he
    obtain ⟨answer, rfl⟩ := hadmits
    exact Pursues.report h hsuits (.inl ⟨_, rfl⟩)
  | greeted number channel =>
    cases he
    cases outcome with
    | ok answer =>
      refine isInPhase_bind .starting number fun inPhase => ?_
      cases inPhase with
      | true => exact becomeReady_pursues h number channel _ hsuits
      | false => exact Pursues.report h hsuits (.inl ⟨_, rfl⟩)
    | error failure =>
      show Pursues counter result below Γ w (if isUnanswered failure then _ else _)
      rw [if_pos (hadmits.2.2 failure rfl)]
      refine isInPhase_bind .starting number fun inPhase => ?_
      cases inPhase with
      | true =>
        exact Pursues.under (closeChannel_pursues h channel (.same _)) (hlater (.refused number) rfl)
      | false => exact Pursues.report h hsuits (.inl ⟨_, rfl⟩)
  | refused number =>
    cases he
    obtain ⟨answer, rfl⟩ := hadmits
    exact Pursues.after (reset_tidy number) h fun Γ₁ w₁ _ _ hmoves =>
      Pursues.report hmoves.kept hsuits (.inl ⟨_, rfl⟩)
  | parted number channel =>
    cases he
    have hclose : Pursues counter result below Γ w (do
        notifyThrough channel "exit"
        closeConnection number (some channel)) :=
      Pursues.after (notifyThrough_tidy channel _ _) h fun Γ₁ w₁ _ _ hmoves =>
        closeConnection_pursues hmoves.kept number (some channel) hsuits
    cases outcome with
    | ok answer => exact hclose
    | error failure =>
      show Pursues counter result below Γ w (if isUnanswered failure then _ else _)
      rw [if_pos (hadmits failure rfl)]
      exact hclose
  | closed number channel =>
    cases he
    obtain ⟨answer, rfl⟩ := hadmits
    have hreject : Tidy (channel.forM fun channel => rejectAll channel (.exited none)) :=
      .forM_option fun channel => rejectAll_tidy channel rfl
    refine Pursues.after hreject h fun Γ₁ w₁ _ _ hmoves₁ => ?_
    exact Pursues.after (reset_tidy number) hmoves₁.kept fun Γ₂ w₂ _ _ hmoves₂ =>
      Pursues.finish hmoves₂.kept hsuits trivial
  | awaited number method params limit =>
    cases he
    -- it is the point of a request, which may come to anything
    obtain rfl : below = .result := by cases hsuits; rfl
    cases outcome with
    | error failure => exact Pursues.give h trivial
    | ok answer =>
      cases answer with
      | bool ready =>
        cases ready with
        | true => exact askReady_pursues h number method params limit
        | false => exact Pursues.give h trivial
      | _ => exact Pursues.give h trivial

/-! ## The keeper -/

theorem updateKeeper_moves (h : Kept counter owner [] Γ w) {change : Keeper → Keeper}
    (htickets : ∀ q ∈ (change w.keeper).tickets, q ∈ w.keeper.tickets ∨
      Γ.purposes[q]? = some .pause)
    (hlistener : (change w.keeper).listener = w.keeper.listener) :
    Moves counter owner dropper Γ w Γ ((updateKeeper change).run w).2 :=
  .of_kept ⟨.refl _, h.setKeeper (fun q hq => (htickets q hq).elim (h.tickets q) id)
    (hlistener.trans h.listener)⟩ rfl

/-- The keeper is changed in a way that concerns no promise. -/
theorem updateKeeper_tidy {change : Keeper → Keeper}
    (htickets : ∀ k, ∀ q ∈ (change k).tickets, q ∈ k.tickets)
    (hlistener : ∀ k, (change k).listener = k.listener) : Tidy (updateKeeper change) :=
  fun _ _ _ _ h => .of_moves (updateKeeper_moves h (fun q hq => .inl (htickets _ q hq)) (hlistener _))
    trivial

theorem callFirst_tidy : Tidy callFirst := by
  refine .of_get fun counter owner Γ w h => ?_
  cases htickets : w.keeper.tickets with
  | nil => exact .pure h trivial
  | cons ticket rest =>
    have hticket := h.tickets ticket (by simp [htickets])
    exact .of_moves (h.settle_of hticket ⟨_, rfl⟩) trivial

theorem leave_tidy : Tidy leave := by
  refine Tidy.seq ?_ fun _ => callFirst_tidy
  exact updateKeeper_tidy (fun _ _ hq => hq) fun _ => rfl

theorem enter_tidy (ticket : Option Nat) : Tidy (enter ticket) :=
  updateKeeper_tidy (fun _ _ hq => List.mem_of_mem_filter hq) fun _ => rfl

/-- What can wait for its turn. -/
theorem takeTurn_pursues (h : Kept counter (some result) [] Γ w) {point : Option Nat → KeeperPoint}
    (hpoint : ∀ ticket, (Point.keeper (point ticket)).expectation = .success)
    (hpasses : ∀ (ticket : Option Nat) (Γ' : Ledger),
      Γ'.Passes counter result below (.keeper (point ticket))) :
    Pursues counter result below Γ w (takeTurn point) := by
  have hlook : Tidy nobodyWaits := .of_get fun _ _ _ _ h => .pure h trivial
  refine Minds.get_bind (Pursues.after hlook h fun Γ₁ w₁ _ _ hmoves₁ => ?_)
  have h₁ := hmoves₁.kept
  split
  · refine Pursues.after (updateKeeper_tidy (fun _ _ hq => hq) fun _ => rfl) h₁
      fun Γ₂ w₂ _ _ hmoves₂ => .pure hmoves₂.kept ⟨⟨hpasses none Γ₂, trivial⟩, ?_⟩
    show Γ₂.Admits w₂.facts result (Point.keeper (point none)).expectation (.ok .unit)
    rw [hpoint]
    exact ⟨_, rfl⟩
  · refine Minds.after (h₁.promise 0 .pause trivial) fun h₂ => ?_
    refine .after (updateKeeper_moves h₂ (fun q hq => ?_) rfl) fun h₃ => ?_
    · refine (List.mem_append.1 hq).imp id fun hnew => ?_
      rw [List.mem_singleton.1 hnew]
      exact h₁.purposes_add .pause
    · exact Pursues.waitAt h₃ (h₁.feeds_add (.inr (hpoint _))) (hpasses _ _)

theorem vacate_pursues (h : Kept counter (some result) [] Γ w)
    (hsuits : Expectation.Suits counter .vacancy below) :
    Pursues counter result below Γ w vacate := by
  refine Minds.get_bind ?_
  refine Pursues.after (updateKeeper_tidy (fun _ _ hq => hq) fun _ => rfl) h
    fun Γ₁ w₁ _ _ hmoves => ?_
  cases w.keeper.connection with
  | none => exact Pursues.finish hmoves.kept hsuits trivial
  | some number =>
    exact Pursues.under (disconnect_pursues hmoves.kept number (.same _)) fun _ => ⟨_, rfl, hsuits⟩

theorem arrange_pursues (h : Kept counter (some result) [] Γ w) (config : Option Companion.Config) :
    Pursues counter result .result Γ w (arrange config) := by
  cases config with
  | none => exact Pursues.under (vacate_pursues h (.same _)) fun _ => ⟨_, rfl, .same _⟩
  | some config =>
    refine Minds.get_bind ?_
    split
    · exact Pursues.after leave_tidy h fun Γ₁ w₁ _ _ hmoves => Pursues.give hmoves.kept trivial
    · exact Pursues.under (vacate_pursues h (.same _)) fun _ => ⟨_, rfl, .same _⟩

/-- A turn that comes to anything. -/
theorem leave_pursues (h : Kept counter (some result) [] Γ w) (outcome : Outcome) :
    Pursues counter result .result Γ w (do leave; give outcome) :=
  Pursues.after leave_tidy h fun _ _ _ _ hmoves => Pursues.give hmoves.kept trivial

/-- A task goes on in the keeper. -/
theorem keeperResume_pursues (h : Kept counter (some result) [] Γ w) {point : KeeperPoint}
    (hpasses : Γ.Passes counter result below (.keeper point))
    (hadmits : Γ.Admits w.facts result (Point.keeper point).expectation outcome) :
    Pursues counter result below Γ w (point.resume outcome) := by
  obtain ⟨e, he, hsuits⟩ := hpasses
  have hresult : e = .result → below = .result := by
    rintro rfl
    cases hsuits
    rfl
  cases point with
  | admitted config ticket =>
    obtain rfl := hresult (Option.some.inj he).symm
    obtain ⟨answer, rfl⟩ := hadmits
    exact Pursues.after (enter_tidy ticket) h fun Γ₁ w₁ _ _ hmoves =>
      arrange_pursues hmoves.kept config
  | admittedToStop ticket =>
    obtain rfl := hresult (Option.some.inj he).symm
    obtain ⟨answer, rfl⟩ := hadmits
    exact Pursues.after (enter_tidy ticket) h fun Γ₁ w₁ _ _ hmoves =>
      Pursues.under (vacate_pursues hmoves.kept (.same _)) fun _ => ⟨_, rfl, .same _⟩
  | disconnected =>
    obtain rfl := Option.some.inj he
    obtain ⟨answer, rfl⟩ := hadmits
    refine Minds.get_bind ?_
    split
    · refine Pursues.after (note_tidy _) h fun Γ₁ w₁ _ _ hmoves₁ => ?_
      exact Pursues.after (updateSession_tidy _) hmoves₁.kept fun Γ₂ w₂ _ _ hmoves₂ =>
        Pursues.finish hmoves₂.kept hsuits trivial
    · exact Pursues.finish h hsuits trivial
  | vacated config =>
    obtain rfl := hresult (Option.some.inj he).symm
    obtain ⟨answer, rfl⟩ := hadmits
    refine Minds.get_bind ?_
    -- Nobody waits for a connection that was made just now.
    have hjoins : Γ.Joins { config, listener := w.keeper.listener } :=
      ⟨fun q hq => (by cases hq), .inr h.listener⟩
    refine .after (.of_kept ⟨.refl _, h.addConnection hjoins rfl⟩ rfl) fun h₁ => ?_
    refine Pursues.after (updateKeeper_tidy (fun _ _ hq => hq) fun _ => rfl) h₁
      fun Γ₂ w₂ _ _ hmoves₂ => ?_
    exact Pursues.under (connect_pursues hmoves₂.kept _ (.same _)) fun _ => ⟨_, rfl, .same _⟩
  | connected config =>
    obtain rfl := hresult (Option.some.inj he).symm
    rcases hadmits with ⟨ready, rfl⟩ | ⟨what, rfl⟩
    · cases ready with
      | false => exact Pursues.under (vacate_pursues h (.same _)) fun _ => ⟨_, rfl, .same _⟩
      | true => exact leave_pursues h _
    · exact leave_pursues h _
  | _ =>
    obtain rfl := hresult (Option.some.inj he).symm
    obtain ⟨answer, rfl⟩ := hadmits
    exact leave_pursues h _

/-! ## Any point -/

/-- A task does at its start what it has to come to. -/
theorem begin_pursues (h : Kept counter (some result) [] Γ w) {activity : Activity}
    (hbegins : counter.Begins activity below) :
    Pursues counter result below Γ w (beginActivity activity) := by
  -- What a task has to come to tells the activities that it can begin with.
  cases below with
  | result =>
    have hoffers : counter.offers activity = true := hbegins
    cases activity with
    | ask number method params limit => exact ask_pursues h number method params limit
    | connect number =>
      cases counter with
      | connections => exact connect_pursues h number (.readiness rfl)
      | keeper => cases hoffers
    | disconnect number =>
      cases counter with
      | connections => exact disconnect_pursues h number (.departure rfl)
      | keeper => cases hoffers
    | ensure config =>
      exact takeTurn_pursues h (fun _ => rfl) fun _ _ => ⟨_, rfl, .same _⟩
    | release => exact takeTurn_pursues h (fun _ => rfl) fun _ _ => ⟨_, rfl, .same _⟩
    | _ => cases counter <;> cases hoffers
  | idle =>
    rcases hbegins with ⟨channel, rfl⟩ | ⟨channel, rfl⟩ | ⟨channel, reader, rfl⟩
    · exact withProcess_pursues h channel (fun _ => trivial) fun process _ =>
        readOutput_pursues h channel process (.same _)
    · exact withProcess_pursues h channel (fun _ => trivial) fun process _ =>
        readErrors_pursues h channel process (.same _)
    · exact withProcess_pursues h channel (fun _ => trivial) fun process _ =>
        waitAll_pursues h _ (.inr rfl) rfl fun _ => ⟨_, rfl, .same _⟩
  | exit process =>
    obtain rfl : activity = .awaitExit process := hbegins
    exact awaitExit_pursues h process (.same _)
  | _ => cases hbegins

/-- A task goes on at a point as is expected below it. -/
theorem resume_pursues (h : Kept counter (some result) [] Γ w) {point : Point}
    (hpasses : Γ.Passes counter result below point)
    (hadmits : Γ.Admits w.facts result point.expectation outcome) :
    Pursues counter result below Γ w (point.resume outcome) := by
  cases point with
  | start activity =>
    obtain ⟨answer, rfl⟩ := hadmits
    exact begin_pursues h hpasses
  | wait point => exact waitResume_pursues h hpasses hadmits
  | program point =>
    obtain ⟨e, he, hsuits⟩ := hpasses
    cases point with
    | starting script command =>
      cases he
      exact startingResume_pursues h script command hsuits hadmits
    | ending process =>
      cases he
      exact endingResume_pursues h process hsuits hadmits
    | _ => cases he
  | channel point => exact channelResume_pursues h hpasses hadmits
  | connection point => exact connectionResume_pursues h hpasses hadmits
  | keeper point => exact keeperResume_pursues h hpasses hadmits
  | tool point => exact absurd hpasses (by rintro ⟨e, he, -⟩; cases he)
  | session point => exact absurd hpasses (by rintro ⟨e, he, -⟩; cases he)

end BasiliskServer.World
