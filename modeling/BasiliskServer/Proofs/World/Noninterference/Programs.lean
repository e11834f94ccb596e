import BasiliskServer.Proofs.World.Noninterference.Basic

/-!
# Programs do not look at what was found

What programs read and write, who waits for them, and what is told of them is the same in every guise
(`Guise.waitResume_carries`), and so is what a task does that runs a command
(`Guise.programResume_carries`).
-/

namespace BasiliskServer.World

open Json (Value Fields)
open Tasks (Notice Scheduler)

namespace Guise

variable {α β : Type} {g : Guise}

/-! ## Programs -/

theorem wakeReader_does (reader : Reader) : g.Does (wakeReader reader) :=
  .forM_option fun _ => settle_ok_does _ rfl fun _ h => by cases h

theorem writeOutput_does (number : Nat) (bytes : List UInt8) : g.Does (writeOutput number bytes) := by
  refine .of_get (fun _ => rfl) fun w hw => ?_
  split
  · exact .pure ()
  · split
    · exact (updateProcess_does _ _).seq fun _ => wakeReader_does _
    · exact .pure ()

theorem writeErrors_does (number : Nat) (bytes : List UInt8) : g.Does (writeErrors number bytes) := by
  refine .of_get (fun _ => rfl) fun w hw => ?_
  split
  · exact .pure ()
  · split
    · exact (updateProcess_does _ _).seq fun _ => wakeReader_does _
    · exact .pure ()

theorem quit_does (number : Nat) (code : Int) : g.Does (quit number code) := by
  refine .of_get (fun _ => rfl) fun w hw => ?_
  split
  · exact .pure ()
  · split
    · refine (updateProcess_does _ _).seq fun _ => (wakeReader_does _).seq fun _ => ?_
      exact (wakeReader_does _).seq fun _ => .forM fun _ _ => settle_ok_does _ rfl fun _ h => by cases h
    · exact .pure ()

theorem afterDelay_does (delay : Nat) (hook : Hook) {now : Act Unit} (hnow : g.Does now) :
    g.Does (afterDelay delay hook now) := by
  unfold afterDelay
  split
  · exact hnow
  · exact (timer_does _ _).seq fun _ => .pure ()

theorem say_does (number : Nat) (message : Fields) (delay : Nat) : g.Does (say number message delay) :=
  afterDelay_does delay _ (writeOutput_does _ _)

theorem receive_does (number : Nat) (message : Fields) : g.Does (receive number message) := by
  have hcarryOut : ∀ id reply, g.Does (carryOut number id reply) := fun id reply => by
    cases reply with
    | result value delay => exact say_does _ _ _
    | refusal error delay => exact say_does _ _ _
    | quit code delay => exact afterDelay_does delay _ (quit_does _ _)
    | silence => exact .pure ()
  have htellOnOpen : ∀ script method params, g.Does (tellOnOpen number script method params) := by
    intro script method params
    unfold tellOnOpen
    split
    · refine (writeErrors_does _ _).seq fun _ => ?_
      cases script.problemsOnOpen with
      | none => exact .pure ()
      | some problems => exact say_does _ _ _
    · exact .pure ()
  refine .of_get (fun _ => rfl) fun w hw => ?_
  split
  · exact .pure ()
  · refine (note_does _).seq fun _ => (updateProcess_does _ _).seq fun _ => ?_
    split
    · refine (htellOnOpen _ _ _).seq fun _ => ?_
      split
      · exact .pure ()
      · exact hcarryOut _ _
    · exact .pure ()

theorem writeInput_does (number : Nat) (payload : Payload) : g.Does (writeInput number payload) := by
  refine .of_get (fun _ => rfl) fun w hw => ?_
  split
  · exact .pure ()
  · refine (note_does _).seq fun _ => ?_
    split
    · refine (updateProcess_does _ _).seq fun _ => ?_
      exact .forM_option fun _ => .forM fun _ _ => receive_does number _
    · exact .pure ()

theorem askToEnd_does (number : Nat) : g.Does (askToEnd number) := by
  refine (note_does _).seq fun _ => .of_get (fun _ => rfl) fun w hw => ?_
  split
  · exact .pure true
  · split
    · exact .pure false
    · split
      · exact (quit_does number (-15)).seq fun _ => .pure true
      · exact .pure true

theorem kill_does (number : Nat) : g.Does (kill number) :=
  (note_does _).seq fun _ => quit_does number (-9)

theorem awaitExit_goes (number : Nat) : g.Goes (awaitExit number) := by
  refine .of_get (fun _ => rfl) fun w hw => ?_
  split
  · exact .finish rfl fun _ h => by cases h
  · exact (promise_does _).seq fun _ => (updateProcess_does _ _).seq fun _ => .waitAt _ rfl

/-! ## Waiting -/

theorem sleep_goes (delay : Nat) : g.Goes (sleep delay) :=
  (promise_does _).seq fun _ => (timer_does _ _).seq fun _ => .waitAt _ rfl

theorem reap_goes (inner : Nat) (alarm : Option Nat) (interrupted : Bool) :
    g.Goes (reap inner alarm interrupted) :=
  (promise_does _).seq fun _ => (observe_does _ _).seq fun _ => (giveUp_does _).seq fun _ =>
    .waitAt _ rfl

/-- What is known of a promise is looked at, and what it is settled with is in the guise. -/
theorem Carries.of_outcome? (q : Nat) {known : Outcome → Act β} {unknown : Act β} {result : β → β}
    {post : β → Prop}
    (hknown : ∀ outcome, g.Sound outcome →
      g.Carries result post (known (g.outcome outcome)) (known outcome))
    (hunknown : g.Carries result post unknown unknown) :
    let act : Act β := do
      match (← get).tasks.outcome? q with
      | some outcome => known outcome
      | none => unknown
    g.Carries result post act act := by
  intro act w hw
  have hact : ∀ w : World, act.run w =
      (match w.tasks.outcome? q with | some outcome => known outcome | none => unknown).run w :=
    fun _ => rfl
  have houtcome : (g.world w).tasks.outcome? q = (w.tasks.outcome? q).map g.outcome :=
    g.outcome?_scheduler w.tasks q
  rw [CarriesAt, hact, hact, houtcome]
  cases hq : w.tasks.outcome? q with
  | none => exact hunknown w hw
  | some outcome => exact hknown outcome (hw.settled q outcome hq) w hw

theorem waitLimited_goes (inner limit : Nat) : g.Goes (waitLimited inner limit) := by
  unfold waitLimited
  split
  · exact .of_outcome? inner (fun outcome hsound => give_carries hsound) (reap_goes _ _ _)
  · exact (promise_does _).seq fun _ => (timer_does _ _).seq fun _ => (observe_does _ _).seq fun _ =>
      .waitAt _ rfl

theorem wait_goes (q : Nat) : g.Goes (pure (.wait q [])) :=
  .pure_next ⟨fun _ hp => absurd hp List.not_mem_nil, fun _ _ h => by cases h⟩ rfl

theorem waitWithin_goes (inner : Nat) (limit : Option Nat) : g.Goes (waitWithin inner limit) := by
  cases limit with
  | none => exact wait_goes inner
  | some limit => exact waitLimited_goes inner limit

theorem waitAll_goes (promises : List Nat) {point : Point} (hpoint : point.isMenial = true) :
    g.Goes (waitAll promises point) :=
  (promise_does _).seq fun _ => (Carries.forM fun _ _ => observe_does _ _).seq fun _ =>
    .waitAt _ hpoint

/-! ## What is told -/

/-- An activity that is told of something: either this is as it is, or it is something that is found,
and something else is found in the guise. -/
theorem Carries.of_told {resume : Outcome → Act Next} {outcome : Outcome} (hsound : g.Sound outcome)
    (hsame : ∀ told, g.outcome told = told → g.Sound told → g.Goes (resume told))
    (hfinding : ∀ found' found, found'.isFinding = true → found.isFinding = true →
      g.outcome (.ok found) = .ok found' →
      g.Carries g.next g.Suits (resume (.ok found')) (resume (.ok found))) :
    g.Carries g.next g.Suits (resume (g.outcome outcome)) (resume outcome) := by
  cases outcome with
  | error failure =>
    have hfailure := g.outcome_error failure
    rw [hfailure]
    exact hsame _ hfailure hsound
  | ok answer =>
    cases hfound : answer.isFinding with
    | false =>
      have hanswer := g.outcome_ok answer hfound
      rw [hanswer]
      exact hsame _ hanswer hsound
    | true =>
      -- Only findings and reports of a check look different in the guise.
      have hfinding' : ∃ found', found'.isFinding = true ∧ g.outcome (.ok answer) = .ok found' := by
        cases answer with
        | findings findings => exact (g.outcome_findings findings).elim fun _ heq => ⟨_, rfl, heq⟩
        | check report => exact (g.outcome_check report).elim fun _ heq => ⟨_, rfl, heq⟩
        | _ => cases hfound
      obtain ⟨found', hfound', heq⟩ := hfinding'
      rw [heq]
      exact hfinding found' answer hfound' hfound heq

/-- What is found is told below. -/
theorem give_finding {found' found : Answer} (hfinding : found.isFinding = true)
    (heq : g.outcome (.ok found) = .ok found') :
    g.Carries g.next g.Suits (give (.ok found')) (give (.ok found)) := by
  rw [← heq]
  exact give_carries (sound_ok fun output h => by rw [h] at hfinding; cases hfinding)

theorem outcome_lateOutcome (g : Guise) (known : Option Outcome) :
    g.outcome (lateOutcome known) = lateOutcome (known.map g.outcome) := by
  cases known with
  | none => exact g.outcome_error _
  | some outcome =>
    cases outcome with
    | error failure =>
      rw [Option.map_some, g.outcome_error]
      cases failure <;> exact g.outcome_error _
    | ok answer =>
      obtain ⟨answer', heq, -⟩ := g.exists_outcome_ok answer
      rw [Option.map_some, heq]
      exact heq

theorem sound_lateOutcome {known : Option Outcome}
    (h : ∀ outcome, known = some outcome → g.Sound outcome) : g.Sound (lateOutcome known) := by
  unfold lateOutcome
  split
  · exact sound_error _
  · exact h _ rfl
  · exact sound_error _

theorem waitResume_carries (point : WaitPoint) {outcome : Outcome} (hsound : g.Sound outcome) :
    g.Carries g.next g.Suits (point.resume (g.outcome outcome)) (point.resume outcome) := by
  cases point with
  | sleeping alarm => exact (stopTimer_does alarm).seq fun _ => give_carries hsound
  | limited inner alarm =>
    refine Carries.of_told hsound (fun told _ _ => ?_) fun found' found _ _ _ => ?_
    · refine .of_outcome? inner (fun known hknown => ?_) ?_
      · exact (stopTimer_does alarm).seq fun _ => give_carries hknown
      · cases told <;> exact reap_goes _ _ _
    · refine .of_outcome? inner (fun known hknown => ?_) (reap_goes _ _ _)
      exact (stopTimer_does alarm).seq fun _ => give_carries hknown
  | reaping inner alarm interrupted =>
    have hlate : g.Goes (do give (lateOutcome ((← get).tasks.outcome? inner))) := by
      intro w hw
      have hknown : (g.world w).tasks.outcome? inner = (w.tasks.outcome? inner).map g.outcome :=
        g.outcome?_scheduler w.tasks inner
      show (World.give (lateOutcome ((g.world w).tasks.outcome? inner))).run (g.world w) = _ ∧ _
      rw [hknown, ← g.outcome_lateOutcome]
      exact give_carries (sound_lateOutcome fun outcome h => hw.settled inner outcome h) w hw
    have hreaped : g.Goes (do
        alarm.forM stopTimer
        if interrupted then fail .cancelled
        else give (lateOutcome ((← get).tasks.outcome? inner))) := by
      refine (Carries.forM_option fun _ => stopTimer_does _).seq fun _ => ?_
      split
      · exact .fail _
      · exact hlate
    refine Carries.of_told hsound (fun told _ _ => ?_) fun found' found _ _ _ => hreaped
    cases told with
    | error failure => exact (Carries.forM_option fun _ => stopTimer_does _).seq fun _ => .fail failure
    | ok answer => exact hreaped

/-! ## Commands -/

theorem startCompanion_goes (command : List String) : g.Goes (startCompanion command) := by
  refine .of_get (fun _ => rfl) fun w hw => Does.seq ?_ fun _ => (note_does _).seq fun _ => ?_
  · exact modify_does (fun _ => rfl) (fun _ => rfl) (fun _ => rfl) (fun _ => rfl) (fun _ => rfl) fun _ => rfl
  · refine Carries.under ?_ rfl
    split
    · exact .finish rfl fun _ h => by cases h
    · exact sleep_goes _

theorem communicate_goes (number : Nat) : g.Goes (communicate number) := by
  refine .of_get (fun _ => rfl) fun w hw => ?_
  split
  · exact .finish rfl fun _ h => by cases h
  · split
    · exact (promise_does _).seq fun _ => .waitAt _ rfl
    · refine Carries.under ?_ rfl
      split
      · exact .finish rfl fun _ h => by cases h
      · exact sleep_goes _

/-- Commands run that can be there. -/
theorem runCommand_goes (hscripts : ∀ script ∈ {} :: g.versionScript :: g.runScripts, g.command { script })
    (launch : Launch) (limit : Int) : g.Goes (runCommand launch limit) := by
  refine .of_get (fun _ => rfl) fun w hw => ?_
  have hrun : ∀ script ∈ {} :: g.versionScript :: g.runScripts, g.Goes (do
      note fun r => { r with launches := r.launches ++ [launch] }
      if script.isMissing then World.fail (.toolMissing (programOf launch.command))
      else
        let number := w.commands.length
        modify fun w => { w with commands := w.commands ++ [{ script }] }
        let spawned ← spawn (.communicate number)
        World.under (.program (.finished number launch.command limit))
          (waitLimited spawned.2 (Decimal.clockMilliseconds limit))) := by
    intro script hscript
    refine (note_does _).seq fun _ => ?_
    split
    · exact .fail _
    · refine Does.seq ?_ fun _ => (spawn_does rfl).seq fun _ => Carries.under (waitLimited_goes _ _) rfl
      refine .modify (fun _ => rfl) (fun _ => rfl) fun w hw => ⟨hw.begun, hw.taskStacks, hw.settled, hw.running,
        hw.listeners, fun c hc => ?_, hw.versionScript, hw.runScripts⟩
      rcases List.mem_append.1 hc with hc | hc
      · exact hw.commands c hc
      · exact List.mem_singleton.1 hc ▸ hscripts script hscript
  split
  -- The command that asks for the version has its own script; all others take theirs in turn.
  · refine hrun _ (hw.versionScript ▸ ?_)
    simp
  · refine Does.seq ?_ fun _ => hrun _ ?_
    · exact modify_does (fun _ => rfl) (fun _ => rfl) (fun _ => rfl) (fun _ => rfl) (fun _ => rfl) fun _ => rfl
    · cases hscript : repeating w.runScripts w.runCount with
      | none => exact List.mem_cons_self
      | some script =>
        exact List.mem_cons_of_mem _ (List.mem_cons_of_mem _ (hw.runScripts ▸ mem_of_repeating hscript))

theorem programResume_carries {point : ProgramPoint} (hmenial : (Point.program point).isMenial = true)
    {outcome : Outcome} (hsound : g.Sound outcome) :
    g.Carries g.next g.Suits (point.resume (g.outcome outcome)) (point.resume outcome) := by
  have hstarting : ∀ script command answer,
      g.Goes (ProgramPoint.resume (.starting script command) (.ok answer)) := by
    intro script command answer
    show g.Goes (if script.isMissing then _ else _)
    split
    · exact .fail _
    · refine .of_get (fun _ => rfl) fun w hw => Does.seq ?_ fun _ => .finish rfl fun _ h => by cases h
      exact modify_does (fun _ => rfl) (fun _ => rfl) (fun _ => rfl) (fun _ => rfl) (fun _ => rfl) fun _ => rfl
  have hending : ∀ number answer, g.Goes (ProgramPoint.resume (.ending number) (.ok answer)) :=
    fun number answer => .of_get (fun _ => rfl) fun w hw => .finish rfl fun _ h => by cases h
  have hworking : ∀ number answer, g.Goes (ProgramPoint.resume (.working number) (.ok answer)) :=
    fun number answer => (updateCommand_does _ fun c hc => g.command_code c _ hc).seq fun _ =>
      .finish rfl fun _ h => by cases h
  have hfinished : ∀ number command limit answer,
      g.Goes (ProgramPoint.resume (.finished number command limit) (.ok answer)) := by
    intro number command limit answer
    refine .of_get (fun _ => rfl) fun w hw => ?_
    split
    · rename_i c hc
      refine .give (g.outcome_ok _ rfl) fun output heq => ?_
      obtain rfl : c.output = output := by
        injection heq with heq
        injection heq
      exact ⟨c, hw.commands c (List.mem_of_getElem? hc), rfl⟩
    · exact .finish rfl fun _ h => by cases h
  -- Only a point that passes findings on looks at more than whether it was told of a failure.
  refine Carries.of_told hsound (fun told hsame hsound => ?_) fun found' found hfound' hfound heq => ?_
  · unfold ProgramPoint.resume
    split
    · exact hstarting _ _ .unit
    · exact hending _ .unit
    · exact hworking _ .unit
    · exact .finish rfl fun _ h => by cases h
    · exact hfinished _ [] 0 .unit
    · refine (updateCommand_does _ fun c hc => ?_).seq fun _ => .fail _
      split
      · exact hc
      · exact g.command_code c _ hc
    · cases hmenial
    · cases hmenial
    · exact .finish rfl fun _ h => by cases h
    · exact .finish rfl fun _ h => by cases h
    · exact .finish rfl fun _ h => by cases h
    · exact .finish rfl fun _ h => by cases h
    · exact .finish rfl fun _ h => by cases h
    · exact .give hsame hsound
  · cases point with
    | starting script command => exact hstarting script command .unit
    | ending number => exact hending number .unit
    | working number => exact hworking number .unit
    | hanging => exact .finish rfl fun _ h => by cases h
    | finished number command limit => exact hfinished number command limit .unit
    | compiled call settings => cases hmenial
    | _ => cases found <;> cases hfound <;> cases found' <;> cases hfound' <;> exact give_finding rfl heq

end Guise

end BasiliskServer.World
