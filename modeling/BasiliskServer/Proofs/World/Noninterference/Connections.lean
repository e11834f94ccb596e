import BasiliskServer.Proofs.World.Noninterference.Programs

/-!
# Connections do not look at what was found

Messages, channels and connections are the same in every guise, and so is what a task does that opens
or closes a channel (`Guise.channelResume_carries`) or starts or stops a connection
(`Guise.connectionResume_carries`).
-/

namespace BasiliskServer.World

open Json (Value Fields)
open Tasks (Notice Scheduler)

namespace Guise

variable {α β : Type} {g : Guise}

/-! ## Messages -/

theorem send_does (channel : Nat) (payload : Payload) : g.Does (send channel payload) := by
  refine .of_get (fun _ => rfl) fun w hw => ?_
  split
  · exact writeInput_does _ _
  · exact .pure ()

theorem notifyThrough_does (channel : Nat) (method : String) (params : Value) :
    g.Does (notifyThrough channel method params) :=
  send_does channel _

theorem requestThrough_does (room : Option Nat) (channel : Nat) (method : String) (params : Value) :
    g.Does (requestThrough room channel method params) := by
  refine (promise_does _).seq fun _ => .of_get (fun _ => rfl) fun w hw => ?_
  split
  · exact .pure _
  · refine (updateChannel_does _ _).seq fun _ => (observe_does _ _).seq fun _ => ?_
    dsimp only
    split
    · exact .pure _
    · exact (send_does _ _).seq fun _ => .pure _

theorem rejectAll_does (channel : Nat) (failure : Failure) : g.Does (rejectAll channel failure) := by
  refine .of_get (fun _ => rfl) fun w hw => ?_
  split
  · exact .pure ()
  · exact (updateChannel_does _ _).seq fun _ => .forM fun _ _ => .forM_option fun _ =>
      settle_error_does _ _

theorem settle_json_does (q : Nat) (outcome : Except Failure Value) :
    g.Does (settle q (outcome.map .json)) := by
  cases outcome with
  | error failure => exact settle_error_does q failure
  | ok value => exact settle_ok_does q rfl fun _ h => by cases h

theorem takeMessage_does (room : Option Nat) (number : Nat) (message : Fields) :
    g.Does (takeMessage room number message) := by
  refine .of_get (fun _ => rfl) fun w hw => ?_
  split
  · exact .pure none
  · refine (updateChannel_does _ _).seq fun _ => ?_
    split
    · exact .pure none
    · exact .pure none
    · exact (send_does _ _).seq fun _ => .pure none
    · exact (Carries.forM_option fun _ => settle_json_does _ _).seq fun _ => .pure none
    · exact .pure _

theorem takeNotification_does {c : Connection} (hlistener : ∃ uri received, c.listener = .check uri received)
    (method : String) (params : Value) : g.Does (takeNotification c method params) := by
  obtain ⟨expected, received, hlistener⟩ := hlistener
  have htext : g.Does (takeNotification.takeText c params) := by
    unfold takeNotification.takeText
    rw [hlistener]
    split
    · split <;> exact .pure ()
    · exact .pure ()
  unfold takeNotification
  split
  · split
    · rw [hlistener]
      show g.Does (if _ then _ else _)
      split
      · exact settle_ok_does _ rfl fun _ h => by cases h
      · exact .pure ()
    · exact .pure ()
  · exact htext
  · exact htext
  · exact .pure ()

theorem frame_does (owner : Owner) (message : Fields) : g.Does (owner.frame message) := by
  cases owner with
  | recorder full takes =>
    show g.Does (if _ then _ else _)
    split
    · exact .pure ()
    · exact note_does _
  | connection number =>
    refine .of_get (fun _ => rfl) fun w hw => ?_
    split
    · rename_i c hc
      split
      · refine (takeMessage_does _ _ _).seq fun told => ?_
        split
        · exact takeNotification_does (hw.listeners c (List.mem_of_getElem? hc)) _ _
        · exact .pure ()
      · exact .pure ()
    · exact .pure ()

theorem ownerErrors_does (owner : Owner) (line : String) : g.Does (owner.errors line) := by
  cases owner with
  | recorder full takes =>
    show g.Does (if _ then _ else _)
    split
    · exact note_does _
    · exact .pure ()
  | connection number =>
    refine .of_get (fun _ => rfl) fun w hw => ?_
    split
    · rename_i c hc
      obtain ⟨uri, received, hlistener⟩ := hw.listeners c (List.mem_of_getElem? hc)
      rw [hlistener]
      exact note_does fun r => { r with errors := r.errors ++ [line] }
    · exact .pure ()

/-! ## Channels -/

theorem settleStarted_does (number : Nat) (ready : Bool) : g.Does (settleStarted number ready) := by
  refine .of_get (fun _ => rfl) fun w hw => ?_
  split
  · exact settle_ok_does _ rfl fun _ h => by cases h
  · exact .pure ()

theorem reset_does (number : Nat) : g.Does (reset number) := by
  refine Does.seq ?_ fun _ => settleStarted_does number false
  exact updateConnection_does number fun _ => rfl

theorem ownerExit_does (owner : Owner) (code : Option Int) : g.Does (owner.exit code) := by
  cases owner with
  | recorder full takes =>
    show g.Does (if _ then _ else _)
    split
    · exact note_does _
    · exact .pure ()
  | connection number =>
    refine .of_get (fun _ => rfl) fun w hw => ?_
    split
    · exact .pure ()
    · rename_i c hc
      obtain ⟨uri, received, hlistener⟩ := hw.listeners c (List.mem_of_getElem? hc)
      rw [hlistener]
      refine (Carries.forM_option fun _ => rejectAll_does _ _).seq fun _ => Does.seq ?_ fun _ => ?_
      · exact updateConnection_does number fun _ => rfl
      split
      · exact (reset_does _).seq fun _ => .pure ()
      · exact .pure ()

theorem go_goes {point : Point} (hpoint : point.isMenial = true) :
    g.Goes (pure (.go (.ok .unit) [point])) := by
  have hunit : g.outcome (.ok .unit) = .ok .unit := g.outcome_ok _ rfl
  refine .pure_next ⟨fun p hp => List.mem_singleton.1 hp ▸ hpoint, fun outcome front h => ?_⟩ ?_
  · cases h
    exact sound_ok fun _ h => by cases h
  · show Tasks.Next.go (g.outcome (.ok .unit)) [g.point point] = _
    rw [hunit, g.point_menial point hpoint]

theorem readOutput_goes (channel process : Nat) : g.Goes (readOutput channel process) := by
  refine .of_get (fun _ => rfl) fun w hw => .of_get (fun _ => rfl) fun w hw => ?_
  split
  · split
    · exact .fail _
    · split
      · exact .finish rfl fun _ h => by cases h
      · exact (promise_does _).seq fun _ => (updateProcess_does _ _).seq fun _ => .waitAt _ rfl
    · refine (updateProcess_does _ _).seq fun _ => (updateChannel_does _ _).seq fun _ => ?_
      split
      · exact .fail _
      · exact (Carries.forM fun _ _ => frame_does _ _).seq fun _ => go_goes rfl
  · exact .finish rfl fun _ h => by cases h

theorem readErrors_goes (channel process : Nat) : g.Goes (readErrors channel process) := by
  refine .of_get (fun _ => rfl) fun w hw => .of_get (fun _ => rfl) fun w hw => ?_
  split
  · split
    · refine (updateProcess_does _ _).seq fun _ => ?_
      split
      · exact .fail _
      · exact (ownerErrors_does _ _).seq fun _ => go_goes rfl
    · split
      · exact (updateProcess_does _ _).seq fun _ => .fail _
      · split
        · split
          · exact .finish rfl fun _ h => by cases h
          · exact (updateProcess_does _ _).seq fun _ => (ownerErrors_does _ _).seq fun _ => go_goes rfl
        · exact (promise_does _).seq fun _ => (updateProcess_does _ _).seq fun _ => .waitAt _ rfl
  · exact .finish rfl fun _ h => by cases h

theorem withProcess_goes (channel : Nat) {activity : Nat → Act Next} (h : ∀ process, g.Goes (activity process)) :
    g.Goes (withProcess channel activity) := by
  refine .of_get (fun _ => rfl) fun w hw => ?_
  split
  · exact .finish rfl fun _ h => by cases h
  · exact h _

theorem openChannel_goes (channel : Nat) : g.Goes (openChannel channel) := by
  refine .of_get (fun _ => rfl) fun w hw => ?_
  split
  · exact .finish rfl fun _ h => by cases h
  · split
    · exact .fail _
    · exact Carries.under (startCompanion_goes _) rfl

theorem beginTraffic_goes (channel process : Nat) : g.Goes (beginTraffic channel process) :=
  (updateChannel_does _ _).seq fun _ => (spawn_does rfl).seq fun _ => (spawn_does rfl).seq fun _ =>
    (spawn_does rfl).seq fun _ => (updateChannel_does _ _).seq fun _ => .finish rfl fun _ h => by cases h

/-- Which promises the results of tasks are is the same in the guise. -/
theorem results_world (g : Guise) (w : World) (task : Nat) :
    (g.world w).tasks.tasks[task]?.map (·.result) = w.tasks.tasks[task]?.map (·.result) := by
  show (g.scheduler w.tasks).tasks[task]?.map (·.result) = _
  rw [g.tasks_scheduler, Option.map_map]
  rfl

theorem endTraffic_goes (channel : Nat) : g.Goes (endTraffic channel) := by
  refine .of_get (fun w => ?_) fun w hw => ?_
  · simp only [g.results_world]
    rfl
  · split
    · exact .finish rfl fun _ h => by cases h
    · refine (Carries.forM fun _ _ => interrupt_does _).seq fun _ => ?_
      split
      · exact (updateChannel_does _ _).seq fun _ => .finish rfl fun _ h => by cases h
      · exact waitAll_goes _ rfl

theorem closeChannel_goes (channel : Nat) : g.Goes (closeChannel channel) := by
  refine withProcess_goes channel fun process => (updateChannel_does _ _).seq fun _ => ?_
  refine .of_get (fun _ => rfl) fun w hw => ?_
  split
  · exact endTraffic_goes channel
  · refine (askToEnd_does _).seq fun asked => ?_
    split
    · exact (spawn_does rfl).seq fun _ => Carries.under (waitLimited_goes _ _) rfl
    · exact endTraffic_goes channel

theorem loseProcess_goes (channel : Nat) (code : Option Int) : g.Goes (loseProcess channel code) := by
  refine .of_get (fun _ => rfl) fun w hw => ?_
  split
  · exact .finish rfl fun _ h => by cases h
  · split
    · exact (updateChannel_does _ _).seq fun _ => (ownerExit_does _ _).seq fun _ =>
        .finish rfl fun _ h => by cases h
    · exact .finish rfl fun _ h => by cases h

theorem channelResume_carries (point : ChannelPoint) {outcome : Outcome} (hsound : g.Sound outcome) :
    g.Carries g.next g.Suits (point.resume (g.outcome outcome)) (point.resume outcome) := by
  have hdrained : ∀ number process, g.Goes (World.under (.channel (.gone number process)) (awaitExit process)) :=
    fun _ _ => Carries.under (awaitExit_goes _) rfl
  have hquiet : ∀ number, g.Goes (do
      updateChannel number fun c => { c with process := none, tasks := [] }
      World.finish .unit) := fun _ =>
    (updateChannel_does _ _).seq fun _ => .finish rfl fun _ h => by cases h
  refine Carries.of_told hsound (fun told hsame hsound => ?_) fun found' found hfound' hfound heq => ?_
  · unfold ChannelPoint.resume
    split
    · exact beginTraffic_goes _ _
    · exact readOutput_goes _ _
    · exact readErrors_goes _ _
    · exact hdrained _ _
    · exact loseProcess_goes _ _
    · exact endTraffic_goes _
    · exact (kill_does _).seq fun _ => Carries.under (awaitExit_goes _) rfl
    · exact endTraffic_goes _
    · exact hquiet _
    · exact .give hsame hsound
  · cases point with
    | output number process => exact readOutput_goes number process
    | errors number process => exact readErrors_goes number process
    | drained number process => exact hdrained number process
    | asked number process => exact endTraffic_goes number
    | killed number => exact endTraffic_goes number
    | quiet number => exact hquiet number
    | _ => cases found <;> cases hfound <;> cases found' <;> cases hfound' <;> exact give_finding rfl heq

/-! ## Connections -/

theorem newConnection_does {c : Connection} (hlistener : ∃ uri received, c.listener = .check uri received) :
    g.Does (newConnection c) := by
  refine .of_get (fun _ => rfl) fun w hw => Does.seq ?_ fun _ => .pure _
  refine .modify (fun _ => rfl) (fun _ => rfl) fun w hw => ⟨hw.begun, hw.taskStacks, hw.settled, hw.running,
    fun c' hc' => ?_, hw.commands, hw.versionScript, hw.runScripts⟩
  rcases List.mem_append.1 hc' with hc' | hc'
  · exact hw.listeners c' hc'
  · exact List.mem_singleton.1 hc' ▸ hlistener

theorem beginStart_does (number : Nat) (command : List String) : g.Does (beginStart number command) := by
  refine (promise_does _).seq fun _ => Does.seq ?_ fun _ => Does.seq ?_ fun _ => .pure _
  · refine .of_get (fun _ => rfl) fun w hw => Does.seq ?_ fun _ => .pure _
    exact modify_does (fun _ => rfl) (fun _ => rfl) (fun _ => rfl) (fun _ => rfl) (fun _ => rfl) fun _ => rfl
  · exact updateConnection_does number fun _ => rfl

theorem connect_goes (number : Nat) : g.Goes (connect number) := by
  refine .of_get (fun _ => rfl) fun w hw => ?_
  split
  · exact .finish rfl fun _ h => by cases h
  · split
    · exact .finish rfl fun _ h => by cases h
    · exact (beginStart_does _ _).seq fun _ => Carries.under (openChannel_goes _) rfl
    · exact .finish rfl fun _ h => by cases h

theorem isInPhase_does (phase : Phase) (number : Nat) : g.Does (isInPhase phase number) := by
  refine .of_get (fun _ => rfl) fun w hw => ?_
  split <;> exact .pure _

theorem greet_goes (number channel : Nat) : g.Goes (greet number channel) := by
  refine .of_get (fun _ => rfl) fun w hw => ?_
  split
  · exact .finish rfl fun _ h => by cases h
  · refine (requestThrough_does _ _ _ _).seq fun asked => ?_
    cases asked with
    | ok answer => exact Carries.under (waitWithin_goes _ _) rfl
    | error what => exact .fail _

theorem becomeReady_goes (number channel : Nat) (answer : Value) :
    g.Goes (becomeReady number channel answer) := by
  refine .of_get (fun _ => rfl) fun w hw => ?_
  split
  · exact .finish rfl fun _ h => by cases h
  · refine Does.seq ?_ fun _ => (notifyThrough_does _ _ _).seq fun _ => Does.seq ?_ fun _ => ?_
    · exact updateConnection_does number fun _ => rfl
    · exact updateConnection_does number fun _ => rfl
    refine (Carries.forM fun _ _ => notifyThrough_does _ _ _).seq fun _ => ?_
    split
    · exact .fail _
    · refine Does.seq ?_ fun _ => (settleStarted_does number true).seq fun _ => ?_
      · exact updateConnection_does number fun _ => rfl
      · exact .finish rfl fun _ h => by cases h

theorem closeConnection_goes (number : Nat) (channel : Option Nat) :
    g.Goes (closeConnection number channel) := by
  refine Carries.under ?_ rfl
  cases channel with
  | none => exact .finish rfl fun _ h => by cases h
  | some channel => exact closeChannel_goes channel

theorem disconnect_goes (number : Nat) : g.Goes (disconnect number) := by
  refine .of_get (fun _ => rfl) fun w hw => ?_
  split
  · exact .finish rfl fun _ h => by cases h
  · split
    · refine Does.seq ?_ fun _ => .finish rfl fun _ h => by cases h
      exact updateConnection_does number fun _ => rfl
    · exact .finish rfl fun _ h => by cases h
    · refine Does.seq ?_ fun _ => ?_
      · exact updateConnection_does number fun _ => rfl
      split
      · refine (requestThrough_does _ _ _ _).seq fun asked => ?_
        cases asked with
        | ok answer => exact Carries.under (waitWithin_goes _ _) rfl
        | error what => exact .fail _
      · exact closeConnection_goes _ _

theorem askReady_goes (number : Nat) (method : String) (params : Value) (limit : Option Nat) :
    g.Goes (askReady number method params limit) := by
  refine .of_get (fun _ => rfl) fun w hw => ?_
  split
  · exact .fail _
  · split
    · refine (requestThrough_does _ _ _ _).seq fun asked => ?_
      cases asked with
      | ok answer => exact waitWithin_goes _ _
      | error what => exact .fail _
    · exact .fail _

theorem notify_does (number : Nat) (method : String) (params : Value) :
    g.Does (notify number method params) := by
  refine .of_get (fun _ => rfl) fun w hw => ?_
  split
  · exact .pure none
  · split
    · split
      · exact .pure _
      · exact (notifyThrough_does _ _ _).seq fun _ => .pure none
    · exact .pure none
    · refine Does.seq ?_ fun _ => .pure none
      exact updateConnection_does number fun _ => rfl

theorem connectionResume_carries (point : ConnectionPoint) {outcome : Outcome} (hsound : g.Sound outcome) :
    g.Carries g.next g.Suits (point.resume (g.outcome outcome)) (point.resume outcome) := by
  have hphase : ∀ {number : Nat} {phase : Phase} {yes no : Act Next}, g.Goes yes → g.Goes no →
      g.Goes (do if ← isInPhase phase number then yes else no) := fun hyes hno =>
    (isInPhase_does _ _).seq fun isIn => by split <;> assumption
  have hover : ∀ ready, g.Goes (World.finish (.bool ready)) := fun _ => .finish rfl fun _ h => by cases h
  have hopened : ∀ number channel, g.Goes (do
      if ← isInPhase .starting number then greet number channel
      else World.under (.connection .abandoned) (closeChannel channel)) := fun _ _ =>
    hphase (greet_goes _ _) (Carries.under (closeChannel_goes _) rfl)
  have hreset : ∀ number, g.Goes (do
      reset number
      World.finish (.bool false)) := fun _ => (reset_does _).seq fun _ => hover _
  have hgreeted : ∀ number channel value, g.Goes (do
      if ← isInPhase .starting number then becomeReady number channel value
      else World.finish (.bool false)) := fun _ _ _ => hphase (becomeReady_goes _ _ _) (hover _)
  have hparted : ∀ number channel, g.Goes (do
      notifyThrough channel "exit"
      closeConnection number (some channel)) := fun _ _ =>
    (notifyThrough_does _ _ _).seq fun _ => closeConnection_goes _ _
  have hclosed : ∀ number (channel : Option Nat), g.Goes (do
      channel.forM fun channel => rejectAll channel (.exited none)
      reset number
      World.finish .unit) := fun _ _ =>
    (Carries.forM_option fun _ => rejectAll_does _ _).seq fun _ => (reset_does _).seq fun _ =>
      .finish rfl fun _ h => by cases h
  -- it goes on alike whether it is told a failure or an answer; only the value of an answer matters
  refine Carries.of_told hsound (fun told hsame hsound => ?_) fun found' found hfound' hfound heq => ?_
  · unfold ConnectionPoint.resume
    split
    · exact hopened _ _
    · exact hreset _
    · exact hover _
    · exact hgreeted _ _ _
    · split
      · exact hphase (Carries.under (closeChannel_goes _) rfl) (hover _)
      · exact .fail _
    · exact hreset _
    · exact hparted _ _
    · split
      · exact hparted _ _
      · exact .fail _
    · exact hclosed _ _
    · split
      · exact askReady_goes _ _ _ _
      · exact .fail _
    · exact .give hsame hsound
  · have hvalue : found'.value = found.value := by
      obtain ⟨answer, hanswer, hvalue⟩ := g.exists_outcome_ok found
      rw [heq] at hanswer
      exact Except.ok.inj hanswer ▸ hvalue
    cases point with
    | opened number channel => exact hopened number channel
    | abandoned => exact hover false
    | greeted number channel _ =>
      show g.Carries g.next g.Suits (do if ← isInPhase .starting number then
        becomeReady number channel found'.value else World.finish (.bool false)) _
      rw [hvalue]
      exact hgreeted number channel found.value
    | refused number => exact hreset number
    | parted number channel => exact hparted number channel
    | closed number channel => exact hclosed number channel
    | awaited number method params limit =>
      cases found <;> cases hfound <;> cases found' <;> cases hfound' <;> exact give_finding rfl heq

end Guise

end BasiliskServer.World
