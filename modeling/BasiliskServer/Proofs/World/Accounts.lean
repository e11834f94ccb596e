import BasiliskServer.Proofs.World.Custody

/-!
# The account of the keeper

The keeper can be asked which connection it has, for which configuration, how often it has stopped one
and which programs were launched (`World.account`). Only who has its turn changes that: whatever a task
does at a point that is not the keeper's leaves the account as it is (`resume_steady`), and so does what
nobody does (`Ordered.undergo_steady`).
-/

namespace BasiliskServer.World

open Json (Value Fields)
open Tasks (Notice Scheduler)

/-- What the keeper accounts for. -/
structure Account where
  /-- The connection that the keeper has. -/
  kept : Option Nat
  /-- The fingerprint of its configuration. -/
  fingerprint : Option String
  /-- Whether anyone wants to know when a connection is stopped. -/
  observed : Bool
  /-- How often the keeper has stopped a connection. -/
  stops : Nat
  /-- The programs that were launched. -/
  launches : List Launch
  /-- How the connections are configured that there have been. -/
  configs : List Companion.Config

/-- What the keeper accounts for. -/
def account (w : World) : Account where
  kept := w.keeper.connection
  fingerprint := w.keeper.fingerprint
  observed := w.keeper.observed
  stops := w.record.stops
  launches := w.record.launches
  configs := w.connections.map (·.config)

/-- The action leaves the account of the keeper as it is. -/
def Steady {α : Type} (act : Act α) : Prop :=
  ∀ w : World, (act.run w).2.account = w.account

namespace Steady

variable {α β : Type}

protected theorem pure (a : α) : Steady (pure a) :=
  fun _ => rfl

theorem seq {act : Act α} {rest : α → Act β} (hact : Steady act) (hrest : ∀ a, Steady (rest a)) :
    Steady (act >>= rest) :=
  fun w => (hrest _ _).trans (hact w)

/-- An action that looks at the world first. -/
theorem of_get {rest : World → Act β} (h : ∀ w, Steady (rest w)) : Steady (get >>= rest) :=
  fun w => h w w

theorem forM {items : List β} {act : β → Act Unit} (h : ∀ item, Steady (act item)) :
    Steady (items.forM act) := by
  induction items with
  | nil => exact .pure ()
  | cons item rest ih => exact seq (h item) fun _ => ih

theorem forM_option {item : Option β} {act : β → Act Unit} (h : ∀ i, Steady (act i)) :
    Steady (item.forM act) := by
  cases item with
  | none => exact .pure ()
  | some i => exact h i

theorem under {act : Act Next} (h : Steady act) (point : Point) : Steady (World.under point act) :=
  seq h fun _ => .pure _

end Steady

/-! ## Elementary changes -/

theorem modifyTasks_steady (step : Scheduler Point Answer Hook → Scheduler Point Answer Hook) :
    Steady (modifyTasks step) :=
  fun _ => rfl

theorem onTasks_steady {α : Type}
    (step : Scheduler Point Answer Hook → α × Scheduler Point Answer Hook) : Steady (onTasks step) :=
  fun _ => rfl

theorem note_steady {change : Record → Record}
    (h : ∀ r, (change r).launches = r.launches ∧ (change r).stops = r.stops) :
    Steady (note change) := by
  intro w
  show World.account { w with record := change w.record } = w.account
  simp [account, h w.record]

theorem updateSession_steady (change : Session → Session) : Steady (updateSession change) :=
  fun _ => rfl

theorem updateProcess_steady (number : Nat) (change : Process → Process) :
    Steady (updateProcess number change) :=
  fun _ => rfl

theorem updateChannel_steady (number : Nat) (change : Channel → Channel) :
    Steady (updateChannel number change) :=
  fun _ => rfl

theorem updateConnection_steady (number : Nat) {change : Connection → Connection}
    (h : ∀ c, (change c).config = c.config) : Steady (updateConnection number change) := by
  intro w
  show World.account { w with connections := w.connections.modify number change } = w.account
  simp [account, map_modify_of_eq h]

theorem updateKeeper_steady {change : Keeper → Keeper}
    (h : ∀ k, (change k).connection = k.connection ∧ (change k).fingerprint = k.fingerprint ∧
      (change k).observed = k.observed) : Steady (updateKeeper change) := by
  intro w
  show World.account { w with keeper := change w.keeper } = w.account
  simp [account, h w.keeper]

/-! ## Programs -/

theorem wakeReader_steady (reader : Reader) : Steady (wakeReader reader) :=
  .forM_option fun _ => modifyTasks_steady _

theorem writeOutput_steady (number : Nat) (bytes : List UInt8) : Steady (writeOutput number bytes) := by
  refine .of_get fun w => ?_
  split
  · exact .pure ()
  · split
    · exact (updateProcess_steady _ _).seq fun _ => wakeReader_steady _
    · exact .pure ()

theorem writeErrors_steady (number : Nat) (bytes : List UInt8) : Steady (writeErrors number bytes) := by
  refine .of_get fun w => ?_
  split
  · exact .pure ()
  · split
    · exact (updateProcess_steady _ _).seq fun _ => wakeReader_steady _
    · exact .pure ()

theorem breakOutput_steady (number : Nat) (text : String) : Steady (breakOutput number text) := by
  refine .of_get fun w => ?_
  split
  · exact .pure ()
  · exact (updateProcess_steady _ _).seq fun _ => wakeReader_steady _

theorem quit_steady (number : Nat) (code : Int) : Steady (quit number code) := by
  refine .of_get fun w => ?_
  split
  · exact .pure ()
  · split
    · refine (updateProcess_steady _ _).seq fun _ => (wakeReader_steady _).seq fun _ => ?_
      exact (wakeReader_steady _).seq fun _ => .forM fun _ => modifyTasks_steady _
    · exact .pure ()

theorem afterDelay_steady (delay : Nat) (hook : Hook) {now : Act Unit} (hnow : Steady now) :
    Steady (afterDelay delay hook now) := by
  unfold afterDelay
  split
  · exact hnow
  · exact (onTasks_steady _).seq fun _ => .pure ()

theorem say_steady (number : Nat) (message : Fields) (delay : Nat) :
    Steady (say number message delay) :=
  afterDelay_steady delay _ (writeOutput_steady _ _)

theorem receive_steady (number : Nat) (message : Fields) : Steady (receive number message) := by
  have hcarryOut : ∀ id reply, Steady (carryOut number id reply) := fun id reply => by
    cases reply with
    | result value delay => exact say_steady _ _ _
    | refusal error delay => exact say_steady _ _ _
    | quit code delay => exact afterDelay_steady delay _ (quit_steady _ _)
    | silence => exact .pure ()
  have htellOnOpen : ∀ script method params, Steady (tellOnOpen number script method params) := by
    intro script method params
    unfold tellOnOpen
    split
    · refine (writeErrors_steady _ _).seq fun _ => ?_
      cases script.problemsOnOpen with
      | none => exact .pure ()
      | some problems => exact say_steady _ _ _
    · exact .pure ()
  refine .of_get fun w => ?_
  split
  · exact .pure ()
  · refine Steady.seq ?_ fun _ => (updateProcess_steady _ _).seq fun _ => ?_
    · exact note_steady fun _ => ⟨rfl, rfl⟩
    · split
      · refine (htellOnOpen _ _ _).seq fun _ => ?_
        split
        · exact .pure ()
        · exact hcarryOut _ _
      · exact .pure ()

theorem writeInput_steady (number : Nat) (payload : Payload) : Steady (writeInput number payload) := by
  refine .of_get fun w => ?_
  split
  · exact .pure ()
  · refine Steady.seq ?_ fun _ => ?_
    · exact note_steady fun _ => ⟨rfl, rfl⟩
    · split
      · refine (updateProcess_steady _ _).seq fun _ => ?_
        exact .forM_option fun _ => .forM fun _ => receive_steady number _
      · exact .pure ()

theorem askToEnd_steady (number : Nat) : Steady (askToEnd number) := by
  refine Steady.seq ?_ fun _ => .of_get fun w => ?_
  · exact note_steady fun _ => ⟨rfl, rfl⟩
  split
  · exact .pure true
  · split
    · exact .pure false
    · split
      · exact (quit_steady number (-15)).seq fun _ => .pure true
      · exact .pure true

theorem kill_steady (number : Nat) : Steady (kill number) := by
  refine Steady.seq ?_ fun _ => quit_steady number (-9)
  exact note_steady fun _ => ⟨rfl, rfl⟩

theorem starting_steady (script : CompanionScript) (command : List String) (outcome : Outcome) :
    Steady (ProgramPoint.resume (.starting script command) outcome) := by
  cases outcome with
  | error failure => exact .pure _
  | ok answer =>
    show Steady (if script.isMissing then _ else _)
    split
    · exact .pure _
    · exact .of_get fun w => Steady.seq (fun _ => rfl) fun _ => .pure _

theorem ending_steady (number : Nat) (outcome : Outcome) :
    Steady (ProgramPoint.resume (.ending number) outcome) := by
  cases outcome with
  | error failure => exact .pure _
  | ok answer => exact .of_get fun w => .pure _

/-! ## Waiting -/

theorem sleep_steady (delay : Nat) : Steady (sleep delay) :=
  (onTasks_steady _).seq fun _ => (onTasks_steady _).seq fun _ => .pure _

theorem reap_steady (inner : Nat) (alarm : Option Nat) (interrupted : Bool) :
    Steady (reap inner alarm interrupted) :=
  (onTasks_steady _).seq fun _ => (modifyTasks_steady _).seq fun _ =>
    (modifyTasks_steady _).seq fun _ => .pure _

theorem waitLimited_steady (inner limit : Nat) : Steady (waitLimited inner limit) := by
  unfold waitLimited
  split
  · refine .of_get fun w => ?_
    split
    · exact .pure _
    · exact reap_steady _ _ _
  · exact (onTasks_steady _).seq fun _ => (onTasks_steady _).seq fun _ =>
      (modifyTasks_steady _).seq fun _ => .pure _

theorem waitWithin_steady (inner : Nat) (limit : Option Nat) : Steady (waitWithin inner limit) := by
  cases limit with
  | none => exact .pure _
  | some limit => exact waitLimited_steady inner limit

theorem waitShielded_steady (inner : Nat) : Steady (waitShielded inner) := by
  refine .of_get fun w => ?_
  split
  · exact .pure _
  · exact (onTasks_steady _).seq fun _ => (modifyTasks_steady _).seq fun _ => .pure _

theorem waitAll_steady (promises : List Nat) (point : Point) : Steady (waitAll promises point) :=
  (onTasks_steady _).seq fun _ => (Steady.forM fun _ => modifyTasks_steady _).seq fun _ => .pure _

theorem waitResume_steady (point : WaitPoint) (outcome : Outcome) : Steady (point.resume outcome) := by
  cases point with
  | sleeping alarm => exact (modifyTasks_steady _).seq fun _ => .pure _
  | limited inner alarm =>
    refine .of_get fun w => ?_
    split
    · exact (modifyTasks_steady _).seq fun _ => .pure _
    · cases outcome <;> exact reap_steady _ _ _
  | reaping inner alarm interrupted =>
    refine (Steady.forM_option fun _ => modifyTasks_steady _).seq fun _ => ?_
    cases outcome with
    | error failure => exact .pure _
    | ok answer =>
      simp only
      split
      · exact .pure _
      · exact .of_get fun w => .pure _

theorem awaitExit_steady (number : Nat) : Steady (awaitExit number) := by
  refine .of_get fun w => ?_
  split
  · exact .pure _
  · exact (onTasks_steady _).seq fun _ => (updateProcess_steady _ _).seq fun _ => .pure _

/-! ## Messages -/

theorem send_steady (channel : Nat) (payload : Payload) : Steady (send channel payload) := by
  refine .of_get fun w => ?_
  split
  · exact writeInput_steady _ _
  · exact .pure ()

theorem notifyThrough_steady (channel : Nat) (method : String) (params : Value) :
    Steady (notifyThrough channel method params) :=
  send_steady channel _

theorem requestThrough_steady (room : Option Nat) (channel : Nat) (method : String)
    (params : Value) : Steady (requestThrough room channel method params) := by
  refine (onTasks_steady _).seq fun _ => .of_get fun w => ?_
  split
  · exact .pure _
  · refine (updateChannel_steady _ _).seq fun _ => (modifyTasks_steady _).seq fun _ => ?_
    dsimp only
    split
    · exact .pure _
    · exact (send_steady _ _).seq fun _ => .pure _

theorem rejectAll_steady (channel : Nat) (failure : Failure) : Steady (rejectAll channel failure) := by
  refine .of_get fun w => ?_
  split
  · exact .pure ()
  · exact (updateChannel_steady _ _).seq fun _ => .forM fun _ => .forM_option fun _ =>
      modifyTasks_steady _

theorem takeMessage_steady (room : Option Nat) (number : Nat) (message : Fields) :
    Steady (takeMessage room number message) := by
  refine .of_get fun w => ?_
  split
  · exact .pure none
  · refine (updateChannel_steady _ _).seq fun _ => ?_
    split
    · exact .pure none
    · exact .pure none
    · exact (send_steady _ _).seq fun _ => .pure none
    · exact (Steady.forM_option fun _ => modifyTasks_steady _).seq fun _ => .pure none
    · exact .pure _

theorem schedule_steady (activity : Activity) : Steady (schedule activity) :=
  (onTasks_steady _).seq fun _ => (updateSession_steady _).seq fun _ => modifyTasks_steady _

theorem report_steady (listener : Listener) (uri : String) (problems : List Value)
    (version : Option Value) : Steady (listener.report uri problems version) := by
  cases listener with
  | nobody => exact .pure ()
  | recorder => exact note_steady fun _ => ⟨rfl, rfl⟩
  | session =>
    refine .of_get fun w => (updateSession_steady _).seq fun _ => ?_
    split
    · exact .pure ()
    · exact schedule_steady _
  | check expected received =>
    show Steady (if uri = expected then _ else _)
    split
    · exact modifyTasks_steady _
    · exact .pure ()

theorem takeNotification_steady (c : Connection) (method : String) (params : Value) :
    Steady (takeNotification c method params) := by
  have htext : Steady (takeNotification.takeText c params) := by
    unfold takeNotification.takeText
    split
    · split
      · exact .pure ()
      · cases hlistener : c.listener with
        | recorder => exact note_steady fun _ => ⟨rfl, rfl⟩
        | session => exact note_steady fun _ => ⟨rfl, rfl⟩
        | _ => exact .pure ()
    · exact .pure ()
  unfold takeNotification
  split
  · split
    · exact report_steady _ _ _ _
    · exact .pure ()
  · exact htext
  · exact htext
  · exact .pure ()

theorem frame_steady (owner : Owner) (message : Fields) : Steady (owner.frame message) := by
  cases owner with
  | recorder full takes =>
    show Steady (if _ then _ else _)
    split
    · exact .pure ()
    · exact note_steady fun _ => ⟨rfl, rfl⟩
  | connection number =>
    refine .of_get fun w => ?_
    split
    · split
      · refine (takeMessage_steady _ _ _).seq fun told => ?_
        split
        · exact takeNotification_steady _ _ _
        · exact .pure ()
      · exact .pure ()
    · exact .pure ()

theorem ownerErrors_steady (owner : Owner) (line : String) : Steady (owner.errors line) := by
  cases owner with
  | recorder full takes =>
    show Steady (if _ then _ else _)
    split
    · exact note_steady fun _ => ⟨rfl, rfl⟩
    · exact .pure ()
  | connection number =>
    refine .of_get fun w => ?_
    split
    · rename_i c _
      cases hlistener : c.listener with
      | recorder => exact note_steady fun _ => ⟨rfl, rfl⟩
      | check uri received => exact note_steady fun _ => ⟨rfl, rfl⟩
      | _ => exact .pure ()
    · exact .pure ()

/-! ## Channels -/

theorem settleStarted_steady (number : Nat) (ready : Bool) : Steady (settleStarted number ready) := by
  refine .of_get fun w => ?_
  split
  · exact modifyTasks_steady _
  · exact .pure ()

theorem reset_steady (number : Nat) : Steady (reset number) := by
  refine Steady.seq ?_ fun _ => settleStarted_steady number false
  exact updateConnection_steady number fun _ => rfl

theorem ownerExit_steady (owner : Owner) (code : Option Int) : Steady (owner.exit code) := by
  cases owner with
  | recorder full takes =>
    show Steady (if _ then _ else _)
    split
    · exact note_steady fun _ => ⟨rfl, rfl⟩
    · exact .pure ()
  | connection number =>
    refine .of_get fun w => ?_
    split
    · exact .pure ()
    · rename_i c _
      refine (Steady.forM_option fun _ => rejectAll_steady _ _).seq fun _ => .seq ?_ fun _ => ?_
      · exact updateConnection_steady number fun _ => rfl
      split
      · refine (reset_steady _).seq fun _ => ?_
        cases hlistener : c.listener with
        | recorder => exact note_steady fun _ => ⟨rfl, rfl⟩
        | session =>
          refine Steady.seq ?_ fun _ => (updateSession_steady _).seq fun _ => .of_get fun w => ?_
          · exact note_steady fun _ => ⟨rfl, rfl⟩
          · exact .forM fun _ => schedule_steady _
        | _ => exact .pure ()
      · exact .pure ()

theorem readOutput_steady (channel process : Nat) : Steady (readOutput channel process) := by
  refine .of_get fun w => .of_get fun w => ?_
  split
  · split
    · exact .pure _
    · split
      · exact .pure _
      · exact (onTasks_steady _).seq fun _ => (updateProcess_steady _ _).seq fun _ => .pure _
    · refine (updateProcess_steady _ _).seq fun _ => ?_
      refine (updateChannel_steady _ _).seq fun _ => ?_
      split
      · exact .pure _
      · exact (Steady.forM fun _ => frame_steady _ _).seq fun _ => .pure _
  · exact .pure _

theorem readErrors_steady (channel process : Nat) : Steady (readErrors channel process) := by
  refine .of_get fun w => .of_get fun w => ?_
  split
  · split
    · refine (updateProcess_steady _ _).seq fun _ => ?_
      split
      · exact .pure _
      · exact (ownerErrors_steady _ _).seq fun _ => .pure _
    · split
      · exact (updateProcess_steady _ _).seq fun _ => .pure _
      · split
        · split
          · exact .pure _
          · exact (updateProcess_steady _ _).seq fun _ => (ownerErrors_steady _ _).seq fun _ => .pure _
        · exact (onTasks_steady _).seq fun _ => (updateProcess_steady _ _).seq fun _ => .pure _
  · exact .pure _

theorem withProcess_steady (channel : Nat) {activity : Nat → Act Next}
    (h : ∀ process, Steady (activity process)) : Steady (withProcess channel activity) := by
  refine .of_get fun w => ?_
  split
  · exact .pure _
  · exact h _

theorem endTraffic_steady (channel : Nat) : Steady (endTraffic channel) := by
  refine .of_get fun w => ?_
  split
  · exact .pure _
  · refine (Steady.forM fun _ => modifyTasks_steady _).seq fun _ => ?_
    split
    · exact (updateChannel_steady _ _).seq fun _ => .pure _
    · exact waitAll_steady _ _

theorem closeChannel_steady (channel : Nat) : Steady (closeChannel channel) := by
  refine withProcess_steady channel fun process => (updateChannel_steady _ _).seq fun _ => ?_
  refine .of_get fun w => ?_
  split
  · exact endTraffic_steady channel
  · refine (askToEnd_steady _).seq fun asked => ?_
    split
    · exact (onTasks_steady _).seq fun _ => (waitLimited_steady _ _).under _
    · exact endTraffic_steady channel

theorem channelResume_steady (point : ChannelPoint) (outcome : Outcome) :
    Steady (point.resume outcome) := by
  unfold ChannelPoint.resume
  split
  · exact (updateChannel_steady _ _).seq fun _ => (onTasks_steady _).seq fun _ =>
      (onTasks_steady _).seq fun _ => (onTasks_steady _).seq fun _ =>
      (updateChannel_steady _ _).seq fun _ => .pure _
  · exact readOutput_steady _ _
  · exact readErrors_steady _ _
  · exact (awaitExit_steady _).under _
  · refine .of_get fun w => ?_
    split
    · exact .pure _
    · split
      · exact (updateChannel_steady _ _).seq fun _ => (ownerExit_steady _ _).seq fun _ => .pure _
      · exact .pure _
  · exact endTraffic_steady _
  · exact (kill_steady _).seq fun _ => (awaitExit_steady _).under _
  · exact endTraffic_steady _
  · exact (updateChannel_steady _ _).seq fun _ => .pure _
  · exact .pure _

/-! ## Connections -/

theorem isInPhase_steady (phase : Phase) (number : Nat) : Steady (isInPhase phase number) := by
  refine .of_get fun w => ?_
  split <;> exact .pure _

theorem closeConnection_steady (number : Nat) (channel : Option Nat) :
    Steady (closeConnection number channel) := by
  refine Steady.under ?_ _
  cases channel with
  | none => exact .pure _
  | some channel => exact closeChannel_steady channel

theorem disconnect_steady (number : Nat) : Steady (disconnect number) := by
  refine .of_get fun w => ?_
  split
  · exact .pure _
  · split
    · refine Steady.seq ?_ fun _ => .pure _
      exact updateConnection_steady number fun _ => rfl
    · exact .pure _
    · refine Steady.seq ?_ fun _ => ?_
      · exact updateConnection_steady number fun _ => rfl
      split
      · refine (requestThrough_steady _ _ _ _).seq fun asked => ?_
        cases asked with
        | ok answer => exact (waitWithin_steady _ _).under _
        | error what => exact .pure _
      · exact closeConnection_steady _ _

theorem becomeReady_steady (number channel : Nat) (answer : Value) :
    Steady (becomeReady number channel answer) := by
  refine .of_get fun w => ?_
  split
  · exact .pure _
  · refine .seq ?_ fun _ => (notifyThrough_steady _ _ _).seq fun _ => .seq ?_ fun _ => ?_
    · exact updateConnection_steady number fun _ => rfl
    · exact updateConnection_steady number fun _ => rfl
    refine (Steady.forM fun _ => notifyThrough_steady _ _ _).seq fun _ => ?_
    split
    · exact .pure _
    · refine .seq ?_ fun _ => (settleStarted_steady number true).seq fun _ => .pure _
      exact updateConnection_steady number fun _ => rfl

theorem greet_steady (number channel : Nat) : Steady (greet number channel) := by
  refine .of_get fun w => ?_
  split
  · exact .pure _
  · refine (requestThrough_steady _ _ _ _).seq fun asked => ?_
    cases asked with
    | ok answer => exact (waitWithin_steady _ _).under _
    | error what => exact .pure _

theorem askReady_steady (number : Nat) (method : String) (params : Value) (limit : Option Nat) :
    Steady (askReady number method params limit) := by
  refine .of_get fun w => ?_
  split
  · exact .pure _
  · split
    · refine (requestThrough_steady _ _ _ _).seq fun asked => ?_
      cases asked with
      | ok answer => exact waitWithin_steady _ _
      | error what => exact .pure _
    · exact .pure _

theorem ask_steady (number : Nat) (method : String) (params : Value) (limit : Option Nat) :
    Steady (ask number method params limit) := by
  refine .of_get fun w => ?_
  split
  · exact (waitShielded_steady _).under _
  · exact askReady_steady _ _ _ _

theorem connectionResume_steady (point : ConnectionPoint) (outcome : Outcome) :
    Steady (point.resume outcome) := by
  have hphase : ∀ {number : Nat} {phase : Phase} {yes no : Act Next}, Steady yes → Steady no →
      Steady (do if ← isInPhase phase number then yes else no) := fun hyes hno =>
    (isInPhase_steady _ _).seq fun isIn => by split <;> assumption
  unfold ConnectionPoint.resume
  split
  · exact hphase (greet_steady _ _) ((closeChannel_steady _).under _)
  · exact (reset_steady _).seq fun _ => .pure _
  · exact .pure _
  · exact hphase (becomeReady_steady _ _ _) (.pure _)
  · split
    · exact hphase ((closeChannel_steady _).under _) (.pure _)
    · exact .pure _
  · exact (reset_steady _).seq fun _ => .pure _
  · exact (notifyThrough_steady _ _ _).seq fun _ => closeConnection_steady _ _
  · split
    · exact (notifyThrough_steady _ _ _).seq fun _ => closeConnection_steady _ _
    · exact .pure _
  · refine (Steady.forM_option fun _ => rejectAll_steady _ _).seq fun _ => ?_
    exact (reset_steady _).seq fun _ => .pure _
  · split
    · exact askReady_steady _ _ _ _
    · exact .pure _
  · exact .pure _

theorem notify_steady (number : Nat) (method : String) (params : Value) :
    Steady (notify number method params) := by
  refine .of_get fun w => ?_
  split
  · exact .pure none
  · split
    · split
      · exact .pure _
      · exact (notifyThrough_steady _ _ _).seq fun _ => .pure none
    · exact .pure none
    · refine Steady.seq ?_ fun _ => .pure none
      exact updateConnection_steady number fun _ => rfl

/-! ## Turns -/

theorem callFirst_steady : Steady callFirst := by
  refine .of_get fun w => ?_
  split
  · exact .pure ()
  · exact modifyTasks_steady _

theorem leave_steady : Steady leave := by
  refine Steady.seq ?_ fun _ => callFirst_steady
  exact updateKeeper_steady fun _ => ⟨rfl, rfl, rfl⟩

theorem withdraw_steady (ticket : Option Nat) : Steady (withdraw ticket) := by
  refine Steady.seq ?_ fun _ => .of_get fun w => ?_
  · exact updateKeeper_steady fun _ => ⟨rfl, rfl, rfl⟩
  · split
    · exact callFirst_steady
    · exact .pure ()

theorem takeTurn_steady (gate : Option Nat → KeeperPoint) : Steady (takeTurn gate) := by
  refine .of_get fun w => .of_get fun w => ?_
  split
  · refine Steady.seq ?_ fun _ => .pure _
    exact updateKeeper_steady fun _ => ⟨rfl, rfl, rfl⟩
  · refine (onTasks_steady _).seq fun _ => Steady.seq ?_ fun _ => .pure _
    exact updateKeeper_steady fun _ => ⟨rfl, rfl, rfl⟩

/-! ## Any point -/

variable {Γ : Ledger} {result : Nat} {below : Expectation} {w w' : World} {task : Nat}
  {t : Tasks.Task Point} {point : Point} {rest : List Point} {outcome : Outcome}

/-- Whatever a task does at a point that is not the keeper's leaves the account as it is. -/
theorem resume_steady (hpasses : Γ.Passes .keeper result below point)
    (hpoint : ∀ keeperPoint, point ≠ .keeper keeperPoint) (outcome : Outcome) :
    Steady (point.resume outcome) := by
  cases point with
  | start activity =>
    cases outcome with
    | error failure => exact .pure _
    | ok answer =>
      have hbegins : Counter.keeper.Begins activity below := hpasses
      cases activity with
      | ask number method params limit => exact ask_steady _ _ _ _
      | disconnect number => exact disconnect_steady number
      | readOutput channel => exact withProcess_steady channel (readOutput_steady channel)
      | readErrors channel => exact withProcess_steady channel (readErrors_steady channel)
      | watch channel reader => exact withProcess_steady channel fun _ => waitAll_steady _ _
      | awaitExit process => exact awaitExit_steady process
      | ensure config => exact takeTurn_steady _
      | release => exact takeTurn_steady _
      | _ =>
        exfalso
        cases below <;> simp [Counter.Begins, Counter.offers] at hbegins
  | wait point => exact waitResume_steady point outcome
  | program point =>
    cases point with
    | starting script command => exact starting_steady script command outcome
    | ending number => exact ending_steady number outcome
    | _ => exact absurd hpasses (by rintro ⟨e, he, -⟩; cases he)
  | channel point => exact channelResume_steady point outcome
  | connection point => exact connectionResume_steady point outcome
  | keeper point => exact absurd rfl (hpoint point)
  | tool point => exact absurd hpasses (by rintro ⟨e, he, -⟩; cases he)
  | session point => exact absurd hpasses (by rintro ⟨e, he, -⟩; cases he)

/-! ## Whatever happens -/

theorem happen_steady (notice : Notice Hook) : Steady (happen notice) := by
  cases notice with
  | wake task => exact modifyTasks_steady _
  | release promise => exact modifyTasks_steady _
  | relay source target =>
    refine .of_get fun w => ?_
    split
    · exact modifyTasks_steady _
    · exact .pure ()
  | tally promise => exact modifyTasks_steady _
  | hook hook =>
    cases hook with
    | forget channel request => exact updateChannel_steady _ _
    | retire task => exact updateSession_steady _
    | write process bytes => exact writeOutput_steady process bytes
    | quit process code => exact quit_steady process code

theorem act_steady {incident : Incident} (hstep : incident ≠ .step) (counter : Counter) :
    Steady (incident.act counter) := by
  cases incident with
  | step => exact absurd rfl hstep
  | call activity =>
    unfold Incident.act
    simp only
    split
    · exact (onTasks_steady _).seq fun _ => .pure _
    · exact .pure ()
  | notify number method params => exact notify_steady number method params
  | output process bytes => exact writeOutput_steady process bytes
  | errors process bytes => exact writeErrors_steady process bytes
  | fault process text => exact breakOutput_steady process text
  | exit process code => exact quit_steady process code
  | time moment => exact modifyTasks_steady _

/-- Where no task was moved, each stands where it stood. -/
theorem Onward.exists_task {s s' : Scheduler Point Answer Hook} (h : Onward s s')
    (ht : s.tasks[task]? = some t) : ∃ t', s'.tasks[task]? = some t' ∧ t'.standing = t.standing := by
  obtain ⟨activities, hstandings⟩ := h.standings
  have hs : s.standings[task]? = some t.standing := by rw [Scheduler.standings, List.getElem?_map, ht]; rfl
  have hs' : s'.standings[task]? = some t.standing := by
    rw [hstandings, Tasks.getElem?_append_of_some hs]
  rw [Scheduler.standings, List.getElem?_map] at hs'
  exact Option.map_eq_some_iff.1 hs'

/-- A task that goes on as told moves no other one. -/
theorem getElem?_proceed_of_ne {s : Scheduler Point Answer Hook} {other : Nat} (hne : other ≠ task)
    (next : Next) : (s.proceed other next).tasks[task]? = s.tasks[task]? := by
  cases hu : s.tasks[other]? with
  | none => rw [Scheduler.proceed_of_none hu]
  | some u =>
    rcases s.proceed_cases hu next with ⟨_, _, -, heq⟩ | ⟨q, front, -, -, heq⟩ <;> rw [heq]
    · exact List.getElem?_set_ne hne
    · rw [(Scheduler.observe_same _ _ _).2]
      exact List.getElem?_set_ne hne

namespace Ordered

variable {counter : Counter} {incident : Incident}

/-- Unless the keeper acts, its account stays as it is. -/
theorem undergo_steady (h : Ordered .keeper Γ w)
    (hother : incident = .step → ∀ keeperPoint outcome,
      w.acting? ≠ some (.keeper keeperPoint, outcome)) :
    (w.undergo .keeper incident).account = w.account := by
  -- Only the task that runs can act for the keeper, and everything else is steady by itself.
  unfold World.undergo
  split
  · cases hrunning : w.tasks.running with
    | none =>
      rw [step_of_idle hrunning]
      split
      · rfl
      · exact happen_steady _ _
    | some pair =>
      obtain ⟨task, outcome⟩ := pair
      obtain ⟨t, below, ht, -⟩ := h.exists_task hrunning
      cases hstack : t.stack with
      | nil =>
        rw [step_of_nil hrunning ht hstack]
        rfl
      | cons point rest =>
        obtain ⟨-, below, hpasses, -⟩ := h.advance hrunning ht hstack
        rw [step_of_point hrunning ht hstack]
        refine resume_steady hpasses (fun keeperPoint heq => ?_) outcome _
        refine hother rfl keeperPoint outcome ?_
        rw [acting?_of_running hrunning ht, hstack, heq]
        rfl
  · rfl
  · rename_i hstep _
    exact act_steady hstep _ _

/-- What happens moves no task, unless it wakes one. -/
theorem happen_onward (h : Ordered counter Γ w) {notice : Notice Hook}
    {s : Scheduler Point Answer Hook} (htake : w.tasks.takeNotice = some (notice, s))
    (hwake : ∀ task, notice ≠ .wake task) :
    Onward w.tasks (({ w with tasks := s } : World).perform (World.happen notice)).tasks := by
  obtain ⟨hrunning, htasks, hpromises, -⟩ := Scheduler.takeNotice_same htake
  have honward : Onward w.tasks s := .of_tasks hrunning htasks fun q known hknown => by
    rwa [Scheduler.outcome?, hpromises]
  cases notice with
  | wake task => exact absurd rfl (hwake task)
  | release promise => exact honward.trans (.settle promise)
  | relay source target =>
    rw [perform_relay]
    split
    · exact honward
    · exact honward.trans (.settle target)
  | tally promise => exact honward.trans (.countDown promise)
  | hook hook =>
    obtain ⟨hbooks, -⟩ := h.kept.books.takeNotice htake
    obtain ⟨hposts, hsource⟩ := h.kept.posts.takeNotice htake
    have hkept : Kept counter none (Posts.dueAfter [] (.hook hook)) Γ { w with tasks := s } :=
      h.kept.setTasks (.refl : Γ.Extends none Γ) (Kept.backed_self Γ _) hbooks hposts
        honward.outcomes fun _ hq => absurd hq List.not_mem_nil
    obtain ⟨Γ', hmoves, -⟩ := happenHook_minds hkept hsource
    exact honward.trans hmoves.onward

/-- Who does not act stays where it is, unless it has not begun. -/
theorem undergo_stack (h : Ordered counter Γ w) (ht : w.tasks.tasks[task]? = some t)
    (hstack : t.stack = [] ∨ ∃ point ∈ t.stack, point.isLater = true)
    (hother : incident = .step → ∀ point outcome, w.tasks.running = some (task, outcome) →
      t.stack.head? ≠ some point) :
    ∃ t', (w.undergo counter incident).tasks.tasks[task]? = some t' ∧ t'.stack = t.stack := by
  have honward : ∀ {s : Scheduler Point Answer Hook}, Onward w.tasks s →
      ∃ t', s.tasks[task]? = some t' ∧ t'.stack = t.stack := fun honward => by
    obtain ⟨t', ht', hsame⟩ := honward.exists_task ht
    exact ⟨t', ht', congrArg Tasks.Standing.stack hsame⟩
  -- A step is taken by the scheduler if nobody runs, and by the task that runs otherwise: that one is
  -- not the task in question, unless it has nothing left to do.
  unfold World.undergo
  split
  · cases hrunning : w.tasks.running with
    | none =>
      rw [step_of_idle hrunning]
      cases htake : w.tasks.takeNotice with
      | none => exact ⟨t, ht, rfl⟩
      | some pair =>
        obtain ⟨notice, s⟩ := pair
        by_cases hwake : ∃ other, notice = .wake other
        · obtain ⟨other, rfl⟩ := hwake
          obtain ⟨hstill, htasks, -⟩ := Scheduler.takeNotice_same htake
          have ht₁ : s.tasks[task]? = some t := by rw [htasks]; exact ht
          show ∃ t', (s.resume other).tasks[task]? = some t' ∧ _
          rcases s.resume_cases other with
            heq | ⟨t₂, t', outcome, ht₂, -, -, heq, hmoved⟩ <;> rw [heq]
          · exact ⟨t, ht₁, rfl⟩
          by_cases hsame : other = task
          · subst hsame
            obtain rfl := Option.some.inj (ht₁.symm.trans ht₂)
            refine ⟨t', List.getElem?_set_self (List.getElem?_eq_some_iff.1 ht₁).1, ?_⟩
            obtain ⟨hsame, -⟩ | ⟨hnil, hbegun⟩ := hmoved
            · exact hsame
            · -- only a task that has not begun is given up at once
              rcases hstack with hempty | ⟨point, hpoint, hlater⟩
              · rw [hnil, hempty]
              · obtain ⟨activity, rfl⟩ := eq_start_of_unbegun h.kept.books hrunning ht hbegun point hpoint
                cases hlater
          · exact ⟨t, (List.getElem?_set_ne hsame).trans ht₁, rfl⟩
        · exact honward (h.happen_onward htake fun other heq => hwake ⟨other, heq⟩)
    | some pair =>
      obtain ⟨other, outcome⟩ := pair
      obtain ⟨t₁, below, ht₁, -⟩ := h.exists_task hrunning
      cases hstack₁ : t₁.stack with
      | nil =>
        rw [step_of_nil hrunning ht₁ hstack₁]
        obtain ⟨t', ht', hsame⟩ :=
          (Onward.settle (s := { w.tasks with running := none }) t₁.result).exists_task ht
        exact ⟨t', ht', congrArg Tasks.Standing.stack hsame⟩
      | cons point rest =>
        have hne : other ≠ task := by
          rintro rfl
          obtain rfl := Option.some.inj (ht.symm.trans ht₁)
          exact hother rfl point outcome hrunning (by rw [hstack₁]; rfl)
        obtain ⟨Γ', -, -, -, -, hmoves, -⟩ := h.advance hrunning ht₁ hstack₁
        obtain ⟨t', ht', hsame⟩ := hmoves.onward.exists_task
          (show (w.tasks.tasks.set other _)[task]? = some t from (List.getElem?_set_ne hne).trans ht)
        rw [step_of_point hrunning ht₁ hstack₁]
        exact ⟨t', (getElem?_proceed_of_ne hne _).trans ht', congrArg Tasks.Standing.stack hsame⟩
  · exact ⟨t, ht, rfl⟩
  · rename_i hstep hidle
    obtain ⟨Γ', hmoves, -⟩ := act_minds h.kept hstep
    exact honward hmoves.onward

end Ordered

end BasiliskServer.World
