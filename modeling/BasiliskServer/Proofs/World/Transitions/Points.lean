import BasiliskServer.Proofs.World.Transitions.Connections

/-!
# Transitions at every point

Whatever a task does at a point that is told what it relies on is one of the courses
(`resume_course`).
-/

namespace BasiliskServer.World

open Json (Value Fields)
open Tasks (Notice Scheduler)

variable {Γ : Ledger} {counter : Counter} {result : Nat} {below : Expectation} {outcome : Outcome}
  {w : World}

/-! ## Channels -/

theorem readOutput_goes (w : World) (channel process : Nat) :
    Goes w (fun l next => w.layout.Hears l ∧ Rises [] next) (readOutput channel process) := by
  have hstays : ∀ {act : Act Next}, Lingers [] act →
      Goes w (fun l next => w.layout.Hears l ∧ Rises [] next) act := fun h =>
    .of_lingers h fun _ hnext => ⟨.refl _, hnext⟩
  refine .get_bind (.get_bind ?_)
  cases hp : w.processes[process]? with
  | none => exact hstays (.give _)
  | some p =>
    cases hc : w.channels[channel]? with
    | none => exact hstays (.give _)
    | some c =>
      simp only
      split
      · exact hstays (.give _)
      · split
        · exact hstays (.give _)
        · refine hstays (.seq (onTasks_inert _) fun waiter => .seq ?_ fun _ =>
            (Lingers.waitAt _ _).minor rfl)
          exact updateProcess_inert process fun _ => rfl
      · refine .bind (.of_inert ?_) fun _ w₁ _ hw₁ _ => ?_
        · exact updateProcess_inert process fun _ => rfl
        refine .bind (.of_inert ?_) fun _ w₂ _ hw₂ _ => ?_
        · exact updateChannel_inert channel fun _ => rfl
        rw [← hw₁, ← hw₂]
        split
        · exact .pure ⟨.refl _, rises_go _ _⟩
        · rename_i messages _
          have hheeds : Heeds (messages.forM c.owner.frame) := .forM fun _ => frame_heeds _ _
          refine ⟨hheeds w₂, .of_minor fun point hpoint => ?_⟩
          rw [List.mem_singleton.1 hpoint]
          rfl

theorem readErrors_lingers (channel process : Nat) : Lingers [] (readErrors channel process) := by
  refine .of_get fun w => .of_get fun w' => ?_
  have hdrop : ∀ buffer : List UInt8, Inert (updateProcess process fun p =>
      { p with stderr := { p.stderr with buffer := buffer } }) :=
    fun _ => updateProcess_inert process fun _ => rfl
  have hagain : Lingers [] (pure (.go (.ok .unit) [.channel (.errors channel process)])) :=
    (Lingers.pure (rises_go _ _)).minor rfl
  split
  · split
    · refine .seq (hdrop _) fun _ => ?_
      split
      · exact .give _
      · exact .seq (ownerErrors_inert _ _) fun _ => hagain
    · split
      · exact .seq (hdrop _) fun _ => .give _
      · split
        · split
          · exact .give _
          · exact .seq (hdrop _) fun _ => .seq (ownerErrors_inert _ _) fun _ => hagain
        · refine .seq (onTasks_inert _) fun waiter => .seq ?_ fun _ =>
            (Lingers.waitAt _ _).minor rfl
          exact updateProcess_inert process fun _ => rfl
  · exact .give _

theorem askReady_goes (w : World) {f' : Facts} {point : Point} {number : Nat} {method : String}
    {params : Value} (limit : Option Nat) (hpoint : point.isPivotal = false)
    (hasks : ∀ number' method' params', Asks number' method' params' point outcome ↔
      number' = number ∧ method' = method ∧ params' = params) :
    Goes w (Course w.facts f' w.layout point outcome) (askReady number method params limit) := by
  refine .get_bind ?_
  -- a connection that is not ready is not asked
  have hrefrains : ∀ failure : Failure, (∀ channel, ¬ w.layout.IsReady number channel) →
      Goes w (Course w.facts f' w.layout point outcome) (fail failure) := by
    refine fun failure hready => .pure (.hears hpoint ?_ (.refl _) (rises_go _ _))
    intro number' method' params' channel h
    obtain ⟨rfl, -, -⟩ := (hasks number' method' params').1 h
    exact hready channel
  cases hc : w.connections[number]? with
  | none =>
    refine hrefrains _ ?_
    rintro channel ⟨bond, hbond, -⟩
    rw [layout_bonds_getElem?, hc] at hbond
    cases hbond
  | some c =>
    have hbond : w.layout.bonds[number]? = some c.bond := bond_of_connection hc
    simp only
    split
    · rename_i channel hphase hchannel
      have hroom : w.layout.room number = c.room := by rw [Layout.room, hbond]; rfl
      -- the task waits for the answer, or fails at once
      have hsends : ∀ {w₁ : World}, w₁.layout =
          w.layout.ask c.room channel method params w.tasks.promises.length →
          ∀ {act : Act Next}, Lingers [] act →
            Goes w₁ (Course w.facts f' w.layout point outcome) act := by
        intro w₁ hw₁ act hact
        refine .of_lingers hact fun next hnext => ?_
        rw [hw₁, ← hroom]
        exact .sends ((hasks _ _ _).2 ⟨rfl, rfl, rfl⟩) ⟨_, hbond, hphase, hchannel⟩ hnext
      refine .bind (requestThrough_lays w c.room channel method params) fun asked w₁ _ hw₁ hasked => ?_
      obtain ⟨rfl, -⟩ | ⟨⟨what, rfl⟩, -⟩ := hasked
      · exact hsends hw₁ (waitWithin_lingers _ _)
      · exact hsends hw₁ (.give _)
    · rename_i phase hne
      refine hrefrains _ ?_
      rintro channel ⟨bond, hbond', hphase, hchannel⟩
      obtain rfl := Option.some.inj (hbond.symm.trans hbond')
      exact hne channel hphase hchannel

theorem ask_goes (w : World) {f' : Facts} {number : Nat} {method : String}
    {params : Value} (limit : Option Nat) {answer : Answer} :
    Goes w (Course w.facts f' w.layout (.start (.ask number method params limit)) (.ok answer))
      (ask number method params limit) := by
  have hasks : ∀ number' method' params',
      Asks number' method' params' (.start (.ask number method params limit)) (.ok answer) ↔
        number' = number ∧ method' = method ∧ params' = params := by
    intro number' method' params'
    constructor
    · rintro ⟨⟩
      exact ⟨rfl, rfl, rfl⟩
    · rintro ⟨rfl, rfl, rfl⟩
      exact .begins _ _
  refine .get_bind ?_
  split
  · rename_i hc
    refine .of_lingers (((waitShielded_lingers _).under _).minor rfl) fun next hnext => ?_
    refine .hears rfl ?_ (.refl _) hnext
    rintro number' method' params' channel h ⟨bond, hbond, hphase, -⟩
    obtain ⟨rfl, -, -⟩ := (hasks _ _ _).1 h
    obtain rfl := Option.some.inj ((bond_of_connection hc).symm.trans hbond)
    cases hphase
  · exact askReady_goes w limit rfl hasks

/-! ## Any point -/

/-- A point at which nothing depends on connections. -/
theorem Lingers.course {f' : Facts} {point : Point} {act : Act Next} (h : Lingers [] act)
    (hpoint : point.isPivotal = false)
    (hasks : ∀ number method params, ¬ Asks number method params point outcome) :
    Goes w (Course w.facts f' w.layout point outcome) act :=
  .of_lingers h fun _ hnext =>
    .hears hpoint (fun number method params _ hask => absurd hask (hasks number method params))
      (.refl _) hnext

/-- A process that has not ended when it was asked to is killed, and has ended then. -/
theorem kills_course (h : Kept counter (some result) [] Γ w) (channel process : Nat)
    (hknown : w.facts.known process) {f' : Facts}
    (hgrow : ((ChannelPoint.resume (.asked channel process) (.error .timedOut)).run w).2.facts.Grow f') :
    Goes w (Course w.facts f' w.layout (.channel (.asked channel process)) (.error .timedOut))
      (ChannelPoint.resume (.asked channel process) (.error .timedOut)) := by
  have hkills : Minds counter (some result) (some result) Γ w
      (fun _ w' _ => w.facts.known process → w'.facts.ended process) (kill process) :=
    kill_minds h process
  obtain ⟨Γ₁, hmoves, hended⟩ := hkills
  have hended : ((kill process).run w).2.facts.ended process := hended hknown
  -- it stays so while its end is waited for
  have hgrows : ((kill process).run w).2.facts.Grow
      ((ChannelPoint.resume (.asked channel process) (.error .timedOut)).run w).2.facts := by
    have hawaits : Pursues counter result .idle Γ₁ ((kill process).run w).2
        (awaitExit process) :=
      awaitExit_pursues_ended hmoves.kept process hended fun _ => trivial
    obtain ⟨Γ₂, hmoves', -⟩ := hawaits
    exact hmoves'.grows
  have hlays : Lays w w.layout (fun _ => True) (kill process) :=
    .of_inert (kill_inert process)
  refine Goes.bind hlays fun _ w₁ hrun hw₁ _ => ?_
  refine Goes.of_lingers ((awaitExit_lingers process).under _) fun next hnext => ?_
  rw [hw₁]
  exact .kills (hgrow.ended process (hgrows.ended process hended)) hnext

theorem channelResume_course (h : Kept counter (some result) [] Γ w) {point : ChannelPoint}
    (hadmits : Γ.Admits w.facts result (Point.channel point).expectation outcome) {f' : Facts}
    (hgrow : ((point.resume outcome).run w).2.facts.Grow f') :
    Goes w (Course w.facts f' w.layout (.channel point) outcome) (point.resume outcome) := by
  cases point with
  | opened channel =>
    rcases hadmits with ⟨process, rfl, -⟩ | ⟨command, text, rfl⟩
    · refine .bind (carry_lays w channel (some process)) fun _ w₁ _ hw₁ _ => ?_
      have hspawn : ∀ activity : Activity, Inert (spawn activity) := fun _ => onTasks_inert _
      refine .bind (.of_inert (hspawn _)) fun _ w₂ _ hw₂ _ => ?_
      refine .bind (.of_inert (hspawn _)) fun _ w₃ _ hw₃ _ => ?_
      refine .bind (.of_inert (hspawn _)) fun _ w₄ _ hw₄ _ => ?_
      refine .bind (.of_inert ?_) fun _ w₅ _ hw₅ _ => .pure ?_
      · exact updateChannel_inert channel fun _ => rfl
      rw [hw₅, hw₄, hw₃, hw₂, hw₁]
      exact .opens
    · exact .pure .shuns
  | output channel process =>
    cases outcome with
    | ok answer =>
      exact (readOutput_goes w channel process).imp fun l next ⟨hhears, hnext⟩ =>
        .hears rfl (fun _ _ _ _ h => by cases h) hhears hnext
    | error failure => exact (Lingers.give _).course rfl fun _ _ _ => nofun
  | errors channel process =>
    cases outcome with
    | ok answer => exact (readErrors_lingers channel process).course rfl fun _ _ _ => nofun
    | error failure => exact (Lingers.give _).course rfl fun _ _ _ => nofun
  | drained channel process =>
    cases outcome with
    | ok answer =>
      exact .of_lingers ((awaitExit_lingers process).under _) fun next hnext => .drains hnext
    | error failure => exact (Lingers.give _).course rfl fun _ _ _ => nofun
  | gone channel process =>
    cases outcome with
    | error failure => exact (Lingers.give _).course rfl fun _ _ _ => nofun
    | ok answer =>
      cases answer with
      | code code =>
        refine (loseProcess_goes w channel code).imp fun l next ⟨hloses, hnext⟩ => ?_
        rw [hnext]
        exact .loses (hadmits _ rfl) hloses
      | _ => exact (Lingers.give _).course rfl fun _ _ _ => nofun
  | asked channel process =>
    cases outcome with
    | ok answer =>
      exact (endTraffic_goes w channel).imp fun l next hsubsides =>
        .complies (hadmits.1 _ rfl) hsubsides
    | error failure =>
      obtain ⟨rfl, hknown⟩ := hadmits.2 failure rfl
      exact kills_course h channel process hknown hgrow
  | killed channel =>
    obtain ⟨answer, rfl⟩ := hadmits
    exact (endTraffic_goes w channel).imp fun l next hsubsides => .buries hsubsides
  | quiet channel =>
    obtain ⟨answer, rfl⟩ := hadmits
    have hcarry : Lays w (w.layout.carry channel none) (fun _ => True)
        (updateChannel channel fun c => { c with process := none, tasks := [] }) :=
      updateChannel_lays w channel fun _ => rfl
    refine .bind hcarry fun _ w₁ _ hw₁ _ => .pure ?_
    rw [hw₁]
    exact .rests

theorem becomeReady_goes (w : World) {number channel : Nat} {bond : Bond} (answer : Value)
    (hbond : w.layout.bonds[number]? = some bond) :
    Goes w (fun l next => l = w.layout.welcome number channel bond ∧ ∃ outcome : Outcome,
      next = .go outcome [] ∧ (outcome = .ok (.bool true) ∨
        bond.room ≠ none ∧ ∃ what, outcome = .error (.ofExcess what)))
      (becomeReady number channel answer) := by
  rw [layout_bonds_getElem?] at hbond
  obtain ⟨c, hc, rfl⟩ := Option.map_eq_some_iff.1 hbond
  refine .get_bind ?_
  rw [hc]
  refine .bind (setPhase_lays w number .ready) fun _ w₁ _ hw₁ _ => ?_
  refine .bind (notifyThrough_lays w₁ channel _ _) fun _ w₂ _ hw₂ _ => ?_
  refine .bind (clear_lays w₂ number) fun _ w₃ _ hw₃ _ => ?_
  refine .bind (notifyAll_lays w₃ channel (writable c.room c.queue)) fun _ w₄ _ hw₄ _ => ?_
  have hwelcome : w₄.layout = w.layout.welcome number channel c.bond := by
    rw [hw₄, hw₃, hw₂, hw₁]
    rfl
  cases hobstacle : c.queue.findSome? (obstacle? c.room) with
  | some what =>
    refine .pure ⟨hwelcome, _, rfl, .inr ⟨fun hroom => ?_, what, rfl⟩⟩
    rw [show c.room = none from hroom, findSome?_obstacle_none] at hobstacle
    cases hobstacle
  | none =>
    refine .bind (.of_inert ?_) fun _ w₅ _ hw₅ _ => ?_
    · exact updateConnection_inert number fun _ => rfl
    refine .bind (.of_inert (settleStarted_inert number true)) fun _ w₆ _ hw₆ _ =>
      .pure ⟨?_, _, rfl, .inl rfl⟩
    rw [hw₆, hw₅, hwelcome]

theorem reset_goes (w : World) (number : Nat) (answer : Answer) :
    Goes w (fun l next => l = w.layout.reset number ∧ next = .go (.ok answer) [])
      (do reset number; finish answer) :=
  .bind (reset_lays w number) fun _ _ _ hw₁ _ => .pure ⟨hw₁, rfl⟩

/-- The channel of a connection has its process, which is greeted if the connection is still wanted. -/
theorem opened_course (w : World) (number channel : Nat) (answer : Answer) {f' : Facts} :
    Goes w (Course w.facts f' w.layout (.connection (.opened number channel)) (.ok answer))
      (ConnectionPoint.resume (.opened number channel) (.ok answer)) := by
  refine .isInPhase_bind (fun hstarting => ?_) fun hnot => ?_
  · obtain ⟨bond, hbond, hphase⟩ := hstarting
    have hbond' := hbond
    rw [layout_bonds_getElem?] at hbond'
    obtain ⟨c, hc, rfl⟩ := Option.map_eq_some_iff.1 hbond'
    refine .get_bind ?_
    rw [hc]
    refine .bind (requestThrough_lays w c.room channel "initialize" _)
      fun asked w₁ _ hw₁ hasked => ?_
    obtain ⟨rfl, hcan⟩ | ⟨⟨what, rfl⟩, hrefused⟩ := hasked
    · refine .of_lingers ((waitWithin_lingers _ _).under _) fun next hnext => ?_
      rw [hw₁, Layout.ask_of_canAsk hcan]
      exact .greets ⟨_, hbond, hphase⟩ hnext
    · refine .pure ?_
      rw [hw₁, Layout.ask_of_not_canAsk hrefused]
      exact .falters ⟨_, hbond, hphase⟩ fun hcan => hrefused (hcan _ hbond)
  · exact (closeChannel_goes w channel).under fun l next hcloses => .abandons hnot hcloses

/-- The process of a connection is told to end, and its channel is closed. -/
theorem parts_course (h : Kept counter (some result) [] Γ w) (number channel : Nat) {f' : Facts}
    (hgrow : ((do
      notifyThrough channel "exit"
      closeConnection number (some channel) : Act Next).run w).2.facts.Grow f') :
    Goes w (Course w.facts f' w.layout (.connection (.parted number channel)) outcome) (do
      notifyThrough channel "exit"
      closeConnection number (some channel)) := by
  -- the process may end when it is told to
  obtain ⟨Γ₁, hmoves, -⟩ := notifyThrough_tidy channel "exit" .null _ _ _ _ h
  obtain ⟨Γ₂, hmoves', -⟩ := closeConnection_pursues hmoves.kept number (some channel) (.same _)
  refine .bind (notifyThrough_lays w channel "exit" .null) fun _ w₁ hrun hw₁ _ => ?_
  have hsame : ((notifyThrough channel "exit" .null).run w).2 = w₁ := by rw [hrun]
  refine (closeChannel_goes w₁ channel).under fun l next hcloses => ?_
  rw [hw₁] at hcloses
  refine .parts ?_ hcloses
  rw [← hsame]
  exact hmoves'.grows.trans hgrow

/-- Who wants to send a request does so if the connection has become ready. -/
theorem awaited_course (w : World) (number : Nat) (method : String) (params : Value) (limit : Option Nat)
    {f' : Facts} :
    Goes w (Course w.facts f' w.layout (.connection (.awaited number method params limit)) outcome)
      (ConnectionPoint.resume (.awaited number method params limit) outcome) := by
  have hgives : ∀ {outcome' : Outcome}, outcome ≠ .ok (.bool true) →
      Goes w (Course w.facts f' w.layout (.connection (.awaited number method params limit)) outcome)
        (give outcome') := fun hne =>
    (Lingers.give _).course rfl fun _ _ _ h => by cases h; exact hne rfl
  cases outcome with
  | error failure => exact hgives nofun
  | ok answer =>
    cases answer with
    | bool ready =>
      cases ready with
      | false => exact hgives nofun
      | true =>
        refine askReady_goes w limit rfl fun number' method' params' => ⟨?_, ?_⟩
        · rintro ⟨⟩
          exact ⟨rfl, rfl, rfl⟩
        · rintro ⟨rfl, rfl, rfl⟩
          exact .resumes _
    | _ => exact hgives nofun

theorem connectionResume_course (h : Kept counter (some result) [] Γ w) {point : ConnectionPoint}
    (hadmits : Γ.Admits w.facts result (Point.connection point).expectation outcome) {f' : Facts}
    (hgrow : ((point.resume outcome).run w).2.facts.Grow f') :
    Goes w (Course w.facts f' w.layout (.connection point) outcome) (point.resume outcome) := by
  cases point with
  | opened number channel =>
    rcases hadmits with ⟨answer, rfl⟩ | ⟨command, text, rfl⟩
    · exact opened_course w number channel answer
    · refine (reset_goes w number _).imp fun l next ⟨hl, hnext⟩ => ?_
      rw [hl, hnext]
      exact .fails
  | abandoned =>
    obtain ⟨answer, rfl⟩ := hadmits
    exact .pure .forsakes
  | greeted number channel greeted =>
    cases outcome with
    | ok answer =>
      refine .isInPhase_bind (fun hstarting => ?_) fun hnot => .pure (.ignores hnot)
      obtain ⟨bond, hbond, hphase⟩ := hstarting
      refine (becomeReady_goes w answer.value hbond).imp fun l next ⟨hl, _, hnext, houtcome⟩ => ?_
      rw [hl, hnext]
      exact .welcomes hbond hphase houtcome
    | error failure =>
      show Goes w _ (if isUnanswered failure then _ else _)
      rw [if_pos (hadmits.2.2 failure rfl)]
      refine .isInPhase_bind (fun hstarting => ?_) fun hnot => .pure (.ignores hnot)
      exact (closeChannel_goes w channel).under fun l next hcloses => .refuses hstarting hcloses
  | refused number =>
    obtain ⟨answer, rfl⟩ := hadmits
    refine (reset_goes w number _).imp fun l next ⟨hl, hnext⟩ => ?_
    rw [hl, hnext]
    exact .dismisses
  | parted number channel =>
    cases outcome with
    | ok answer => exact parts_course h number channel hgrow
    | error failure =>
      -- that the process has not answered does not matter any more
      have hresume : ConnectionPoint.resume (.parted number channel) (.error failure) = (do
          notifyThrough channel "exit"
          closeConnection number (some channel)) := by
        show (if isUnanswered failure then _ else _) = _
        rw [if_pos (hadmits failure rfl)]
      rw [hresume] at hgrow ⊢
      exact parts_course h number channel hgrow
  | closed number channel =>
    obtain ⟨answer, rfl⟩ := hadmits
    refine .bind (rejectOn_lays w channel (.exited none)) fun _ w₁ _ hw₁ _ => ?_
    refine (reset_goes w₁ number _).imp fun l next ⟨hl, hnext⟩ => ?_
    rw [hl, hnext, hw₁]
    exact .closed
  | awaited number method params limit =>
    exact awaited_course w number method params limit

/-! ## The keeper -/

theorem leave_goes (w : World) (outcome : Outcome) :
    Goes w (fun l next => l = w.layout ∧ next = .go outcome []) (do leave; give outcome) := by
  have hleave : Inert leave := by
    refine Inert.seq ?_ fun _ => .of_get fun w => ?_
    · exact updateKeeper_inert fun _ => rfl
    · cases w.keeper.tickets with
      | nil => exact .pure ()
      | cons ticket rest => exact modifyTasks_inert _
  exact .bind (.of_inert hleave) fun _ _ _ hw₁ _ => .pure ⟨hw₁, rfl⟩

theorem takeTurn_goes (w : World) (point : Option Nat → KeeperPoint) :
    Goes w (fun l next => l = w.layout ∧ ∃ ticket, Rises [.keeper (point ticket)] next)
      (takeTurn point) := by
  have hlook : Inert nobodyWaits := .of_get fun _ => .pure _
  refine .get_bind (.bind (.of_inert hlook) fun idle w₁ _ hw₁ _ => ?_)
  split
  · refine .bind (.of_inert ?_) fun _ w₂ _ hw₂ _ => .pure ⟨hw₂.trans hw₁, none, rises_go _ _⟩
    exact updateKeeper_inert fun _ => rfl
  · refine .bind (.of_inert (onTasks_inert _)) fun ticket w₂ _ hw₂ _ => ?_
    refine .bind (.of_inert ?_) fun _ w₃ _ hw₃ _ =>
      .pure ⟨hw₃.trans (hw₂.trans hw₁), some ticket, rises_wait _ _⟩
    exact updateKeeper_inert fun _ => rfl

theorem keeperResume_course {point : KeeperPoint} {f' : Facts}
    (hadmits : Γ.Admits w.facts result (Point.keeper point).expectation outcome) :
    Goes w (Course w.facts f' w.layout (.keeper point) outcome) (point.resume outcome) := by
  -- taking a turn changes nothing that the course of a task is about
  have henter : ∀ ticket, Lays w w.layout (fun _ => True) (enter ticket) := fun ticket =>
    .of_inert (updateKeeper_inert fun _ => rfl)
  have hfacts : ∀ (ticket : Option Nat) {w₁ : World} {u : Unit},
      (enter ticket).run w = (u, w₁) → w₁.facts = w.facts := by
    intro ticket w₁ u hrun
    rw [← show ((enter ticket).run w).2.facts = w.facts from rfl, hrun]
  cases point with
  | admitted config ticket =>
    obtain ⟨answer, rfl⟩ := hadmits
    refine .bind (henter ticket) fun _ w₁ hrun hw₁ _ => ?_
    cases config with
    | none =>
      refine (vacate_goes w₁).under fun l next hvacates => ?_
      rw [hw₁, hfacts ticket hrun] at hvacates
      exact .vacates (.inr (.inl ⟨_, rfl, rfl⟩)) hvacates
    | some config =>
      refine .get_bind ?_
      split
      · refine (leave_goes w₁ _).imp fun l next ⟨hl, hnext⟩ => ?_
        rw [hl, hnext, hw₁]
        exact .leaves nofun
      · refine (vacate_goes w₁).under fun l next hvacates => ?_
        rw [hw₁, hfacts ticket hrun] at hvacates
        exact .vacates (.inl ⟨_, _, rfl, rfl⟩) hvacates
  | admittedToStop ticket =>
    obtain ⟨answer, rfl⟩ := hadmits
    refine .bind (henter ticket) fun _ w₁ hrun hw₁ _ => ?_
    refine (vacate_goes w₁).under fun l next hvacates => ?_
    rw [hw₁, hfacts ticket hrun] at hvacates
    exact .vacates (.inr (.inr (.inl ⟨_, rfl, rfl⟩))) hvacates
  | disconnected =>
    obtain ⟨answer, rfl⟩ := hadmits
    refine .get_bind ?_
    split
    · refine .bind (.of_inert ?_) fun _ w₁ _ hw₁ _ => ?_
      · exact note_inert fun _ => ⟨rfl, rfl⟩
      refine .bind (.of_inert (updateSession_inert _)) fun _ w₂ _ hw₂ _ => .pure ?_
      rw [hw₂, hw₁]
      exact .leaves nofun
    · exact .pure (.leaves nofun)
  | vacated config =>
    obtain ⟨answer, rfl⟩ := hadmits
    refine .get_bind (.bind (newConnection_lays w config w.keeper.listener)
      fun number w₁ _ hw₁ hnumber => ?_)
    have hkept : Lays w₁ { w₁.layout with kept := some number } (fun _ => True)
        (updateKeeper fun k =>
          { k with connection := some number, fingerprint := some config.fingerprint }) :=
      ⟨rfl, trivial⟩
    refine .bind hkept fun _ w₂ _ hw₂ _ => ?_
    subst hnumber
    refine (connect_goes w₂ _).under fun l next hconnects => ?_
    rw [hw₂, hw₁] at hconnects
    exact .renews hconnects
  | connected config =>
    have hleaves : Goes w (Course w.facts f' w.layout (.keeper (.connected config)) outcome)
        (do leave; give outcome) := by
      refine (leave_goes w outcome).imp fun l next ⟨hl, hnext⟩ => ?_
      rw [hl, hnext]
      exact .leaves nofun
    obtain ⟨ready, rfl⟩ | ⟨what, rfl⟩ := hadmits
    · cases ready with
      | false =>
        exact (vacate_goes w).under fun l next hvacates =>
          .vacates (.inr (.inr (.inr ⟨_, rfl, rfl⟩))) hvacates
      | true => exact hleaves
    · exact hleaves
  | _ =>
    obtain ⟨answer, rfl⟩ := hadmits
    refine (leave_goes w _).imp fun l next ⟨hl, hnext⟩ => ?_
    rw [hl, hnext]
    exact .leaves nofun

/-! ## Any point -/

theorem programResume_course {point : ProgramPoint} {f' : Facts}
    (hpasses : Γ.Passes counter result below (.program point))
    (hadmits : Γ.Admits w.facts result (Point.program point).expectation outcome) :
    Goes w (Course w.facts f' w.layout (.program point) outcome) (point.resume outcome) := by
  obtain ⟨e, he, -⟩ := hpasses
  cases point with
  | starting script command =>
    obtain ⟨answer, rfl⟩ := hadmits
    unfold ProgramPoint.resume
    simp only
    split
    · exact .pure .misses
    · refine .get_bind (.bind (addProcess_lays w script) fun _ w₁ _ hw₁ _ => .pure ?_)
      rw [hw₁, show w.processes.length = w.layout.scripts.length by simp [layout]]
      exact .launches
  | ending process =>
    cases outcome with
    | ok answer =>
      exact Lingers.course (.of_get fun w => .give _) rfl fun _ _ _ h => (by cases h)
    | error failure => exact (Lingers.give _).course rfl fun _ _ _ h => (by cases h)
  | _ => cases he

theorem begin_course {activity : Activity} {answer : Answer} {f' : Facts}
    (hbegins : counter.Begins activity below) :
    Goes w (Course w.facts f' w.layout (.start activity) (.ok answer)) (beginActivity activity) := by
  have hreads : ∀ {act : Act Next} {activity : Activity}, Point.isPivotal (.start activity) = false →
      (∀ number method params limit, activity ≠ .ask number method params limit) →
      Goes w (fun l next => w.layout.Hears l ∧ Rises [] next) act →
      Goes w (Course w.facts f' w.layout (.start activity) (.ok answer)) act :=
    fun hpoint hask h => h.imp fun l next ⟨hhears, hnext⟩ => .hears hpoint
      (fun number method params _ hasks => by cases hasks; exact absurd rfl (hask _ _ _ _))
      hhears hnext
  have hwith : ∀ {channel : Nat} {act : Nat → Act Next} {course : Layout → Next → Prop},
      course w.layout (.go (.ok .unit) []) →
      (∀ process, w.layout.pipes[channel]?.bind (·.process) = some process →
        Goes w course (act process)) → Goes w course (withProcess channel act) := by
    intro channel act course hnone hsome
    have hprocess : w.layout.pipes[channel]?.bind (·.process) =
        w.channels[channel]?.bind (·.process) := by
      rw [layout_pipes_getElem?]
      cases w.channels[channel]? <;> rfl
    refine .get_bind ?_
    rw [← hprocess]
    cases hp : w.layout.pipes[channel]?.bind (·.process) with
    | none => exact .pure hnone
    | some process => exact hsome process hp
  -- What a task has to come to tells the activities that it can begin with.
  cases below with
  | result =>
    have hoffers : counter.offers activity = true := hbegins
    cases activity with
    | ask number method params limit => exact ask_goes w limit
    | connect number => exact (connect_goes w number).imp fun l next hconnects => .connects hconnects
    | disconnect number =>
      exact (disconnect_goes w number).imp fun l next hdisconnects => .disconnects hdisconnects
    | ensure config =>
      refine (takeTurn_goes w (.admitted config)).imp fun l next ⟨hl, ticket, hnext⟩ => ?_
      rw [hl]
      exact .comes (.inl ⟨_, _, rfl, rfl⟩) hnext
    | release =>
      refine (takeTurn_goes w .admittedToStop).imp fun l next ⟨hl, ticket, hnext⟩ => ?_
      rw [hl]
      exact .comes (.inr ⟨_, rfl, rfl⟩) hnext
    | _ => cases counter <;> cases hoffers
  | idle =>
    rcases hbegins with ⟨channel, rfl⟩ | ⟨channel, rfl⟩ | ⟨channel, reader, rfl⟩
    · exact hreads rfl nofun (hwith ⟨.refl _, rises_go _ _⟩ fun process _ =>
        readOutput_goes w channel process)
    · exact hreads rfl nofun (hwith ⟨.refl _, rises_go _ _⟩ fun process _ =>
        .of_lingers (readErrors_lingers channel process) fun _ hnext => ⟨.refl _, hnext⟩)
    · refine hwith (.hears rfl (fun _ _ _ _ h => by cases h) (.refl _) (rises_go _ _))
        fun process hprocess => ?_
      exact .of_lingers (waitAll_lingers _ _) fun next hnext => .watches hprocess hnext
  | exit process =>
    obtain rfl : activity = .awaitExit process := hbegins
    exact (awaitExit_lingers process).course rfl fun _ _ _ => nofun
  | _ => cases hbegins

/-- What a task does at a point that is told what it relies on is one of the courses. -/
theorem resume_course (h : Kept counter (some result) [] Γ w) {point : Point}
    (hpasses : Γ.Passes counter result below point)
    (hadmits : Γ.Admits w.facts result point.expectation outcome) {f' : Facts}
    (hgrow : ((point.resume outcome).run w).2.facts.Grow f') :
    Course w.facts f' w.layout point outcome
      ((point.resume outcome).run w).2.layout ((point.resume outcome).run w).1 := by
  cases point with
  | start activity =>
    obtain ⟨answer, rfl⟩ := hadmits
    exact begin_course hpasses
  | wait point => exact (waitResume_lingers point outcome).course rfl fun _ _ _ => nofun
  | program point => exact programResume_course hpasses hadmits
  | channel point => exact channelResume_course h hadmits hgrow
  | connection point => exact connectionResume_course h hadmits hgrow
  | keeper point => exact keeperResume_course hadmits
  | tool point => exact absurd hpasses (by rintro ⟨e, he, -⟩; cases he)
  | session point => exact absurd hpasses (by rintro ⟨e, he, -⟩; cases he)

end BasiliskServer.World
