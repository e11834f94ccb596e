import BasiliskServer.Proofs.World.Solitude

/-!
# What leaves the keeper alone

Nobody but those who call on the keeper changes what it holds or calls one of its tickets. Whatever a
task does at any other point leaves the keeper as it is, and settles with success no promise but those
that were somebody's to settle (`Aloof`).
-/

namespace BasiliskServer.World

open Json (Value)

/-- The action leaves the keeper as it is, and calls none of its tickets. -/
def Aloof {α : Type} (act : Act α) : Prop :=
  ∀ w : World, Drift none w (act.run w).2 ∧ (act.run w).2.keeper = w.keeper

namespace Aloof

variable {α β : Type}

/-- What goes on in the background does not concern the keeper. -/
theorem of_modest {post : α → Prop} {act : Act α} (h : Modest post act) : Aloof act :=
  fun w => ⟨(h w).1.toDrift, congrArg View.keeper (h w).1.view⟩

/-- An action after which the view has the same keeper. -/
theorem of_turns {act : Act α}
    (h : ∀ w, ∃ (v : View) (post : α → Prop), v.keeper = w.keeper ∧ Turns none w v post act) :
    Aloof act := by
  intro w
  obtain ⟨v, post, hkeeper, hturns⟩ := h w
  exact ⟨hturns.drift, (congrArg View.keeper hturns.view).trans hkeeper⟩

protected theorem pure (a : α) : Aloof (pure a) :=
  fun w => ⟨.refl w, rfl⟩

theorem seq {act : Act α} {rest : α → Act β} (hact : Aloof act) (hrest : ∀ a, Aloof (rest a)) :
    Aloof (act >>= rest) := by
  intro w
  obtain ⟨hdrift, hkeeper⟩ := hact w
  obtain ⟨hdrift', hkeeper'⟩ := hrest (act.run w).1 (act.run w).2
  exact ⟨hdrift.trans hdrift', hkeeper'.trans hkeeper⟩

/-- An action that looks at the world first. -/
theorem of_get {rest : World → Act β} (h : ∀ w, Aloof (rest w)) : Aloof (get >>= rest) :=
  fun w => h w w

theorem forM {items : List β} {act : β → Act Unit} (h : ∀ item, Aloof (act item)) :
    Aloof (items.forM act) := by
  induction items with
  | nil => exact .pure ()
  | cons item rest ih => exact seq (h item) fun _ => ih

theorem give (outcome : Outcome) : Aloof (World.give outcome) :=
  of_modest (.give outcome)

theorem finish (answer : Answer) : Aloof (World.finish answer) :=
  of_modest (.finish answer)

theorem under {act : Act Next} (h : Aloof act) (point : Point) : Aloof (World.under point act) :=
  seq h fun _ => .pure _

end Aloof

/-! ## Changes -/

theorem updateChannel_aloof (number : Nat) {change : Channel → Channel}
    (h : ∀ c, ∀ q ∈ (change c).answers, q ∈ c.answers) : Aloof (updateChannel number change) :=
  fun w => ⟨(Drift.refl w).setChannel number change fun c _ q hq => .inl (h c q hq), rfl⟩

theorem updateConnection_aloof (number : Nat) {change : Connection → Connection}
    (h : ∀ c, ∀ q ∈ (change c).waiters, q ∈ c.waiters) : Aloof (updateConnection number change) :=
  fun w => ⟨(Drift.refl w).setConnection number change fun c _ q hq => .inl (h c q hq), rfl⟩

theorem notifyThrough_aloof (channel : Nat) (method : String) (params : Value) :
    Aloof (notifyThrough channel method params) :=
  .of_turns fun w => ⟨_, _, hand_keeper _ _ _ _, notifyThrough_turns w channel method params⟩

theorem reset_aloof (number : Nat) : Aloof (reset number) :=
  .of_turns fun w => ⟨_, _, rfl, reset_turns w number⟩

/-! ## Channels -/

theorem endTraffic_aloof (channel : Nat) : Aloof (endTraffic channel) := by
  refine .of_get fun w => ?_
  split
  · exact .finish _
  · refine (Aloof.of_modest (.forM fun task _ => interrupt_quiet task)).seq fun _ => ?_
    split
    · refine .seq ?_ fun _ => .finish _
      exact updateChannel_aloof channel fun _ _ hq => hq
    · exact .of_modest (waitAll_points _ _)

theorem closeChannel_aloof (channel : Nat) : Aloof (closeChannel channel) := by
  refine .of_get fun w => ?_
  split
  · exact .finish _
  · refine .seq ?_ fun _ => .of_get fun w => ?_
    · exact updateChannel_aloof channel fun _ _ hq => hq
    split
    · exact endTraffic_aloof channel
    · refine (Aloof.of_modest (askToEnd_quiet _)).seq fun asked => ?_
      split
      · refine (Aloof.of_modest (spawn_quiet rfl)).seq fun _ => ?_
        exact (Aloof.of_modest (waitLimited_modest _ _)).under _
      · exact endTraffic_aloof channel

theorem openChannel_aloof (channel : Nat) : Aloof (openChannel channel) := by
  refine .of_get fun w => ?_
  split
  · exact .finish _
  · split
    · exact .of_modest (.fail _)
    · exact (Aloof.of_modest (startCompanion_modest _)).under _

theorem loseProcess_aloof (channel : Nat) (code : Option Int) : Aloof (loseProcess channel code) := by
  refine .of_turns fun w => ?_
  obtain ⟨v, hv, hturns⟩ := loseProcess_turns w channel code
  refine ⟨v, _, ?_, hturns⟩
  rcases hv with rfl | ⟨line, -, -, rfl⟩
  · rfl
  · cases hline : line.owner <;> rfl

theorem channelResume_aloof (point : ChannelPoint) (outcome : Outcome) :
    Aloof (point.resume outcome) := by
  unfold ChannelPoint.resume
  split
  · exact .of_turns fun w => ⟨_, _, rfl, opened_turns w _ _⟩
  · exact .of_modest (readOutput_modest _ _)
  · exact .of_modest (readErrors_modest _ _)
  · exact (Aloof.of_modest (awaitExit_modest _)).under _
  · exact loseProcess_aloof _ _
  · exact endTraffic_aloof _
  · exact (Aloof.of_modest (kill_quiet _)).seq fun _ =>
      (Aloof.of_modest (awaitExit_modest _)).under _
  · exact endTraffic_aloof _
  · refine .seq ?_ fun _ => .finish _
    exact updateChannel_aloof _ fun _ _ hq => hq
  · exact .give _

/-! ## Connections -/

theorem isInPhase_aloof (phase : Phase) (number : Nat) : Aloof (isInPhase phase number) := by
  refine .of_get fun w => ?_
  split <;> exact .pure _

theorem connect_aloof (number : Nat) : Aloof (connect number) := by
  refine .of_get fun w => ?_
  split
  · exact .finish _
  · split
    · exact .finish _
    · have hbegins : ∀ command, Aloof (beginStart number command) := fun command =>
        .of_turns fun w => ⟨_, _, rfl, beginStart_turns w number command⟩
      exact (hbegins _).seq fun channel => (openChannel_aloof channel).under _
    · exact .finish _

theorem closeConnection_aloof (number : Nat) (channel : Option Nat) :
    Aloof (closeConnection number channel) := by
  refine Aloof.under ?_ _
  cases channel with
  | none => exact .finish _
  | some channel => exact closeChannel_aloof channel

theorem disconnect_aloof (number : Nat) : Aloof (disconnect number) :=
  .of_turns fun w => by
    obtain ⟨v, rest, hdeparture, hturns⟩ := disconnect_turns w number
    exact ⟨v, _, by cases hdeparture <;> rfl, hturns⟩

theorem becomeReady_aloof (number channel : Nat) (answer : Value) :
    Aloof (becomeReady number channel answer) := by
  refine .of_get fun w => ?_
  split
  · exact .finish _
  · refine .seq ?_ fun _ => (notifyThrough_aloof _ _ _).seq fun _ => .seq ?_ fun _ => ?_
    · exact updateConnection_aloof number fun _ _ hq => hq
    · exact updateConnection_aloof number fun _ _ hq => hq
    refine (Aloof.forM fun _ => notifyThrough_aloof _ _ _).seq fun _ => ?_
    split
    · exact .of_modest (.fail _)
    · refine .seq ?_ fun _ => ?_
      · exact updateConnection_aloof number fun _ _ hq => hq
      · exact (Aloof.of_modest (settleStarted_quiet number true)).seq fun _ => .finish _

theorem greet_aloof (number channel : Nat) : Aloof (greet number channel) := by
  refine .of_get fun w => ?_
  split
  · exact .finish _
  · refine (Aloof.of_modest (requestThrough_quiet _ _ _ _)).seq fun asked => ?_
    cases asked with
    | ok answer => exact (Aloof.of_modest (waitWithin_modest _ _)).under _
    | error what => exact .of_modest (.fail _)

theorem connectionResume_aloof (point : ConnectionPoint) (outcome : Outcome) :
    Aloof (point.resume outcome) := by
  have hphase : ∀ {number : Nat} {phase : Phase} {yes no : Act Next}, Aloof yes → Aloof no →
      Aloof (do if ← isInPhase phase number then yes else no) := fun hyes hno =>
    (isInPhase_aloof _ _).seq fun isIn => by split <;> assumption
  unfold ConnectionPoint.resume
  split
  · exact hphase (greet_aloof _ _) ((closeChannel_aloof _).under _)
  · exact (reset_aloof _).seq fun _ => .finish _
  · exact .finish _
  · exact hphase (becomeReady_aloof _ _ _) (.finish _)
  · split
    · exact hphase ((closeChannel_aloof _).under _) (.finish _)
    · exact .of_modest (.fail _)
  · exact (reset_aloof _).seq fun _ => .finish _
  · exact (notifyThrough_aloof _ _ _).seq fun _ => closeConnection_aloof _ _
  · split
    · exact (notifyThrough_aloof _ _ _).seq fun _ => closeConnection_aloof _ _
    · exact .of_modest (.fail _)
  · refine (Aloof.of_modest (.forM_option fun channel _ => rejectAll_quiet channel _)).seq fun _ => ?_
    exact (reset_aloof _).seq fun _ => .finish _
  · split
    · exact .of_modest (askReady_modest _ _ _ _)
    · exact .of_modest (.fail _)
  · exact .give _

/-! ## Any point -/

variable {Γ : Ledger} {counter : Counter} {result : Nat} {below : Expectation} {f : Facts}

/-- Whatever a task does at another point leaves the keeper alone. -/
theorem resume_aloof {point : Point} {outcome : Outcome} (hpasses : Γ.Passes counter result below point)
    (hpoint : point.dealsWithKeeper = false) : Aloof (point.resume outcome) := by
  cases point with
  | start activity =>
    cases outcome with
    | error failure => exact .of_modest (.fail _)
    | ok answer =>
      have hbegins : counter.Begins activity below := hpasses
      cases activity with
      | ask number method params limit => exact .of_modest (ask_modest _ _ _ _)
      | connect number => exact connect_aloof number
      | disconnect number => exact disconnect_aloof number
      | readOutput channel => exact .of_modest (beginActivity_modest rfl)
      | readErrors channel => exact .of_modest (beginActivity_modest rfl)
      | watch channel reader => exact .of_modest (beginActivity_modest rfl)
      | awaitExit process => exact .of_modest (beginActivity_modest rfl)
      | ensure config => cases hpoint
      | release => cases hpoint
      | _ =>
        exfalso
        cases below <;> cases counter <;> simp [Counter.Begins, Counter.offers] at hbegins
  | wait point => exact .of_modest (WaitPoint.resume_modest point outcome)
  | program point =>
    cases point with
    | starting script command =>
      refine .of_turns fun w => ?_
      rcases starting_turns w script command outcome with ⟨failure, hturns⟩ | hturns
      · exact ⟨_, _, rfl, hturns⟩
      · exact ⟨_, _, rfl, hturns⟩
    | _ => exact .of_modest (Point.resume_modest (by rfl) outcome)
  | channel point => exact channelResume_aloof point outcome
  | connection point => exact connectionResume_aloof point outcome
  | keeper point => cases hpoint
  | tool point => exact absurd hpasses (by rintro ⟨e, he, -⟩; cases he)
  | session point => exact absurd hpasses (by rintro ⟨e, he, -⟩; cases he)

end BasiliskServer.World
