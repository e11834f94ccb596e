import BasiliskServer.Proofs.World.Accounts
import BasiliskServer.Proofs.World.Answers

/-!
# How a turn goes on

Whoever has their turn and finds no companion process that serves them has the connection of the
keeper stopped, and another one made and started if they want one. At any time the keeper accounts for
as much as the turn has come to: `Serving` says where the task of the turn stands, what it is told, and
what the keeper accounts for by then. Steps of the task take it on (`Serving.step`), and whatever else
happens leaves it as it is (`Serving.undergo`).
-/

namespace BasiliskServer.World

open Json (Value)

variable {Γ : Ledger} {w w' : World} {task : Nat} {t : Tasks.Task Point} {point : Point}
  {front rest : List Point} {outcome : Outcome} {told : Option Outcome} {next : Next}
  {incident : Incident} {a b : Account} {after : KeeperPoint} {stack : List Point} {l l' : Layout}
  {config : Companion.Config}

/-! ## What becomes of the account -/

namespace Account

/-- The keeper has let its connection go. -/
def emptied (a : Account) : Account :=
  { a with kept := none, fingerprint := none }

/-- The keeper has stopped its connection, if it had one, and whoever wants to know was told. -/
def released (a : Account) : Account :=
  { a.emptied with stops := a.stops + (a.observed && a.kept.isSome).toNat }

/-- The keeper has made a connection for a configuration and launched its program. -/
def renewed (a : Account) (config : Companion.Config) : Account :=
  { a with
    kept := some a.configs.length
    fingerprint := some config.fingerprint
    launches := a.launches ++ [{ command := config.command }]
    configs := a.configs ++ [config] }

end Account

/-! ## How far a turn is -/

/-- The connection of the keeper is being stopped, or was, and then somebody goes on. -/
inductive Vacating (a : Account) (after : KeeperPoint) : List Point → Account → Prop where
  /-- It is being stopped. -/
  | parting {front : List Point} (hkept : a.kept.isSome = true) :
    Vacating a after (front ++ [.keeper .disconnected, .keeper after]) a.emptied
  /-- There is none any more. -/
  | vacated : Vacating a after [.keeper after] a.released

/-- What a turn comes to in which the connection of the keeper is stopped. -/
inductive Comes (l : Layout) (a : Account) : KeeperPoint → Outcome → Account → Prop where
  /-- Another one was started and is ready. -/
  | renewed {config : Companion.Config} (hready : l.IsIn .ready a.configs.length) :
    Comes l a (.vacated config) (.ok (.bool true)) (a.released.renewed config)
  /-- Another one was started, failed and was stopped. -/
  | failed {config : Companion.Config} :
    Comes l a (.vacated config) (.error (.startFailed config.path)) (a.released.renewed config).released
  /-- None was asked for. -/
  | cleared : Comes l a .cleared (.ok (.bool false)) a.released
  /-- It was to be stopped. -/
  | released : Comes l a .released (.ok .unit) a.released

/-- How far a turn is in which the connection of the keeper is stopped: where its task stands, what the
task is told, and what the keeper accounts for by now. -/
inductive Serving (l : Layout) (a : Account) (after : KeeperPoint) :
    List Point → Option Outcome → Account → Prop where
  /-- The connection is stopped. -/
  | vacates {stack : List Point} {told : Option Outcome} {b : Account} (h : Vacating a after stack b) :
    Serving l a after stack told b
  /-- Another one is started. -/
  | starts {config : Companion.Config} {front : List Point} {told : Option Outcome}
    (hafter : after = .vacated config) (hfront : front ≠ []) :
    Serving l a after (front ++ [.keeper (.connected config)]) told (a.released.renewed config)
  /-- It is known whether it has become ready. -/
  | started {config : Companion.Config} {ready : Bool} (hafter : after = .vacated config)
    (hready : ready = true → l.IsIn .ready a.configs.length) :
    Serving l a after [.keeper (.connected config)] (some (.ok (.bool ready)))
      (a.released.renewed config)
  /-- It has not, and is stopped. -/
  | fails {config : Companion.Config} {stack : List Point} {told : Option Outcome} {b : Account}
    (hafter : after = .vacated config)
    (h : Vacating (a.released.renewed config) (.failed config) stack b) :
    Serving l a after stack told b
  /-- The turn is over. -/
  | done {outcome : Outcome} {b : Account} (h : Comes l a after outcome b) :
    Serving l a after [] (some outcome) b

/-- Whose turn it is goes on there when the connection is stopped. -/
def KeeperPoint.FollowsVacating (after : KeeperPoint) : Prop :=
  (∃ config, after = .vacated config) ∨ after = .cleared ∨ after = .released ∨
    ∃ config, after = .failed config

theorem KeeperPoint.FollowsVacating.ne_disconnected (h : after.FollowsVacating) :
    after ≠ .disconnected := by
  rcases h with ⟨config, rfl⟩ | rfl | rfl | ⟨config, rfl⟩ <;> nofun

theorem KeeperPoint.FollowsVacating.holds (h : after.FollowsVacating) :
    (Point.keeper after).holds = true := by
  rcases h with ⟨config, rfl⟩ | rfl | rfl | ⟨config, rfl⟩ <;> rfl

theorem Vacating.ne_nil (h : Vacating a after stack b) : stack ≠ [] := by
  cases h <;> simp

/-- Whose turn is not over has a point that says so. -/
theorem Vacating.exists_holder (h : Vacating a after stack b) (hafter : after.FollowsVacating) :
    ∃ holder ∈ stack, holder.holds = true := by
  cases h with
  | parting => exact ⟨.keeper after, by simp, hafter.holds⟩
  | vacated => exact ⟨.keeper after, by simp, hafter.holds⟩

/-! ## What is done in a turn -/

/-- The keeper lets its connection go. -/
theorem vacate_account (w : World) (after : KeeperPoint) :
    Vacating w.account after (points ((under (.keeper after) vacate).run w).1)
      ((under (.keeper after) vacate).run w).2.account := by
  let cleared : World :=
    { w with keeper := { w.keeper with connection := none, fingerprint := none } }
  cases hkept : w.keeper.connection with
  | none =>
    have hrun : (under (.keeper after) vacate).run w = (.go (.ok .unit) [.keeper after], cleared) := by
      unfold under vacate
      simp only [run_bind, run_get, hkept]
      rfl
    rw [hrun, show cleared.account = w.account.released by
      simp [account, Account.released, Account.emptied, hkept, cleared]]
    exact .vacated
  | some number =>
    have hrun : (under (.keeper after) vacate).run w =
        ((((disconnect number).run cleared).1.under (.keeper .disconnected)).under (.keeper after),
          ((disconnect number).run cleared).2) := by
      unfold under vacate
      simp only [run_bind, run_get, hkept]
      rfl
    rw [hrun, disconnect_steady number cleared, points_under, points_under, List.append_assoc]
    exact .parting (a := w.account) (by simp [account, hkept])

/-- The keeper has stopped a connection. -/
theorem disconnected_account (w : World) (answer : Answer) :
    ((KeeperPoint.resume .disconnected (.ok answer)).run w).1 = .go (.ok .unit) [] ∧
      ((KeeperPoint.resume .disconnected (.ok answer)).run w).2.account =
        { w.account with stops := w.account.stops + w.account.observed.toNat } := by
  unfold KeeperPoint.resume
  rw [run_bind, run_get]
  by_cases hobserved : w.keeper.observed = true
  · rw [if_pos hobserved, show w.account.observed = true from hobserved]
    exact ⟨rfl, rfl⟩
  · rw [if_neg hobserved, show w.account.observed = false from eq_false_of_ne_true hobserved]
    exact ⟨rfl, rfl⟩

/-- The program of a channel that has just been made is launched. -/
theorem openChannel_account {channel : Nat} {c : Channel} (hc : w.channels[channel]? = some c)
    (hprocess : c.process = none) :
    ((openChannel channel).run w).2.account =
      { w.account with launches := w.account.launches ++ [{ command := c.command }] } := by
  unfold openChannel startCompanion under
  simp only [run_bind, run_get, hc, hprocess]
  have hlater : ∀ (script : CompanionScript) (w' : World),
      ((if script.startDelay = 0 then finish .unit
        else sleep script.startDelay : Act Next).run w').2.account = w'.account := by
    intro script w'
    split
    · rfl
    · exact sleep_steady _ w'
  exact hlater _ _

/-- The keeper makes a connection and launches its program. -/
theorem renew_account (w : World) (config : Companion.Config) (answer : Answer) :
    ((KeeperPoint.resume (.vacated config) (.ok answer)).run w).2.account =
      w.account.renewed config := by
  let made : Connection := { config, listener := w.keeper.listener }
  let kept : World :=
    { w with
      connections := w.connections ++ [made]
      keeper := { w.keeper with
        connection := some w.connections.length, fingerprint := some config.fingerprint } }
  let begun : World := ((beginStart w.connections.length config.command).run kept).2
  have hmade : kept.connections[w.connections.length]? = some made := List.getElem?_concat_length
  have hrun : ((KeeperPoint.resume (.vacated config) (.ok answer)).run w).2 =
      ((connect w.connections.length).run kept).2 := rfl
  have hconnect : ((connect w.connections.length).run kept).2 =
      ((openChannel w.channels.length).run begun).2 := by
    unfold connect
    rw [run_bind, run_get]
    simp only [hmade]
    rfl
  have hchannel : begun.channels[w.channels.length]? =
      some { command := config.command, owner := .connection w.connections.length
             decoder := { nesting := w.host.nesting } } :=
    List.getElem?_concat_length
  have hbegun : Steady (beginStart w.connections.length config.command) := by
    refine (onTasks_steady _).seq fun _ => ?_
    refine Steady.seq (fun _ => rfl) fun _ => .seq ?_ fun _ => .pure _
    exact updateConnection_steady _ fun _ => rfl
  -- The account shows the entry and what the keeper holds, and nothing else of the start.
  rw [hrun, hconnect, openChannel_account hchannel rfl,
    show begun.account = kept.account from hbegun kept]
  simp [account, Account.renewed, kept, made]

/-- Somebody who has their turn finds a companion process that serves them, or lets the connection go. -/
theorem admitted_account (w : World) (config : Companion.Config) (ticket : Option Nat)
    (answer : Answer) :
    let acted := (KeeperPoint.resume (.admitted (some config) ticket) (.ok answer)).run w
    (isServed w config = true → acted.1 = .go (.ok (.bool false)) [] ∧ acted.2.account = w.account) ∧
      (isServed w config = false →
        Vacating w.account (.vacated config) (points acted.1) acted.2.account) := by
  let entered : World := ((enter ticket).run w).2
  have henters : entered.account = w.account := updateKeeper_steady (fun _ => ⟨rfl, rfl, rfl⟩) w
  have hrun : (KeeperPoint.resume (.admitted (some config) ticket) (.ok answer)).run w =
      (if isServed w config then do leave; finish (.bool false)
        else under (.keeper (.vacated config)) vacate : Act Next).run entered := rfl
  refine ⟨fun hserved => ?_, fun hserved => ?_⟩ <;> rw [hrun, hserved]
  · exact ⟨rfl, (leave_steady entered).trans henters⟩
  · rw [← henters]
    exact vacate_account entered (.vacated config)

/-- Where somebody goes on who is to have no companion process. -/
theorem dismiss_account (w : World) (gate : KeeperPoint) (answer : Answer) {after : KeeperPoint}
    (hgate : (∃ ticket, gate = .admitted none ticket ∧ after = .cleared) ∨
      ∃ ticket, gate = .admittedToStop ticket ∧ after = .released) :
    Vacating w.account after (points ((gate.resume (.ok answer)).run w).1)
      ((gate.resume (.ok answer)).run w).2.account := by
  rcases hgate with ⟨ticket, rfl, rfl⟩ | ⟨ticket, rfl, rfl⟩ <;>
    rw [show w.account = ((enter ticket).run w).2.account from
      (updateKeeper_steady (fun _ => ⟨rfl, rfl, rfl⟩) w).symm] <;>
    exact vacate_account ((enter ticket).run w).2 _

/-! ## One's own steps -/

/-- What a task does that goes on at a point, and where it stands afterwards. -/
theorem Ordered.exists_acted {counter : Counter} (h : Ordered counter Γ w)
    (hrunning : w.tasks.running = some (task, outcome)) (ht : w.tasks.tasks[task]? = some t)
    (hstack : t.stack = point :: rest) :
    let acted := (point.resume outcome).run (w.moveTask task { t with stack := rest } (some outcome))
    w.step.account = acted.2.account ∧ w.step.layout = acted.2.layout ∧
      (∃ t', w.step.tasks.tasks[task]? = some t' ∧ t'.stack = points acted.1 ++ rest) ∧
      ∀ outcome', acted.1 = .go outcome' (points acted.1) → w.step.told? task = some outcome' := by
  intro acted
  obtain ⟨Γ', below, -, -, -, hmoves, -⟩ := h.advance hrunning ht hstack
  have ht₁ : (w.moveTask task { t with stack := rest } (some outcome)).tasks.tasks[task]? =
      some { t with stack := rest } := List.getElem?_set_self (List.getElem?_eq_some_iff.1 ht).1
  obtain ⟨t₂, ht₂, hsame⟩ := hmoves.onward.exists_task ht₁
  have hstack₂ : t₂.stack = rest := congrArg Tasks.Standing.stack hsame
  have hlt := (List.getElem?_eq_some_iff.1 ht₂).1
  have hstep : w.step = { acted.2 with tasks := acted.2.tasks.proceed task acted.1 } :=
    step_of_point hrunning ht hstack
  rw [hstep]
  refine ⟨rfl, rfl, ?_⟩
  -- Whether the task runs on or waits, what it has still to do is above what it had.
  rcases proceed_cases ht₂ acted.1 with ⟨known, hgoes, heq⟩ | ⟨promise, hwaits, -, heq⟩ <;> rw [heq]
  · refine ⟨⟨_, List.getElem?_set_self hlt, by rw [hstack₂]⟩, fun outcome' hnext => ?_⟩
    rcases hgoes with hgo | ⟨promise, hwait, -⟩
    · obtain ⟨rfl, -⟩ := Tasks.Next.go.inj (hnext.symm.trans hgo)
      simp [told?, moveTask]
    · cases hnext.symm.trans hwait
  · obtain ⟨t', ht', hsame'⟩ := (Onward.observe promise (.wake task)).exists_task
      (show (acted.2.moveTask task _ none).tasks.tasks[task]? = some _ from List.getElem?_set_self hlt)
    refine ⟨⟨t', ht', (congrArg Tasks.Standing.stack hsame').trans (by rw [← hstack₂]; rfl)⟩, ?_⟩
    intro outcome' hnext
    cases hnext.symm.trans hwaits

theorem Point.isPivotal_of_readiness (h : point.delivery? = some .readiness) :
    point.isPivotal = true := by
  cases point with
  | connection point => cases point <;> first | rfl | cases h
  | program point => cases point <;> cases h
  | channel point => cases point <;> cases h
  | keeper point => rfl
  | _ => cases h

/-- Who starts a connection that writes everything goes on with that, or knows whether it has become
ready. -/
theorem Course.readiness {f f' : Facts} (h : Course f f' l point outcome l' next)
    (hpoint : point.delivery? = some .readiness) (hfree : l.IsFree)
    (hgreets : ∀ number channel, point = .connection (.opened number channel) →
      l.CanGreet number channel) :
    points next ≠ [] ∨ ∃ ready, next = .go (.ok (.bool ready)) [] ∧
      (ready = true → ∃ number, l'.IsIn .ready number) := by
  have hfalse : ∀ {ready : Bool}, ready = false → ready = true → ∃ number, l'.IsIn .ready number :=
    fun hfalse htrue => absurd (hfalse.symm.trans htrue) Bool.false_ne_true
  -- Of all that tell of a start, only a welcome says that the connection is ready.
  cases h with
  | hears hpivotal =>
    rw [Point.isPivotal_of_readiness hpoint] at hpivotal
    cases hpivotal
  | sends hasks => cases hasks <;> cases hpoint
  | greets _ hnext => exact .inl (List.ne_nil_of_mem (hnext.mem List.mem_cons_self))
  | falters _ hrefused => exact absurd (hgreets _ _ rfl) hrefused
  | abandons => exact .inl (by simp [points_under])
  | fails => exact .inr ⟨false, rfl, hfalse rfl⟩
  | forsakes => exact .inr ⟨false, rfl, hfalse rfl⟩
  | welcomes hbond _ houtcome =>
    rename_i number _ _ _ _ _ _
    obtain rfl | ⟨hroom, -⟩ := houtcome
    on_goal 2 => exact absurd (hfree number _ hbond) hroom
    refine .inr ⟨true, rfl, fun _ => ⟨number, Layout.isIn_iff.2 ?_⟩⟩
    rw [Layout.shape_welcome]
    exact ⟨_, Shape.isAt_setStage (Layout.stage_of_bond hbond) _⟩
  | refuses => exact .inl (by simp [points_under])
  | ignores => exact .inr ⟨false, rfl, hfalse rfl⟩
  | dismisses => exact .inr ⟨false, rfl, hfalse rfl⟩
  | comes hactivity => rcases hactivity with ⟨_, _, rfl, -⟩ | ⟨_, rfl, -⟩ <;> cases hpoint
  | vacates hkeeper =>
    rcases hkeeper with ⟨_, _, rfl, -⟩ | ⟨_, rfl, -⟩ | ⟨_, rfl, -⟩ | ⟨_, rfl, -⟩ <;> cases hpoint
  | leaves =>
    rename_i keeperPoint _ _
    cases keeperPoint <;> cases hpoint
  | _ => cases hpoint

/-- Who does not have its turn at the top of its stack acts at no point of the keeper, but to learn that
the connection is stopped. -/
theorem Minded.eq_disconnected (h : Minded w) (hrunning : w.tasks.running = some (task, outcome))
    (ht : w.tasks.tasks[task]? = some t) {keeperPoint : KeeperPoint}
    (hstack : t.stack = .keeper keeperPoint :: rest) (hholder : ∃ holder ∈ rest, holder.holds = true) :
    keeperPoint = .disconnected ∧ rest.length = 1 := by
  obtain ⟨Γ, hordered⟩ := h.ordered
  exact (h.turns.not_holder hordered hrunning ht hstack).2 hholder

/-- While the connection of the keeper is being stopped, its account stays as it is until whoever wants
to know is told. -/
theorem Vacating.step (h : Minded w) (hrunning : w.tasks.running = some (task, outcome))
    (ht : w.tasks.tasks[task]? = some t) (hstack : t.stack = point :: rest)
    (hafter : after.FollowsVacating) (hvacating : Vacating a after (point :: rest) w.account)
    (hpoint : point ≠ .keeper after) :
    ∃ t', w.step.tasks.tasks[task]? = some t' ∧ Vacating a after t'.stack w.step.account := by
  obtain ⟨Γ, hordered⟩ := h.ordered
  obtain ⟨-, below, hpasses, hadmits, -⟩ := hordered.advance hrunning ht hstack
  obtain ⟨haccount, -, ⟨t', ht', hstack'⟩, -⟩ := hordered.exists_acted hrunning ht hstack
  refine ⟨t', ht', ?_⟩
  rw [haccount, hstack']
  generalize hfirst : point :: rest = stack at hvacating
  generalize hbefore : w.account = b at hvacating
  cases hvacating with
  | vacated => exact absurd (List.cons.inj hfirst).1 hpoint
  | parting hkept =>
    rename_i front
    cases front with
    | nil =>
      -- whoever wants to know is told
      obtain ⟨rfl, rfl⟩ := List.cons.inj hfirst
      obtain ⟨answer, rfl⟩ := hadmits
      obtain ⟨hnext, hnew⟩ := disconnected_account
        (w.moveTask task { t with stack := [.keeper after] } (some (.ok answer))) answer
      rw [show (Point.keeper .disconnected).resume (.ok answer) =
        KeeperPoint.resume .disconnected (.ok answer) from rfl, hnext, hnew]
      rw [show (w.moveTask task _ _).account = w.account from rfl, hbefore]
      have hreleased :
          { a.emptied with stops := a.emptied.stops + a.emptied.observed.toNat } = a.released := by
        simp [Account.released, Account.emptied, hkept]
      rw [hreleased]
      exact .vacated
    | cons first others =>
      rw [List.cons_append] at hfirst
      obtain ⟨rfl, rfl⟩ := List.cons.inj hfirst
      have hholder : ∃ holder ∈ others ++ [.keeper .disconnected, .keeper after], holder.holds = true :=
        ⟨.keeper after, by simp, hafter.holds⟩
      have hsteady : Steady (point.resume outcome) := by
        refine resume_steady hpasses (fun keeperPoint heq => ?_) outcome
        subst heq
        obtain ⟨-, hlength⟩ := h.eq_disconnected hrunning ht hstack hholder
        simp at hlength
      rw [hsteady, show (w.moveTask task _ _).account = w.account from rfl, hbefore, ← List.append_assoc]
      exact .parting hkept

/-- Whoever goes on at a point of the keeper learns that the connection is stopped, or goes on after that
and has nothing else to do. -/
theorem Vacating.of_keeper (h : Minded w) (hrunning : w.tasks.running = some (task, outcome))
    (ht : w.tasks.tasks[task]? = some t) {keeperPoint : KeeperPoint}
    (hstack : t.stack = .keeper keeperPoint :: rest) (hafter : after.FollowsVacating)
    (hvacating : Vacating a after (.keeper keeperPoint :: rest) b) :
    keeperPoint = .disconnected ∨ keeperPoint = after ∧ rest = [] ∧ b = a.released := by
  generalize hfirst : Point.keeper keeperPoint :: rest = stack at hvacating
  cases hvacating with
  | vacated =>
    obtain ⟨hpoint, rfl⟩ := List.cons.inj hfirst
    exact .inr ⟨Point.keeper.inj hpoint, rfl, rfl⟩
  | parting hkept =>
    rename_i front
    refine .inl ?_
    cases front with
    | nil => exact Point.keeper.inj (List.cons.inj hfirst).1
    | cons first others =>
      rw [List.cons_append] at hfirst
      obtain ⟨rfl, rfl⟩ := List.cons.inj hfirst
      exact (h.eq_disconnected hrunning ht hstack ⟨.keeper after, by simp, hafter.holds⟩).1

/-- Whoever a task tells that relies on a connection having started, or not, has started it. -/
theorem Ledger.delivery?_of_readiness {result : Nat} (h : Γ.Passes .keeper result .readiness point) :
    point.delivery? = some .readiness := by
  have hdelivers : (∃ e, point.delivery? = some e ∧ Expectation.Suits .keeper e .readiness) →
      point.delivery? = some .readiness := by
    rintro ⟨e, he, hsuits⟩
    cases hsuits
    exact he
  cases point with
  | start activity => cases h
  | wait point =>
    cases point with
    | sleeping alarm => cases h
    | limited inner alarm =>
      obtain ⟨-, purpose, -, hyields⟩ := h
      cases purpose <;> simp [Purpose.Yields] at hyields
    | reaping inner alarm interrupted =>
      obtain ⟨-, -, purpose, -, hyields⟩ := h
      cases purpose <;> simp [Purpose.Yields] at hyields
  | _ => exact hdelivers h

/-- The keeper makes a connection and goes on when it has started, or not. -/
theorem Course.renews_points {f f' : Facts} {answer : Answer}
    (h : Course f f' l (.keeper (.vacated config)) (.ok answer) l' next) :
    ∃ front ≠ [], points next = front ++ [.keeper (.connected config)] := by
  cases h with
  | hears hpivotal => cases hpivotal
  | sends hasks => cases hasks
  | vacates hpoint => rcases hpoint with ⟨_, _, h, -⟩ | ⟨_, h, -⟩ | ⟨_, h, -⟩ | ⟨_, h, -⟩ <;> cases h
  | leaves hpoint => exact absurd rfl (hpoint config)
  | renews hconnects =>
    refine ⟨_, ?_, points_under _ _⟩
    cases hconnects with
    | begins _ _ hnext => exact List.ne_nil_of_mem (hnext.mem List.mem_cons_self)
    | keeps hstopped => exact absurd ⟨_, List.getElem?_concat_length, rfl⟩ hstopped

/-- Somebody has been told whether there is a turn, and ends it. -/
theorem leave_account (w : World) (outcome : Outcome) :
    let left := ((do leave; give outcome : Act Next)).run w
    left.1 = .go outcome [] ∧ left.2.account = w.account ∧ left.2.layout = w.layout :=
  ⟨(leave_goes w outcome).2, leave_steady w, (leave_goes w outcome).1⟩

/-- While the new connection starts, the account stays as it is until the keeper is told whether it is
ready. -/
theorem Serving.starts_step (h : Minded w) (hrunning : w.tasks.running = some (task, outcome))
    (ht : w.tasks.tasks[task]? = some t) (hstack : t.stack = point :: rest) {others : List Point}
    (hrest : rest = others ++ [.keeper (.connected config)])
    (hbefore : w.account = a.released.renewed config) :
    ∃ t', w.step.tasks.tasks[task]? = some t' ∧
      Serving w.step.layout a (.vacated config) t'.stack (w.step.told? task) w.step.account := by
  subst hrest
  obtain ⟨Γ, hordered⟩ := h.ordered
  obtain ⟨-, below, hpasses, -⟩ := hordered.advance hrunning ht hstack
  obtain ⟨aside, hacts⟩ := hordered.acts_resume hrunning ht hstack
  obtain ⟨haccount, -, ⟨t', ht', hstack'⟩, htold⟩ := hordered.exists_acted hrunning ht hstack
  have hholder : ∃ holder ∈ others ++ [.keeper (.connected config)], holder.holds = true :=
    ⟨.keeper (.connected config), by simp, rfl⟩
  have hsteady : Steady (point.resume outcome) := by
    refine resume_steady hpasses (fun keeperPoint heq => ?_) outcome
    subst heq
    obtain ⟨rfl, hlength⟩ := h.eq_disconnected hrunning ht hstack hholder
    obtain rfl : others = [] := by simpa using hlength
    obtain ⟨e, he, hsuits⟩ := hpasses
    cases he
    cases hsuits
  refine ⟨t', ht', ?_⟩
  have hrenewed : w.step.account = a.released.renewed config :=
    haccount.trans ((hsteady _).trans hbefore)
  rw [hstack', hrenewed, ← List.append_assoc]
  by_cases hmore : points ((point.resume outcome).run (w.moveTask task
      { t with stack := others ++ [.keeper (.connected config)] } (some outcome))).1 ++ others = []
  · obtain ⟨hpoints, rfl⟩ := List.append_eq_nil_iff.1 hmore
    have hreadiness := hacts.course.readiness (Ledger.delivery?_of_readiness hpasses) h.free
      (canGreet_of_free h.free point)
    obtain ⟨ready, hnext, hready⟩ := hreadiness.resolve_left fun hne => hne hpoints
    rw [hmore, htold (.ok (.bool ready)) (by rw [hpoints]; exact hnext)]
    refine .started rfl fun htrue => ?_
    -- the connection that is ready is the one that the keeper has
    obtain ⟨number, hin⟩ := hready htrue
    have hkept : w.step.account.kept = some number := (h.undergo .step).custody.live number (.inr hin)
    rw [hrenewed] at hkept
    obtain rfl := Option.some.inj hkept
    exact hin
  · exact .starts rfl hmore

/-- A turn goes on as it should. -/
theorem Serving.step (h : Minded w) (hrunning : w.tasks.running = some (task, outcome))
    (ht : w.tasks.tasks[task]? = some t) (hstack : t.stack = point :: rest)
    (hafter : (∃ config, after = .vacated config) ∨ after = .cleared ∨ after = .released)
    (hserving : Serving w.layout a after (point :: rest) (some outcome) w.account) :
    ∃ t', w.step.tasks.tasks[task]? = some t' ∧
      Serving w.step.layout a after t'.stack (w.step.told? task) w.step.account := by
  obtain ⟨Γ, hordered⟩ := h.ordered
  obtain ⟨-, below, hpasses, hadmits, -⟩ := hordered.advance hrunning ht hstack
  obtain ⟨aside, hacts⟩ := hordered.acts_resume hrunning ht hstack
  obtain ⟨haccount, hlayout, ⟨t', ht', hstack'⟩, htold⟩ := hordered.exists_acted hrunning ht hstack
  -- somebody is done
  have hleaves : ∀ {outcome' : Outcome}, rest = [] →
      (point.resume outcome = do leave; give outcome') →
      (w.layout = w.step.layout → Comes w.step.layout a after outcome' w.account) →
      ∃ t', w.step.tasks.tasks[task]? = some t' ∧
        Serving w.step.layout a after t'.stack (w.step.told? task) w.step.account := by
    rintro outcome' rfl hresume hcomes
    obtain ⟨hnext, hsame, hstays⟩ :=
      leave_account (w.moveTask task { t with stack := [] } (some outcome)) outcome'
    rw [hresume] at haccount hlayout hstack' htold
    rw [hnext] at hstack' htold
    refine ⟨t', ht', ?_⟩
    rw [hstack', htold outcome' rfl, haccount, hsame]
    exact .done (hcomes (hlayout.trans hstays).symm)
  have hvacating : ∀ {a' : Account} {after' : KeeperPoint}, after'.FollowsVacating →
      Vacating a' after' (point :: rest) w.account → point ≠ .keeper after' →
      (∀ {stack : List Point} {told : Option Outcome} {b : Account}, Vacating a' after' stack b →
        Serving w.step.layout a after stack told b) →
      ∃ t', w.step.tasks.tasks[task]? = some t' ∧
        Serving w.step.layout a after t'.stack (w.step.told? task) w.step.account := by
    intro a' after' hfollows hvacating hpoint hserves
    obtain ⟨t', ht', hnew⟩ := hvacating.step h hrunning ht hstack hfollows hpoint
    exact ⟨t', ht', hserves hnew⟩
  generalize hfirst : point :: rest = stack at hserving
  generalize hbefore : w.account = b at hserving
  cases hserving with
  | done => cases hfirst
  | vacates hvacates =>
    have hfollows : after.FollowsVacating := hafter.imp id fun h => h.imp id .inl
    subst hfirst hbefore
    by_cases hpoint : point = .keeper after
    · subst hpoint
      obtain ⟨-, rfl, hreleased⟩ :=
        (hvacates.of_keeper h hrunning ht hstack hfollows).resolve_left hfollows.ne_disconnected
      obtain ⟨answer, rfl⟩ : ∃ answer, outcome = .ok answer := by
        rcases hafter with ⟨config, rfl⟩ | rfl | rfl <;> exact hadmits
      rcases hafter with ⟨config, rfl⟩ | rfl | rfl
      · obtain ⟨front, hfront, hpoints⟩ := hacts.course.renews_points
        refine ⟨t', ht', ?_⟩
        rw [hstack', haccount, hpoints, List.append_nil]
        have hrenewed :=
          renew_account (w.moveTask task { t with stack := [] } (some (.ok answer))) config answer
        rw [show (w.moveTask task _ _).account = w.account from rfl, hreleased] at hrenewed
        exact hrenewed ▸ .starts rfl hfront
      · exact hleaves rfl rfl fun _ => hreleased ▸ .cleared
      · exact hleaves rfl rfl fun _ => hreleased ▸ .released
    · exact hvacating hfollows hvacates hpoint .vacates
  | starts hafter hfront =>
    rename_i config front
    subst hafter
    obtain ⟨first, others, rfl⟩ := List.exists_cons_of_ne_nil hfront
    rw [List.cons_append] at hfirst
    obtain ⟨rfl, rfl⟩ := List.cons.inj hfirst
    exact starts_step h hrunning ht hstack rfl hbefore
  | started hafter hready =>
    rename_i config ready
    subst hafter
    obtain ⟨rfl, rfl⟩ := List.cons.inj hfirst
    cases ready with
    | true => exact hleaves rfl rfl fun hsame => hbefore ▸ .renewed (hsame ▸ hready rfl)
    | false =>
      refine ⟨t', ht', ?_⟩
      have hvacates := vacate_account
        (w.moveTask task { t with stack := [] } (some (.ok (.bool false)))) (.failed config)
      rw [show (w.moveTask task _ _).account = w.account from rfl, hbefore] at hvacates
      rw [hstack', haccount, List.append_nil]
      exact .fails rfl hvacates
  | fails hafter hvacates =>
    rename_i config
    have hfollows : (KeeperPoint.failed config).FollowsVacating := .inr (.inr (.inr ⟨config, rfl⟩))
    subst hafter hfirst hbefore
    by_cases hpoint : point = .keeper (.failed config)
    · subst hpoint
      obtain ⟨-, rfl, hreleased⟩ :=
        (hvacates.of_keeper h hrunning ht hstack hfollows).resolve_left hfollows.ne_disconnected
      obtain ⟨answer, rfl⟩ : ∃ answer, outcome = .ok answer := hadmits
      exact hleaves rfl rfl fun _ => hreleased ▸ .failed
    · exact hvacating hfollows hvacates hpoint (.fails rfl)

/-! ## Whatever happens in a turn -/

/-- Whose turn is not over has a point that says so. -/
theorem Serving.exists_holder (h : Serving l a after stack told b)
    (hafter : (∃ config, after = .vacated config) ∨ after = .cleared ∨ after = .released) :
    stack = [] ∨ ∃ holder ∈ stack, holder.holds = true := by
  cases h with
  | vacates h => exact .inr (h.exists_holder (hafter.imp id fun h => h.imp id .inl))
  | starts => exact .inr ⟨_, List.mem_append_right _ (List.mem_singleton_self _), rfl⟩
  | started => exact .inr ⟨_, List.mem_singleton_self _, rfl⟩
  | fails _ h => exact .inr (h.exists_holder (.inr (.inr (.inr ⟨_, rfl⟩))))
  | done => exact .inl rfl

/-- Whoever holds its turn has begun. -/
theorem Point.isLater_of_holds (h : point.holds = true) : point.isLater = true := by
  cases point <;> first | rfl | cases h

/-- Whoever holds its turn deals with the keeper. -/
theorem Point.exists_keeper_of_holds (h : point.holds = true) :
    ∃ keeperPoint, point = .keeper keeperPoint := by
  cases point <;> first | exact ⟨_, rfl⟩ | cases h

/-- What a task is told that runs. -/
theorem told?_eq_some : w.told? task = some outcome ↔ w.tasks.running = some (task, outcome) := by
  unfold told?
  cases w.tasks.running with
  | none => simp
  | some pair =>
    obtain ⟨other, outcome'⟩ := pair
    by_cases heq : other = task <;> simp [heq]

/-- While a task runs, nothing but its next step can happen. -/
theorem undergo_of_running {counter : Counter} {pair : Nat × Outcome}
    (hrunning : w.tasks.running = some pair) (hne : incident ≠ .step) :
    w.undergo counter incident = w := by
  unfold undergo
  rw [hrunning]
  cases incident <;> first | rfl | exact absurd rfl hne

/-- While somebody has their turn, nobody else acts at a point of the keeper. -/
theorem Minded.acting_holder (h : Minded w) (ht : w.tasks.tasks[task]? = some t)
    (hholder : ∃ holder ∈ t.stack, holder.holds = true) {keeperPoint : KeeperPoint}
    (hacting : w.acting? = some (.keeper keeperPoint, outcome)) :
    ∃ rest, w.tasks.running = some (task, outcome) ∧ t.stack = .keeper keeperPoint :: rest := by
  obtain ⟨Γ, hordered⟩ := h.ordered
  obtain ⟨other, t', rest, hrunning, ht', hstack⟩ := exists_task_of_acting hacting
  by_cases heq : other = task
  · subst heq
    obtain rfl := Option.some.inj (ht.symm.trans ht')
    exact ⟨rest, hrunning, hstack⟩
  · obtain ⟨holder, hmem, hholds⟩ := hholder
    have hothers := (h.turns.not_holder hordered hrunning ht' hstack).1 holder ?_
    · rw [hholds] at hothers
      cases hothers
    · refine List.mem_flatMap.2 ⟨t.standing, ?_, hmem⟩
      exact List.mem_eraseIdx_iff_getElem?.2 ⟨task, Ne.symm heq, standings_getElem? ht⟩

/-- Whatever happens, a turn goes on as it should. -/
theorem Serving.undergo (h : Minded w) (ht : w.tasks.tasks[task]? = some t) (hne : t.stack ≠ [])
    (hafter : (∃ config, after = .vacated config) ∨ after = .cleared ∨ after = .released)
    (hserving : Serving w.layout a after t.stack (w.told? task) w.account) (incident : Incident) :
    ∃ t', (w.undergo .keeper incident).tasks.tasks[task]? = some t' ∧
      Serving (w.undergo .keeper incident).layout a after t'.stack
        ((w.undergo .keeper incident).told? task) (w.undergo .keeper incident).account := by
  obtain ⟨Γ, hordered⟩ := h.ordered
  obtain ⟨holder, hmem, hholds⟩ := (hserving.exists_holder hafter).resolve_left hne
  by_cases hown : incident = .step ∧ ∃ outcome, w.tasks.running = some (task, outcome)
  · obtain ⟨rfl, outcome, hrunning⟩ := hown
    obtain ⟨point, rest, hstack⟩ := List.exists_cons_of_ne_nil hne
    rw [hstack, told?_eq_some.2 hrunning] at hserving
    exact hserving.step h hrunning ht hstack hafter
  · have hsteady : (w.undergo .keeper incident).account = w.account := by
      refine hordered.undergo_steady fun hstep keeperPoint outcome hacting => ?_
      obtain ⟨-, hrunning, -⟩ := h.acting_holder ht ⟨holder, hmem, hholds⟩ hacting
      exact hown ⟨hstep, outcome, hrunning⟩
    obtain ⟨t', ht', hstack⟩ := hordered.undergo_stack ht
      (.inr ⟨holder, hmem, Point.isLater_of_holds hholds⟩)
      fun hstep _ outcome hrunning => absurd ⟨hstep, outcome, hrunning⟩ hown
    refine ⟨t', ht', ?_⟩
    rw [hstack, hsteady]
    generalize htold : w.told? task = told at hserving
    generalize w.account = b at hserving ⊢
    generalize t.stack = stack at hserving hne ⊢
    cases hserving with
    | vacates h => exact .vacates h
    | starts hafter hfront => exact .starts hafter hfront
    | fails hafter h => exact .fails hafter h
    | done => exact absurd rfl hne
    | started hafter hready =>
      -- it runs, and nothing happens before it has gone on
      have hrunning := told?_eq_some.1 htold
      have hsame : w.undergo .keeper incident = w :=
        undergo_of_running hrunning fun hstep => hown ⟨hstep, _, hrunning⟩
      rw [hsame, htold]
      exact .started hafter hready

end BasiliskServer.World
