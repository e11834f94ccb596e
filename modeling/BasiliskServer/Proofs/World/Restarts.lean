import BasiliskServer.Proofs.World.Crashes
import BasiliskServer.Proofs.World.Renewals

/-!
# Restarts

Whoever asks the keeper for a companion process and finds one that serves them leaves everything as it
is. Otherwise the connection that the keeper has is stopped, and one other is made and started, once
(`restarts_gated`). No program is launched but there (`Ordered.launches_undergo`), and where somebody
deals with the keeper, no connection but its own is at work (`Tended.isCalm_of_acting`).
-/

namespace BasiliskServer.World

variable {Γ : Ledger} {w before : World} {task : Nat} {t : Tasks.Task Point} {rest : List Point}
  {outcome : Outcome} {incident : Incident} {gate after : KeeperPoint} {a b : Account}
  {stack : List Point} {l : Layout} {config : Companion.Config}

/-! ## Where nobody starts or stops a connection -/

/-- A keeper whose connections start and stop in turns, and who waits for answers of its processes. -/
structure Tended (w : World) : Prop extends Minded w where
  /-- Whoever waits for an answer waits for one over the channel of a connection at work. -/
  answered : Answered w.layout.shape w.layout.wires w.facts.heard w.handlers

/-- All connections are stopped, but for the one of the keeper, which may be ready, and whoever waits for
an answer waits for one of that. -/
structure IsCalm (w : World) : Prop where
  /-- No connection but the one of the keeper is anything but stopped. -/
  connections : ∀ number c, w.connections[number]? = some c →
    c.phase = .stopped ∨ c.phase = .ready ∧ w.keeper.connection = some number
  /-- Nobody waits for an answer of another one. -/
  answers : ∀ channel line, w.channels[channel]? = some line →
    ∀ q ∈ line.answers, w.tasks.outcome? q = none →
      ∃ number c, w.keeper.connection = some number ∧ w.connections[number]? = some c ∧
        c.phase = .ready ∧ c.channel = some channel

namespace Tended

/-- Whatever happens, nobody waits for what cannot come. -/
theorem undergo (h : Tended w) (incident : Incident) : Tended (w.undergo .keeper incident) := by
  have hminded := h.toMinded.undergo incident
  obtain ⟨Γ, hordered⟩ := h.ordered
  obtain ⟨Γ', hordered'⟩ := hminded.ordered
  rcases hordered.shifts incident with heq | ⟨point, outcome, rest, aside, next, rfl, hacts⟩ | hdrifts
  · rwa [heq]
  · exact ⟨hminded, h.answered.acts hacts hordered hordered' h.serial (h.clears hacts) h.single⟩
  · exact ⟨hminded, h.answered.drifts hdrifts⟩

theorem undergoAll (h : Tended w) (incidents : List Incident) :
    Tended (w.undergoAll .keeper incidents) := by
  induction incidents generalizing w with
  | nil => exact h
  | cons incident rest ih => exact ih (h.undergo incident)

/-- Before anything has happened. -/
theorem ofKeeper (host : Files.Host) (companions : List CompanionScript) (observed : Bool) :
    Tended (World.ofKeeper host companions observed) where
  toMinded := .ofKeeper host companions observed
  answered := by
    refine ⟨fun channel wire hwire => ?_, fun number channel wire _ hwire => ?_⟩ <;>
      cases (List.getElem?_nil (α := Wiring)).symm.trans hwire

/-- Where nobody starts or stops a connection, none but the one of the keeper is at work. -/
theorem isCalm (h : Tended w) (hnobody : w.handlers = []) : w.IsCalm := by
  have hserial := h.serial
  rw [hnobody] at hserial
  cases hserial with
  | calm hsettled =>
    have hphase : ∀ {number : Nat} {c : Connection}, w.connections[number]? = some c →
        c.phase = .stopped ∨ c.phase = .ready ∧ w.keeper.connection = some number := by
      intro number c hc
      have hbond : w.layout.bonds[number]? = some c.bond := bond_of_connection hc
      have hstage : w.layout.shape.stages[number]? = some c.bond.stage := Layout.stage_of_bond hbond
      obtain hstopped | hready | ⟨-, hnever⟩ := hsettled.phase_cases hstage
      · exact .inl hstopped
      · exact .inr ⟨hready, h.custody.live number (.inr ⟨c.bond, hbond, hready⟩)⟩
      · exact hnever.elim
    refine ⟨fun number c => hphase, fun channel line hline q hq hnone => ?_⟩
    have hwire : w.layout.wires[channel]? = some line.pipe.wire :=
      Layout.wire_of_pipe (pipe_of_channel hline)
    obtain ⟨number, phase, hat, hne, -⟩ := h.answered.owned channel _ hwire q hq (by simp [facts, hnone])
    rw [Shape.IsAt, Layout.shape_stages_getElem?, layout_bonds_getElem?] at hat
    obtain ⟨bond, hbond, hstage⟩ := Option.map_eq_some_iff.1 hat
    obtain ⟨c, hc, rfl⟩ := Option.map_eq_some_iff.1 hbond
    obtain ⟨rfl, hchannel⟩ := Stage.mk.inj hstage
    obtain ⟨hready, hkept⟩ := (hphase hc).resolve_left hne
    exact ⟨number, c, hkept, hc, hready, hchannel⟩

/-- Whoever deals with the keeper does so where nobody starts or stops a connection. -/
theorem isCalm_of_acting {keeperPoint : KeeperPoint} (h : Tended w)
    (hacting : w.acting? = some (.keeper keeperPoint, outcome)) : w.IsCalm :=
  h.isCalm (h.handlers_eq_nil hacting)

/-- When somebody has dealt with the keeper who is done then, nobody starts or stops a connection. -/
theorem isCalm_step {keeperPoint : KeeperPoint} (h : Tended w)
    (hrunning : w.tasks.running = some (task, outcome)) (ht : w.tasks.tasks[task]? = some t)
    (hstack : t.stack = .keeper keeperPoint :: rest)
    (hdone : ∃ t', w.step.tasks.tasks[task]? = some t' ∧ t'.stack = []) : w.step.IsCalm := by
  obtain ⟨Γ, hordered⟩ := h.ordered
  obtain ⟨-, -, ⟨t', ht', hstack'⟩, -⟩ := hordered.exists_acted hrunning ht hstack
  obtain ⟨aside, hacts⟩ := hordered.acts_resume hrunning ht hstack
  obtain ⟨same, hsame, hnil⟩ := hdone
  obtain rfl := Option.some.inj (ht'.symm.trans hsame)
  have hafter := hacts.after
  rw [← hstack', hnil] at hafter
  have hnobody := h.handlers_eq_nil hacts.acting
  refine (h.undergo .step).isCalm (List.filter_eq_nil_iff.2 fun point hmem => ?_)
  -- whoever starts or stops a connection now has done so before
  refine List.filter_eq_nil_iff.1 hnobody point (hacts.before.mem_iff.2 (List.mem_append_right _ ?_))
  exact hafter.mem_iff.1 hmem

/-- When a connection is stopped, whoever waits for an answer is told. -/
theorem settles_of_closed {number : Nat} {line : Option Nat} {answer : Answer} (h : Tended w)
    (hacting : w.acting? = some (.connection (.closed number line), .ok answer))
    {channel : Nat} {c : Channel} (hc : w.channels[channel]? = some c) {q : Nat} (hq : q ∈ c.answers)
    (hnone : w.tasks.outcome? q = none) :
    (w.undergo .keeper .step).tasks.outcome? q = some (.error (.exited none)) := by
  obtain ⟨Γ, hordered⟩ := h.ordered
  obtain ⟨rest, aside, next, hacts⟩ := hordered.acts_of_acting hacting
  -- the answer is one over the channel of the connection
  have hmem : .connection (.closed number line) ∈ w.handlers := hacts.mem_handlers rfl
  obtain ⟨hone, ⟨hat, -⟩, same, hsame, hsole⟩ := h.serial.of_mem hmem
  obtain rfl := Option.some.inj hsame
  have hwire : w.layout.wires[channel]? = some c.pipe.wire :=
    Layout.wire_of_pipe (pipe_of_channel hc)
  obtain ⟨other, phase, hother, hphase, -⟩ :=
    h.answered.owned channel _ hwire q hq (by simp [facts, hnone])
  obtain rfl := Serial.eq_of_busy hsole hother hphase
  obtain rfl := (hat.unique hother).2
  obtain ⟨i, hi⟩ := List.getElem?_of_mem hq
  have hcarries := hordered.kept.channels channel c hc
  have hundecided := hordered.kept.undecided channel c i q hc hi List.not_mem_nil hnone
  obtain ⟨asker, hpurpose⟩ := hcarries.answers i q hi
  have hlt := (List.getElem?_eq_some_iff.1 hpurpose).1
  rw [hordered.kept.books.length] at hlt
  obtain ⟨before, after, hbefore, hafter, hstep⟩ := exists_step .keeper hacting
  rw [hstep]
  refine hafter q _ (reset_remembers _ _ q _ ?_)
  exact outcome?_rejectAll (w := { w with tasks := before }) hc hcarries.valid hcarries.length hi
    hundecided (hbefore ▸ hlt) (by rw [Tasks.Scheduler.outcome?, hbefore]; exact hnone) (.exited none)

end Tended

/-! ## Launches -/

theorem Vacating.launches (h : Vacating a after stack b) : b.launches = a.launches := by
  cases h <;> rfl

/-- A program is launched only where the connection was stopped before. -/
theorem KeeperPoint.resume_launches {keeperPoint : KeeperPoint}
    (hpoint : ∀ config, keeperPoint ≠ .vacated config) (outcome : Outcome) (w : World) :
    ((keeperPoint.resume outcome).run w).2.account.launches = w.account.launches := by
  have hleaves : ∀ outcome' : Outcome,
      ((do leave; give outcome' : Act Next).run w).2.account.launches = w.account.launches :=
    fun outcome' => by rw [(leave_account w outcome').2.1]
  have hwithdraws : ∀ (ticket : Option Nat) (failure : Failure),
      ((do withdraw ticket; fail failure : Act Next).run w).2.account.launches = w.account.launches :=
    fun ticket failure => congrArg Account.launches (withdraw_steady ticket w)
  -- Each point but `vacated` leaves the keeper, lets its connection go, or does nothing.
  cases outcome with
  | error failure => cases keeperPoint <;> first | exact hleaves _ | exact hwithdraws _ _ | rfl
  | ok answer =>
    cases keeperPoint with
    | vacated config => exact absurd rfl (hpoint config)
    | admitted wanted ticket =>
      cases wanted with
      | none => exact (dismiss_account w _ answer (.inl ⟨ticket, rfl, rfl⟩)).launches
      | some config =>
        obtain ⟨hserved, hother⟩ := admitted_account w config ticket answer
        cases h : isServed w config with
        | true => rw [(hserved h).2]
        | false => exact (hother h).launches
    | admittedToStop ticket => exact (dismiss_account w _ answer (.inr ⟨ticket, rfl, rfl⟩)).launches
    | disconnected => rw [(disconnected_account w answer).2]
    | connected config =>
      unfold KeeperPoint.resume
      split <;> first | exact hleaves _ | exact (vacate_account w _).launches | contradiction
    | _ => exact hleaves _

theorem Ordered.launches_undergo (h : Ordered .keeper Γ w)
    (hne : (w.undergo .keeper incident).account.launches ≠ w.account.launches) :
    incident = .step ∧ ∃ config outcome, w.acting? = some (.keeper (.vacated config), outcome) := by
  by_cases hdeals : incident = .step ∧
      ∃ keeperPoint outcome, w.acting? = some (.keeper keeperPoint, outcome)
  · obtain ⟨rfl, keeperPoint, outcome, hacting⟩ := hdeals
    refine ⟨rfl, ?_⟩
    by_contra hnone
    obtain ⟨task, t, rest, hrunning, ht, hstack⟩ := exists_task_of_acting hacting
    obtain ⟨haccount, -⟩ := h.exists_acted hrunning ht hstack
    refine hne ((congrArg Account.launches haccount).trans
      (KeeperPoint.resume_launches (fun config heq => ?_) _ _))
    subst heq
    exact hnone ⟨config, outcome, hacting⟩
  · have hsteady : (w.undergo .keeper incident).account = w.account :=
      h.undergo_steady fun hstep keeperPoint outcome hacting => hdeals ⟨hstep, keeperPoint, outcome, hacting⟩
    exact absurd (congrArg Account.launches hsteady) hne

/-! ## Turns from the beginning to the end -/

deriving instance DecidableEq for KeeperPoint

/-- Whoever goes on there has asked for a companion process, or wants none. -/
def KeeperPoint.isAsking : KeeperPoint → Bool
  | .admitted _ _ | .admittedToStop _ => true
  | _ => false

/-- Who goes on in the keeper with success, and where. -/
def proceeds? (w : World) : Option (Nat × KeeperPoint) :=
  match w.tasks.running, w.acting? with
  | some (task, _), some (.keeper keeperPoint, .ok _) => some (task, keeperPoint)
  | _, _ => none

/-- It is the turn of a task to deal with the keeper: it goes on where it has waited for that. -/
def HasTurn (w : World) (task : Nat) (gate : KeeperPoint) : Prop :=
  gate.isAsking = true ∧ w.proceeds? = some (task, gate)

instance {w : World} {task : Nat} {gate : KeeperPoint} : Decidable (w.HasTurn task gate) :=
  inferInstanceAs (Decidable (_ ∧ _))

/-- A task has something to do yet. -/
def IsUnderWay (w : World) (task : Nat) : Prop :=
  ∃ t, w.tasks.tasks[task]? = some t ∧ t.stack ≠ []

instance {w : World} {task : Nat} : Decidable (w.IsUnderWay task) :=
  decidable_of_iff ((w.tasks.tasks[task]?).any (fun t => !t.stack.isEmpty) = true)
    (by cases h : w.tasks.tasks[task]? <;> simp [IsUnderWay, h])

/-- A task has nothing to do any more, and has come to an outcome. -/
def IsReturning (w : World) (task : Nat) (outcome : Outcome) : Prop :=
  w.tasks.running = some (task, outcome) ∧ ∃ t, w.tasks.tasks[task]? = some t ∧ t.stack = []

/-- What comes of a turn: what whoever has it is told, and what the keeper accounts for then. -/
def EndsTurn (before after : World) (outcome : Outcome) : KeeperPoint → Prop
  | .admitted (some config) _ =>
    (outcome = .ok (.bool false) ∧ after.account.launches = before.account.launches ↔
        before.isServed config = true) ∧
      (before.isServed config = true → after.account = before.account) ∧
      (before.isServed config = false →
        outcome = .ok (.bool true) ∧ after.account = before.account.released.renewed config ∧
            after.isServed config = true ∨
          outcome = .error (.startFailed config.path) ∧
            after.account = (before.account.released.renewed config).released)
  | .admitted none _ => outcome = .ok (.bool false) ∧ after.account = before.account.released
  | .admittedToStop _ => outcome = .ok .unit ∧ after.account = before.account.released
  | _ => False

/-- Where somebody goes on whose turn it is, when the connection is stopped. -/
inductive GoesOnAt (before : World) : KeeperPoint → KeeperPoint → Prop where
  /-- They have asked for another companion process. -/
  | replaces {config : Companion.Config} {ticket : Option Nat}
    (hserved : before.isServed config = false) :
    GoesOnAt before (.admitted (some config) ticket) (.vacated config)
  /-- They have asked for none. -/
  | clears {ticket : Option Nat} : GoesOnAt before (.admitted none ticket) .cleared
  /-- They stop it. -/
  | stops {ticket : Option Nat} : GoesOnAt before (.admittedToStop ticket) .released

/-- How far a turn is. -/
inductive InTurn (before : World) (task : Nat) (gate : KeeperPoint) (w : World) : Prop where
  /-- It is about to begin. -/
  | begins (heq : w = before)
  /-- The connection is being stopped, or was. -/
  | goesOn {t : Tasks.Task Point} {after : KeeperPoint} (hleads : GoesOnAt before gate after)
    (ht : w.tasks.tasks[task]? = some t)
    (hserving : Serving w.layout before.account after t.stack (w.told? task) w.account)
  /-- It is over. -/
  | isOver {t : Tasks.Task Point} (ht : w.tasks.tasks[task]? = some t) (hstack : t.stack = [])

theorem HasTurn.asks (hturn : w.HasTurn task gate) :
    (∃ config ticket, gate = .admitted config ticket) ∨ ∃ ticket, gate = .admittedToStop ticket := by
  obtain ⟨hasks, -⟩ := hturn
  cases gate with
  | admitted config ticket => exact .inl ⟨config, ticket, rfl⟩
  | admittedToStop ticket => exact .inr ⟨ticket, rfl⟩
  | _ => cases hasks

theorem HasTurn.admitted (hturn : w.HasTurn task gate) :
    ∃ t answer rest, w.tasks.running = some (task, .ok answer) ∧ w.tasks.tasks[task]? = some t ∧
      t.stack = .keeper gate :: rest := by
  obtain ⟨-, hproceeds⟩ := hturn
  unfold proceeds? at hproceeds
  split at hproceeds
  · rename_i hrunning hacting
    obtain ⟨rfl, rfl⟩ := Prod.mk.inj (Option.some.inj hproceeds)
    obtain ⟨other, t, rest, hrunning', ht, hstack⟩ := exists_task_of_acting hacting
    obtain ⟨rfl, -⟩ := Prod.mk.inj (Option.some.inj (hrunning.symm.trans hrunning'))
    exact ⟨t, _, rest, hrunning', ht, hstack⟩
  · cases hproceeds

theorem GoesOnAt.cases_after (h : GoesOnAt before gate after) :
    (∃ config, after = .vacated config) ∨ after = .cleared ∨ after = .released := by
  cases h with
  | replaces => exact .inl ⟨_, rfl⟩
  | clears => exact .inr (.inl rfl)
  | stops => exact .inr (.inr rfl)

/-- At the beginning of a turn the connection is let go, unless it serves whoever has the turn. -/
theorem HasTurn.step (hturn : w.HasTurn task gate) (h : Minded w) :
    ∃ t, w.step.tasks.tasks[task]? = some t ∧
      ((∃ config ticket, gate = .admitted (some config) ticket ∧ w.isServed config = true ∧
          t.stack = [] ∧ w.step.told? task = some (.ok (.bool false)) ∧ w.step.account = w.account) ∨
        ∃ after, GoesOnAt w gate after ∧ Vacating w.account after t.stack w.step.account) := by
  obtain ⟨t, answer, rest, hrunning, ht, hstack⟩ := hturn.admitted
  obtain ⟨Γ, hordered⟩ := h.ordered
  obtain ⟨-, below, hpasses, -⟩ := hordered.advance hrunning ht hstack
  obtain ⟨haccount, -, ⟨t', ht', hstack'⟩, htold⟩ := hordered.exists_acted hrunning ht hstack
  -- Nobody stands below a turn, for it tells what the task has to come to.
  obtain rfl : rest = [] := by
    refine @Ledger.Sits.eq_nil_of_result _ below ?_
    generalize expected below rest = e at hpasses
    rcases hturn.asks with ⟨config, ticket, rfl⟩ | ⟨ticket, rfl⟩ <;>
      obtain ⟨e, he, hsuits⟩ := hpasses <;> cases he <;> cases hsuits <;> rfl
  refine ⟨t', ht', ?_⟩
  rw [List.append_nil] at hstack'
  rw [hstack', haccount]
  let moved : World := w.moveTask task { t with stack := [] } (some (.ok answer))
  rcases hturn.asks with ⟨wanted, ticket, rfl⟩ | ⟨ticket, rfl⟩
  · cases wanted with
    | none => exact .inr ⟨_, .clears, dismiss_account moved _ answer (.inl ⟨ticket, rfl, rfl⟩)⟩
    | some config =>
      obtain ⟨hserved, hother⟩ := admitted_account moved config ticket answer
      cases h : w.isServed config with
      | true =>
        obtain ⟨hnext, hsame⟩ := hserved h
        exact .inl ⟨config, ticket, rfl, h, congrArg points hnext,
          htold _ (hnext.trans (congrArg _ (congrArg points hnext).symm)), hsame⟩
      | false => exact .inr ⟨_, .replaces h, hother h⟩
  · exact .inr ⟨_, .stops, dismiss_account moved _ answer (.inr ⟨ticket, rfl, rfl⟩)⟩

/-- Whatever happens, a turn goes on. -/
theorem InTurn.undergo (hturn : before.HasTurn task gate) (hin : InTurn before task gate w)
    (h : Minded w) (incident : Incident) : InTurn before task gate (w.undergo .keeper incident) := by
  obtain ⟨Γ, hordered⟩ := h.ordered
  -- what is over stays so
  have hover : ∀ {t : Tasks.Task Point}, w.tasks.tasks[task]? = some t → t.stack = [] →
      InTurn before task gate (w.undergo .keeper incident) := by
    intro t ht hstack
    have hother : incident = .step → ∀ point outcome, w.tasks.running = some (task, outcome) →
        t.stack.head? ≠ some point := fun _ point _ _ hhead => by rw [hstack] at hhead; cases hhead
    obtain ⟨t', ht', hsame⟩ := hordered.undergo_stack ht (.inl hstack) hother
    exact .isOver ht' (hsame.trans hstack)
  cases hin with
  | isOver ht hstack => exact hover ht hstack
  | goesOn hleads ht hserving =>
    rename_i t after
    by_cases hne : t.stack = []
    · exact hover ht hne
    · obtain ⟨t', ht', hserving'⟩ := hserving.undergo h ht hne hleads.cases_after incident
      exact .goesOn hleads ht' hserving'
  | begins heq =>
    subst heq
    obtain ⟨_, answer, _, hrunning, -⟩ := hturn.admitted
    by_cases hstep : incident = .step
    · subst hstep
      obtain ⟨t, ht, ⟨_, _, -, -, hstack, -⟩ | ⟨after, hleads, hvacating⟩⟩ := hturn.step h
      · exact .isOver ht hstack
      · exact .goesOn hleads ht (.vacates hvacating)
    · exact .begins (undergo_of_running hrunning hstep)

theorem InTurn.undergoAll (hturn : before.HasTurn task gate) (h : Minded before)
    (incidents : List Incident) :
    InTurn before task gate (before.undergoAll .keeper incidents) := by
  suffices hrun : ∀ w, Minded w → InTurn before task gate w →
      InTurn before task gate (w.undergoAll .keeper incidents) from hrun before h (.begins rfl)
  induction incidents with
  | nil => exact fun w _ hin => hin
  | cons incident rest ih =>
    exact fun w h hin => ih _ (h.undergo incident) (hin.undergo hturn h incident)

/-! ## What comes of a turn -/

/-- The connection that the keeper has made serves whoever wanted it, once it is ready. -/
theorem isServed_of_renewed (haccount : w.account = a.renewed config)
    (hready : w.layout.IsIn .ready a.configs.length) : w.isServed config = true := by
  obtain ⟨bond, hbond, hphase⟩ := hready
  rw [layout_bonds_getElem?] at hbond
  obtain ⟨c, hc, rfl⟩ := Option.map_eq_some_iff.1 hbond
  have hkept : w.keeper.connection = some a.configs.length := congrArg Account.kept haccount
  have hfingerprint : w.keeper.fingerprint = some config.fingerprint :=
    congrArg Account.fingerprint haccount
  have hphase' : c.phase = .ready := hphase
  simp [isServed, hkept, hc, hfingerprint, hphase']

/-- Whoever has nothing to do any more has come to an end. -/
theorem Serving.comes (h : Serving l a after [] (some outcome) b) : Comes l a after outcome b := by
  generalize hnil : [] = stack at h
  generalize htold : some outcome = told at h
  cases h with
  | vacates h => exact absurd hnil.symm h.ne_nil
  | starts => simp at hnil
  | started => cases hnil
  | fails _ h => exact absurd hnil.symm h.ne_nil
  | done h => exact Option.some.inj htold ▸ h

/-- What comes of a turn in which the connection was stopped. -/
theorem Comes.endsTurn (h : Comes w.layout before.account after outcome w.account)
    (hgoesOn : GoesOnAt before gate after) : EndsTurn before w outcome gate := by
  generalize hnow : w.account = now at h
  cases hgoesOn with
  | clears => cases h with | cleared => exact ⟨rfl, hnow⟩
  | stops => cases h with | released => exact ⟨rfl, hnow⟩
  | replaces hserved =>
    rename_i config ticket
    have hnot : ¬ before.isServed config = true := by rw [hserved]; exact Bool.false_ne_true
    refine ⟨⟨fun hsame => ?_, fun hyes => absurd hyes hnot⟩, fun hyes => absurd hyes hnot, fun _ => ?_⟩
    · obtain ⟨rfl, -⟩ := hsame
      cases h
    · cases h with
      | renewed hready => exact .inl ⟨rfl, hnow, isServed_of_renewed hnow hready⟩
      | failed => exact .inr ⟨rfl, hnow⟩

/-- What a turn comes to. -/
theorem InTurn.ends (hturn : before.HasTurn task gate) (hin : InTurn before task gate w) (h : Tended w)
    (hunderWay : w.IsUnderWay task) (hreturns : (w.undergo .keeper incident).IsReturning task outcome) :
    (w.undergo .keeper incident).IsCalm ∧ EndsTurn before (w.undergo .keeper incident) outcome gate := by
  obtain ⟨Γ, hordered⟩ := h.ordered
  obtain ⟨t, ht, hne⟩ := hunderWay
  obtain ⟨hrunning', t', ht', hnil⟩ := hreturns
  -- whoever is done then has done something
  have hstep : ∀ {keeperPoint rest' outcome'}, w.tasks.running = some (task, outcome') →
      t.stack = .keeper keeperPoint :: rest' → incident = .step →
      (w.undergo .keeper incident).IsCalm := by
    rintro keeperPoint rest' outcome' hrunning hstack rfl
    exact h.isCalm_step hrunning ht hstack ⟨t', ht', hnil⟩
  cases hin with
  | isOver ht₀ hstack =>
    obtain rfl := Option.some.inj (ht.symm.trans ht₀)
    exact absurd hstack hne
  | begins heq =>
    subst heq
    obtain ⟨t₀, answer, rest', hrunning, ht₀, hstack⟩ := hturn.admitted
    obtain rfl := Option.some.inj (ht.symm.trans ht₀)
    obtain rfl : incident = .step := by
      by_contra hother
      rw [undergo_of_running hrunning hother] at ht'
      obtain rfl := Option.some.inj (ht.symm.trans ht')
      exact hne hnil
    refine ⟨hstep hrunning hstack rfl, ?_⟩
    obtain ⟨same, hsame, ⟨config, ticket, rfl, hserved, -, htold, haccount⟩ | ⟨after, -, hvacating⟩⟩ :=
      hturn.step h.toMinded
    · obtain rfl : outcome = .ok (.bool false) :=
        Option.some.inj ((told?_eq_some.2 hrunning').symm.trans htold)
      have hnow : (w.undergo .keeper .step).account = w.account := haccount
      exact ⟨⟨fun _ => hserved, fun _ => ⟨rfl, congrArg Account.launches hnow⟩⟩, fun _ => hnow,
        fun hno => absurd (hserved.symm.trans hno) Bool.noConfusion⟩
    · obtain rfl := Option.some.inj (ht'.symm.trans hsame)
      exact absurd hnil hvacating.ne_nil
  | goesOn hgoesOn ht₀ hserving =>
    obtain rfl := Option.some.inj (ht.symm.trans ht₀)
    obtain ⟨holder, hmem, hholds⟩ := (hserving.exists_holder hgoesOn.cases_after).resolve_left hne
    obtain ⟨same, hsame, hafter⟩ := hserving.undergo h.toMinded ht hne hgoesOn.cases_after incident
    obtain rfl := Option.some.inj (ht'.symm.trans hsame)
    rw [hnil, told?_eq_some.2 hrunning'] at hafter
    refine ⟨?_, hafter.comes.endsTurn hgoesOn⟩
    -- the task itself has acted, at its last point
    by_cases hown : incident = .step ∧ ∃ outcome, w.tasks.running = some (task, outcome)
    · obtain ⟨rfl, outcome', hrunning⟩ := hown
      obtain ⟨point, rest', hstack⟩ := List.exists_cons_of_ne_nil hne
      obtain ⟨-, -, ⟨t₁, ht₁, hstack₁⟩, -⟩ := hordered.exists_acted hrunning ht hstack
      obtain rfl := Option.some.inj (ht'.symm.trans ht₁)
      obtain ⟨-, rfl⟩ := List.append_eq_nil_iff.1 (hstack₁.symm.trans hnil)
      rw [hstack, List.mem_singleton] at hmem
      subst hmem
      obtain ⟨keeperPoint, rfl⟩ := Point.exists_keeper_of_holds hholds
      exact hstep hrunning hstack rfl
    · obtain ⟨t₁, ht₁, hstack₁⟩ := hordered.undergo_stack ht
        (.inr ⟨holder, hmem, Point.isLater_of_holds hholds⟩)
        fun hstep _ outcome hrunning => absurd ⟨hstep, outcome, hrunning⟩ hown
      obtain rfl := Option.some.inj (ht'.symm.trans ht₁)
      exact absurd (hstack₁.symm.trans hnil) hne

/-- In a turn a program is launched only where the connection was stopped and nobody waits any more. -/
theorem InTurn.launches (hturn : before.HasTurn task gate) (hin : InTurn before task gate w)
    (h : Tended w) (hunderWay : w.IsUnderWay task)
    (hne : (w.undergo .keeper incident).account.launches ≠ w.account.launches) :
    w.IsCalm ∧ w.account = before.account.released := by
  obtain ⟨Γ, hordered⟩ := h.ordered
  obtain ⟨rfl, config, outcome, hacting⟩ := hordered.launches_undergo hne
  refine ⟨h.isCalm_of_acting hacting, ?_⟩
  obtain ⟨t, ht, hstack⟩ := hunderWay
  -- Whoever launches has stopped what there was: only they stand at such a point in their turn.
  cases hin with
  | isOver ht₀ hnil =>
    obtain rfl := Option.some.inj (ht.symm.trans ht₀)
    exact absurd hnil hstack
  | begins heq =>
    subst heq
    obtain ⟨t₀, answer, rest, hrunning, ht₀, hstack₀⟩ := hturn.admitted
    obtain ⟨other, t₁, rest', hrunning₁, ht₁, hstack₁⟩ := exists_task_of_acting hacting
    obtain ⟨rfl, -⟩ := Prod.mk.inj (Option.some.inj (hrunning.symm.trans hrunning₁))
    obtain rfl := Option.some.inj (ht₀.symm.trans ht₁)
    obtain ⟨hpoint, -⟩ := List.cons.inj (hstack₀.symm.trans hstack₁)
    rcases hturn.asks with ⟨_, _, rfl⟩ | ⟨_, rfl⟩ <;> cases hpoint
  | goesOn hgoesOn ht₀ hserving =>
    obtain rfl := Option.some.inj (ht.symm.trans ht₀)
    obtain ⟨holder, hmem, hholds⟩ := (hserving.exists_holder hgoesOn.cases_after).resolve_left hstack
    obtain ⟨rest, hrunning, hstack⟩ := h.acting_holder ht ⟨holder, hmem, hholds⟩ hacting
    rw [hstack] at hserving
    generalize hfirst : Point.keeper (.vacated config) :: rest = stack at hserving
    generalize w.told? task = told at hserving
    generalize w.account = now at hserving ⊢
    cases hserving with
    | vacates hvacates =>
      subst hfirst
      have hfollows : KeeperPoint.FollowsVacating _ := hgoesOn.cases_after.imp id fun h => h.imp id .inl
      obtain ⟨-, -, hreleased⟩ :=
        (hvacates.of_keeper h.toMinded hrunning ht hstack hfollows).resolve_left nofun
      exact hreleased
    | fails hafter hvacates =>
      subst hfirst
      rename_i other
      have hfollows : (KeeperPoint.failed other).FollowsVacating := .inr (.inr (.inr ⟨other, rfl⟩))
      rcases hvacates.of_keeper h.toMinded hrunning ht hstack hfollows with heq | ⟨heq, -⟩ <;> cases heq
    | starts hafter hfront =>
      obtain ⟨first, others, rfl⟩ := List.exists_cons_of_ne_nil hfront
      rw [List.cons_append] at hfirst
      obtain ⟨rfl, rfl⟩ := List.cons.inj hfirst
      cases (h.eq_disconnected hrunning ht hstack
        ⟨.keeper (.connected _), List.mem_append_right _ (List.mem_singleton_self _), rfl⟩).1
    | started => cases (List.cons.inj hfirst).1
    | done => cases hfirst

/-! ## Runs of the keeper -/

/-- A companion process is started and asked for something, and does not answer; then somebody wants
another one, and it is their turn. -/
def anotherWanted : List Incident :=
  .call (.ensure (some { path := "clangd" })) :: (List.replicate 14 .step ++
    .output 0 (Rpc.frame (Rpc.resultMessage (.int 1) (.object []))) :: (List.replicate 12 .step ++
      .call (.ask 0 "query" .null none) :: (List.replicate 3 .step ++
        .call (.ensure (some { path := "other" })) :: List.replicate 2 .step)))

/-- The process does not say goodbye, and ends when it is told to. -/
def lateGoodbye : List Incident :=
  .step :: .time 2000 :: (List.replicate 8 .step ++ .exit 0 0 :: List.replicate 24 .step)

/-- The other process is started, and greets. -/
def otherGreets : List Incident :=
  List.replicate 20 .step ++
    .output 1 (Rpc.frame (Rpc.resultMessage (.int 1) (.object []))) :: List.replicate 8 .step

/-- Whether who closes a connection is about to learn that its goodbye was answered. -/
def learnsGoodbye : Option (Point × Outcome) → Bool
  | some (.connection (.closed _ _), .ok _) => true
  | _ => false

theorem eq_of_learnsGoodbye {acting : Option (Point × Outcome)} (h : learnsGoodbye acting = true) :
    ∃ number channel answer, acting = some (.connection (.closed number channel), .ok answer) := by
  unfold learnsGoodbye at h
  split at h
  · exact ⟨_, _, _, rfl⟩
  · cases h

/-- Whether this is the answer that a companion process serves. -/
def tellsYes : Option Outcome → Bool
  | some (.ok (.bool true)) => true
  | _ => false

theorem eq_of_tellsYes {told : Option Outcome} (h : tellsYes told = true) :
    told = some (.ok (.bool true)) := by
  unfold tellsYes at h
  split at h
  · rfl
  · cases h

end BasiliskServer.World
