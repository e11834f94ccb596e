import BasiliskServer.Proofs.World.Sayings

/-!
# What waits for a connection

Notifications that are passed to a connection before it is ready wait in its queue. They wait until it
has become ready or has been stopped: whatever happens, the queue holds what was accepted since then
(`Queues.undergo`).
-/

namespace BasiliskServer.World

open Json (Value Fields)

variable {Γ : Ledger} {w w' fresh : World} {point : Point} {outcome : Outcome}
  {rest aside : List Point} {next : Next} {incident : Incident} {incidents : List Incident}
  {number channel process : Nat} {s : Shape}

/-! ## One connection -/

theorem phaseOf?_eq_iff {phase : Phase} : w.phaseOf? number = some phase ↔
    ∃ line, w.layout.shape.IsAt number phase line := by
  rw [← Layout.isIn_iff]
  refine ⟨fun h => ?_, phaseOf?_of_isIn⟩
  obtain ⟨c, hc, hphase⟩ := Option.map_eq_some_iff.1 h
  exact ⟨c.bond, bond_of_connection hc, hphase⟩

theorem Lone.eq_zero (h : Lone w) {stage : Stage} (hstage : w.layout.shape.stages[number]? = some stage) :
    number = 0 := by
  have hlt := (List.getElem?_eq_some_iff.1 hstage).1
  have hlength := h.length
  omega

/-- Nobody starts or stops a connection that is ready, and its channel is open. -/
theorem Serial.of_ready {hinge : Option (Point × Outcome)} {handling : List Point}
    (h : Serial sticks s hinge handling) {line : Option Nat} (hat : s.IsAt number .ready line) :
    handling = [] ∧ ∃ channel, line = some channel ∧ s.IsOpen channel := by
  cases h with
  | calm hsettled =>
    rcases hsettled number _ hat with heq | ⟨channel, hsome, hopen, -⟩
    · cases heq
    · exact ⟨rfl, channel, hsome, hopen⟩
  | handled hnumber hstands hsole =>
    obtain rfl := eq_of_busy hsole hat nofun
    unfold Shape.Stands at hstands
    split at hstands
    case h_6 => exact hstands.elim
    all_goals cases hnumber
    · cases (hat.unique hstands.1).1
    · rcases hstands with hstands | hstands <;> cases (hat.unique hstands.1).1
    · obtain ⟨_, hstarting, -⟩ := hstands
      cases (hat.unique hstarting).1
    · cases (hat.unique hstands).1
    · cases (hat.unique hstands.1).1

/-! ## What waits -/

/-- What becomes of the phase and of the queue of a connection, where it may be that somebody stops it. -/
inductive Bond.Turns (stops : Prop) (b b' : Bond) : Prop where
  /-- Nothing. -/
  | keeps (hphase : b'.phase = b.phase) (hqueue : b'.queue = b.queue) (hstops : ¬ stops)
  /-- It begins to start. -/
  | starts (hbefore : b.phase = .stopped) (hphase : b'.phase = .starting) (hqueue : b'.queue = b.queue)
  /-- It is being stopped. -/
  | leaves (hphase : b'.phase = .stopping)
  /-- It has become ready. -/
  | welcomes (hphase : b'.phase = .ready)
  /-- It has been stopped. -/
  | ends (hbefore : b.phase ≠ .stopped ∨ stops) (hphase : b'.phase = .stopped) (hqueue : b'.queue = [])

/-- Those notifications wait that were accepted, unless the connection is being stopped. -/
def Queues (fresh : World) (incidents : List Incident) (w : World) : Prop :=
  ∀ bond, w.layout.bonds[0]? = some bond → bond.phase ≠ .stopping →
    bond.queue = fresh.accepted [] incidents

namespace Layout

variable {l l' : Layout} {f : Facts} {bond : Bond}

theorem bonds_setBond_self (hbond : l.bonds[number]? = some bond) (change : Bond → Bond) :
    (l.setBond number change).bonds[number]? = some (change bond) := by
  simp [setBond, hbond]

theorem phase_of_isAt (hbond : l.bonds[number]? = some bond) {phase : Phase} {line : Option Nat}
    (hat : l.shape.IsAt number phase line) : bond.phase = phase := by
  rw [Shape.IsAt, stage_of_bond hbond] at hat
  exact congrArg Stage.phase (Option.some.inj hat)

end Layout

namespace Attentive

/-- What becomes of the connection when a process is lost. -/
theorem bond_loses (h : Attentive w) {channel process : Nat} {answer : Answer} {code : Option Int}
    (hacts : Acts .connections w w' (.channel (.gone channel process)) (.ok answer) rest aside next)
    {bond : Bond} (hbond : w.layout.bonds[0]? = some bond) (hloses : w.layout.Loses channel code l') :
    ∃ bond', l'.bonds[0]? = some bond' ∧
      bond.Turns (Point.channel (.gone channel process) = .start (.disconnect 0)) bond' := by
  have hfree := h.single
  rw [hacts.hinge?_eq] at hfree
  cases hloses with
  | expected => exact ⟨bond, hbond, .keeps rfl rfl nofun⟩
  | unheard => exact ⟨bond, hbond, .keeps rfl rfl nofun⟩
  | stopping hpipe hopen howner hbond' hphase =>
    rename_i pipe number bond'
    obtain rfl := h.lone.eq_zero (Layout.isIn_iff.1 ⟨bond', hbond', hphase⟩).choose_spec
    obtain rfl := Option.some.inj (hbond.symm.trans hbond')
    refine ⟨{ bond with queue := [] }, ?_, .leaves hphase⟩
    exact Layout.bonds_setBond_self (by rwa [Layout.bonds_rejectOn]) _
  | stops hpipe hopen howner hbond' hphase =>
    -- the connection that the channel belongs to is not stopped, so it is this one
    rename_i pipe number bond'
    obtain ⟨-, -, same, stage, hsame', hstage, hnot⟩ := hfree.lives_of_gone (hacts.mem rfl) hpipe hopen
    obtain rfl : number = same := Owner.connection.inj (howner.symm.trans hsame')
    obtain rfl := h.lone.eq_zero hstage
    obtain rfl := Option.some.inj (hbond.symm.trans hbond')
    obtain rfl : bond.stage = stage := Option.some.inj ((Layout.stage_of_bond hbond).symm.trans hstage)
    have hrejected := (congrArg (·[0]?) (Layout.bonds_rejectOn ((w.layout.shut channel).carry channel none)
      bond.channel (.exited code))).trans hbond
    exact ⟨{ bond with channel := none, queue := [], phase := .stopped },
      Layout.bonds_setBond_self (Layout.bonds_setBond_self hrejected _) _, .ends (.inl hnot) rfl rfl⟩

/-- What becomes of the connection when one is stopped, where nobody else starts or stops one. -/
theorem bond_disconnects (h : Attentive w) (hnobody : w.handlers = []) {f : Facts} {bond : Bond}
    (hbond : w.layout.bonds[0]? = some bond) (hdisconnects : w.layout.Disconnects f number l' next) :
    ∃ bond', l'.bonds[0]? = some bond' ∧
      bond.Turns (Point.start (.disconnect number) = .start (.disconnect 0)) bond' := by
  have hserial := h.serial
  rw [hnobody] at hserial
  cases hserial with
  | calm hsettled =>
  -- Nobody starts or stops a connection, hence none is being stopped.
  cases hdisconnects with
  | keeps hkeeps =>
    refine ⟨bond, hbond, .keeps rfl rfl ?_⟩
    rintro ⟨rfl⟩
    rcases hkeeps with hnone | hstopping
    · rw [hbond] at hnone
      cases hnone
    · obtain ⟨line, hat⟩ := Layout.isIn_iff.1 hstopping
      rcases hsettled.phase_cases hat with heq | heq | ⟨heq, -⟩ <;> cases heq
  | clears hstopped =>
    obtain ⟨line, hat⟩ := Layout.isIn_iff.1 hstopped
    obtain rfl := h.lone.eq_zero hat
    exact ⟨_, Layout.bonds_setBond_self hbond _,
      .ends (.inr rfl) (Layout.phase_of_isAt hbond hat) rfl⟩
  | parts hready =>
    obtain rfl := h.lone.eq_zero hready.isAt
    rw [Layout.bonds_ask]
    exact ⟨_, Layout.bonds_setBond_self hbond _, .leaves rfl⟩
  | closes hbond' _ _ hcloses =>
    obtain rfl := h.lone.eq_zero (Layout.stage_of_bond hbond')
    refine ⟨{ bond with phase := .stopping }, ?_, .leaves rfl⟩
    have hstopping : (w.layout.setPhase 0 .stopping).bonds[0]? = some { bond with phase := .stopping } :=
      Layout.bonds_setBond_self hbond _
    cases hcloses with
    | nothing => exact hstopping
    | closes hcloses => rwa [hcloses.bonds_eq]

/-- What becomes of the connection when a task acts. -/
theorem bond_turns (h : Attentive w) (hacts : Acts .connections w w' point outcome rest aside next)
    (halone : ∀ other, point = .start (.disconnect other) → w.handlers = []) {bond : Bond}
    (hbond : w.layout.bonds[0]? = some bond) : ∃ bond', w'.layout.bonds[0]? = some bond' ∧
      bond.Turns (point = .start (.disconnect 0)) bond' := by
  have hsame : ∀ {l' : Layout}, l'.bonds = w.layout.bonds → point ≠ .start (.disconnect 0) →
      ∃ bond', l'.bonds[0]? = some bond' ∧ bond.Turns (point = .start (.disconnect 0)) bond' :=
    fun hbonds hpoint => ⟨bond, by rw [hbonds]; exact hbond, .keeps rfl rfl hpoint⟩
  have hreset : ∀ {l' : Layout} {number : Nat} {phase : Phase} {line : Option Nat},
      l'.bonds = (w.layout.reset number).bonds → w.layout.shape.IsAt number phase line →
        phase ≠ .stopped → ∃ bond', l'.bonds[0]? = some bond' ∧
          bond.Turns (point = .start (.disconnect 0)) bond' := by
    intro l' number phase line hbonds hat hphase
    obtain rfl := h.lone.eq_zero hat
    rw [hbonds]
    exact ⟨_, Layout.bonds_setBond_self hbond _,
      .ends (.inl (Layout.phase_of_isAt hbond hat ▸ hphase)) rfl rfl⟩
  have hcourse := hacts.course
  generalize hl' : w'.layout = l' at hcourse ⊢
  cases hcourse with
  | hears hpivotal _ hhears =>
    refine hsame (by rw [hhears.rest]) ?_
    rintro rfl
    cases hpivotal
  | loses _ hloses => exact h.bond_loses hacts hbond hloses
  | sends hasks =>
    refine hsame (Layout.bonds_ask ..) ?_
    rintro rfl
    cases hasks
  | connects hconnects =>
    cases hconnects with
    | keeps => exact hsame rfl (by simp)
    | begins hstopped =>
      obtain ⟨line, hat⟩ := Layout.isIn_iff.1 hstopped
      obtain rfl := h.lone.eq_zero hat
      exact ⟨_, Layout.bonds_setBond_self hbond _, .starts (Layout.phase_of_isAt hbond hat) rfl rfl⟩
  | disconnects hdisconnects => exact h.bond_disconnects (halone _ rfl) hbond hdisconnects
  | complies _ hsubsides => exact hsame hsubsides.bonds_eq (by simp)
  | buries hsubsides => exact hsame hsubsides.bonds_eq (by simp)
  | greets => exact hsame (Layout.bonds_ask ..) (by simp)
  | abandons _ hcloses => exact hsame hcloses.bonds_eq (by simp)
  | fails => exact hreset rfl (hacts.stands h.serial rfl).1 (by simp)
  | welcomes hbond' hphase =>
    obtain rfl := h.lone.eq_zero (Layout.isIn_iff.1 ⟨_, hbond', hphase⟩).choose_spec
    refine ⟨{ bond with phase := .ready, queue := [] }, ?_, .welcomes rfl⟩
    simp [Layout.welcome, Layout.clear, Layout.setPhase, Layout.setBond, hbond]
  | refuses _ hcloses => exact hsame hcloses.bonds_eq (by simp)
  | dismisses =>
    obtain ⟨line, hat, -⟩ := hacts.stands h.serial rfl
    exact hreset rfl hat (by simp)
  | parts _ hcloses => exact hsame (hcloses.bonds_eq.trans (Layout.bonds_tellOf _ _ _ _)) (by simp)
  | closed =>
    obtain ⟨hat, -⟩ := hacts.stands h.serial rfl
    refine hreset ?_ hat (by simp)
    simp [Layout.reset, Layout.setBond]
  | comes hactivity =>
    exact (hacts.not_comes hactivity).elim
  -- nobody keeps the connection
  | vacates => cases h.lone.keepers _ (hacts.mem rfl)
  | renews => cases h.lone.keepers _ (hacts.mem rfl)
  | leaves => cases h.lone.keepers _ (hacts.mem rfl)
  | _ => exact hsame rfl (by simp)

/-- There is a connection. -/
theorem exists_bond (h : Attentive w) : ∃ bond, w.layout.bonds[0]? = some bond := by
  have hlength : w.layout.bonds.length = 1 := by simpa [Layout.shape] using h.lone.length
  exact ⟨_, List.getElem?_eq_getElem (by omega)⟩

end Attentive

/-- A task begins what it was started for, and nothing else. -/
theorem Acts.begins?_iff {counter : Counter} {activity : Activity}
    (hacts : Acts counter w w' point outcome rest aside next) :
    point = .start activity ↔ w.begins? .step = some activity := by
  refine ⟨?_, fun hbegins => ?_⟩
  · rintro rfl
    exact hacts.begins?
  · simp only [World.begins?, hacts.acting] at hbegins
    split at hbegins
    · rename_i heq
      obtain ⟨rfl, -⟩ := Prod.mk.inj (Option.some.inj heq)
      rw [Option.some.inj hbegins]
    · cases hbegins

theorem phaseOf?_of_bond {bond : Bond} (h : w.layout.bonds[number]? = some bond) :
    w.phaseOf? number = some bond.phase :=
  phaseOf?_of_isIn ⟨bond, h, rfl⟩

namespace Queues

/-- What was accepted before, and what waits after something else has happened. -/
theorem accepted_next (hrun : fresh.undergoAll .connections incidents = w) (incident : Incident) :
    fresh.accepted [] (incidents ++ [incident]) = if w.clearsQueue incident then [] else
      fresh.accepted [] incidents ++ (w.accepts? incident).toList := by
  rw [accepted_append, hrun]
  rfl

/-- Whether what waits is given up depends on how far the connection is, before and afterwards. -/
theorem clearsQueue_eq {bond bond' : Bond} (hbond : w.layout.bonds[0]? = some bond)
    (hbond' : (w.undergo .connections incident).layout.bonds[0]? = some bond') :
    w.clearsQueue incident = match bond'.phase with
      | .ready => true
      | .stopped => bond.phase ≠ .stopped || (w.begins? incident matches some (.disconnect 0))
      | _ => false := by
  simp only [clearsQueue, phaseOf?_of_bond hbond, phaseOf?_of_bond hbond', Option.some.injEq, ne_eq]
  cases bond'.phase <;> rfl

/-- What waits is what was accepted, after the connection has changed. -/
theorem goes (h : Queues fresh incidents w) (hrun : fresh.undergoAll .connections incidents = w)
    (hnext : Attentive (w.undergo .connections incident)) (haccepts : w.accepts? incident = none)
    {bond bond' : Bond} (hbond : w.layout.bonds[0]? = some bond)
    (hbond' : (w.undergo .connections incident).layout.bonds[0]? = some bond')
    (hturns : bond.Turns (w.begins? incident = some (.disconnect 0)) bond') :
    Queues fresh (incidents ++ [incident]) (w.undergo .connections incident) := by
  intro other hother hnot
  obtain rfl := Option.some.inj (hbond'.symm.trans hother)
  have hready := (hnext.tended 0 bond' hbond').queue
  -- One more incident empties what was accepted, or leaves it; so does it with the queue.
  rw [accepted_next hrun, clearsQueue_eq hbond hbond', haccepts]
  have hstops : (w.begins? incident matches some (.disconnect 0)) = true ↔
      w.begins? incident = some (.disconnect 0) := by
    split <;> simp_all
  cases hturns with
  | keeps hphase hqueue hstays =>
    have hsame := h bond hbond (hphase ▸ hnot)
    cases hphase' : bond.phase <;> simp_all
  | starts hbefore hphase hqueue =>
    have hsame := h bond hbond (by rw [hbefore]; nofun)
    simp [hphase, hqueue, hsame]
  | leaves hphase => exact absurd hphase hnot
  | welcomes hphase => simp [hphase, hready hphase]
  | ends hbefore hphase hqueue => rcases hbefore with hbefore | hbefore <;> simp_all

/-- What waits is what was accepted, whatever happens. -/
theorem undergo (h : Queues fresh incidents w) (hrun : fresh.undergoAll .connections incidents = w)
    (hattentive : Attentive w) (halone : w.startsAndStopsAlone incident = true) :
    Queues fresh (incidents ++ [incident]) (w.undergo .connections incident) := by
  obtain ⟨Γ, hordered⟩ := hattentive.ordered
  obtain ⟨bond, hbond⟩ := hattentive.exists_bond
  have hnext := hattentive.undergo halone
  have hkeeps : (w.undergo .connections incident).layout.bonds = w.layout.bonds →
      w.begins? incident = none → w.accepts? incident = none →
        Queues fresh (incidents ++ [incident]) (w.undergo .connections incident) := fun hsame hidle haccepts =>
    h.goes hrun hnext haccepts hbond (hsame ▸ hbond)
      (.keeps rfl rfl (by rw [hidle]; nofun))
  -- a task acts, a step finds nobody to act, a notification is passed on, or nothing acts
  rcases hordered.turns incident with ⟨point, outcome, rest, aside, next, rfl, hacts⟩ |
    ⟨hstep, hrunning, heq⟩ | ⟨hidle, number, method, params, rfl, hnotifies, -⟩ | ⟨hnotice, hdrifts⟩
  · obtain ⟨bond', hbond', hturns⟩ := hattentive.bond_turns hacts (fun other hpoint => by
      subst hpoint
      exact handlers_eq_nil_of_startsAndStopsAlone halone hacts.begins?) hbond
    refine h.goes hrun hnext rfl hbond hbond' ?_
    rwa [hacts.begins?_iff] at hturns
  · refine hkeeps (by rw [heq]) ?_ ?_
    · cases incident <;> first | exact absurd rfl hstep | rfl
    · obtain ⟨pair, hpair⟩ := Option.isSome_iff_exists.1 hrunning
      unfold accepts?
      split
      · simp [hpair]
      · rfl
  · have haccepts : ∀ {phase : Phase}, bond.phase = phase → phase ≠ .stopped → phase ≠ .starting →
        w.accepts? (.notify number method params) = none := by
      rintro phase rfl hstopped hstarting
      unfold accepts?
      split
      · rw [phaseOf?_of_bond hbond]
        cases hphase : bond.phase <;> simp_all
      · rfl
    generalize hl' : (w.undergo .connections (.notify number method params)).layout = l' at hnotifies
    cases hnotifies with
    | tells hready =>
      obtain rfl := hattentive.lone.eq_zero hready.isAt
      exact hkeeps (by rw [hl', Layout.bonds_tellOf]) rfl
        (haccepts (Layout.phase_of_isAt hbond hready.isAt) nofun nofun)
    | refuses hready =>
      obtain rfl := hattentive.lone.eq_zero hready.isAt
      exact hkeeps (by rw [hl']) rfl (haccepts (Layout.phase_of_isAt hbond hready.isAt) nofun nofun)
    | drops hnone =>
      rcases hnone with hnone | hstopping
      · refine hkeeps (by rw [hl']) rfl ?_
        cases number with
        | zero => rw [hbond] at hnone; cases hnone
        | succ number => rfl
      · obtain ⟨line, hat⟩ := Layout.isIn_iff.1 hstopping
        obtain rfl := hattentive.lone.eq_zero hat
        exact hkeeps (by rw [hl']) rfl (haccepts (Layout.phase_of_isAt hbond hat) nofun nofun)
    | queues hbond' hphase hready =>
      -- only here the queue grows: the connection is there and not ready to be told
      rename_i same
      have hat : w.layout.shape.stages[number]? = some same.stage := Layout.stage_of_bond hbond'
      obtain rfl := hattentive.lone.eq_zero hat
      obtain rfl := Option.some.inj (hbond.symm.trans hbond')
      have hnot : bond.phase ≠ .ready := fun hphase' => by
        obtain ⟨channel, track, hchannel, -⟩ := hattentive.single.led 0 _ hat (by rw [show bond.stage.phase = bond.phase from rfl, hphase']; nofun)
        exact hready channel ⟨bond, hbond, hphase', hchannel⟩
      have hlater : (w.undergo .connections (.notify 0 method params)).layout.bonds[0]? =
          some { bond with queue := bond.queue ++ [(method, params)] } := by
        rw [hl']
        exact Layout.bonds_setBond_self hbond _
      have hqueue : fresh.accepted [] (incidents ++ [.notify 0 method params]) =
          bond.queue ++ [(method, params)] := by
        rw [accepted_next hrun, clearsQueue_eq hbond hlater, ← h bond hbond hphase]
        have hwaits : w.accepts? (.notify 0 method params) = some (method, params) := by
          unfold accepts?
          simp only [hidle, phaseOf?_of_bond hbond]
          cases hcase : bond.phase <;> simp_all
        cases hcase : bond.phase <;> simp_all [begins?]
      intro other hother _
      obtain rfl := Option.some.inj (hlater.symm.trans hother)
      exact hqueue.symm
  · refine hkeeps ?_ ?_ ?_
    · rcases hdrifts.layout with hhears | ⟨_, _, _, hsome, -⟩
      · rw [hhears.rest]
      · cases hsome
    · cases incident <;> first | rfl | simp [begins?, hdrifts.acting]
    · cases incident <;> first | rfl | cases hnotice

end Queues

end BasiliskServer.World
