import BasiliskServer.Proofs.World.Solitude

/-!
# Who waits for answers

Where connections are started and stopped one after the other, whoever waits for an answer waits for
one over the channel of a connection that is at work; while the connection is starting, it is the
answer to the greeting, and nobody but who takes it starts or stops the connection (`Answered`). Every
course keeps it so (`Answered.acts`): whenever a connection is stopped, all that was asked over its
channel is decided.
-/

namespace BasiliskServer.World

variable {Γ Γ' : Ledger} {counter : Counter} {w w' : World} {point : Point} {outcome : Outcome}
  {rest aside : List Point} {next : Next} {s s' : Shape} {wires : List Wiring} {heard heard' : Nat → Prop}
  {handling handling' : List Point} {number channel : Nat} {sticks : Prop}

/-- Whoever goes on with the answer to a greeting has heard it. -/
theorem Acts.heard_greeted (hacts : Acts counter w w' point outcome rest aside next) {answer : Nat}
    (hpoint : point = .connection (.greeted number channel answer)) : w'.facts.heard answer := by
  subst hpoint
  obtain ⟨Γ, result, below, -, hadmits, -⟩ := hacts.sits
  exact hacts.grows.heard answer hadmits.1

theorem Rises.mem {front : List Point} (h : Rises front next) {other : Point} (hother : other ∈ front) :
    other ∈ points next := by
  obtain ⟨minor, hpoints, -⟩ := h
  rw [hpoints]
  exact List.mem_append_right _ hother

/-! ## Who waits for answers -/

/-- Whoever waits for an answer waits for one over the channel of a connection that is at work. -/
structure Answered (s : Shape) (wires : List Wiring) (heard : Nat → Prop) (handling : List Point) :
    Prop where
  /-- While the connection is starting, nobody starts or stops one but who takes the answer. -/
  owned : ∀ (channel : Nat) (wire : Wiring), wires[channel]? = some wire → ∀ q ∈ wire.answers, ¬ heard q →
    ∃ number phase, s.IsAt number phase (some channel) ∧ phase ≠ .stopped ∧
      (phase = .starting → ∀ point ∈ handling, point = .connection (.greeted number channel q))
  /-- A connection that is starting has asked for nothing but the answer to the greeting. -/
  modest : ∀ (number channel : Nat) (wire : Wiring), s.IsAt number .starting (some channel) →
    wires[channel]? = some wire → ∀ method ∈ wire.methods, method = "initialize"

/-- A connection that is in a phase was, if no other gets there. -/
theorem Shape.isAt_of_setStage {phase : Phase} {change : Stage → Stage} {other : Nat} {line : Option Nat}
    (hat : (s.setStage number change).IsAt other phase line)
    (hchange : ∀ stage, (change stage).phase ≠ phase) : s.IsAt other phase line := by
  obtain ⟨old, hold, ⟨-, heq⟩ | ⟨-, rfl⟩⟩ := Tasks.getElem?_modify_cases hat
  · exact absurd (congrArg Stage.phase heq).symm (hchange old)
  · exact hold

namespace Answered

/-- Connections change, and nothing is asked for. -/
theorem moves (h : Answered s wires heard handling) (hheard : ∀ q, heard q → heard' q)
    (hstarts : ∀ number channel, s'.IsAt number .starting (some channel) →
      s.IsAt number .starting (some channel))
    (howned : ∀ number phase channel, s.IsAt number phase (some channel) → phase ≠ .stopped →
      ∃ phase', s'.IsAt number phase' (some channel) ∧ phase' ≠ .stopped ∧
        (phase' = .starting → phase = .starting ∧ ∀ point ∈ handling', point ∈ handling)) :
    Answered s' wires heard' handling' where
  owned := fun channel wire hwire q hq hnot => by
    obtain ⟨number, phase, hat, hphase, hgreeted⟩ :=
      h.owned channel wire hwire q hq fun hold => hnot (hheard q hold)
    obtain ⟨phase', hat', hphase', hstarting⟩ := howned number phase channel hat hphase
    refine ⟨number, phase', hat', hphase', fun heq point hpoint => ?_⟩
    exact hgreeted (hstarting heq).1 point ((hstarting heq).2 point hpoint)
  modest := fun number channel wire hat hwire =>
    h.modest number channel wire (hstarts number channel hat) hwire

/-- Everybody has heard. -/
theorem silent (h : Answered s wires heard handling)
    (hstarts : ∀ number channel, s'.IsAt number .starting (some channel) →
      s.IsAt number .starting (some channel))
    (hall : ∀ (channel : Nat) (wire : Wiring), wires[channel]? = some wire → ∀ q ∈ wire.answers, heard' q) :
    Answered s' wires heard' handling' where
  owned := fun channel wire hwire q hq hnot => absurd (hall channel wire hwire q hq) hnot
  modest := fun number channel wire hat hwire =>
    h.modest number channel wire (hstarts number channel hat) hwire

/-- Connections stay as they are, and nobody begins to start or stop one while one is starting. -/
theorem keeps (h : Answered s wires heard handling) (hheard : ∀ q, heard q → heard' q)
    (hstages : s'.stages = s.stages)
    (hhandling : ∀ number channel, s.IsAt number .starting (some channel) →
      ∀ point ∈ handling', point ∈ handling) :
    Answered s' wires heard' handling' := by
  refine h.moves hheard (fun number channel hat => hat.of_stages hstages.symm) ?_
  intro number phase channel hat hphase
  refine ⟨phase, hat.of_stages hstages, hphase, ?_⟩
  rintro rfl
  exact ⟨rfl, hhandling number channel hat⟩

/-- Something is asked for over the channel of a connection at work. -/
theorem asks (h : Answered s wires heard handling) {phase : Phase} {method : String} {answer : Nat}
    (hat : s.IsAt number phase (some channel)) (hphase : phase ≠ .stopped)
    (hgreeted : phase = .starting →
      ∀ point ∈ handling, point = .connection (.greeted number channel answer))
    (hmodest : method = "initialize" ∨ ∀ other, ¬ s.IsAt other .starting (some channel)) :
    Answered s (wires.modify channel (·.ask method answer)) heard handling where
  owned := fun line wire hwire q hq hnot => by
    obtain ⟨old, hold, ⟨rfl, rfl⟩ | ⟨-, rfl⟩⟩ := Tasks.getElem?_modify_cases hwire
    · rcases List.mem_append.1 hq with hq | hq
      · exact h.owned _ old hold q hq hnot
      · obtain rfl := List.mem_singleton.1 hq
        exact ⟨number, phase, hat, hphase, hgreeted⟩
    · exact h.owned line wire hold q hq hnot
  modest := fun other line wire hat hwire method hmethod => by
    obtain ⟨old, hold, ⟨rfl, rfl⟩ | ⟨-, rfl⟩⟩ := Tasks.getElem?_modify_cases hwire
    · rcases List.mem_append.1 hmethod with hmethod | hmethod
      · exact h.modest other _ old hat hold method hmethod
      · rw [List.mem_singleton.1 hmethod]
        exact hmodest.resolve_right fun hnone => hnone other hat
    · exact h.modest other line wire hat hold method hmethod

/-- A connection that is at work begins to be stopped, while no other one is starting. -/
theorem setPhase (h : Answered s wires heard handling)
    (hnone : ∀ other line, s.IsAt other .starting line → number = other) :
    Answered (s.setPhase number .stopping) wires heard handling' := by
  have hcases : ∀ {other phase line}, (s.setPhase number .stopping).IsAt other phase line →
      phase = .stopping ∨ s.IsAt other phase line := by
    intro other phase line hat
    obtain ⟨old, hold, ⟨rfl, heq⟩ | ⟨-, rfl⟩⟩ := Tasks.getElem?_modify_cases hat
    · exact .inl (Stage.mk.inj heq).1
    · exact .inr hold
  refine h.moves (fun _ => id) (fun other line hat => (hcases hat).resolve_left nofun) ?_
  intro other phase line hat hphase
  by_cases heq : other = number
  · subst heq
    exact ⟨.stopping, Shape.isAt_setStage hat _, nofun, nofun⟩
  · refine ⟨phase, ?_, hphase, ?_⟩
    · simpa [Shape.IsAt, Shape.setPhase, Shape.setStage, List.getElem?_modify, Ne.symm heq] using hat
    · rintro rfl
      exact absurd (hnone other _ hat).symm heq

/-- A connection begins to start, while all are stopped. -/
theorem beginStart (h : Answered s wires heard handling) (hlength : wires.length = s.tracks.length)
    (hstopped : ∀ (other : Nat) (stage : Stage), s.stages[other]? = some stage → stage.phase = .stopped) :
    Answered (s.beginStart number) (wires ++ [⟨[], []⟩]) heard handling' := by
  have hnew : ∀ {channel : Nat} {wire : Wiring}, (wires ++ [⟨[], []⟩])[channel]? = some wire →
      wires[channel]? = some wire ∨ wire = ⟨[], []⟩ :=
    fun hwire => (Tasks.getElem?_concat_cases hwire).imp_right And.right
  refine ⟨fun channel wire hwire q hq hnot => ?_, fun other channel wire hat hwire method hmethod => ?_⟩
  · rcases hnew hwire with hold | rfl
    · obtain ⟨other, phase, hat, hphase, -⟩ := h.owned channel wire hold q hq hnot
      exact absurd (hstopped other _ hat) hphase
    · cases hq
  · rcases hnew hwire with hold | rfl
    · obtain ⟨old, hstage, ⟨rfl, heq⟩ | ⟨-, rfl⟩⟩ := Tasks.getElem?_modify_cases hat
      · -- the new channel has no wire yet
        have hlt := (List.getElem?_eq_some_iff.1 hold).1
        obtain rfl := Option.some.inj (Stage.mk.inj heq).2
        omega
      · exact h.modest other channel wire hstage hold method hmethod
    · cases hmethod

/-- There is another connection, which is stopped. -/
theorem addStage (h : Answered s wires heard handling) : Answered s.addStage wires heard handling := by
  have hcases : ∀ {other : Nat} {phase : Phase} {line : Option Nat}, s.addStage.IsAt other phase line →
      s.IsAt other phase line ∨ phase = .stopped :=
    fun hat => (Shape.stages_addStage_cases hat).imp_right fun hnew => congrArg Stage.phase hnew.2
  refine h.moves (fun _ => id) (fun other line hat => (hcases hat).resolve_right (by simp)) ?_
  intro other phase line hat hphase
  exact ⟨phase, Tasks.getElem?_append_of_some hat _, hphase, fun hstarting => ⟨hstarting, fun _ => id⟩⟩

end Answered

theorem Layout.Subsides.stages {l l' : Layout} (h : l.Subsides channel l' next) :
    l'.shape.stages = l.shape.stages := by
  cases h <;> simp [Shape.carry, Shape.setTrack]

/-! ## What is rejected -/

/-- All that was asked over a channel is heard of when its requests are rejected. -/
theorem heard_of_rejected (hordered : Ordered counter Γ w) (hordered' : Ordered counter Γ' w')
    {pipe pipe' : Pipe} {failure : Failure} (hpipe : w.layout.pipes[channel]? = some pipe)
    (hpipe' : w'.layout.pipes[channel]? = some pipe') (hanswers : pipe'.answers = pipe.answers)
    (hrequests : pipe'.requests = pipe.requests.rejectAll failure) :
    ∀ q ∈ pipe.answers, w'.facts.heard q := by
  intro q hq
  rw [layout_pipes_getElem?] at hpipe hpipe'
  obtain ⟨c, hc, rfl⟩ := Option.map_eq_some_iff.1 hpipe
  obtain ⟨c', hc', rfl⟩ := Option.map_eq_some_iff.1 hpipe'
  have hcarries := hordered.kept.channels channel c hc
  obtain ⟨i, hi⟩ := List.getElem?_of_mem hq
  have hlt : i < c.requests.sent.length := by
    rw [← hcarries.length]
    exact (List.getElem?_eq_some_iff.1 hi).1
  have hdecided := Rpc.Requests.isSome_rejectAll hcarries.valid failure hlt
  by_contra hnot
  have hopen := hordered'.kept.undecided channel c' i q hc' (by rw [show c'.answers = c.answers from hanswers]; exact hi)
    List.not_mem_nil (by simpa [facts] using hnot)
  rw [show c'.requests = c.requests.rejectAll failure from hrequests] at hopen
  rw [hopen] at hdecided
  cases hdecided

namespace Answered

section

variable (hacts : Acts counter w w' point outcome rest aside next)
  (hserial : Serial sticks w.layout.shape w.hinge? w.handlers)
  (h : Answered w.layout.shape w.layout.wires w.facts.heard w.handlers)

include hacts h

/-- Nobody begins to start or stop a connection. -/
theorem idle {heard' : Nat → Prop} {wires' : List Wiring} (hfollows : Follows next [])
    (hheard : ∀ q, w.facts.heard q → heard' q) (hstages : s'.stages = w.layout.shape.stages)
    (hwires : wires' = w.layout.wires) : Answered s' wires' heard' w'.handlers := by
  subst hwires
  refine h.keeps hheard hstages fun _ _ _ other hother => ?_
  rw [(hacts.handlers_after hfollows).mem_iff] at hother
  exact hacts.handlers_before.mem_iff.2 (List.mem_append_right _ hother)

include hserial

/-- Whoever waits for an answer while a connection is started or stopped waits for one of it. -/
theorem owner_of_handled (hnumber : point.handled? = some number)
    {wire : Wiring} (hwire : w.layout.wires[channel]? = some wire) {q : Nat} (hq : q ∈ wire.answers)
    (hnot : ¬ w'.facts.heard q) :
    ∃ phase, w.layout.shape.IsAt number phase (some channel) ∧ phase ≠ .stopped ∧ phase ≠ .starting := by
  have hmem := hacts.mem_handlers hnumber
  obtain ⟨-, -, same, hsame, hsole⟩ := hserial.of_mem hmem
  obtain rfl := Option.some.inj (hsame.symm.trans hnumber)
  obtain ⟨other, phase, hat, hphase, hgreeted⟩ :=
    h.owned channel wire hwire q hq fun hheard => hnot (hacts.grows.heard q hheard)
  obtain rfl := Serial.eq_of_busy hsole hat hphase
  -- the only one to wait for the answer to a greeting is the one that goes on
  exact ⟨phase, hat, hphase, fun hstarting => hnot (hacts.heard_greeted (hgreeted hstarting point hmem))⟩

/-- Where a connection that is starting is started or stopped, nobody waits for an answer any more. -/
theorem quiet (hnumber : point.handled? = some number) {line : Option Nat}
    (hat : w.layout.shape.IsAt number .starting line) :
    ∀ (channel : Nat) (wire : Wiring), w.layout.wires[channel]? = some wire →
      ∀ q ∈ wire.answers, w'.facts.heard q := by
  intro channel wire hwire q hq
  by_contra hnot
  obtain ⟨phase, hat', -, hphase⟩ := h.owner_of_handled hacts hserial hnumber hwire hq hnot
  exact hphase (hat.unique hat').1

/-- The process of a connection that is starting is asked first, and whoever goes on takes the answer. -/
theorem asks_first {answer : Nat} (hnumber : point.handled? = some number)
    (hat : w.layout.shape.IsAt number .starting (some channel)) (hfollows : Follows next handling)
    (hhandling : ∀ other ∈ handling, other = .connection (.greeted number channel answer)) :
    Answered w.layout.shape (w.layout.wires.modify channel (·.ask "initialize" answer)) w'.facts.heard
      w'.handlers := by
  have hsilent : Answered w.layout.shape w.layout.wires w'.facts.heard w'.handlers :=
    h.silent (fun _ _ => id) (h.quiet hacts hserial hnumber hat)
  refine hsilent.asks hat nofun (fun _ other hother => hhandling other ?_) (.inl rfl)
  exact (hacts.handlers_replaced hserial hnumber hfollows).mem_iff.1 hother

end

/-- The requests of a channel are rejected when its process is lost. -/
theorem loses {process : Nat} {code : Option Int} {ended : Nat → Prop} {l' : Layout}
    (hacts : Acts counter w w' (.channel (.gone channel process)) outcome rest aside next)
    (hl' : w'.layout = l') (hordered : Ordered counter Γ w) (hordered' : Ordered counter Γ' w')
    (hsingle : Single w.layout.shape ended w.places none) (hloses : w.layout.Loses channel code l')
    (hfollows : Follows next []) (h : Answered w.layout.shape w.layout.wires w.facts.heard w.handlers) :
    Answered l'.shape l'.wires w'.facts.heard w'.handlers := by
  have hkeeps : ∀ {s' : Shape}, s'.stages = w.layout.shape.stages →
      Answered s' w.layout.wires w'.facts.heard w'.handlers := fun hstages =>
    h.idle hacts hfollows hacts.grows.heard hstages rfl
  rw [hloses.wires_eq]
  cases hloses with
  | expected => exact hkeeps rfl
  | unheard => exact hkeeps (by simp [Shape.carry, Shape.shut, Shape.setTrack])
  | stopping => exact hkeeps (by simp [Shape.carry, Shape.shut, Shape.setTrack])
  | stops hpipe hopen howner hbond hphase =>
    rename_i pipe number bond
    obtain ⟨-, hlast, hlives⟩ := hsingle.lives_of_gone (hacts.mem rfl) hpipe hopen
    -- Whatever is on its way goes through this channel,
    -- so all that it owes is rejected and heard of.
    have hline : ∀ {other : Nat} {stage : Stage}, w.layout.shape.stages[other]? = some stage →
        stage.phase ≠ .stopped → stage.channel = some channel := by
      intro other stage hstage hnot
      obtain ⟨line, -, hchannel, hlast', -⟩ := hsingle.led other stage hstage hnot
      rw [hchannel, hlast.unique hlast']
    obtain ⟨same, stage, hsame, hstage, hnot⟩ := hlives
    obtain rfl : number = same := Owner.connection.inj (howner.symm.trans hsame)
    have hchannel : bond.channel = some channel := by
      obtain rfl := Option.some.inj ((Layout.stage_of_bond hbond).symm.trans hstage)
      rw [← hline (Layout.stage_of_bond hbond) hnot]
      rfl
    refine h.silent (fun other line hat => ?_) fun line wire hwire q hq => ?_
    · rw [Layout.shape_report, Layout.shape_reset, Layout.shape_clear, Layout.shape_rejectOn,
        Layout.shape_carry, Layout.shape_shut] at hat
      exact (Shape.isAt_of_setStage hat fun _ h => (by cases h)).of_stages rfl
    · by_contra hheard
      obtain ⟨other, phase, hat, hphase', -⟩ :=
        h.owned line wire hwire q hq fun hheard' => hheard (hacts.grows.heard q hheard')
      have hsameLine : line = channel := Option.some.inj (hline hat hphase')
      rw [hsameLine, Layout.wires_getElem?, hpipe] at hwire
      obtain rfl := Option.some.inj hwire
      have hpipe' : w'.layout.pipes[channel]? = some { pipe with
          closing := true, process := none, requests := pipe.requests.rejectAll (.exited code) } := by
        rw [hl', hchannel]
        simp [Layout.report, Layout.reset, Layout.clear, Layout.setBond, Layout.rejectOn,
          Layout.rejectAll, Layout.carry, Layout.shut, Layout.setPipe, hpipe]
      exact hheard (heard_of_rejected hordered hordered' hpipe hpipe' rfl rfl q hq)

/-- A connection is stopped, while no other one is starting. -/
theorem disconnects {l l' : Layout} {f : Facts} {inner : Next} (hcourse : l.Disconnects f number l' inner)
    (hnone : ∀ {phase line}, l.shape.IsAt number phase line → phase ≠ .stopped →
      ∀ other line', l.shape.IsAt other .starting line' → number = other)
    (hidle : Follows inner [] → Answered l.shape l.wires heard handling')
    (h : Answered l.shape l.wires heard handling) : Answered l'.shape l'.wires heard handling' := by
  cases hcourse with
  | keeps => exact hidle (.idle (rises_go _ _))
  | clears => simpa using hidle (.idle (rises_go _ _))
  | parts hready _ =>
    rw [Layout.shape_ask, Layout.shape_setPhase, Layout.wires_ask, Layout.wires_setPhase]
    refine (h.setPhase (hnone hready.isAt nofun)).asks (Shape.isAt_setStage hready.isAt _) nofun nofun
      (.inr fun other hat => ?_)
    -- the connection that is stopped is the only one that might have been starting
    have hat' := Shape.isAt_of_setStage hat fun _ => nofun
    obtain rfl := hnone hready.isAt nofun other _ hat'
    cases (hready.isAt.unique hat').1
  | closes hbond hchannel hphase hcloses =>
    rename_i bond line closing
    have hat : l.shape.IsAt number bond.phase bond.channel := Layout.stage_of_bond hbond
    have hnot : bond.phase ≠ .stopped := by
      rcases hphase with hphase | ⟨hphase, -⟩ <;> rw [hphase] <;> nofun
    have hstopping : Answered (l.setPhase number .stopping).shape (l.setPhase number .stopping).wires
        heard handling' := by
      rw [Layout.shape_setPhase]
      exact h.setPhase (hnone hat hnot)
    cases hcloses with
    | nothing => exact hstopping
    | closes hcloses =>
      rw [hcloses.wires_eq]
      exact hstopping.keeps (fun _ => id) hcloses.stages fun _ _ _ _ => id

/-- A connection is started, while all are stopped unless it is not. -/
theorem connects {l l' : Layout} {inner : Next} (hcourse : l.Connects number l' inner)
    (hstopped : l.IsIn .stopped number → ∀ (other : Nat) (stage : Stage),
      l.shape.stages[other]? = some stage → stage.phase = .stopped)
    (hidle : Follows inner [] → Answered l.shape l.wires heard handling')
    (h : Answered l.shape l.wires heard handling) : Answered l'.shape l'.wires heard handling' := by
  cases hcourse with
  | keeps _ hnext => exact hidle (.idle hnext)
  | begins hbegins =>
    rw [Layout.shape_beginStart, Layout.wires_beginStart]
    exact h.beginStart (by simp [Layout.wires, Layout.shape]) (hstopped hbegins)

/-- Whoever waits for an answer waits for one over the channel of a connection at work, whatever course
a task takes. -/
theorem acts (hacts : Acts counter w w' point outcome rest aside next) (hordered : Ordered counter Γ w)
    (hordered' : Ordered counter Γ' w') (hserial : Serial sticks w.layout.shape w.hinge? w.handlers)
    (hclears : Clears w point) (hsingle : Single w.layout.shape w.done w.places w.hinge?)
    (h : Answered w.layout.shape w.layout.wires w.facts.heard w.handlers) :
    Answered w'.layout.shape w'.layout.wires w'.facts.heard w'.handlers := by
  -- where stages and wires stay, whoever waits still waits for the same
  have hkeeps : ∀ {s' : Shape} {wires' : List Wiring}, s'.stages = w.layout.shape.stages →
      wires' = w.layout.wires → Follows next [] → Answered s' wires' w'.facts.heard w'.handlers :=
    fun hstages hwires hfollows => h.idle hacts hfollows hacts.grows.heard hstages hwires
  have hgrown : Answered w.layout.shape w.layout.wires w'.facts.heard w.handlers :=
    h.keeps hacts.grows.heard rfl fun _ _ _ _ => id
  -- a connection that is reset starts no more, and no other one begins to
  have hreset : ∀ {number : Nat} (other channel : Nat),
      (w.layout.shape.reset number).IsAt other .starting (some channel) →
        w.layout.shape.IsAt other .starting (some channel) :=
    fun other channel hat => Shape.isAt_of_setStage hat fun _ => nofun
  have hcourse := hacts.course
  generalize hl' : w'.layout = l' at hcourse ⊢
  cases hcourse with
  | hears _ _ hhears hnext => exact hkeeps (by rw [hhears.shape_eq]) hhears.wires_eq (.idle hnext)
  | watches _ hnext => exact hkeeps rfl rfl (.of_rises hnext rfl nofun)
  | drains hnext => exact hkeeps rfl rfl (.of_rises hnext rfl nofun)
  | loses _ hloses =>
    rw [hacts.hinge?_eq] at hsingle
    exact h.loses hacts hl' hordered hordered' hsingle hloses (.idle (rises_go _ _))
  | sends _ hready hnext =>
    rw [Layout.shape_ask, Layout.wires_ask]
    exact (hkeeps rfl rfl (.idle hnext)).asks hready.isAt nofun nofun
      (.inr fun _ => hserial.not_starting hready.isAt)
  | connects hconnects =>
    exact hgrown.connects hconnects (fun hstopped => (hclears.1 _ rfl hstopped).stages) (hkeeps rfl rfl)
  | disconnects hdisconnects =>
    exact hgrown.disconnects hdisconnects (fun hat hphase _ _ => hserial.eq_of_starting hat hphase)
      (hkeeps rfl rfl)
  | complies _ hsubsides => exact hkeeps hsubsides.stages hsubsides.wires_eq hsubsides.follows
  | kills _ hnext => exact hkeeps rfl rfl (.of_rises hnext rfl nofun)
  | buries hsubsides => exact hkeeps hsubsides.stages hsubsides.wires_eq hsubsides.follows
  | greets hstarting hnext =>
    obtain ⟨hat, -⟩ := hacts.stands hserial rfl
    rw [Layout.shape_ask, Layout.wires_ask]
    exact h.asks_first hacts hserial rfl hat (.of_rises hnext rfl nofun) fun _ => List.mem_singleton.1
  | falters =>
    obtain ⟨hat, -⟩ := hacts.stands hserial rfl
    rw [Layout.shape_list, Layout.wires_list]
    exact h.asks_first hacts hserial rfl hat (.idle (rises_go _ _)) fun _ hother =>
      absurd hother List.not_mem_nil
  | abandons hnot => exact absurd (Layout.isIn_iff.2 ⟨_, (hacts.stands hserial rfl).1⟩) hnot
  | fails =>
    obtain ⟨hat, -⟩ := hacts.stands hserial rfl
    rw [Layout.shape_reset]
    exact h.silent hreset (h.quiet hacts hserial rfl hat)
  | welcomes hbond hphase =>
    have hat := (hacts.stands hserial rfl).of_starting ⟨_, hbond, hphase⟩
    rw [Layout.wires_welcome, Layout.shape_welcome]
    exact h.silent (fun _ _ hafter => Shape.isAt_of_setStage hafter fun _ => nofun)
      (h.quiet hacts hserial rfl hat.1)
  | refuses hstarting hcloses =>
    have hat := (hacts.stands hserial rfl).of_starting hstarting
    rw [hcloses.wires_eq]
    exact h.silent (fun _ _ hafter => hafter.of_stages hcloses.stages.symm)
      (h.quiet hacts hserial rfl hat.1)
  | dismisses =>
    obtain ⟨line, hat, -⟩ := hacts.stands hserial rfl
    rw [Layout.shape_reset]
    exact h.silent hreset (h.quiet hacts hserial rfl hat)
  | parts _ hcloses =>
    have hstages := hcloses.stages
    have hwires := hcloses.wires_eq
    rw [Layout.shape_tellOf] at hstages
    rw [Layout.wires_tellOf] at hwires
    rw [hwires]
    -- the connection is being stopped, so that none is starting
    have hat : w.layout.shape.IsAt _ .stopping (some _) := hacts.stands hserial rfl
    refine hgrown.keeps (fun _ => id) hstages fun other line hstarting => ?_
    obtain rfl := hserial.eq_of_starting hat nofun hstarting
    cases (hat.unique hstarting).1
  | closed =>
    rename_i number channel answer
    obtain ⟨hat, hsome⟩ := hacts.stands hserial rfl
    rw [Layout.wires_reset, Layout.wires_rejectOn, Layout.shape_reset, Layout.shape_rejectOn]
    -- all requests over the channel were rejected, so that nobody waits for an answer over it
    refine h.silent hreset fun line wire hwire q hq => ?_
    by_contra hheard
    obtain ⟨phase, hat', -⟩ := h.owner_of_handled hacts hserial rfl hwire hq hheard
    obtain rfl := (hat.unique hat').2
    rw [Layout.wires_getElem?] at hwire
    obtain ⟨pipe, hpipe, rfl⟩ := Option.map_eq_some_iff.1 hwire
    have hpipe' : w'.layout.pipes[line]? =
        some { pipe with requests := pipe.requests.rejectAll (.exited none) } := by
      rw [hl']
      simp [Layout.reset, Layout.setBond, Layout.rejectOn, Layout.rejectAll, Layout.setPipe, hpipe]
    exact hheard (heard_of_rejected hordered hordered' hpipe hpipe' rfl rfl q hq)
  | vacates _ hvacates =>
    cases hvacates with
    | vacant => exact hkeeps rfl rfl ((Follows.idle (rises_go _ _)).under_keeper _)
    | leaves _ hleaves =>
      exact Answered.disconnects hleaves (fun hat hphase _ _ => hserial.eq_of_starting hat hphase)
        (fun hinner => hkeeps rfl rfl ((hinner.under_keeper _).under_keeper _)) hgrown
  | renews hrenews =>
    have hclear := hclears.2 _ rfl
    refine Answered.connects hrenews (fun _ => ?_) (fun hinner => ?_)
      (show Answered _ _ _ w.handlers from ?_)
    · rw [Layout.shape_addBond]
      exact hclear.addStage.stages
    · rw [Layout.shape_addBond, Layout.wires_addBond]
      exact (hkeeps rfl rfl (hinner.under_keeper _)).addStage
    · rw [Layout.shape_addBond, Layout.wires_addBond]
      exact hgrown.addStage
  | comes _ hnext => exact hkeeps rfl rfl (.of_rises hnext rfl (by simp))
  | _ =>
    exact hkeeps (by simp [Shape.carry, Shape.setTrack, Shape.addScript]) (by simp)
      (.idle (rises_go _ _))

/-- Where nobody acts, whoever waits for an answer waits for it as before. -/
theorem drifts {notice : Option (Nat × String × Json.Value)} (hdrifts : Drifts w w' notice)
    (h : Answered w.layout.shape w.layout.wires w.facts.heard w.handlers) :
    Answered w'.layout.shape w'.layout.wires w'.facts.heard w'.handlers := by
  rw [hdrifts.shape_eq, hdrifts.wires_eq]
  exact h.keeps hdrifts.grows.heard rfl fun _ _ _ _ => (hdrifts.places.filter _).mem_iff.1

end Answered

/-! ## Runs of a connection -/

/-- A connection that one task at a time starts or stops, and who waits for answers of its processes. -/
structure Attentive (w : World) : Prop extends Orderly w where
  /-- Whoever waits for an answer waits for one over the channel of a connection at work. -/
  answered : Answered w.layout.shape w.layout.wires w.facts.heard w.handlers
  /-- Nothing waits where the connection is ready. -/
  tended : w.layout.IsTended

namespace Attentive

variable {incident : Incident}

/-- What happens leaves a connection so, if one task at a time starts or stops it. -/
theorem undergo (h : Attentive w) (halone : w.startsAndStopsAlone incident = true) :
    Attentive (w.undergo .connections incident) := by
  have horderly := h.toOrderly.undergo (startsAlone_of_startsAndStopsAlone halone)
    fun number hbegins => handlers_eq_nil_of_startsAndStopsAlone halone hbegins
  obtain ⟨Γ, hordered⟩ := h.ordered
  obtain ⟨Γ', -, -, hordered'⟩ := hordered.undergo incident
  rcases hordered.shifts incident with heq | ⟨point, outcome, rest, aside, next, rfl, hacts⟩ | hdrifts
  · rwa [heq]
  · have hclears := h.lone.clears hordered hacts (startsAlone_of_startsAndStopsAlone halone)
    refine ⟨horderly, h.answered.acts hacts hordered hordered' h.serial hclears h.single, ?_⟩
    refine hacts.course.tended ?_ h.tended
    rintro other rfl
    cases h.lone.keepers _ (hacts.mem rfl)
  · refine ⟨horderly, h.answered.drifts hdrifts, ?_⟩
    rcases hdrifts.layout with hhears | ⟨number, _, _, -, hnotifies⟩
    · exact h.tended.of_bonds (by rw [hhears.rest])
    · refine hnotifies.tended h.tended fun bond hbond hready => ?_
      obtain ⟨channel, hchannel, -⟩ := h.single.exists_channel hbond (by rw [hready]; nofun)
      rw [hchannel]
      rfl

theorem undergoAll {incidents : List Incident} (h : Attentive w)
    (halone : w.allowsAll .connections startsAndStopsAlone incidents = true) :
    Attentive (w.undergoAll .connections incidents) := by
  induction incidents generalizing w with
  | nil => exact h
  | cons incident rest ih =>
    obtain ⟨hfirst, hrest⟩ := allowsAll_cons.1 halone
    exact ih (h.undergo hfirst) hrest

/-- Before anything has happened. -/
theorem ofConnection (host : Files.Host) (companions : List CompanionScript)
    (config : Companion.Config) (capabilities : Json.Value)
    (greetingLimit partingLimit room : Option Nat) :
    Attentive
      (World.ofConnection host companions config capabilities greetingLimit partingLimit room) := by
  refine ⟨.ofConnection host companions config capabilities greetingLimit partingLimit room,
    ⟨fun channel wire hwire => ?_, fun number channel wire _ hwire => ?_⟩, fun number bond hbond => ?_⟩
  · cases (List.getElem?_nil (α := Wiring)).symm.trans hwire
  · cases (List.getElem?_nil (α := Wiring)).symm.trans hwire
  · rw [List.mem_singleton.1 (List.mem_of_getElem? hbond)]
    exact ⟨nofun, rfl⟩

end Attentive

end BasiliskServer.World
