import BasiliskServer.Proofs.World.Handling

/-!
# Every course goes one after the other

Every course keeps connections as far as the only task says that starts or stops one (`Serial.acts`),
and so does what happens while nobody acts (`Serial.drifts`).
-/

namespace BasiliskServer.World

variable {Γ : Ledger} {counter : Counter} {w w' : World} {point : Point} {outcome : Outcome}
  {rest aside : List Point} {next : Next}
variable {s s' : Shape} {hinge hinge' : Option (Point × Outcome)} {ended : Nat → Prop}
  {pts handling : List Point} {number channel : Nat} {sticks : Prop}

/-! ## Small steps -/

namespace Serial

variable (hacts : Acts counter w w' point outcome rest aside next)

include hacts

/-- A task goes on that does not start or stop a connection. -/
theorem passes (hpoint : point.isHandling = false) (hfollows : Follows next [])
    (h : Serial sticks s hinge w.handlers)
    (hcalm : (rest ++ aside).filter Point.isHandling = [] → s.IsSettled sticks → s'.IsSettled sticks)
    (hhandled : ∀ (other : Point) (number : Nat), (rest ++ aside).filter Point.isHandling = [other] →
      other.handled? = some number → s.Stands hinge other → s.IsSole number →
        s'.Stands w'.hinge? other ∧ s'.IsSole number) : Serial sticks s' w'.hinge? w'.handlers := by
  have hbefore := hacts.handlers_before
  rw [show [point].filter Point.isHandling = [] by simp [hpoint], List.nil_append] at hbefore
  refine .perm ?_ (hacts.handlers_after hfollows)
  have h' := h.perm hbefore.symm
  rw [List.nil_append]
  generalize (rest ++ aside).filter Point.isHandling = others at h' hcalm hhandled
  cases h' with
  | calm h => exact .calm (hcalm rfl h)
  | handled hnumber hstands hsole =>
    obtain ⟨hstands', hsole'⟩ := hhandled _ _ rfl hnumber hstands hsole
    exact .handled hnumber hstands' hsole'

/-- A task goes on that starts or stops a connection. -/
theorem replaces (hnumber : point.handled? = some number) (hfollows : Follows next handling)
    (h : Serial sticks s hinge w.handlers)
    (hnext : s.Stands hinge point → s.IsSole number → Serial sticks s' w'.hinge? handling) :
    Serial sticks s' w'.hinge? w'.handlers := by
  have hpoint := Point.isHandling_of_handled? hnumber
  have hbefore := hacts.handlers_before
  rw [show [point].filter Point.isHandling = [point] by simp [hpoint]] at hbefore
  refine .perm ?_ (hacts.handlers_after hfollows)
  have h' := h.perm hbefore.symm
  generalize (rest ++ aside).filter Point.isHandling = others at h'
  cases h' with
  | handled hnumber' hstands hsole =>
    obtain rfl := Option.some.inj (hnumber'.symm.trans hnumber)
    simpa using hnext hstands hsole

/-- A task begins to start or stop a connection. -/
theorem begins (hfollows : Follows next handling)
    (hnobody : w.handlers = []) (h : Serial sticks s hinge w.handlers)
    (hnext : s.IsSettled sticks → Serial sticks s' w'.hinge? handling) :
    Serial sticks s' w'.hinge? w'.handlers := by
  have hbefore := hacts.handlers_before
  rw [hnobody] at hbefore h
  have hnone : (rest ++ aside).filter Point.isHandling = [] :=
    (List.append_eq_nil_iff.1 hbefore.symm.eq_nil).2
  refine .perm ?_ (hacts.handlers_after hfollows)
  rw [hnone, List.append_nil]
  cases h with
  | calm h => exact hnext h

/-- Nothing changes. -/
theorem stays (hpoint : point.isHandling = false) (hfollows : Follows next [])
    (hmet : ∀ channel, ¬ Shape.IsMet hinge channel) (hmet' : ∀ channel, ¬ Shape.IsMet w'.hinge? channel)
    (h : Serial sticks s hinge w.handlers) : Serial sticks s w'.hinge? w'.handlers :=
  h.passes hacts hpoint hfollows (fun _ => id) fun _ _ _ _ hstands hsole =>
    ⟨hstands.rehinge fun channel => iff_of_false (hmet' channel) (hmet channel), hsole⟩

end Serial

namespace Acts

variable (hacts : Acts counter w w' point outcome rest aside next)

include hacts

/-- No process was met before. -/
theorem not_met (hpoint : ∀ number line, point ≠ .connection (.opened number line)) (channel : Nat) :
    ¬ Shape.IsMet w.hinge? channel := by
  rintro ⟨number, answer, hhinge⟩
  rw [hacts.hinge?_eq] at hhinge
  split at hhinge
  · exact hpoint number channel (Prod.mk.inj (Option.some.inj hhinge)).1
  · cases hhinge

/-- No process is met now. -/
theorem not_meets (hfollows : Follows next handling) (hpoint : ∀ line, point ≠ .channel (.opened line))
    (channel : Nat) : ¬ Shape.IsMet w'.hinge? channel := by
  intro hmet
  obtain ⟨-, other, -, heq, -⟩ := hacts.of_isMet hfollows hmet
  exact hpoint other heq

end Acts

theorem Layout.isIn_iff {l : Layout} {phase : Phase} :
    l.IsIn phase number ↔ ∃ channel, l.shape.IsAt number phase channel := by
  unfold Layout.IsIn Shape.IsAt
  rw [Layout.shape_stages_getElem?]
  cases l.bonds[number]? with
  | none => simp
  | some bond => simp [Bond.stage, Stage.mk.injEq, eq_comm]

/-- Who closes a channel goes on where nothing else is started or stopped. -/
theorem Layout.Closes.follows {l l' : Layout} {f : Facts} (h : l.Closes f channel l' next) :
    Follows next [] := by
  cases h with
  | bare => exact .idle (rises_go _ _)
  | subsides _ _ h =>
    cases h with
    | now => exact .idle (rises_go _ _)
    | waits h => exact .of_rises h rfl nofun
  | asks _ h => exact .of_rises h rfl nofun

theorem Layout.Closes.stages {l l' : Layout} {f : Facts} (h : l.Closes f channel l' next) :
    l'.shape.stages = l.shape.stages := by
  cases h with
  | bare => rfl
  | subsides _ _ h => cases h <;> simp [Shape.shut, Shape.carry, Shape.setTrack]
  | asks => simp [Shape.shut, Shape.setTrack]

/-- A channel with a process is closed. -/
theorem Layout.Closes.isClosed {l l' : Layout} {f : Facts} (h : l.Closes f channel l' next)
    (hopen : l.shape.IsOpen channel) : l'.shape.IsClosed channel := by
  obtain ⟨track, htrack, -, hprocess⟩ := hopen
  have hshut : (l.shut channel).shape.IsClosed channel := by
    rw [Layout.shape_shut]
    exact Shape.isClosed_shut htrack
  cases h with
  | bare hnone =>
    rw [Layout.shape_tracks_getElem?] at htrack
    obtain ⟨pipe, hpipe, rfl⟩ := Option.map_eq_some_iff.1 htrack
    rw [hpipe] at hnone
    rw [show pipe.track.process = none from hnone] at hprocess
    cases hprocess
  | subsides _ _ h =>
    cases h with
    | now =>
      rw [Layout.shape_carry]
      exact hshut.carry _ _
    | waits => exact hshut
  | asks => exact hshut

theorem Layout.Subsides.follows {l l' : Layout} (h : l.Subsides channel l' next) :
    Follows next [] := by
  cases h with
  | now => exact .idle (rises_go _ _)
  | waits h => exact .of_rises h rfl nofun

theorem Shape.IsAt.of_stages {phase : Phase} {line : Option Nat} (h : s.IsAt number phase line)
    (hstages : s'.stages = s.stages) : s'.IsAt number phase line := by
  rw [IsAt, hstages]
  exact h

theorem Shape.IsSole.of_stages (h : s.IsSole number) (hstages : s'.stages = s.stages) :
    s'.IsSole number := by
  rw [IsSole, hstages]
  exact h

/-- Where a channel is closed for good nothing changes for its connection when it loses its process. -/
theorem Shape.Stands.carry (h : s.Stands hinge point) (hpoint : point.expectation = .closing)
    (channel : Nat) (process : Option Nat) : (s.carry channel process).Stands hinge' point := by
  rcases Point.eq_of_closing hpoint with rfl | ⟨_, rfl⟩ | ⟨_, _, rfl⟩
  · cases h
  · obtain ⟨line, hat, hclosed⟩ := h
    exact ⟨line, hat, hclosed.carry _ _⟩
  · exact h

namespace Shape

theorem IsSettled.phase_cases (h : s.IsSettled sticks) {stage : Stage}
    (hstage : s.stages[number]? = some stage) :
    stage.phase = .stopped ∨ stage.phase = .ready ∨ stage.phase = .starting ∧ sticks := by
  rcases h number stage hstage with rfl | ⟨_, -, -, hready | ⟨hstarting, hsticks, -⟩⟩
  · exact .inl rfl
  · exact .inr (.inl hready)
  · exact .inr (.inr ⟨hstarting, hsticks⟩)

/-- Who stops a connection does so whatever becomes of channels. -/
theorem Stands.of_stopping (h : s.Stands hinge point) (hnumber : point.handled? = some number)
    {stage : Stage} (hstage : s.stages[number]? = some stage) (hphase : stage.phase = .stopping)
    (hstages : s'.stages = s.stages) : s'.Stands hinge' point := by
  have hnot : ∀ {phase : Phase} {line : Option Nat}, s.IsAt number phase line → phase = .stopping := by
    intro phase line hat
    rw [← hphase, ← Option.some.inj (hat.symm.trans hstage)]
  unfold Stands at h
  split at h
  case h_6 => exact h.elim
  all_goals cases hnumber
  · cases hnot h.1
  · rcases h with h | h <;> cases hnot h.1
  · obtain ⟨_, hat, -⟩ := h
    cases hnot hat
  · exact h.of_stages hstages
  · exact ⟨h.1.of_stages hstages, h.2⟩

/-- Who starts a connection over an open channel that is lost has greeted its process: it finds the
connection stopped. -/
theorem Stands.of_lost {phase : Phase} (h : s.Stands hinge point) (hnumber : point.handled? = some number)
    (hmet : ∀ line, ¬ IsMet hinge line) (hat : s.IsAt number phase (some channel))
    (hnotStopped : phase ≠ .stopped) (hnotStopping : phase ≠ .stopping) (hopen : s.IsOpen channel)
    (hstopped : s'.IsAt number .stopped none) (hlost : s'.IsLost channel) : s'.Stands hinge' point := by
  unfold Stands at h
  split at h
  case h_6 => exact h.elim
  all_goals cases hnumber
  · -- a channel that is about to get a process has none
    obtain ⟨hat', track, htrack, -, hprocess⟩ := h
    obtain rfl := Option.some.inj (hat.unique hat').2
    obtain ⟨same, hsame, -, hsome⟩ := hopen
    obtain rfl := Option.some.inj (hsame.symm.trans htrack)
    exact absurd (hprocess.1 hsome) (hmet _)
  · rcases h with ⟨hat', -⟩ | ⟨hat', -⟩
    · obtain rfl := Option.some.inj (hat.unique hat').2
      exact .inr ⟨hstopped, hlost⟩
    · exact absurd (hat.unique hat').1.symm hnotStopped
  · obtain ⟨line, hat', hclosed⟩ := h
    obtain rfl := Option.some.inj (hat.unique hat').2
    exact absurd hclosed hopen.not_isClosed
  · exact absurd (hat.unique h).1.symm hnotStopping
  · exact absurd (hat.unique h.1).1.symm hnotStopping

/-- A connection that is still starting while its process is greeted has an open channel. -/
theorem Stands.of_starting {l : Layout} {answer : Nat}
    (h : l.shape.Stands hinge (.connection (.greeted number channel answer)))
    (hstarting : l.IsIn .starting number) :
    l.shape.IsAt number .starting (some channel) ∧ l.shape.IsOpen channel := by
  refine h.resolve_right fun hstopped => ?_
  obtain ⟨line, hat⟩ := Layout.isIn_iff.1 hstarting
  cases (hat.unique hstopped.1).1

/-- A connection has become ready, and the others are stopped. -/
theorem IsSole.isSettled_of_ready {phase : Phase} (h : s.IsSole number)
    (hat : s.IsAt number phase (some channel)) (hopen : s.IsOpen channel) :
    (s.setPhase number .ready).IsSettled sticks := by
  intro other stage hstage
  by_cases heq : other = number
  · subst heq
    have hready : (s.setPhase other .ready).IsAt other .ready (some channel) := isAt_setStage hat _
    obtain rfl := Option.some.inj (hstage.symm.trans hready)
    exact .inr ⟨channel, rfl, hopen, .inl rfl⟩
  · exact .inl (h.setStage _ other stage heq hstage)

/-- A connection gets stuck, and the others are stopped. -/
theorem IsSole.isSettled_of_stuck (h : s.IsSole number) (hat : s.IsAt number .starting (some channel))
    (hopen : s.IsOpen channel) (hsticks : sticks) : s.IsSettled sticks := by
  intro other stage hstage
  by_cases heq : other = number
  · subst heq
    obtain rfl := Option.some.inj (hstage.symm.trans hat)
    exact .inr ⟨channel, rfl, hopen, .inr ⟨rfl, hsticks, h⟩⟩
  · exact .inl (h other stage heq hstage)

theorem IsSole.addStage (h : s.IsSole number) : s.addStage.IsSole number := by
  intro other stage hne hstage
  rcases stages_addStage_cases hstage with hold | ⟨-, rfl⟩
  · exact h other stage hne hold
  · rfl

theorem IsSettled.addStage (h : s.IsSettled sticks) : s.addStage.IsSettled sticks := by
  intro number stage hstage
  rcases stages_addStage_cases hstage with hold | ⟨-, rfl⟩
  · refine (h number stage hold).imp_right fun ⟨channel, hchannel, hopen, hphase⟩ => ?_
    exact ⟨channel, hchannel, hopen, hphase.imp_right fun ⟨hstarting, hsticks, hsole⟩ =>
      ⟨hstarting, hsticks, hsole.addStage⟩⟩
  · exact .inl rfl

end Shape

/-- Of connections that are stopped or ready only one is ready: the one that has the last channel. -/
theorem Single.isSole (h : Single s ended pts hinge) (hsettled : s.IsSettled sticks) {stage : Stage}
    (hstage : s.stages[number]? = some stage) (hphase : stage.phase ≠ .stopped) : s.IsSole number := by
  intro other stage' hne hother
  rcases hsettled other stage' hother with hstopped | ⟨line, -, -, hbusy⟩
  · exact hstopped
  · have hnot : stage'.phase ≠ .stopped := by
      rcases hbusy with heq | ⟨heq, -⟩ <;> rw [heq] <;> nofun
    obtain ⟨last, track, -, hlast, htrack, howner⟩ := h.led other _ hother hnot
    obtain ⟨last', track', -, hlast', htrack', howner'⟩ := h.led number stage hstage hphase
    obtain rfl := hlast.unique hlast'
    obtain rfl := Option.some.inj (htrack.symm.trans htrack')
    exact absurd (Owner.connection.inj (howner.symm.trans howner')) hne

namespace Serial

/-- While somebody starts or stops a connection, nobody waits for a process that was abandoned. -/
theorem not_abandoned (h : Serial sticks s hinge handling) : .connection .abandoned ∉ handling := by
  intro hmem
  cases h with
  | calm => cases hmem
  | handled hnumber =>
    rw [← List.mem_singleton.1 hmem] at hnumber
    cases hnumber

/-- The first of several points is the only one of a kind, if it is one. -/
theorem eq_of_filter {below other : Point} {others : List Point} (hbelow : below.isHandling = true)
    (hone : (below :: others).filter Point.isHandling = [other]) : below = other := by
  rw [List.filter_cons_of_pos hbelow] at hone
  exact (List.cons.inj hone).1

section

variable (hacts : Acts counter w w' point outcome rest aside next)

include hacts

/-- The tasks of a channel are ended. -/
theorem subsides {l l' : Layout} (hpoint : point.delivery? = some .closing)
    (hchannel : ∃ other, point = .channel other) (hsubsides : l.Subsides channel l' next)
    (h : Serial sticks l.shape w.hinge? w.handlers) : Serial sticks l'.shape w'.hinge? w'.handlers := by
  obtain ⟨below, others, rfl, hbelow⟩ := hacts.exists_hinge hpoint (.inr (.inr rfl))
  have hhandling : below.isHandling = true := Point.isHandling_of_closing hbelow
  have hshape : l'.shape = l.shape ∨ l'.shape = l.shape.carry channel none := by
    cases hsubsides with
    | now => exact .inr (Layout.shape_carry _ _ _)
    | waits => exact .inl rfl
  have hnot : point.isHandling = false := by
    obtain ⟨other, rfl⟩ := hchannel
    rfl
  refine h.passes hacts hnot hsubsides.follows (fun hnone => ?_) fun other number hone _ hstands hsole => ?_
  · simp [hhandling] at hnone
  · obtain rfl := eq_of_filter hhandling hone
    rcases hshape with heq | heq <;> rw [heq]
    · refine ⟨hstands.rehinge fun line => iff_of_false ?_ ?_, hsole⟩
      · exact hacts.not_meets hsubsides.follows (by rintro line rfl; cases hpoint) line
      · exact hacts.not_met (by rintro number line rfl; cases hpoint) line
    · exact ⟨hstands.carry hbelow _ _, hsole⟩

/-- A channel has its process. -/
theorem opens {process : Nat} {answer : Answer}
    (hpoint : point = .channel (.opened channel)) (hnext : next = .go (.ok answer) [])
    (hsingle : Single s ended w.places hinge) (h : Serial sticks s w.hinge? w.handlers) :
    Serial sticks (s.carry channel (some process)) w'.hinge? w'.handlers := by
  subst hpoint hnext
  obtain ⟨number, others, rfl, -⟩ := hacts.exists_opener hsingle
  refine h.passes hacts rfl (.idle (rises_go _ _)) (fun hnone => ?_) fun other _ hone _ hstands hsole => ?_
  · simp [Point.isHandling] at hnone
  · obtain rfl := eq_of_filter rfl hone
    obtain ⟨hat, track, htrack, hopen, -⟩ := hstands
    refine ⟨⟨hat, { track with process := some process }, ?_, hopen, iff_of_true rfl ?_⟩, hsole⟩
    · simp [Shape.carry, Shape.setTrack, htrack]
    · refine ⟨number, answer, ?_⟩
      rw [hinge?, show w'.acting? = some (.connection (.opened number channel), .ok answer) from
        hacts.presents]
      rfl

/-- A process is lost. -/
theorem loses {process : Nat} {code : Option Int} {l' : Layout}
    (hpoint : point = .channel (.gone channel process)) (hnext : next = .go (.ok .unit) [])
    (hsingle : Single w.layout.shape ended w.places none)
    (hloses : w.layout.Loses channel code l') (h : Serial sticks w.layout.shape w.hinge? w.handlers) :
    Serial sticks l'.shape w'.hinge? w'.handlers := by
  subst hpoint hnext
  have hfollows : Follows (.go (.ok .unit) []) [] := .idle (rises_go _ _)
  have hmet := hacts.not_met nofun
  have hmet' := hacts.not_meets hfollows nofun
  -- an open channel belongs to a connection that is on its way
  have hlives : ∀ pipe, w.layout.pipes[channel]? = some pipe → pipe.closing = false →
      w.layout.shape.IsLast channel ∧ w.layout.shape.Lives pipe.owner ∧
        w.layout.shape.IsOpen channel ∧ ((w.layout.shape.shut channel).carry channel none).IsLost channel := by
    intro pipe hpipe hopen
    obtain ⟨hprocess, hlast, hlives⟩ := hsingle.lives_of_gone (hacts.mem rfl) hpipe hopen
    have htrack : w.layout.shape.tracks[channel]? = some pipe.track := Layout.track_of_pipe hpipe
    exact ⟨hlast, hlives, ⟨_, htrack, hopen, by rw [show pipe.track.process = _ from hprocess]; rfl⟩,
      Shape.isLost_shut_carry htrack⟩
  cases hloses with
  | expected _ => exact h.stays hacts rfl hfollows hmet hmet'
  | unheard hpipe hopen howner =>
    obtain ⟨-, ⟨number, stage, hnumber, hstage, -⟩, -⟩ := hlives _ hpipe hopen
    rw [Layout.shape_stages_getElem?, howner number hnumber] at hstage
    cases hstage
  | stopping hpipe hopen howner hbond hphase =>
    rename_i pipe number bond
    rw [Layout.shape_clear, Layout.shape_rejectOn, Layout.shape_carry, Layout.shape_shut]
    have hstage : w.layout.shape.stages[number]? = some bond.stage := Layout.stage_of_bond hbond
    have hstopping : bond.stage.phase = .stopping := hphase
    refine h.passes hacts rfl hfollows (fun _ hsettled => ?_) fun other number' _ hnumber hstands hsole => ?_
    · rcases hsettled.phase_cases hstage with heq | heq | ⟨heq, -⟩ <;> rw [hstopping] at heq <;>
        cases heq
    · obtain rfl := eq_of_busy hsole hstage (by rw [hstopping]; nofun)
      have hstages : ((w.layout.shape.shut channel).carry channel none).stages =
          w.layout.shape.stages := rfl
      exact ⟨hstands.of_stopping hnumber hstage hstopping hstages, hsole.of_stages hstages⟩
  | stops hpipe hopen howner hbond hphase =>
    rename_i pipe number bond
    obtain ⟨hlast, ⟨same, stage, hsame, hstage, hnot⟩, hisOpen, hlost⟩ := hlives _ hpipe hopen
    obtain rfl : number = same := Owner.connection.inj (howner.symm.trans hsame)
    obtain rfl : bond.stage = stage := Option.some.inj ((Layout.stage_of_bond hbond).symm.trans hstage)
    have hphase : bond.stage.phase ≠ .stopping := hphase
    rw [Layout.shape_report, Layout.shape_reset, Layout.shape_clear, Layout.shape_rejectOn,
      Layout.shape_carry, Layout.shape_shut]
    have hreset : (((w.layout.shape.shut channel).carry channel none).reset number).IsAt number
        .stopped none := by
      rw [Shape.reset]
      exact Shape.isAt_setStage hstage _
    -- the channel of the connection is the last one, which is the one that is lost
    have hat : w.layout.shape.IsAt number bond.stage.phase (some channel) := by
      obtain ⟨last, track, hchannel, hlast', -⟩ := hsingle.led number bond.stage hstage hnot
      obtain rfl := hlast.unique hlast'
      rw [Shape.IsAt, hstage, ← hchannel]
    refine h.passes hacts rfl hfollows (fun _ hsettled => ?_) fun other number' _ hnumber hstands hsole => ?_
    · have hsole : (((w.layout.shape.shut channel).carry channel none).reset number).IsSole number :=
        ((hsingle.isSole hsettled hstage hnot).of_stages rfl).setStage _
      exact hsole.isSettled hreset
    · obtain rfl := eq_of_busy hsole hstage hnot
      exact ⟨hstands.of_lost hnumber hmet hat hnot hphase hisOpen hreset hlost,
        (hsole.of_stages rfl).setStage _⟩

/-- A connection is stopped, while nobody starts or stops one. -/
theorem disconnects {l l' : Layout} {f : Facts} {inner : Next}
    (hcourse : l.Disconnects f number l' inner)
    (hfollows : ∀ handling, Follows inner handling → Follows next handling)
    (hnobody : w.handlers = []) (hsingle : Single l.shape ended pts hinge')
    (h : Serial sticks l.shape hinge w.handlers) : Serial sticks l'.shape w'.hinge? w'.handlers := by
  cases hcourse with
  | keeps _ => exact h.begins hacts (hfollows [] (.idle (rises_go _ _))) hnobody .calm
  | clears _ =>
    rw [Layout.shape_clear]
    exact h.begins hacts (hfollows [] (.idle (rises_go _ _))) hnobody .calm
  | parts hready hnext =>
    rename_i line answer
    rw [Layout.shape_ask, Layout.shape_setPhase]
    have hnext' : Follows inner [.connection (.parted number line)] :=
      .of_rises hnext rfl fun _ _ h => (by cases h)
    refine h.begins hacts (hfollows _ hnext') hnobody fun hsettled => ?_
    obtain ⟨bond, hbond, hphase, hchannel⟩ := hready
    have hstage : l.shape.stages[number]? = some ⟨.ready, some line⟩ := by
      rw [Layout.stage_of_bond hbond, Bond.stage, hphase, hchannel]
    exact .handled rfl (Shape.isAt_setStage hstage _)
      ((hsingle.isSole hsettled hstage fun h => (by cases h)).setStage _)
  | closes hbond hchannel hphase hcloses =>
    -- a connection that is not stopped has a channel
    rename_i bond line closing
    have hstage : l.shape.stages[number]? = some bond.stage := Layout.stage_of_bond hbond
    have hnot : bond.stage.phase ≠ .stopped := by
      rcases hphase with hphase | ⟨hphase, -⟩ <;> exact fun hstopped => by cases hphase.symm.trans hstopped
    have hidle : Follows closing [] := by
      cases hcloses with
      | nothing => exact .idle (rises_go _ _)
      | closes hcloses => exact hcloses.follows
    refine h.begins hacts (hfollows _ (hidle.under (by simp))) hnobody fun hsettled => ?_
    rcases hsettled number _ hstage with heq | ⟨channel, hsome, -⟩
    · exact absurd (congrArg Stage.phase heq) hnot
    obtain rfl : line = some channel := hchannel.symm.trans hsome
    cases hcloses with
    | closes hcloses =>
    have hsole := (hsingle.isSole hsettled hstage hnot).setStage fun stage =>
      { stage with phase := .stopping }
    have hat : (l.setPhase number .stopping).shape.IsAt number .stopping (some channel) := by
      rw [Layout.shape_setPhase, ← hsome]
      exact Shape.isAt_setStage hstage _
    refine .handled rfl ⟨hat.of_stages hcloses.stages, rfl⟩ (hsole.of_stages ?_)
    rw [hcloses.stages, Layout.shape_setPhase]
    rfl

/-- A connection is started, while nobody starts or stops one and none is at work. -/
theorem connects {l l' : Layout} {inner : Next} (hcourse : l.Connects number l' inner)
    (hfollows : ∀ handling, Follows inner handling → Follows next handling)
    (hpoint : ∀ line, point ≠ .channel (.opened line)) (hhandling : point.isHandling = false)
    (hclear : l.IsIn .stopped number → w.handlers = [] ∧
      ∀ (other : Nat) (stage : Stage), l.shape.stages[other]? = some stage → stage.phase = .stopped)
    (hmet : ∀ channel, ¬ Shape.IsMet hinge channel)
    (h : Serial sticks l.shape hinge w.handlers) : Serial sticks l'.shape w'.hinge? w'.handlers := by
  cases hcourse with
  | keeps _ hnext =>
    have hnext' := hfollows [] (.idle hnext)
    exact h.stays hacts hhandling hnext' hmet (hacts.not_meets hnext' hpoint)
  | begins hstopped hscript hnext =>
    obtain ⟨hnobody, hstages⟩ := hclear hstopped
    have hlength : l.pipes.length = l.shape.tracks.length := by simp [Layout.shape]
    rw [hlength] at hnext
    have hnext' : Follows inner [.connection (.opened number l.shape.tracks.length)] :=
      .of_rises hnext rfl fun _ _ h => (by cases h)
    rw [Layout.shape_beginStart]
    refine h.begins hacts (hfollows _ hnext') hnobody fun hsettled => ?_
    obtain ⟨bond, hbond, -⟩ := hstopped
    have hstage : l.shape.stages[number]? = some bond.stage := Layout.stage_of_bond hbond
    -- The connection that begins to start is the only one on its way, for all others are stopped.
    refine .handled rfl ⟨?_, ⟨none, false, .connection number⟩, List.getElem?_concat_length, rfl, ?_⟩ ?_
    · simp [Shape.IsAt, Shape.beginStart, hstage]
    · exact iff_of_false (fun h => by cases h) (hacts.not_meets (hfollows _ hnext') hpoint _)
    · intro other stage hne hother
      have hother : l.shape.stages[other]? = some stage := by
        simpa [Shape.beginStart, hne.symm] using hother
      rcases hsettled other stage hother with heq | ⟨_, -, -, hphase⟩
      · exact heq
      · rw [hstages other stage hother] at hphase
        rcases hphase with hphase | ⟨hphase, -⟩ <;> cases hphase

/-- A process is started. -/
theorem launches {script : CompanionScript} {program : List String} {answer : Answer}
    (hpoint : point = .program (.starting script program)) (hnext : next = .go (.ok answer) [])
    (h : Serial sticks s w.hinge? w.handlers) :
    Serial sticks (s.addScript script) w'.hinge? w'.handlers := by
  subst hpoint hnext
  have hfollows : Follows (.go (.ok answer) []) [] := .idle (rises_go _ _)
  refine h.passes hacts rfl hfollows (fun _ => id) fun other _ _ _ hstands hsole => ⟨?_, hsole⟩
  exact hstands.rehinge fun line =>
    iff_of_false (hacts.not_meets hfollows nofun line) (hacts.not_met nofun line)

/-- A channel has no process, so that nobody is told of one. -/
theorem shuns {failure : Failure} (hpoint : point = .channel (.opened channel))
    (hnext : next = .go (.error failure) []) (h : Serial sticks s w.hinge? w.handlers) :
    Serial sticks s w'.hinge? w'.handlers := by
  subst hpoint hnext
  have hfollows : Follows (.go (.error failure) []) [] := .idle (rises_go _ _)
  refine h.stays hacts rfl hfollows (hacts.not_met nofun) fun line hmet => ?_
  obtain ⟨-, -, -, -, answer, heq⟩ := hacts.of_isMet hfollows hmet
  cases heq

/-- A process is greeted. -/
theorem greets {greeted : Nat} {answer : Answer}
    (hpoint : point = .connection (.opened number channel)) (houtcome : outcome = .ok answer)
    (hnext : Rises [.connection (.greeted number channel greeted)] next)
    (h : Serial sticks s w.hinge? w.handlers) : Serial sticks s w'.hinge? w'.handlers := by
  subst hpoint houtcome
  refine h.replaces hacts rfl (.of_rises hnext rfl nofun) fun hstands hsole => ?_
  obtain ⟨hat, track, htrack, hopen, hmet⟩ := hstands
  refine .handled rfl (.inl ⟨hat, track, htrack, hopen, hmet.2 ⟨number, answer, ?_⟩⟩) hsole
  exact hacts.hinge?_eq

/-- The keeper gives its connection up, while nobody starts or stops one. -/
theorem vacates {l' : Layout} {f : Facts} {inner : Next} {before after : KeeperPoint}
    (hpoint : point = .keeper before) (hnext : next = inner.under (.keeper after))
    (hvacates : w.layout.Vacates f l' inner) (hnobody : w.handlers = [])
    (hsingle : Single w.layout.shape ended pts hinge')
    (h : Serial sticks w.layout.shape w.hinge? w.handlers) :
    Serial sticks l'.shape w'.hinge? w'.handlers := by
  subst hpoint hnext
  cases hvacates with
  | vacant _ =>
    have hfollows := (Follows.idle (rises_go (.ok .unit) [])).under_keeper after
    exact h.stays hacts rfl hfollows (hacts.not_met nofun) (hacts.not_meets hfollows nofun)
  | leaves _ hleaves =>
    rw [← Layout.shape_vacate] at h hsingle
    exact disconnects hacts hleaves (fun _ hinner => (hinner.under_keeper _).under_keeper _) hnobody
      hsingle h

/-- The keeper makes another connection, where none is at work. -/
theorem renews {config : Companion.Config} {listener : Listener} {l' : Layout} {inner : Next}
    (hpoint : point = .keeper (.vacated config)) (hnext : next = inner.under (.keeper (.connected config)))
    (hrenews : { w.layout.addBond config listener with kept := some w.layout.bonds.length }.Connects
      w.layout.bonds.length l' inner) (hnobody : w.handlers = [])
    (hclear : Single.IsClear w.layout.shape w.places)
    (h : Serial sticks w.layout.shape w.hinge? w.handlers) :
    Serial sticks l'.shape w'.hinge? w'.handlers := by
  subst hpoint hnext
  refine connects hacts hrenews (fun _ hinner => hinner.under_keeper _) nofun rfl
    (fun _ => ⟨hnobody, ?_⟩) (hacts.not_met nofun) ?_
  · rw [Layout.shape_addBond]
    exact hclear.addStage.stages
  · rw [Layout.shape_addBond]
    rw [hnobody] at h ⊢
    cases h with
    | calm hsettled => exact .calm hsettled.addStage

end

end Serial

/-! ## The only one -/

/-- Whoever starts or stops a connection is the only one, and it is as far as they say. -/
theorem Serial.of_mem {hinge : Option (Point × Outcome)} {handling : List Point}
    (h : Serial sticks s hinge handling) (hmem : point ∈ handling) :
    handling = [point] ∧ s.Stands hinge point ∧ ∃ number, point.handled? = some number ∧ s.IsSole number := by
  cases h with
  | calm => cases hmem
  | handled hnumber hstands hsole =>
    obtain rfl := List.mem_singleton.1 hmem
    exact ⟨rfl, hstands, _, hnumber, hsole⟩

/-- While a connection is starting, all others are stopped. -/
theorem Serial.eq_of_starting {hinge : Option (Point × Outcome)} {handling : List Point}
    (h : Serial sticks s hinge handling) {phase : Phase} {line line' : Option Nat} {other : Nat}
    (hat : s.IsAt number phase line) (hphase : phase ≠ .stopped)
    (hstarting : s.IsAt other .starting line') :
    number = other := by
  cases h with
  | calm hsettled =>
    rcases hsettled other _ hstarting with heq | ⟨_, -, -, heq | ⟨-, -, hsole⟩⟩
    · cases heq
    · cases heq
    · exact eq_of_busy hsole hat hphase
  | handled hnumber hstands hsole =>
    rw [eq_of_busy hsole hat hphase, eq_of_busy hsole hstarting nofun]

/-- While a connection is starting, none is ready. -/
theorem Serial.not_starting {hinge : Option (Point × Outcome)} {handling : List Point}
    (h : Serial sticks s hinge handling) {line line' : Option Nat} {other : Nat}
    (hready : s.IsAt number .ready line) : ¬ s.IsAt other .starting line' := by
  intro hstarting
  obtain rfl := h.eq_of_starting hready nofun hstarting
  cases (hready.unique hstarting).1

theorem Layout.IsReady.isAt {l : Layout} (h : l.IsReady number channel) :
    l.shape.IsAt number .ready (some channel) := by
  obtain ⟨bond, hbond, hphase, hchannel⟩ := h
  rw [Shape.IsAt, Layout.stage_of_bond hbond, Bond.stage, hphase, hchannel]

/-- A task that goes on to start or stop a connection is among those who do. -/
theorem Acts.mem_handlers (hacts : Acts counter w w' point outcome rest aside next)
    (hnumber : point.handled? = some number) : point ∈ w.handlers := by
  have hhandling := Point.isHandling_of_handled? hnumber
  exact List.mem_filter.2 ⟨hacts.mem (Point.isLater_of_isHandling hhandling), hhandling⟩

/-- Whoever starts or stops a connection and goes on finds it as far as they say. -/
theorem Acts.stands (hacts : Acts counter w w' point outcome rest aside next)
    (hserial : Serial sticks w.layout.shape w.hinge? w.handlers) (hnumber : point.handled? = some number) :
    w.layout.shape.Stands w.hinge? point :=
  (hserial.of_mem (hacts.mem_handlers hnumber)).2.1

/-- Whoever started or stopped a connection goes on, and nobody else does so. -/
theorem Acts.handlers_replaced {handling : List Point}
    (hacts : Acts counter w w' point outcome rest aside next)
    (hserial : Serial sticks w.layout.shape w.hinge? w.handlers) (hnumber : point.handled? = some number)
    (hfollows : Follows next handling) : w'.handlers.Perm handling := by
  have hhandling := Point.isHandling_of_handled? hnumber
  obtain ⟨hone, -⟩ := hserial.of_mem (hacts.mem_handlers hnumber)
  have hbefore := hacts.handlers_before
  rw [hone, show [point].filter Point.isHandling = [point] by simp [hhandling]] at hbefore
  have hnone : (rest ++ aside).filter Point.isHandling = [] := by
    simpa using (List.perm_singleton.1 hbefore.symm)
  simpa [hnone] using hacts.handlers_after hfollows

/-- Where nobody started or stopped a connection, at most somebody begins to do so. -/
theorem Acts.handlers_begun {handling : List Point}
    (hacts : Acts counter w w' point outcome rest aside next) (hnobody : w.handlers = [])
    (hfollows : Follows next handling) : w'.handlers.Perm handling := by
  have hbefore := hacts.handlers_before
  rw [hnobody] at hbefore
  have hnone := (List.append_eq_nil_iff.1 hbefore.symm.eq_nil).2
  simpa [hnone] using hacts.handlers_after hfollows

/-! ## Every course -/

/-- A connection is stopped only where nobody starts or stops one. -/
def Alternates (w : World) (point : Point) : Prop :=
  (∃ number, point = .start (.disconnect number)) ∨ (∃ other, point = .keeper other) → w.handlers = []

/-- Whoever is about to greet a process can do so. -/
def CanGreet (w : World) (point : Point) : Prop :=
  ∀ number channel, point = .connection (.opened number channel) → w.layout.CanGreet number channel

/-- Who starts and stops connections one after the other goes on doing so; a connection may get stuck
where its process cannot be greeted. -/
theorem Serial.acts (hacts : Acts counter w w' point outcome rest aside next) (hclears : Clears w point)
    (halternates : Alternates w point) (hgreets : CanGreet w point ∨ sticks)
    (hsingle : Single w.layout.shape w.done w.places w.hinge?)
    (h : Serial sticks w.layout.shape w.hinge? w.handlers) :
    Serial sticks w'.layout.shape w'.hinge? w'.handlers := by
  have hfree : point.isHinge = false → Single w.layout.shape w.done w.places none := by
    intro hhinge
    rw [hacts.hinge?_eq, hhinge] at hsingle
    exact hsingle
  -- where nobody starts or stops a connection, and what stays as it is
  have hclear : Single.IsClear w.layout.shape w.places → w.handlers = [] := fun hclear =>
    List.filter_eq_nil_iff.2 fun other hother => by
      rw [(hclear.points other hother).1]
      exact Bool.false_ne_true
  have hstays : ∀ {s' : Shape}, s' = w.layout.shape → point.isHandling = false → Follows next [] →
      (∀ line, point ≠ .channel (.opened line)) → Serial sticks s' w'.hinge? w'.handlers := by
    intro s' heq hpoint hfollows hchannel
    rw [heq]
    refine h.stays hacts hpoint hfollows (hacts.not_met ?_) (hacts.not_meets hfollows hchannel)
    rintro number line rfl
    cases hpoint
  have hcourse := hacts.course
  generalize hl' : w'.layout = l' at hcourse ⊢
  cases hcourse with
  | hears hpoint hasks hhears hnext =>
    refine hstays hhears.shape_eq ?_ (.idle hnext) ?_
    · cases point with
      | connection point => cases point <;> first | rfl | cases hpoint
      | _ => rfl
    · rintro line rfl
      cases hpoint
  | watches hprocess hnext => exact hstays rfl rfl (.of_rises hnext rfl nofun) nofun
  | drains hnext => exact hstays rfl rfl (.of_rises hnext rfl nofun) nofun
  | loses hended hloses => exact h.loses hacts rfl rfl (hfree rfl) hloses
  | sends hasks hready hnext =>
    refine hstays (Layout.shape_ask ..) ?_ (.idle hnext) ?_ <;> cases hasks <;> first | rfl | nofun
  | connects hconnects =>
    refine h.connects hacts hconnects (fun _ => id) nofun rfl (fun hstopped => ?_) (hacts.not_met nofun)
    exact ⟨hclear (hclears.1 _ rfl hstopped), (hclears.1 _ rfl hstopped).stages⟩
  | disconnects hdisconnects =>
    exact h.disconnects hacts hdisconnects (fun _ => id) (halternates (.inl ⟨_, rfl⟩)) hsingle
  | misses => exact hstays rfl rfl (.idle (rises_go _ _)) nofun
  | launches =>
    rw [Layout.shape_addScript]
    exact h.launches hacts rfl rfl
  | opens =>
    rw [Layout.shape_carry]
    exact h.opens hacts rfl rfl hsingle
  | shuns => exact h.shuns hacts rfl rfl
  | complies hended hsubsides => exact h.subsides hacts rfl ⟨_, rfl⟩ hsubsides
  | kills hended hnext => exact hstays rfl rfl (.of_rises hnext rfl nofun) nofun
  | buries hsubsides => exact h.subsides hacts rfl ⟨_, rfl⟩ hsubsides
  | rests => exact h.subsides hacts rfl ⟨_, rfl⟩ .now
  | greets hstarting hnext =>
    rw [Layout.shape_ask]
    exact h.greets hacts rfl rfl hnext
  | falters _ hrefused =>
    have hsticks := hgreets.resolve_left fun hcan => hrefused (hcan _ _ rfl)
    rw [Layout.shape_list]
    refine h.replaces hacts rfl (.idle (rises_go _ _)) fun hstands hsole => .calm ?_
    obtain ⟨hat, track, htrack, hopen, hmet⟩ := hstands
    exact hsole.isSettled_of_stuck hat ⟨track, htrack, hopen, hmet.2 ⟨_, _, hacts.hinge?_eq⟩⟩ hsticks
  | abandons hnot hcloses =>
    refine h.replaces hacts rfl (hcloses.follows.under nofun) fun hstands _ => ?_
    exact absurd (Layout.isIn_iff.2 ⟨_, hstands.1⟩) hnot
  | fails =>
    rename_i number channel command text
    rw [Layout.shape_reset]
    refine h.replaces hacts rfl (.idle (rises_go _ _)) fun hstands hsole => .calm ?_
    exact (hsole.setStage _).isSettled (Shape.isAt_setStage hstands.1 _)
  | forsakes =>
    have hmem := (hacts.handlers_before.mem_iff (a := .connection .abandoned)).2 (by simp [Point.isHandling])
    exact absurd hmem h.not_abandoned
  | welcomes hbond hphase _ =>
    rw [Layout.shape_welcome]
    refine h.replaces hacts rfl (.idle (rises_go _ _)) fun hstands hsole => .calm ?_
    obtain ⟨hat, hopen⟩ := hstands.of_starting ⟨_, hbond, hphase⟩
    exact hsole.isSettled_of_ready hat hopen
  | refuses hstarting hcloses =>
    refine h.replaces hacts rfl (hcloses.follows.under nofun) fun hstands hsole => ?_
    obtain ⟨hat, hopen⟩ := hstands.of_starting hstarting
    exact .handled rfl ⟨_, hat.of_stages hcloses.stages, hcloses.isClosed hopen⟩
      (hsole.of_stages hcloses.stages)
  | ignores hnot =>
    refine h.replaces hacts rfl (.idle (rises_go _ _)) fun hstands hsole => .calm ?_
    rcases hstands with ⟨hat, -⟩ | ⟨hat, -⟩
    · exact absurd (Layout.isIn_iff.2 ⟨_, hat⟩) hnot
    · exact hsole.isSettled hat
  | dismisses =>
    rw [Layout.shape_reset]
    refine h.replaces hacts rfl (.idle (rises_go _ _)) fun hstands hsole => .calm ?_
    obtain ⟨line, hat, -⟩ := hstands
    exact (hsole.setStage _).isSettled (Shape.isAt_setStage hat _)
  | parts hgrows hcloses =>
    refine h.replaces hacts rfl (hcloses.follows.under nofun) fun hstands hsole => ?_
    have hstages := hcloses.stages
    rw [Layout.shape_tellOf] at hstages
    exact .handled rfl ⟨hstands.of_stages hstages, rfl⟩ (hsole.of_stages hstages)
  | closed =>
    rw [Layout.shape_reset, Layout.shape_rejectOn]
    refine h.replaces hacts rfl (.idle (rises_go _ _)) fun hstands hsole => .calm ?_
    exact (hsole.setStage _).isSettled (Shape.isAt_setStage hstands.1 _)
  | comes hactivity hnext => exact hstays rfl rfl (.of_rises hnext rfl nofun) nofun
  | vacates hpoint hvacates =>
    exact h.vacates hacts rfl rfl hvacates (halternates (.inr ⟨_, rfl⟩)) hsingle
  | renews hrenews =>
    exact h.renews hacts rfl rfl hrenews (halternates (.inr ⟨_, rfl⟩)) (hclears.2 _ rfl)
  | leaves hpoint => exact hstays rfl rfl (.idle (rises_go _ _)) nofun

/-- Where nobody acts, nobody starts or stops a connection. -/
theorem Serial.drifts {notice : Option (Nat × String × Json.Value)} (hdrifts : Drifts w w' notice)
    (h : Serial sticks w.layout.shape w.hinge? w.handlers) :
    Serial sticks w'.layout.shape w'.hinge? w'.handlers := by
  rw [hdrifts.shape_eq]
  refine (h.rehinge fun channel => iff_of_false ?_ ?_).perm (hdrifts.places.filter _)
  · rintro ⟨number, answer, hhinge⟩
    have hacting := (Option.filter_eq_some_iff.1 hhinge).1
    cases hdrifts.presents _ _ hacting
  · rintro ⟨number, answer, hhinge⟩
    have hacting := (Option.filter_eq_some_iff.1 hhinge).1
    rw [hdrifts.acting] at hacting
    cases hacting

end BasiliskServer.World
