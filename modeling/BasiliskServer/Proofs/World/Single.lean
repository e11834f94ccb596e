import BasiliskServer.Proofs.World.Shapes

/-!
# One process at a time

A connection that starts only when nobody starts or stops it and nothing is left of earlier starts has
at most one process alive at any time, and so have several connections of which only one is started
then. `Single` says what carries this: only the last process can be alive, only the last channel is in
use, and a process that is alive belongs to that channel and to a connection that is not stopped, or
somebody is about to end it. Every course keeps it so (`Single.acts`).
-/

namespace BasiliskServer.World

open Json (Value Fields)

/-! ## What is relied on -/

namespace Shape

variable (s : Shape) (ended : Nat → Prop)

/-- The channel that was made last. -/
def IsLast (channel : Nat) : Prop :=
  channel + 1 = s.tracks.length

/-- All processes have ended. -/
def AllEnded : Prop :=
  ∀ process < s.scripts.length, ended process

/-- Those who take the messages are a connection that is not stopped. -/
def Lives (owner : Owner) : Prop :=
  ∃ number stage, owner = .connection number ∧ s.stages[number]? = some stage ∧
    stage.phase ≠ .stopped

/-- Somebody is about to see to the process of a channel. -/
def IsMet (hinge : Option (Point × Outcome)) (channel : Nat) : Prop :=
  ∃ number answer, hinge = some (.connection (.opened number channel), .ok answer)

/-- What a task that stands at a point relies on. -/
def Places : Point → Prop
  | .channel (.opened channel) => s.IsLast channel
  | .connection (.opened number channel) | .connection (.greeted number channel _) =>
    s.IsLast channel ∧ ∃ track, s.tracks[channel]? = some track ∧ track.owner = .connection number
  | .connection (.parted _ channel) | .connection (.closed _ (some channel)) => s.IsLast channel
  | .channel (.asked channel process) => s.IsLast channel ∧
    ∃ track, s.tracks[channel]? = some track ∧ track.closing = true ∧
      ∀ other, track.process = some other → other = process
  | .channel (.killed channel) | .channel (.quiet channel) => s.IsLast channel ∧ s.AllEnded ended ∧
    ∃ track, s.tracks[channel]? = some track ∧ track.closing = true
  | .channel (.gone channel process) | .channel (.drained channel process) =>
    ∃ track, s.tracks[channel]? = some track ∧ (track.closing = true ∨ track.process = some process)
  | _ => True

/-- The process of the last channel is not told anything any more. -/
def IsShut : Prop :=
  ∀ channel track, s.IsLast channel → s.tracks[channel]? = some track → track.process.isSome →
    track.closing = true

/-- What a task that goes on at a hinge relies on. -/
def Hinges (pts : List Point) : Point → Outcome → Prop
  | .channel (.opened channel), outcome =>
    (∃ track, s.tracks[channel]? = some track ∧ track.process = none ∧ track.closing = false) ∧
      (∀ point ∈ pts, point.isLaunch = false) ∧
      (∀ process, outcome = .ok (.process process) → process + 1 = s.scripts.length) ∧
      ∀ failure, outcome = .error failure → s.AllEnded ended
  | .connection (.opened _ channel), .error _ => s.AllEnded ended ∧
    ∃ track, s.tracks[channel]? = some track ∧ track.process = none
  | .connection .abandoned, .ok _ | .connection (.refused _), .ok _ | .connection (.closed _ _), .ok _ =>
    s.AllEnded ended ∧ s.IsShut
  | _, _ => True

end Shape

/-- Only the last process can be alive, and it belongs to the last channel. -/
structure Single (s : Shape) (ended : Nat → Prop) (pts : List Point)
    (hinge : Option (Point × Outcome)) : Prop where
  /-- Only the last process can be alive. -/
  alone : ∀ process < s.scripts.length, ¬ ended process → process + 1 = s.scripts.length
  /-- Only one process is about to start. -/
  launches : pts.countP Point.isLaunch ≤ 1
  /-- It starts when all others have ended. -/
  launching : ∀ point ∈ pts, point.isLaunch = true → s.AllEnded ended ∧
    ∀ channel track, s.IsLast channel → s.tracks[channel]? = some track →
      track.process = none ∧ track.closing = false
  /-- A channel in use is the last one, and its connection is not stopped. -/
  line : ∀ channel track process, s.tracks[channel]? = some track → track.process = some process →
    track.closing = false → s.IsLast channel ∧ (Shape.IsMet hinge channel ∨ s.Lives track.owner)
  /-- A connection that is not stopped has the last channel. -/
  led : ∀ number stage, s.stages[number]? = some stage → stage.phase ≠ .stopped →
    ∃ channel track, stage.channel = some channel ∧ s.IsLast channel ∧
      s.tracks[channel]? = some track ∧ track.owner = .connection number
  /-- A process that is alive has just been started, or belongs to the last channel. -/
  custody : ∀ process < s.scripts.length, ¬ ended process →
    (∃ channel, hinge = some (.channel (.opened channel), .ok (.process process))) ∨
      ∃ channel track, s.IsLast channel ∧ s.tracks[channel]? = some track ∧
        track.process = some process ∧ (Shape.IsMet hinge channel ∨ s.Lives track.owner ∨
          .connection .abandoned ∈ pts)
  /-- Tasks stand where they can go on. -/
  places : ∀ point ∈ pts, s.Places ended point
  /-- A task that has just done something can go on. -/
  hinges : ∀ point outcome, hinge = some (point, outcome) → s.Hinges ended pts point outcome

/-- How the task that runs goes on, if at a hinge. -/
def hinge? (w : World) : Option (Point × Outcome) :=
  w.acting?.filter (·.1.isHinge)

variable {s : Shape} {ended ended' : Nat → Prop} {pts pts' : List Point}
  {hinge hinge' : Option (Point × Outcome)} {number channel process : Nat} {point : Point}

/-! ## Small changes -/

namespace Shape

theorem IsLast.unique {other : Nat} (h : s.IsLast channel) (h' : s.IsLast other) : other = channel := by
  unfold IsLast at h h'
  omega

theorem AllEnded.mono (h : s.AllEnded ended) (hgrow : ∀ p, ended p → ended' p) : s.AllEnded ended' :=
  fun p hp => hgrow p (h p hp)

theorem Places.mono (h : s.Places ended point) (hgrow : ∀ p, ended p → ended' p) :
    s.Places ended' point := by
  unfold Places at h ⊢
  split at h <;> first | exact h | exact ⟨h.1, h.2.1.mono hgrow, h.2.2⟩

theorem Hinges.mono {outcome : Outcome} (h : s.Hinges ended pts point outcome)
    (hgrow : ∀ p, ended p → ended' p) : s.Hinges ended' pts point outcome := by
  unfold Hinges at h ⊢
  split at h
  · exact ⟨h.1, h.2.1, h.2.2.1, fun failure hf => (h.2.2.2 failure hf).mono hgrow⟩
  · exact ⟨h.1.mono hgrow, h.2⟩
  · exact ⟨h.1.mono hgrow, h.2⟩
  · exact ⟨h.1.mono hgrow, h.2⟩
  · exact ⟨h.1.mono hgrow, h.2⟩
  · trivial

end Shape

namespace Single

/-- Processes have ended. -/
theorem grow (h : Single s ended pts hinge) (hgrow : ∀ p, ended p → ended' p) :
    Single s ended' pts hinge where
  alone := fun p hp hnot => h.alone p hp fun he => hnot (hgrow p he)
  launches := h.launches
  launching := fun point hpoint hlaunch =>
    ⟨(h.launching point hpoint hlaunch).1.mono hgrow, (h.launching point hpoint hlaunch).2⟩
  line := h.line
  led := h.led
  custody := fun p hp hnot => h.custody p hp fun he => hnot (hgrow p he)
  places := fun point hpoint => (h.places point hpoint).mono hgrow
  hinges := fun point outcome heq => (h.hinges point outcome heq).mono hgrow

/-- Tasks have moved to other points, and nobody stands at a hinge. -/
theorem move (h : Single s ended pts none) (hlaunches : pts'.countP Point.isLaunch ≤ 1)
    (hpts : ∀ point ∈ pts', point ∈ pts ∨ point.isLaunch = false ∧ s.Places ended point)
    (habandoned : .connection .abandoned ∈ pts → .connection .abandoned ∈ pts' ∨ s.AllEnded ended)
    (hhinges : ∀ point outcome, hinge = some (point, outcome) → s.Hinges ended pts' point outcome) :
    Single s ended pts' hinge where
  alone := h.alone
  launches := hlaunches
  launching := fun point hpoint hlaunch => by
    rcases hpts point hpoint with hold | ⟨hnot, -⟩
    · exact h.launching point hold hlaunch
    · rw [hnot] at hlaunch
      cases hlaunch
  line := fun channel track process htrack hprocess hopen => by
    obtain ⟨hlast, ⟨_, _, hmet⟩ | hlives⟩ := h.line channel track process htrack hprocess hopen
    · cases hmet
    · exact ⟨hlast, .inr hlives⟩
  led := h.led
  custody := fun process hp hnot => by
    rcases h.custody process hp hnot with ⟨_, hhinge⟩ | ⟨channel, track, hlast, htrack, hprocess, hheld⟩
    · cases hhinge
    · refine .inr ⟨channel, track, hlast, htrack, hprocess, .inr ?_⟩
      rcases hheld with ⟨_, _, hmet⟩ | hlives | hmem
      · cases hmet
      · exact .inl hlives
      · exact .inr ((habandoned hmem).resolve_right fun hall => hnot (hall process hp))
  places := fun point hpoint => (hpts point hpoint).elim (h.places point) And.right
  hinges := hhinges

/-- A task at a hinge has seen to what it met. -/
theorem meet (h : Single s ended pts hinge)
    (hfresh : ∀ channel process, hinge ≠ some (.channel (.opened channel), .ok (.process process)))
    (hmet : ∀ channel track, Shape.IsMet hinge channel → s.tracks[channel]? = some track →
      s.Lives track.owner ∨ (track.process.isSome → track.closing = true) ∧
        (.connection .abandoned ∈ pts ∨ s.AllEnded ended)) :
    Single s ended pts none :=
  { h with
    line := fun channel track process htrack hprocess hopen => by
      obtain ⟨hlast, hheld⟩ := h.line channel track process htrack hprocess hopen
      refine ⟨hlast, .inr (hheld.elim (fun hmeets => ?_) id)⟩
      refine (hmet channel track hmeets htrack).resolve_right fun hshut => ?_
      rw [hshut.1 (by rw [hprocess]; rfl)] at hopen
      cases hopen
    custody := fun process hp hnot => by
      rcases h.custody process hp hnot with ⟨channel, hhinge⟩ |
        ⟨channel, track, hlast, htrack, hprocess, hheld⟩
      · exact absurd hhinge (hfresh channel process)
      · refine .inr ⟨channel, track, hlast, htrack, hprocess, .inr ?_⟩
        rcases hheld with hmeets | hheld
        · rcases hmet channel track hmeets htrack with hlives | ⟨-, hmem | hall⟩
          · exact .inl hlives
          · exact .inr hmem
          · exact absurd (hall process hp) hnot
        · exact hheld
    hinges := fun _ _ heq => by cases heq }

end Single

/-- Channels are closed, and closed ones lose their processes. -/
structure Shape.Wanes (s s' : Shape) : Prop where
  /-- The processes are the same. -/
  scripts : s'.scripts = s.scripts
  /-- The next processes are the same. -/
  companions : s'.companions = s.companions
  /-- The connections are the same. -/
  stages : s'.stages = s.stages
  /-- There are as many channels. -/
  length : s'.tracks.length = s.tracks.length
  /-- A channel has no other process than before. -/
  tracks : ∀ (channel : Nat) (track : Track), s.tracks[channel]? = some track → ∃ track' : Track,
    s'.tracks[channel]? = some track' ∧ track'.owner = track.owner ∧
      (track.closing = true → track'.closing = true) ∧
      (track'.process = track.process ∨ track'.process = none ∧ track'.closing = true)

namespace Shape.Wanes

variable {s' : Shape}

protected theorem refl (s : Shape) : s.Wanes s :=
  ⟨rfl, rfl, rfl, rfl, fun _ track htrack => ⟨track, htrack, rfl, id, .inl rfl⟩⟩

protected theorem trans {s'' : Shape} (h : s.Wanes s') (h' : s'.Wanes s'') : s.Wanes s'' where
  scripts := h'.scripts.trans h.scripts
  companions := h'.companions.trans h.companions
  stages := h'.stages.trans h.stages
  length := h'.length.trans h.length
  tracks := by
    intro channel track htrack
    obtain ⟨track', htrack', howner, hclosing, hprocess⟩ := h.tracks channel track htrack
    obtain ⟨track'', htrack'', howner', hclosing', hprocess'⟩ := h'.tracks channel track' htrack'
    refine ⟨track'', htrack'', howner'.trans howner, hclosing' ∘ hclosing, ?_⟩
    rcases hprocess' with heq | hnone
    · rw [heq]
      exact hprocess.imp id fun hnone => ⟨hnone.1, hclosing' hnone.2⟩
    · exact .inr hnone

/-- One channel changes. -/
theorem setTrack (s : Shape) (channel : Nat) {change : Track → Track}
    (h : ∀ track, s.tracks[channel]? = some track → (change track).owner = track.owner ∧
      (track.closing = true → (change track).closing = true) ∧
      ((change track).process = track.process ∨
        (change track).process = none ∧ (change track).closing = true)) :
    s.Wanes (s.setTrack channel change) where
  scripts := rfl
  companions := rfl
  stages := rfl
  length := List.length_modify ..
  tracks := by
    intro other track htrack
    simp only [Shape.setTrack, List.getElem?_modify, htrack]
    split
    · rename_i heq
      subst heq
      exact ⟨_, rfl, h track htrack⟩
    · exact ⟨track, rfl, rfl, id, .inl rfl⟩

theorem shut (s : Shape) (channel : Nat) : s.Wanes (s.shut channel) :=
  setTrack s channel fun _ _ => ⟨rfl, fun _ => rfl, .inl rfl⟩

/-- A closed channel loses its process. -/
theorem carry (hclosing : ∀ track, s.tracks[channel]? = some track → track.closing = true) :
    s.Wanes (s.carry channel none) :=
  setTrack s channel fun track htrack => ⟨rfl, id, .inr ⟨rfl, hclosing track htrack⟩⟩

/-- A channel that is closed has lost its process. -/
theorem shut_carry (s : Shape) (channel : Nat) : s.Wanes ((s.shut channel).carry channel none) := by
  refine (shut s channel).trans (carry fun track htrack => ?_)
  simp only [Shape.shut, Shape.setTrack, List.getElem?_modify_eq] at htrack
  obtain ⟨old, -, rfl⟩ := Option.map_eq_some_iff.1 htrack
  rfl

theorem isLast (h : s.Wanes s') : s'.IsLast channel ↔ s.IsLast channel := by
  rw [IsLast, IsLast, h.length]

theorem lives (h : s.Wanes s') {owner : Owner} : s'.Lives owner ↔ s.Lives owner := by
  rw [Lives, Lives, h.stages]

theorem allEnded (h : s.Wanes s') : s'.AllEnded ended ↔ s.AllEnded ended := by
  rw [AllEnded, AllEnded, h.scripts]

/-- What a channel is like now, it was like before, apart from its process. -/
theorem back (h : s.Wanes s') {track' : Track} (htrack' : s'.tracks[channel]? = some track') :
    ∃ track, s.tracks[channel]? = some track ∧ track'.owner = track.owner ∧
      (track.closing = true → track'.closing = true) ∧
      (track'.process = track.process ∨ track'.process = none ∧ track'.closing = true) := by
  have hlt := (List.getElem?_eq_some_iff.1 htrack').1
  rw [h.length] at hlt
  obtain ⟨same, hsame, hrest⟩ := h.tracks channel _ (List.getElem?_eq_getElem hlt)
  obtain rfl := Option.some.inj (hsame.symm.trans htrack')
  exact ⟨_, List.getElem?_eq_getElem hlt, hrest⟩

/-- A channel that is closed or keeps its process does so afterwards, or is closed by then. -/
theorem closed_or_keeps {process : Nat} (h : s.Wanes s') (hkeeps : ∃ track,
    s.tracks[channel]? = some track ∧ (track.closing = true ∨ track.process = some process)) :
    ∃ track, s'.tracks[channel]? = some track ∧
      (track.closing = true ∨ track.process = some process) := by
  obtain ⟨track, htrack, hor⟩ := hkeeps
  obtain ⟨track', htrack', -, hclosing', hprocess'⟩ := h.tracks _ _ htrack
  refine ⟨track', htrack', ?_⟩
  rcases hor with hclosing | hprocess
  · exact .inl (hclosing' hclosing)
  · exact hprocess'.elim (fun heq => .inr (heq.trans hprocess)) fun hnone => .inl hnone.2

theorem places (h : s.Wanes s') (hplaces : s.Places ended point) : s'.Places ended point := by
  -- Channels keep their owners, and what is closed or given up stays so.
  unfold Places at hplaces ⊢
  split at hplaces
  · exact h.isLast.2 hplaces
  · obtain ⟨hlast, track, htrack, howner⟩ := hplaces
    obtain ⟨track', htrack', howner', -⟩ := h.tracks _ _ htrack
    exact ⟨h.isLast.2 hlast, track', htrack', howner'.trans howner⟩
  · obtain ⟨hlast, track, htrack, howner⟩ := hplaces
    obtain ⟨track', htrack', howner', -⟩ := h.tracks _ _ htrack
    exact ⟨h.isLast.2 hlast, track', htrack', howner'.trans howner⟩
  · exact h.isLast.2 hplaces
  · exact h.isLast.2 hplaces
  · obtain ⟨hlast, track, htrack, hclosing, hprocess⟩ := hplaces
    obtain ⟨track', htrack', -, hclosing', hprocess'⟩ := h.tracks _ _ htrack
    refine ⟨h.isLast.2 hlast, track', htrack', hclosing' hclosing, fun other hother => ?_⟩
    rcases hprocess' with heq | ⟨hnone, -⟩
    · exact hprocess other (heq ▸ hother)
    · rw [hnone] at hother
      cases hother
  · obtain ⟨hlast, hall, track, htrack, hclosing⟩ := hplaces
    obtain ⟨track', htrack', -, hclosing', -⟩ := h.tracks _ _ htrack
    exact ⟨h.isLast.2 hlast, h.allEnded.2 hall, track', htrack', hclosing' hclosing⟩
  · obtain ⟨hlast, hall, track, htrack, hclosing⟩ := hplaces
    obtain ⟨track', htrack', -, hclosing', -⟩ := h.tracks _ _ htrack
    exact ⟨h.isLast.2 hlast, h.allEnded.2 hall, track', htrack', hclosing' hclosing⟩
  · exact h.closed_or_keeps hplaces
  · exact h.closed_or_keeps hplaces
  · trivial

end Shape.Wanes

namespace Single

variable {s' : Shape}

/-- Channels are closed. -/
theorem wane (h : Single s ended pts hinge) (hwanes : s.Wanes s')
    (hlaunches : ∀ point ∈ pts, point.isLaunch = false)
    (hkept : s.AllEnded ended ∨ ∀ (channel : Nat) (track track' : Track), s.tracks[channel]? = some track →
      s'.tracks[channel]? = some track' → track'.process = track.process)
    (hhinges : ∀ point outcome, hinge = some (point, outcome) → s'.Hinges ended pts point outcome) :
    Single s' ended pts hinge where
  alone := by
    rw [hwanes.scripts]
    exact h.alone
  launches := h.launches
  launching := fun point hpoint hlaunch => by
    rw [hlaunches point hpoint] at hlaunch
    cases hlaunch
  line := fun channel track' process htrack' hprocess hopen => by
    obtain ⟨track, htrack, howner, hclosing, hsame⟩ := hwanes.back htrack'
    have hsame : track'.process = track.process := hsame.resolve_right fun hnone => by
      rw [hnone.1] at hprocess
      cases hprocess
    obtain ⟨hlast, hlives⟩ := h.line channel track process htrack (hsame ▸ hprocess)
      (by cases hc : track.closing with
        | false => rfl
        | true => rw [hclosing hc] at hopen; cases hopen)
    rw [howner]
    exact ⟨hwanes.isLast.2 hlast, hlives.imp id hwanes.lives.2⟩
  led := fun number stage hstage hphase => by
    rw [hwanes.stages] at hstage
    obtain ⟨channel, track, hchannel, hlast, htrack, howner⟩ := h.led number stage hstage hphase
    obtain ⟨track', htrack', howner', -⟩ := hwanes.tracks channel track htrack
    exact ⟨channel, track', hchannel, hwanes.isLast.2 hlast, htrack', howner'.trans howner⟩
  -- unless all processes have ended, no channel has lost its own
  custody := fun process hp hnot => by
    rw [hwanes.scripts] at hp
    refine (h.custody process hp hnot).imp id fun ⟨channel, track, hlast, htrack, hprocess, hheld⟩ => ?_
    rcases hkept with hall | hkept
    · exact absurd (hall process hp) hnot
    · obtain ⟨track', htrack', howner', -⟩ := hwanes.tracks channel track htrack
      refine ⟨channel, track', hwanes.isLast.2 hlast, htrack',
        (hkept channel track track' htrack htrack').trans hprocess, ?_⟩
      rw [howner']
      exact hheld.imp id fun hheld => hheld.imp hwanes.lives.2 id
  places := fun point hpoint => hwanes.places (h.places point hpoint)
  hinges := hhinges

/-- One connection changes in a way that does not stop it. -/
theorem setStage (h : Single s ended pts none) {change : Stage → Stage}
    (hchange : ∀ stage, s.stages[number]? = some stage → (change stage).channel = stage.channel ∧
      ((change stage).phase = .stopped ↔ stage.phase = .stopped)) :
    Single (s.setStage number change) ended pts none := by
  -- Connections correspond to each other, and none is stopped that was not.
  have hback : ∀ (other : Nat) (stage' : Stage),
      (s.setStage number change).stages[other]? = some stage' → ∃ stage : Stage, s.stages[other]? = some stage ∧ stage'.channel = stage.channel ∧
        (stage'.phase = .stopped ↔ stage.phase = .stopped) := by
    intro other stage' hstage'
    obtain ⟨stage, hstage, ⟨rfl, rfl⟩ | ⟨-, rfl⟩⟩ := Tasks.getElem?_modify_cases hstage'
    · exact ⟨stage, hstage, hchange stage hstage⟩
    · exact ⟨stage', hstage, rfl, .rfl⟩
  have hlives : ∀ owner, s.Lives owner → (s.setStage number change).Lives owner := by
    rintro owner ⟨other, stage, rfl, hstage, hphase⟩
    have hlt := (List.getElem?_eq_some_iff.1 hstage).1
    obtain ⟨stage', hstage'⟩ : ∃ stage', (s.setStage number change).stages[other]? = some stage' :=
      ⟨_, List.getElem?_eq_getElem (by simpa [Shape.setStage] using hlt)⟩
    obtain ⟨same, hsame, -, hiff⟩ := hback other stage' hstage'
    obtain rfl := Option.some.inj (hsame.symm.trans hstage)
    exact ⟨other, stage', rfl, hstage', fun hstopped => hphase (hiff.1 hstopped)⟩
  exact { h with
    line := fun channel track process htrack hprocess hopen => by
      obtain ⟨hlast, hheld⟩ := h.line channel track process htrack hprocess hopen
      exact ⟨hlast, hheld.imp id (hlives _)⟩
    led := fun other stage' hstage' hphase => by
      obtain ⟨stage, hstage, hchannel, hiff⟩ := hback other stage' hstage'
      rw [hchannel]
      exact h.led other stage hstage fun hstopped => hphase (hiff.2 hstopped)
    custody := fun process hp hnot => by
      refine (h.custody process hp hnot).imp id ?_
      rintro ⟨channel, track, hlast, htrack, hprocess, hheld⟩
      exact ⟨channel, track, hlast, htrack, hprocess, hheld.imp id fun hheld => hheld.imp (hlives _) id⟩
    hinges := fun _ _ heq => by cases heq }

/-- A connection is stopped when all processes have ended. -/
theorem reset (h : Single s ended pts none) (number : Nat) (hall : s.AllEnded ended)
    (hshut : s.IsShut) : Single (s.reset number) ended pts none :=
  { h with
    line := fun channel track process htrack hprocess hopen => by
      obtain ⟨hlast, -⟩ := h.line channel track process htrack hprocess hopen
      rw [hshut channel track hlast htrack (by rw [hprocess]; rfl)] at hopen
      cases hopen
    led := fun other stage' hstage' hphase => by
      obtain ⟨stage, hstage, ⟨-, rfl⟩ | ⟨-, rfl⟩⟩ := Tasks.getElem?_modify_cases hstage'
      · exact absurd rfl hphase
      · exact h.led other stage' hstage hphase
    custody := fun process hp hnot => absurd (hall process hp) hnot
    hinges := fun _ _ heq => by cases heq }

/-- There is another connection, which nobody has started. -/
theorem addStage (h : Single s ended pts none) : Single s.addStage ended pts none := by
  have hback : ∀ (number : Nat) (stage : Stage), s.addStage.stages[number]? = some stage →
      s.stages[number]? = some stage ∨ stage.phase = .stopped :=
    fun _ _ hstage => (Shape.stages_addStage_cases hstage).imp_right fun hnew => congrArg Stage.phase hnew.2
  have hlives : ∀ owner, s.Lives owner → s.addStage.Lives owner := by
    rintro owner ⟨number, stage, rfl, hstage, hphase⟩
    exact ⟨number, stage, rfl, Tasks.getElem?_append_of_some hstage _, hphase⟩
  exact { h with
    line := fun channel track process htrack hprocess hopen =>
      (h.line channel track process htrack hprocess hopen).imp id fun hheld => hheld.imp id (hlives _)
    led := fun number stage hstage hphase =>
      h.led number stage ((hback number stage hstage).resolve_right hphase) hphase
    custody := fun process hp hnot => by
      refine (h.custody process hp hnot).imp id ?_
      rintro ⟨channel, track, hlast, htrack, hprocess, hheld⟩
      exact ⟨channel, track, hlast, htrack, hprocess, hheld.imp id fun hheld => hheld.imp (hlives _) id⟩
    hinges := fun _ _ heq => by cases heq }

/-- Somebody stands at another point. -/
theorem add (h : Single s ended pts hinge) (hlaunch : point.isLaunch = false)
    (hplaces : s.Places ended point)
    (hhinges : ∀ at_ outcome, hinge = some (at_, outcome) →
      s.Hinges ended (point :: pts) at_ outcome) : Single s ended (point :: pts) hinge :=
  { h with
    launches := by
      rw [List.countP_cons_of_neg (by rw [hlaunch]; exact Bool.false_ne_true)]
      exact h.launches
    launching := fun other hother hlaunches => by
      rcases List.mem_cons.1 hother with rfl | hother
      · rw [hlaunch] at hlaunches
        cases hlaunches
      · exact h.launching other hother hlaunches
    custody := fun process hp hnot => by
      refine (h.custody process hp hnot).imp id fun ⟨channel, track, hlast, htrack, hprocess, hheld⟩ =>
        ⟨channel, track, hlast, htrack, hprocess, ?_⟩
      exact hheld.imp id fun hheld => hheld.imp id (List.mem_cons_of_mem _)
    places := fun other hother => (List.mem_cons.1 hother).elim (fun heq => heq ▸ hplaces)
      (h.places other)
    hinges := hhinges }

/-! ## Ends of processes -/

/-- If the process of the last channel has ended, all have. -/
theorem allEnded (h : Single s ended pts hinge)
    (hfresh : ∀ channel process, hinge ≠ some (.channel (.opened channel), .ok (.process process)))
    (hlast : s.IsLast channel) {process : Option Nat}
    (hprocess : s.tracks[channel]?.bind (·.process) = process)
    (hended : ∀ p, process = some p → ended p) : s.AllEnded ended := by
  intro p hp
  by_contra hnot
  rcases h.custody p hp hnot with ⟨other, hhinge⟩ | ⟨other, track, hother, htrack, htracked, -⟩
  · exact hfresh other p hhinge
  · obtain rfl := hlast.unique hother
    rw [htrack] at hprocess
    exact hnot (hended p (hprocess.symm.trans htracked))

/-- While the last channel has a process, nothing is about to start. -/
theorem not_launch (h : Single s ended pts hinge) (hlast : s.IsLast channel) {process : Nat}
    (hprocess : s.tracks[channel]?.bind (·.process) = some process) :
    ∀ point ∈ pts, point.isLaunch = false := by
  intro point hpoint
  by_contra hlaunch
  obtain ⟨track, htrack, htracked⟩ := Option.bind_eq_some_iff.1 hprocess
  obtain ⟨-, hnone⟩ := h.launching point hpoint (by simpa using hlaunch)
  rw [(hnone channel track hlast htrack).1] at htracked
  cases htracked

/-- What becomes of everything when the last channel is closed. -/
theorem closes {l l' : Layout} {f : Facts} {next : Next} (h : Single l.shape ended pts hinge)
    (hmet : ∀ point outcome, hinge = some (point, outcome) →
      ∃ number channel answer, point = .connection (.opened number channel) ∧ outcome = .ok answer)
    (hlast : l.shape.IsLast channel) (hgrows : ∀ p, l.Done f p → ended p)
    (hcloses : l.Closes f channel l' next) :
    Single l'.shape ended pts hinge ∧ l'.shape.IsShut ∧ l'.shape.stages = l.shape.stages ∧
      (next = .go (.ok .unit) [] ∧ l'.shape.AllEnded ended ∨
        ∃ point : ChannelPoint, Rises [.channel point] next ∧ l'.shape.Places ended (.channel point) ∧
          (Point.channel point).isHinge = false) := by
  have hbind : ∀ process, l.pipes[channel]?.bind (·.process) = process →
      l.shape.tracks[channel]?.bind (·.process) = process := by
    intro process hprocess
    rw [Layout.shape_tracks_getElem?, ← hprocess]
    cases l.pipes[channel]? <;> rfl
  have hfresh : ∀ channel process,
      hinge ≠ some (.channel (.opened channel), .ok (.process process)) := by
    intro channel process heq
    obtain ⟨_, _, _, hpoint, -⟩ := hmet _ _ heq
    cases hpoint
  have hhinges : ∀ (s : Shape) point outcome, hinge = some (point, outcome) →
      s.Hinges ended pts point outcome := by
    intro s point outcome heq
    obtain ⟨_, _, _, rfl, rfl⟩ := hmet _ _ heq
    trivial
  have hshuts : ∀ s' : Shape, l.shape.Wanes s' →
      (∀ track, s'.tracks[channel]? = some track → track.closing = true) → s'.IsShut := by
    intro s' hwanes hclosing other track hother htrack _
    obtain rfl := hlast.unique (hwanes.isLast.1 hother)
    exact hclosing track htrack
  have hclosing : ∀ track, (l.shape.shut channel).tracks[channel]? = some track →
      track.closing = true := by
    intro track htrack
    simp only [Shape.shut, Shape.setTrack, List.getElem?_modify_eq] at htrack
    obtain ⟨old, -, rfl⟩ := Option.map_eq_some_iff.1 htrack
    rfl
  -- a channel that is shut keeps its process
  have hshut : (∀ point ∈ pts, point.isLaunch = false) →
      Single (l.shape.shut channel) ended pts hinge := by
    refine fun hlaunches => h.wane (.shut _ _) hlaunches (.inr ?_) (hhinges _)
    intro other track track' htrack htrack'
    simp only [Shape.shut, Shape.setTrack, List.getElem?_modify, htrack] at htrack'
    split at htrack' <;> (rw [← Option.some.inj htrack'])
  cases hcloses with
  | bare hnone =>
    have hprocess := hbind _ hnone
    have hall := h.allEnded hfresh hlast hprocess fun p hp => by cases hp
    refine ⟨h, ?_, rfl, .inl ⟨rfl, hall⟩⟩
    intro other track hother htrack hsome
    obtain rfl := hlast.unique hother
    rw [htrack] at hprocess
    rw [show track.process = none from hprocess] at hsome
    cases hsome
  | subsides hprocess hended hsubsides =>
    rename_i process
    have hprocess' := hbind _ hprocess
    have hdead : ended process := hgrows _ hended
    have hall := h.allEnded hfresh hlast hprocess' fun p hp => Option.some.inj hp ▸ hdead
    have hlaunches := h.not_launch hlast hprocess'
    have hsingle := hshut hlaunches
    cases hsubsides with
    | now =>
      rw [Layout.shape_carry, Layout.shape_shut]
      have hwanes : (l.shape.shut channel).Wanes ((l.shape.shut channel).carry channel none) :=
        .carry hclosing
      refine ⟨hsingle.wane hwanes hlaunches (.inl hall) (hhinges _), ?_, rfl, .inl ⟨rfl, hall⟩⟩
      refine hshuts _ (.shut_carry _ _) fun track htrack => ?_
      obtain ⟨old, hold, -, hkept, -⟩ := hwanes.back htrack
      exact hkept (hclosing old hold)
    | waits hnext =>
      rw [Layout.shape_shut]
      refine ⟨hsingle, hshuts _ (.shut _ _) hclosing, rfl, .inr ⟨_, hnext, ?_, rfl⟩⟩
      obtain ⟨track, htrack, -⟩ := Option.bind_eq_some_iff.1 hprocess'
      obtain ⟨track', htrack', -⟩ := (Shape.Wanes.shut l.shape channel).tracks _ _ htrack
      exact ⟨(Shape.Wanes.shut _ _).isLast.2 hlast, hall, track', htrack', hclosing _ htrack'⟩
  | asks hprocess hnext =>
    rename_i process
    have hprocess' := hbind _ hprocess
    rw [Layout.shape_shut]
    refine ⟨hshut (h.not_launch hlast hprocess'), hshuts _ (.shut _ _) hclosing, rfl,
      .inr ⟨_, hnext, ?_, rfl⟩⟩
    obtain ⟨track, htrack, htracked⟩ := Option.bind_eq_some_iff.1 hprocess'
    refine ⟨(Shape.Wanes.shut _ _).isLast.2 hlast, { track with closing := true }, ?_, rfl, ?_⟩
    · simp [Shape.shut, Shape.setTrack, htrack]
    · intro other hother
      exact Option.some.inj (hother.symm.trans htracked)

/-! ## Starts -/

/-- Nobody starts or stops a connection, and none is at work. -/
structure IsClear (s : Shape) (pts : List Point) : Prop where
  /-- Nobody starts or stops a connection. -/
  points : ∀ point ∈ pts, point.isHandling = false ∧ point.isLaunch = false ∧
    ∀ channelPoint, point = .channel channelPoint → point.delivery? ≠ some .closing ∧
      point.delivery? ≠ some .opening
  /-- None is at work. -/
  stages : ∀ (number : Nat) (stage : Stage), s.stages[number]? = some stage → stage.phase = .stopped

theorem IsClear.not_lives (hclear : IsClear s pts) (owner : Owner) : ¬ s.Lives owner := by
  rintro ⟨number, stage, -, hstage, hphase⟩
  exact hphase (hclear.stages number stage hstage)

/-- Where nobody is at work, all processes have ended. -/
theorem IsClear.allEnded (hclear : IsClear s pts) (h : Single s ended pts none) : s.AllEnded ended := by
  intro p hp
  by_contra hnot
  rcases h.custody p hp hnot with ⟨_, heq⟩ | ⟨channel, track, -, -, -, ⟨_, _, heq⟩ | hlives | hmem⟩
  · cases heq
  · cases heq
  · exact hclear.not_lives _ hlives
  · have hhandling := (hclear.points _ hmem).1
    cases hhandling

/-- A connection begins to start. -/
theorem beginStart (h : Single s ended pts none) (hclear : IsClear s pts) {script : CompanionScript}
    {command : List String} :
    Single (s.beginStart number) ended
      (.program (.starting script command) :: .channel (.opened s.tracks.length) ::
        .connection (.opened number s.tracks.length) :: pts) none := by
  -- nothing is at work, so that all processes have ended and the new channel is the only one in use
  have hall := hclear.allEnded h
  have hold : ∀ (channel : Nat) (track : Track), s.tracks[channel]? = some track →
      (s.beginStart number).tracks[channel]? = some track :=
    fun _ _ htrack => Tasks.getElem?_append_of_some htrack _
  have hnew : (s.beginStart number).tracks[s.tracks.length]? =
      some ⟨none, false, .connection number⟩ := List.getElem?_concat_length
  have hlast : (s.beginStart number).IsLast s.tracks.length := by
    simp [Shape.IsLast, Shape.beginStart]
  have hcases : ∀ (channel : Nat) (track : Track), (s.beginStart number).tracks[channel]? = some track →
      s.tracks[channel]? = some track ∨ track = ⟨none, false, .connection number⟩ :=
    fun _ _ htrack => (Shape.tracks_beginStart_cases htrack).imp_right And.right
  refine ⟨h.alone, ?launches, ?launching, ?line, ?led, fun p hp hnot => absurd (hall p hp) hnot,
    ?places, fun _ _ heq => by cases heq⟩
  case launches =>
    have hnone : pts.countP Point.isLaunch = 0 := List.countP_eq_zero.2 fun point hpoint => by
      rw [(hclear.points point hpoint).2.1]
      exact Bool.false_ne_true
    refine Nat.le_of_eq ?_
    rw [List.countP_cons_of_pos (by rfl), List.countP_cons_of_neg (by exact Bool.false_ne_true),
      List.countP_cons_of_neg (by exact Bool.false_ne_true), hnone]
  case launching =>
    intro point _ _
    refine ⟨hall, fun channel track hother htrack => ?_⟩
    obtain rfl := hlast.unique hother
    obtain rfl := Option.some.inj (hnew.symm.trans htrack)
    exact ⟨rfl, rfl⟩
  case line =>
    intro channel track process htrack hprocess hopen
    rcases hcases channel track htrack with hold | rfl
    · obtain ⟨-, ⟨_, _, heq⟩ | hlives⟩ := h.line channel track process hold hprocess hopen
      · cases heq
      · exact absurd hlives (hclear.not_lives _)
    · cases hprocess
  case led =>
    intro other stage hother hphase
    obtain ⟨old, holdStage, ⟨rfl, rfl⟩ | ⟨-, rfl⟩⟩ := Tasks.getElem?_modify_cases hother
    · exact ⟨_, _, rfl, hlast, hnew, rfl⟩
    · exact absurd (hclear.stages other stage holdStage) hphase
  case places =>
    intro point hpoint
    simp only [List.mem_cons] at hpoint
    rcases hpoint with rfl | rfl | rfl | hpoint
    · trivial
    · exact hlast
    · exact ⟨hlast, _, hnew, rfl⟩
    · -- whoever stands anywhere else does not rely on the last channel
      obtain ⟨hhandling, hlaunch, hchannel⟩ := hclear.points point hpoint
      have hplaces := h.places point hpoint
      cases point with
      | program point =>
        cases point with
        | starting script command => cases hlaunch
        | _ => trivial
      | channel point =>
        obtain ⟨hclosing, hopening⟩ := hchannel point rfl
        cases point with
        | gone channel process => exact hplaces.imp fun track h => ⟨hold _ _ h.1, h.2⟩
        | drained channel process => exact hplaces.imp fun track h => ⟨hold _ _ h.1, h.2⟩
        | opened channel => exact absurd rfl hopening
        | asked channel process => exact absurd rfl hclosing
        | killed channel => exact absurd rfl hclosing
        | quiet channel => exact absurd rfl hclosing
        | _ => trivial
      | connection point =>
        cases point with
        | awaited number method params limit => trivial
        | _ => cases hhandling
      | _ => trivial

/-- Whoever is about to start a process for a channel is the only one: all processes have ended, and the
channel is the last one, open and without a process. -/
theorem vacant {program : List String} {script : CompanionScript}
    (h : Single s ended (.program (.starting script program) :: pts) none)
    (hchannel : .channel (.opened channel) ∈ pts) :
    s.AllEnded ended ∧ (∀ point ∈ pts, point.isLaunch = false) ∧ s.IsLast channel ∧
      ∃ track, s.tracks[channel]? = some track ∧ track.process = none ∧ track.closing = false := by
  obtain ⟨hall, hfree⟩ := h.launching _ List.mem_cons_self rfl
  have hlaunches : ∀ point ∈ pts, point.isLaunch = false := by
    have hcount := h.launches
    rw [List.countP_cons_of_pos (by rfl)] at hcount
    have hzero : pts.countP Point.isLaunch = 0 := by omega
    intro point hpoint
    simpa using List.countP_eq_zero.1 hzero point hpoint
  have hlast : s.IsLast channel := h.places _ (List.mem_cons_of_mem _ hchannel)
  obtain ⟨track, htrack⟩ : ∃ track, s.tracks[channel]? = some track :=
    ⟨_, List.getElem?_eq_getElem (by unfold Shape.IsLast at hlast; omega)⟩
  exact ⟨hall, hlaunches, hlast, track, htrack, hfree channel track hlast htrack⟩

/-- A process is started. -/
theorem launch {program : List String} {script : CompanionScript}
    (h : Single s ended (.program (.starting script program) :: pts) none)
    (hchannel : .channel (.opened channel) ∈ pts) :
    Single (s.addScript script) ended pts
      (some (.channel (.opened channel), .ok (.process s.scripts.length))) := by
  have hmem : ∀ {point : Point}, point ∈ pts → point ∈ Point.program (.starting script program) :: pts :=
    fun hpoint => List.mem_cons_of_mem _ hpoint
  obtain ⟨hall, hlaunches, hlast, track, htrack, hnone, hopen⟩ := h.vacant hchannel
  -- a channel that is closed is not the one that a process starts for
  have hnotClosing : ∀ {other : Nat}, ¬ (s.IsLast other ∧ s.AllEnded ended ∧
      ∃ track, s.tracks[other]? = some track ∧ track.closing = true) := by
    rintro other ⟨hlast', -, track', htrack', hclosing⟩
    obtain rfl := hlast.unique hlast'
    obtain rfl := Option.some.inj (htrack.symm.trans htrack')
    rw [hopen] at hclosing
    cases hclosing
  -- nothing has a process that is alive but the new one
  have hdead : ∀ p < s.scripts.length + 1, ¬ ended p → p = s.scripts.length := by
    intro p hp hnot
    by_contra hne
    exact hnot (hall p (by omega))
  refine ⟨?alone, ?launches, ?launching, ?line, h.led, ?custody, ?places, ?hinges⟩
  case alone =>
    intro p hp hnot
    simp only [Shape.addScript, List.length_append, List.length_singleton] at hp ⊢
    rw [hdead p hp hnot]
  case launches =>
    rw [List.countP_eq_zero.2 fun point hpoint => by rw [hlaunches point hpoint]; exact Bool.false_ne_true]
    exact Nat.zero_le _
  case launching =>
    intro point hpoint hlaunch
    rw [hlaunches point hpoint] at hlaunch
    cases hlaunch
  case line =>
    intro other track process hother hprocess hopen'
    obtain ⟨hlast', ⟨_, _, heq⟩ | hlives⟩ := h.line other track process hother hprocess hopen'
    · cases heq
    · exact ⟨hlast', .inr hlives⟩
  case custody =>
    intro p hp hnot
    simp only [Shape.addScript, List.length_append, List.length_singleton] at hp
    rw [hdead p hp hnot]
    exact .inl ⟨channel, rfl⟩
  case places =>
    intro point hpoint
    have hplaces := h.places point (hmem hpoint)
    unfold Shape.Places at hplaces ⊢
    split at hplaces
    · exact hplaces
    · exact hplaces
    · exact hplaces
    · exact hplaces
    · exact hplaces
    · exact hplaces
    · exact absurd hplaces hnotClosing
    · exact absurd hplaces hnotClosing
    · exact hplaces
    · exact hplaces
    · trivial
  case hinges =>
    intro point outcome heq
    obtain ⟨rfl, rfl⟩ := Prod.mk.inj (Option.some.inj heq)
    refine ⟨⟨track, htrack, hnone, hopen⟩, hlaunches, fun p hp => ?_, fun failure hf => by cases hf⟩
    obtain rfl := Answer.process.inj (Except.ok.inj hp)
    simp [Shape.addScript]

/-- A process could not be started. -/
theorem miss {program : List String} {script : CompanionScript} {failure : Failure}
    (h : Single s ended (.program (.starting script program) :: pts) none)
    (hchannel : .channel (.opened channel) ∈ pts) :
    Single s ended pts (some (.channel (.opened channel), .error failure)) := by
  have hmem : ∀ {point : Point}, point ∈ pts → point ∈ Point.program (.starting script program) :: pts :=
    fun hpoint => List.mem_cons_of_mem _ hpoint
  obtain ⟨hall, hlaunches, hlast, track, htrack, hnone, hopen⟩ := h.vacant hchannel
  refine h.move ?_ (fun point hpoint => .inl (hmem hpoint)) (fun _ => .inr hall) ?_
  · rw [List.countP_eq_zero.2 fun point hpoint => by rw [hlaunches point hpoint]; exact Bool.false_ne_true]
    exact Nat.zero_le _
  · intro point outcome heq
    obtain ⟨rfl, rfl⟩ := Prod.mk.inj (Option.some.inj heq)
    exact ⟨⟨track, htrack, hnone, hopen⟩, hlaunches, (fun p hp => by cases hp), fun _ _ => hall⟩

/-- Where tasks stand, as far as it matters, when the last channel, which is open and has no process,
gets one: nobody is closing it, and nobody has its output. -/
theorem places_carry {point : Point} {track : Track} (h : s.Places ended point)
    (hchannel : s.IsLast channel) (htrack : s.tracks[channel]? = some track) (hnone : track.process = none)
    (hopen : track.closing = false) : (s.carry channel (some process)).Places ended point := by
  have hlast : ∀ {other : Nat}, (s.carry channel (some process)).IsLast other ↔ s.IsLast other := by
    intro other
    simp [Shape.IsLast, Shape.carry, Shape.setTrack]
  have hkept : ∀ {other : Nat} {track' : Track}, s.tracks[other]? = some track' →
      ∃ track'' : Track, (s.carry channel (some process)).tracks[other]? = some track'' ∧
        track''.owner = track'.owner ∧ track''.closing = track'.closing ∧
        (track''.process = track'.process ∨ other = channel) := by
    intro other track' htrack'
    by_cases heq : channel = other
    · subst heq
      obtain rfl := Option.some.inj (htrack.symm.trans htrack')
      exact ⟨{ track with process := some process }, by simp [Shape.carry, Shape.setTrack, htrack], rfl,
        rfl, .inr rfl⟩
    · exact ⟨track', by simpa [Shape.carry, Shape.setTrack, List.getElem?_modify, heq] using htrack', rfl, rfl,
        .inl rfl⟩
  -- whoever closes the last channel finds it closing
  have hshut : ∀ {other : Nat} {track' : Track}, s.IsLast other → s.tracks[other]? = some track' →
      track'.closing = false := by
    intro other track' hother' htrack'
    obtain rfl := hchannel.unique hother'
    rw [htrack] at htrack'
    exact Option.some.inj htrack' ▸ hopen
  -- whoever reads from a channel has a process there, or finds it closing
  have hreads : ∀ {other p : Nat},
      (∃ track, s.tracks[other]? = some track ∧ (track.closing = true ∨ track.process = some p)) →
      ∃ track, (s.carry channel (some process)).tracks[other]? = some track ∧
        (track.closing = true ∨ track.process = some p) := by
    rintro other p ⟨track', htrack', hor⟩
    obtain ⟨track'', htrack'', -, hclosing, hprocess | rfl⟩ := hkept htrack'
    · exact ⟨track'', htrack'', hor.imp hclosing.trans hprocess.trans⟩
    · rw [htrack] at htrack'
      obtain rfl := Option.some.inj htrack'
      rw [hnone, hopen] at hor
      rcases hor with hor | hor <;> cases hor
  unfold Shape.Places at h ⊢
  split at h
  · exact hlast.2 h
  · obtain ⟨hlast', track', htrack', howner⟩ := h
    obtain ⟨track'', htrack'', howner', -⟩ := hkept htrack'
    exact ⟨hlast.2 hlast', track'', htrack'', howner'.trans howner⟩
  · obtain ⟨hlast', track', htrack', howner⟩ := h
    obtain ⟨track'', htrack'', howner', -⟩ := hkept htrack'
    exact ⟨hlast.2 hlast', track'', htrack'', howner'.trans howner⟩
  · exact hlast.2 h
  · exact hlast.2 h
  · obtain ⟨hlast', track', htrack', hclosing, -⟩ := h
    rw [hshut hlast' htrack'] at hclosing
    cases hclosing
  · obtain ⟨hlast', -, track', htrack', hclosing⟩ := h
    rw [hshut hlast' htrack'] at hclosing
    cases hclosing
  · obtain ⟨hlast', -, track', htrack', hclosing⟩ := h
    rw [hshut hlast' htrack'] at hclosing
    cases hclosing
  · exact hreads h
  · exact hreads h
  · trivial

/-- A channel has its process. -/
theorem carry {answer : Answer}
    (h : Single s ended pts (some (.channel (.opened channel), .ok (.process process))))
    (hchannel : s.IsLast channel) (number : Nat) :
    Single (s.carry channel (some process)) ended pts
      (some (.connection (.opened number channel), .ok answer)) := by
  obtain ⟨⟨track, htrack, hnone, hopen⟩, hlaunches, hlastProcess, -⟩ := h.hinges _ _ rfl
  have hself : (s.carry channel (some process)).tracks[channel]? =
      some { track with process := some process } := by
    simp [Shape.carry, Shape.setTrack, htrack]
  have hother : ∀ {other : Nat}, channel ≠ other →
      (s.carry channel (some process)).tracks[other]? = s.tracks[other]? := fun hne => by
    simp [Shape.carry, Shape.setTrack, List.getElem?_modify, if_neg hne]
  have hlast : ∀ {other : Nat}, (s.carry channel (some process)).IsLast other ↔ s.IsLast other := by
    intro other
    simp [Shape.IsLast, Shape.carry, Shape.setTrack]
  -- The channel had no process, and the one that it gets is the only one alive.
  refine ⟨h.alone, h.launches, ?launching, ?line, ?led, ?custody, ?places, ?hinges⟩
  case launching =>
    intro point hpoint hlaunch
    rw [hlaunches point hpoint] at hlaunch
    cases hlaunch
  case line =>
    intro other track' process' htrack' hprocess' hopen'
    by_cases heq : channel = other
    · subst heq
      exact ⟨hlast.2 hchannel, .inl ⟨_, _, rfl⟩⟩
    · rw [hother heq] at htrack'
      obtain ⟨hlast', hheld⟩ := h.line other track' process' htrack' hprocess' hopen'
      exact absurd (hlast'.unique hchannel) heq
  case led =>
    intro other stage hstage hphase
    obtain ⟨line, track', hline, hlast', htrack', howner⟩ := h.led other stage hstage hphase
    obtain rfl := hlast'.unique hchannel
    rw [htrack] at htrack'
    obtain rfl := Option.some.inj htrack'
    exact ⟨_, _, hline, hlast.2 hlast', hself, howner⟩
  case custody =>
    intro p hp hnot
    refine .inr ⟨channel, _, hlast.2 hchannel, hself, ?_, .inl ⟨_, _, rfl⟩⟩
    have hp' := h.alone p hp hnot
    have hprocess := hlastProcess process rfl
    show some process = some p
    congr 1
    omega
  case places =>
    exact fun point hpoint => places_carry (h.places point hpoint) hchannel htrack hnone hopen
  case hinges =>
    intro point outcome heq
    obtain ⟨rfl, rfl⟩ := Prod.mk.inj (Option.some.inj heq)
    trivial

end Single

end BasiliskServer.World
