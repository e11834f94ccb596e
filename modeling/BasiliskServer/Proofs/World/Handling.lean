import BasiliskServer.Proofs.World.Alone

/-!
# One after the other

Where nobody starts or stops a connection while somebody else does, it can be told from the only task
that starts or stops one how far connections are (`Serial`): the connection it deals with is on its
way, and all others are stopped. Where there is no such task, connections are stopped or ready, or one
is stuck because its greeting could not be written.
-/

namespace BasiliskServer.World

variable {Γ : Ledger} {counter : Counter} {w w' : World} {point : Point} {outcome : Outcome}
  {rest aside : List Point} {next : Next}

/-! ## Who starts or stops a connection -/

/-- The connection that a task starts or stops at a point. -/
def Point.handled? : Point → Option Nat
  | .connection (.opened number _) | .connection (.greeted number _ _)
  | .connection (.refused number) | .connection (.parted number _)
  | .connection (.closed number _) => some number
  | _ => none

/-- The points at which tasks start or stop a connection. -/
def handlers (w : World) : List Point :=
  w.places.filter Point.isHandling

theorem Point.isLater_of_isHandling (h : point.isHandling = true) : point.isLater = true := by
  cases point with
  | start activity => cases h
  | _ => rfl

theorem Point.isHandling_of_isMinor (h : point.isMinor = true) : point.isHandling = false := by
  unfold Point.isMinor at h
  split at h <;> first | rfl | cases h

theorem Point.isHandling_of_closing (h : point.expectation = .closing) : point.isHandling = true := by
  rcases Point.eq_of_closing h with rfl | ⟨_, rfl⟩ | ⟨_, _, rfl⟩ <;> rfl

/-- Beginnings are not among those who start or stop a connection. -/
theorem filter_later_handling (pts : List Point) :
    (pts.filter Point.isLater).filter Point.isHandling = pts.filter Point.isHandling := by
  rw [List.filter_filter]
  refine List.filter_congr fun point _ => ?_
  cases hhandling : point.isHandling with
  | false => rfl
  | true => simp [Point.isLater_of_isHandling hhandling]

/-- A task starts or stops a connection exactly if it stands where it does so. -/
theorem isHandled_iff : w.isHandled = false ↔ w.handlers = [] := by
  rw [handlers, places, filter_later_handling, List.filter_eq_nil_iff, isHandled, List.any_eq_false]
  simp [allPoints, Tasks.Scheduler.standings, List.flatMap_map, Tasks.Task.standing]

/-- Of those who start or stop a connection these go on, and not where a process is met. -/
structure Follows (next : Next) (handling : List Point) : Prop where
  /-- These start or stop a connection. -/
  points : (points next).filter Point.isHandling = handling
  /-- The task does not go on where a process is met. -/
  head : ∀ number channel, (World.points next).head? ≠ some (.connection (.opened number channel))

namespace Follows

theorem of_rises {front handling : List Point} (h : Rises front next)
    (hfront : front.filter Point.isHandling = handling)
    (hhead : ∀ number channel, front.head? ≠ some (.connection (.opened number channel))) :
    Follows next handling := by
  obtain ⟨minor, hpoints, hminor⟩ := h
  have hnone : minor.filter Point.isHandling = [] := List.filter_eq_nil_iff.2 fun other hother => by
    rw [Point.isHandling_of_isMinor (hminor other hother)]
    exact Bool.false_ne_true
  refine ⟨by rw [hpoints, List.filter_append, hnone, hfront, List.nil_append], fun number channel => ?_⟩
  rw [hpoints]
  cases minor with
  | nil => exact hhead number channel
  | cons first others =>
    intro heq
    have hfirst := hminor first List.mem_cons_self
    rw [Option.some.inj heq] at hfirst
    cases hfirst

theorem idle (h : Rises [] next) : Follows next [] :=
  of_rises h rfl nofun

theorem under {handling : List Point} (h : Follows next handling)
    (hpoint : ∀ number channel, point ≠ .connection (.opened number channel)) :
    Follows (next.under point) (handling ++ [point].filter Point.isHandling) := by
  refine ⟨by rw [points_under, List.filter_append, h.points], fun number channel heq => ?_⟩
  rw [points_under] at heq
  cases hfront : World.points next with
  | nil =>
    rw [hfront] at heq
    exact hpoint number channel (Option.some.inj heq)
  | cons first others =>
    rw [hfront] at heq
    refine h.head number channel ?_
    rw [hfront]
    exact heq

/-- The keeper does not start or stop a connection itself. -/
theorem under_keeper {handling : List Point} (h : Follows next handling) (after : KeeperPoint) :
    Follows (next.under (.keeper after)) handling := by
  have hunder : Follows (next.under (.keeper after)) (handling ++ [Point.keeper after].filter _) :=
    h.under nofun
  rwa [show [Point.keeper after].filter Point.isHandling = [] from rfl, List.append_nil] at hunder

end Follows

/-! ## How far connections are -/

namespace Shape

variable (s : Shape)

/-- A connection is in a phase, with its channel. -/
def IsAt (number : Nat) (phase : Phase) (channel : Option Nat) : Prop :=
  s.stages[number]? = some ⟨phase, channel⟩

/-- A channel takes messages to its process. -/
def IsOpen (channel : Nat) : Prop :=
  ∃ track, s.tracks[channel]? = some track ∧ track.closing = false ∧ track.process.isSome

/-- A channel takes no messages any more. -/
def IsClosed (channel : Nat) : Prop :=
  ∃ track, s.tracks[channel]? = some track ∧ track.closing = true

/-- A channel has lost its process. -/
def IsLost (channel : Nat) : Prop :=
  ∃ track, s.tracks[channel]? = some track ∧ track.closing = true ∧ track.process = none

/-- How far the connection is that a task starts or stops at a point. -/
def Stands (hinge : Option (Point × Outcome)) : Point → Prop
  | .connection (.opened number channel) => s.IsAt number .starting (some channel) ∧
    ∃ track, s.tracks[channel]? = some track ∧ track.closing = false ∧
      (track.process.isSome ↔ IsMet hinge channel)
  | .connection (.greeted number channel _) =>
    s.IsAt number .starting (some channel) ∧ s.IsOpen channel ∨
      s.IsAt number .stopped none ∧ s.IsLost channel
  | .connection (.refused number) =>
    ∃ channel, s.IsAt number .starting (some channel) ∧ s.IsClosed channel
  | .connection (.parted number channel) => s.IsAt number .stopping (some channel)
  | .connection (.closed number channel) => s.IsAt number .stopping channel ∧ channel.isSome
  | _ => False

/-- All other connections are stopped. -/
def IsSole (number : Nat) : Prop :=
  ∀ (other : Nat) (stage : Stage), other ≠ number → s.stages[other]? = some stage →
    stage = ⟨.stopped, none⟩

/-- All connections are stopped or ready; where connections may get stuck, one may be starting while all
others are stopped. -/
def IsSettled (sticks : Prop) : Prop :=
  ∀ (number : Nat) (stage : Stage), s.stages[number]? = some stage →
    stage = ⟨.stopped, none⟩ ∨ ∃ channel, stage.channel = some channel ∧ s.IsOpen channel ∧
      (stage.phase = .ready ∨ stage.phase = .starting ∧ sticks ∧ s.IsSole number)

end Shape

/-- At most one task starts or stops a connection, and connections are as far as it says. A connection
whose greeting cannot be written may get stuck. -/
inductive Serial (sticks : Prop) (s : Shape) (hinge : Option (Point × Outcome)) : List Point → Prop where
  /-- There is no such task. -/
  | calm (h : s.IsSettled sticks) : Serial sticks s hinge []
  /-- There is one. -/
  | handled {point : Point} {number : Nat} (hnumber : point.handled? = some number)
    (hstands : s.Stands hinge point) (hsole : s.IsSole number) : Serial sticks s hinge [point]

variable {sticks : Prop} {s s' : Shape} {hinge hinge' : Option (Point × Outcome)} {ended : Nat → Prop}
  {pts handling : List Point} {number channel : Nat}

namespace Shape

theorem IsAt.unique {phase phase' : Phase} {line line' : Option Nat} (h : s.IsAt number phase line)
    (h' : s.IsAt number phase' line') : phase' = phase ∧ line' = line := by
  have hsame := h'.symm.trans h
  simp only [Option.some.injEq, Stage.mk.injEq] at hsame
  exact hsame

theorem isAt_setStage {stage : Stage} (h : s.stages[number]? = some stage) (change : Stage → Stage) :
    (s.setStage number change).IsAt number (change stage).phase (change stage).channel := by
  simp [IsAt, setStage, h]

theorem IsSole.setStage (h : s.IsSole number) (change : Stage → Stage) :
    (s.setStage number change).IsSole number := by
  intro other stage hne hstage
  refine h other stage hne ?_
  simpa [Shape.setStage, List.getElem?_modify, hne.symm] using hstage

/-- All connections are stopped if one is and the others are. -/
theorem IsSole.isSettled (h : s.IsSole number) (hself : s.IsAt number .stopped none) :
    s.IsSettled sticks := by
  intro other stage hstage
  by_cases heq : other = number
  · subst heq
    exact .inl (Option.some.inj (hstage.symm.trans hself))
  · exact .inl (h other stage heq hstage)

theorem IsOpen.not_isClosed (h : s.IsOpen channel) : ¬ s.IsClosed channel := by
  rintro ⟨track, htrack, hclosing⟩
  obtain ⟨same, hsame, hopen, -⟩ := h
  obtain rfl := Option.some.inj (hsame.symm.trans htrack)
  rw [hclosing] at hopen
  cases hopen

theorem IsClosed.carry (h : s.IsClosed channel) (other : Nat) (process : Option Nat) :
    (s.carry other process).IsClosed channel := by
  obtain ⟨track, htrack, hclosing⟩ := h
  by_cases heq : other = channel
  · subst heq
    exact ⟨{ track with process }, by simp [Shape.carry, Shape.setTrack, htrack], hclosing⟩
  · exact ⟨track, by simp [Shape.carry, Shape.setTrack, heq, htrack], hclosing⟩

theorem isLost_shut_carry {track : Track} (h : s.tracks[channel]? = some track) :
    ((s.shut channel).carry channel none).IsLost channel := by
  refine ⟨{ track with closing := true, process := none }, ?_, rfl, rfl⟩
  simp [Shape.shut, Shape.carry, Shape.setTrack, h]

theorem isClosed_shut {track : Track} (h : s.tracks[channel]? = some track) :
    (s.shut channel).IsClosed channel :=
  ⟨{ track with closing := true }, by simp [Shape.shut, Shape.setTrack, h], rfl⟩

/-- Where a process is not met, nothing changes when nobody is at a hinge. -/
theorem Stands.rehinge (h : s.Stands hinge point)
    (hmet : ∀ channel, IsMet hinge' channel ↔ IsMet hinge channel) : s.Stands hinge' point := by
  unfold Stands at h ⊢
  split at h
  · simpa only [hmet] using h
  all_goals exact h

end Shape

namespace Serial

theorem rehinge (h : Serial sticks s hinge handling)
    (hmet : ∀ channel, Shape.IsMet hinge' channel ↔ Shape.IsMet hinge channel) :
    Serial sticks s hinge' handling := by
  cases h with
  | calm h => exact .calm h
  | handled hnumber hstands hsole => exact .handled hnumber (hstands.rehinge hmet) hsole

theorem perm {handling' : List Point} (h : Serial sticks s hinge handling)
    (hperm : handling'.Perm handling) : Serial sticks s hinge handling' := by
  cases h with
  | calm h =>
    rw [hperm.eq_nil]
    exact .calm h
  | handled hnumber hstands hsole =>
    rw [List.perm_singleton.1 hperm]
    exact .handled hnumber hstands hsole

/-- A connection that is on its way is the one that is started or stopped. -/
theorem eq_of_busy (hsole : s.IsSole number) {other : Nat} {stage : Stage}
    (hstage : s.stages[other]? = some stage) (hphase : stage.phase ≠ .stopped) : other = number := by
  by_contra hne
  rw [hsole other stage hne hstage] at hphase
  exact hphase rfl

end Serial

theorem Point.isHandling_of_handled? (h : point.handled? = some number) : point.isHandling = true := by
  unfold Point.handled? at h
  split at h <;> first | rfl | cases h

/-! ## Who goes on -/

/-- Whether a process was got is told by the channel that asked for it, and by nobody else. -/
theorem Ledger.Passes.exists_opened {result : Nat}
    (h : Γ.Passes counter result .opening point) :
    ∃ channel, point = .channel (.opened channel) := by
  cases point with
  | start activity => cases h
  | wait point =>
    cases point with
    | sleeping alarm => cases h
    | limited inner alarm =>
      obtain ⟨-, purpose, -, hyields⟩ := h
      cases purpose <;> simp [Purpose.Yields] at hyields
    | reaping inner alarm interrupted =>
      obtain ⟨-, -, purpose, -, hyields⟩ := h
      cases purpose <;> simp [Purpose.Yields] at hyields
  | channel point =>
    obtain ⟨e, he, hsuits⟩ := h
    cases hsuits
    cases point <;> first | exact ⟨_, rfl⟩ | cases he
  | _ other =>
    obtain ⟨e, he, hsuits⟩ := h
    cases hsuits
    cases other <;> cases he

namespace Acts

variable (hacts : Acts counter w w' point outcome rest aside next)

include hacts

/-- Those who start or stop a connection, before a task acts. -/
theorem handlers_before : w.handlers.Perm
    ([point].filter Point.isHandling ++ (rest ++ aside).filter Point.isHandling) := by
  have hperm := hacts.before.filter Point.isHandling
  rw [List.filter_append, filter_later_handling] at hperm
  rw [List.filter_append, ← List.append_assoc, ← List.filter_append]
  exact hperm

/-- Those who start or stop a connection, after a task has acted. -/
theorem handlers_after (hfollows : Follows next handling) : w'.handlers.Perm
    (handling ++ (rest ++ aside).filter Point.isHandling) := by
  have hperm := hacts.after.filter Point.isHandling
  rw [List.filter_append, filter_later_handling, List.filter_append, hfollows.points] at hperm
  rw [List.filter_append, ← List.append_assoc]
  exact hperm

/-- A process is met where a channel has just got one. -/
theorem of_isMet (hfollows : Follows next handling) (hmet : Shape.IsMet w'.hinge? channel) :
    ∃ number other, rest.head? = some (.connection (.opened number channel)) ∧
      point = .channel (.opened other) ∧ ∃ answer, next = .go (.ok answer) [] := by
  obtain ⟨number, answer, hhinge⟩ := hmet
  have hacting : w'.acting? = some (.connection (.opened number channel), .ok answer) := by
    obtain ⟨h, -⟩ := Option.filter_eq_some_iff.1 hhinge
    exact h
  have hpresents := hacts.presents
  cases next with
  | wait promise front =>
    cases hpresents _ _ hacting
  | go given front =>
    rw [show w'.acting? = (front ++ rest).head?.map (·, given) from hpresents] at hacting
    obtain ⟨first, hfirst, heq⟩ := Option.map_eq_some_iff.1 hacting
    obtain ⟨rfl, rfl⟩ := Prod.mk.inj heq
    cases front with
    | cons other others =>
      exact absurd hfirst (hfollows.head number channel)
    -- The task has ended at this point, so what is below hears of it.
    | nil =>
      refine ⟨number, ?_⟩
      have hfirst : rest.head? = some (.connection (.opened number channel)) := hfirst
      obtain ⟨Γ, result, below, hsits, -⟩ := hacts.sits
      cases rest with
      | nil => cases hfirst
      | cons other others =>
        obtain rfl := Option.some.inj hfirst
        have hpasses := hsits.1
        obtain ⟨channel', rfl⟩ := Ledger.Passes.exists_opened hpasses
        exact ⟨channel', hfirst, rfl, answer, rfl⟩

end Acts

end BasiliskServer.World
