import BasiliskServer.Proofs.World.Single

/-!
# Every course leaves at most one process alive

A task that acts leaves at most one process alive if, whenever a connection begins to start, nobody
starts or stops one and none is at work (`Single.acts`). What happens while nobody acts leaves it so
anyway (`Single.drifts`).
-/

namespace BasiliskServer.World

variable {Γ : Ledger} {counter : Counter} {w w' : World} {point : Point} {outcome : Outcome}
  {rest aside : List Point} {next : Next} {result : Nat} {below : Expectation}

/-! ## Points above hinges -/

/-- Points that tell a hinge how to go on. -/
def Point.isFeeder (point : Point) : Bool :=
  match point.delivery? with
  | some .process | some .opening | some .closing => true
  | _ => false

/-- What a task comes to in the end. -/
def Expectation.IsFinal (below : Expectation) : Prop :=
  below = .result ∨ below = .idle ∨ ∃ process, below = .exit process

/-- Below a point that tells what only one kind of point relies on is such a point. -/
theorem Ledger.Sits.feeds {e : Expectation} (h : Γ.Sits counter result below (point :: rest))
    (hbelow : below.IsFinal) (hpoint : point.delivery? = some e)
    (hsuits : ∀ other, Expectation.Suits counter e other → other = e) (he : ¬ e.IsFinal) :
    ∃ next others, rest = next :: others ∧ next.expectation = e := by
  have hpasses : ∃ e', point.delivery? = some e' ∧
      Expectation.Suits counter e' (expected below rest) := by
    have hpasses := h.1
    cases point with
    | start activity => cases hpoint
    | wait point => cases hpoint
    | _ => exact hpasses
  obtain ⟨e', he', hsuit⟩ := hpasses
  obtain rfl := Option.some.inj (hpoint.symm.trans he')
  have hsame := hsuits _ hsuit
  cases rest with
  | nil => exact absurd (hsame ▸ hbelow) he
  | cons next others => exact ⟨next, others, rfl, hsame⟩

/-- Below a point that tells a hinge how to go on is a hinge. -/
theorem Ledger.Sits.feeds_hinge {e : Expectation} (h : Γ.Sits counter result below (point :: rest))
    (hbelow : below.IsFinal) (hpoint : point.delivery? = some e)
    (he : e = .process ∨ e = .opening ∨ e = .closing) :
    ∃ hinge others, rest = hinge :: others ∧ hinge.expectation = e := by
  refine h.feeds hbelow hpoint (fun other hsuits => ?_) ?_
  · rcases he with rfl | rfl | rfl <;> cases hsuits <;> rfl
  · rcases he with rfl | rfl | rfl <;> rintro (h | h | ⟨_, h⟩) <;> cases h

/-- Below any other point there is none. -/
theorem Ledger.Sits.not_hinge (h : Γ.Sits counter result below (point :: rest))
    (hpoint : point.isFeeder = false) : ∀ other, rest.head? = some other → other.isHinge = false := by
  intro other hother
  cases rest with
  | nil => cases hother
  | cons first others =>
    obtain rfl := Option.some.inj hother
    have hpasses := h.1
    rw [show expected below (first :: others) = first.expectation from rfl] at hpasses
    unfold Point.isHinge
    generalize first.expectation = e at hpasses
    unfold Point.isFeeder at hpoint
    -- What a point tells is given by its kind, and only feeders tell what a hinge relies on.
    cases point with
    | start activity => cases e <;> first | rfl | cases hpasses
    | wait point =>
      cases point with
      | sleeping alarm => rw [show e = .success from hpasses]
      | limited inner alarm =>
        obtain ⟨-, purpose, -, hyields⟩ := hpasses
        cases purpose <;> cases e <;> first | rfl | simp [Purpose.Yields] at hyields
      | reaping inner alarm interrupted =>
        obtain ⟨-, -, purpose, -, hyields⟩ := hpasses
        cases purpose <;> cases e <;> first | rfl | simp [Purpose.Yields] at hyields
    | _ =>
      obtain ⟨told, htold, hsuits⟩ := hpasses
      rw [htold] at hpoint
      cases hsuits <;> first | rfl | (cases e <;> first | rfl | cases hpoint)

theorem Point.eq_of_process (h : point.expectation = .process) :
    ∃ channel, point = .channel (.opened channel) := by
  unfold Point.expectation at h
  split at h <;> first | exact ⟨_, rfl⟩ | cases h

theorem Point.eq_of_opening (h : point.expectation = .opening) :
    ∃ number channel, point = .connection (.opened number channel) := by
  unfold Point.expectation at h
  split at h <;> first | exact ⟨_, _, rfl⟩ | cases h

/-- The points that go on when a channel is closed. -/
theorem Point.eq_of_closing (h : point.expectation = .closing) :
    point = .connection .abandoned ∨ (∃ number, point = .connection (.refused number)) ∨
      ∃ number channel, point = .connection (.closed number channel) := by
  unfold Point.expectation at h
  split at h <;> first
    | exact .inl rfl
    | exact .inr (.inl ⟨_, rfl⟩)
    | exact .inr (.inr ⟨_, _, rfl⟩)
    | cases h

/-! ## How tasks go on -/

theorem Point.isHinge_of_isMinor (h : point.isMinor = true) : point.isHinge = false := by
  unfold Point.isMinor at h
  split at h <;> first | rfl | cases h

theorem Point.places_of_isMinor {s : Shape} {ended : Nat → Prop} (h : point.isMinor = true) :
    s.Places ended point := by
  unfold Point.isMinor at h
  split at h <;> trivial

/-- Whether a task at a hinge takes care of a process that was just started. -/
def caresFor : Point → Outcome → Bool
  | .channel (.opened _), .ok (.process _) => true
  | .connection (.opened _ _), .ok _ => true
  | _, _ => false

namespace Single

variable {s : Shape} {ended : Nat → Prop} {pts pts' : List Point} {hinge : Option (Point × Outcome)}

/-- Tasks have moved to other points, and the same hinge is stood at. -/
theorem regroup (h : Single s ended pts hinge) (hlaunches : pts'.countP Point.isLaunch ≤ 1)
    (hpts : ∀ point ∈ pts', point ∈ pts ∨ point.isLaunch = false ∧ s.Places ended point)
    (habandoned : .connection .abandoned ∈ pts → .connection .abandoned ∈ pts' ∨ s.AllEnded ended) :
    Single s ended pts' hinge :=
  { h with
    launches := hlaunches
    launching := fun point hpoint hlaunch => by
      rcases hpts point hpoint with hold | ⟨hnot, -⟩
      · exact h.launching point hold hlaunch
      · rw [hnot] at hlaunch
        cases hlaunch
    custody := fun process hp hnot => by
      refine (h.custody process hp hnot).imp id fun ⟨channel, track, hlast, htrack, hprocess, hheld⟩ =>
        ⟨channel, track, hlast, htrack, hprocess, ?_⟩
      refine hheld.imp id fun hheld => hheld.imp id fun hmem => ?_
      exact (habandoned hmem).resolve_right fun hall => hnot (hall process hp)
    places := fun point hpoint => (hpts point hpoint).elim (h.places point) And.right
    hinges := fun point outcome heq => by
      have hhinges := h.hinges point outcome heq
      unfold Shape.Hinges at hhinges ⊢
      split at hhinges
      · refine ⟨hhinges.1, fun other hother => ?_, hhinges.2.2⟩
        exact (hpts other hother).elim (hhinges.2.1 other) And.left
      all_goals exact hhinges }

theorem perm (h : Single s ended pts hinge) (hperm : pts.Perm pts') : Single s ended pts' hinge :=
  h.regroup (hperm.countP_eq _ ▸ h.launches) (fun _ hpoint => .inl (hperm.mem_iff.2 hpoint))
    fun hmem => .inl (hperm.mem_iff.1 hmem)

/-- A task has left a point. -/
theorem leave (h : Single s ended (point :: pts) hinge)
    (hpoint : point ≠ .connection .abandoned ∨ s.AllEnded ended) : Single s ended pts hinge := by
  refine h.regroup (Nat.le_trans (List.sublist_cons_self _ _).countP_le h.launches)
    (fun other hother => .inl (List.mem_cons_of_mem _ hother)) fun hmem => ?_
  rcases List.mem_cons.1 hmem with heq | hmem
  · exact .inr (hpoint.resolve_left (not_not_intro heq.symm))
  · exact .inl hmem

/-- A hinge is stood at. -/
theorem present (h : Single s ended pts none)
    (hhinges : ∀ point outcome, hinge = some (point, outcome) → s.Hinges ended pts point outcome) :
    Single s ended pts hinge :=
  h.move h.launches (fun _ hpoint => .inl hpoint) (fun hmem => .inl hmem) hhinges

/-- A task at a hinge that does not take care of a process has seen to it. -/
theorem unhinge {outcome : Outcome} (h : Single s ended pts (some (point, outcome)))
    (hcares : caresFor point outcome = false) : Single s ended pts none := by
  refine h.meet (fun channel process heq => ?_) fun channel track hmeets _ => ?_
  · obtain ⟨rfl, rfl⟩ := Prod.mk.inj (Option.some.inj heq)
    cases hcares
  · obtain ⟨number, answer, heq⟩ := hmeets
    obtain ⟨rfl, rfl⟩ := Prod.mk.inj (Option.some.inj heq)
    cases hcares

end Single

/-- Where a task goes on that has acted, and where the others stand. -/
structure Lands (w : World) (next : Next) (rest aside : List Point) : Prop where
  /-- Where tasks stand. -/
  places : w.places.Perm ((points next ++ rest).filter Point.isLater ++ aside)
  /-- How the task goes on. -/
  presents : Presents rest w.acting? next

namespace Lands

variable {s : Shape} {ended : Nat → Prop} {front others : List Point} {hinge : Point}

/-- What stands under an activity can be counted among the points below. -/
theorem of_under (h : Lands w (next.under point) rest aside) : Lands w next (point :: rest) aside := by
  obtain ⟨hplaces, hpresents⟩ := h
  cases next with
  | go outcome front =>
    refine ⟨?_, ?_⟩
    · rwa [show points (Tasks.Next.under point (.go outcome front)) = front ++ [point] from rfl,
        List.append_assoc] at hplaces
    · rw [show Tasks.Next.under point (.go outcome front) = .go outcome (front ++ [point]) from rfl,
        Presents, List.append_assoc] at hpresents
      exact hpresents
  | wait promise front =>
    refine ⟨?_, hpresents⟩
    rwa [show points (Tasks.Next.under point (.wait promise front)) = front ++ [point] from rfl,
      List.append_assoc] at hplaces

/-- A task goes on at some points, none of them at once. -/
theorem settles (hlands : Lands w next rest aside)
    (h : Single s ended ((front ++ rest).filter Point.isLater ++ aside) none) (hrises : Rises front next)
    (hhinge : ∀ first, (front ++ rest).head? = some first → first.isHinge = false) :
    Single s ended w.places w.hinge? := by
  obtain ⟨minor, hpoints, hminor⟩ := hrises
  -- Whoever goes on at once does so at a minor point, or at one that is known to be no hinge.
  have hnone : w.hinge? = none := by
    rw [hinge?, Option.filter_eq_none_iff]
    rintro ⟨point, outcome⟩ hacting
    suffices hfalse : point.isHinge = false by simp [hfalse]
    have hpresents := hlands.presents
    cases next with
    | wait promise points => exact hpresents point outcome hacting
    | go outcome' points =>
      have hfirst : (points ++ rest).head? = some point := by
        rw [show w.acting? = (points ++ rest).head?.map (·, outcome') from hpresents] at hacting
        obtain ⟨first, hfirst, heq⟩ := Option.map_eq_some_iff.1 hacting
        rw [hfirst, (Prod.mk.inj heq).1]
      rw [show points = minor ++ front from hpoints, List.append_assoc] at hfirst
      cases minor with
      | nil => exact hhinge point hfirst
      | cons first others =>
        obtain rfl := Option.some.inj hfirst
        exact Point.isHinge_of_isMinor (hminor _ List.mem_cons_self)
  rw [hnone]
  refine Single.perm ?_ hlands.places.symm
  rw [hpoints, List.append_assoc, List.filter_append, List.append_assoc]
  -- Minor points launch nothing and are no places.
  refine h.regroup ?_ (fun other hother => ?_) fun hmem => .inl (List.mem_append_right _ hmem)
  · have hzero : (minor.filter Point.isLater).countP Point.isLaunch = 0 :=
      List.countP_eq_zero.2 fun other hother => by
        rw [Point.isLaunch_of_isMinor (hminor other (List.mem_of_mem_filter hother))]
        exact Bool.false_ne_true
    rw [List.countP_append, hzero, Nat.zero_add]
    exact h.launches
  · refine (List.mem_append.1 hother).symm.imp id fun hother => ?_
    have hmem := hminor other (List.mem_of_mem_filter hother)
    exact ⟨Point.isLaunch_of_isMinor hmem, Point.places_of_isMinor hmem⟩

/-- A task goes on at some points that need no care. -/
theorem rises (hlands : Lands w next rest aside)
    (h : Single s ended (rest.filter Point.isLater ++ aside) none) (hrises : Rises front next)
    (hfront : ∀ other ∈ front, other.isLaunch = false ∧ s.Places ended other)
    (hhinge : ∀ first, (front ++ rest).head? = some first → first.isHinge = false) :
    Single s ended w.places w.hinge? := by
  refine hlands.settles ?_ hrises hhinge
  rw [List.filter_append, List.append_assoc]
  refine h.regroup ?_ (fun other hother => ?_) fun hmem => .inl (List.mem_append_right _ hmem)
  · have hzero : (front.filter Point.isLater).countP Point.isLaunch = 0 :=
      List.countP_eq_zero.2 fun other hother => by
        rw [(hfront other (List.mem_of_mem_filter hother)).1]
        exact Bool.false_ne_true
    rw [List.countP_append, hzero, Nat.zero_add]
    exact h.launches
  · exact (List.mem_append.1 hother).symm.imp id fun hother =>
      hfront other (List.mem_of_mem_filter hother)

/-- A task is over, and another goes on below that does not rely on it. -/
theorem goes (hlands : Lands w (.go outcome []) rest aside)
    (h : Single s ended (rest.filter Point.isLater ++ aside) none)
    (hhinge : ∀ first, rest.head? = some first → first.isHinge = false) :
    Single s ended w.places w.hinge? :=
  hlands.rises h (rises_go _ []) (fun _ hother => absurd hother List.not_mem_nil) hhinge

/-- A task is over, and goes on at the hinge below. -/
theorem arrives (hlands : Lands w (.go outcome []) (hinge :: others) aside)
    (hhinge : hinge.isHinge = true)
    (h : Single s ended ((hinge :: others).filter Point.isLater ++ aside) (some (hinge, outcome))) :
    Single s ended w.places w.hinge? := by
  have hsome : w.hinge? = some (hinge, outcome) := by
    rw [hinge?, show w.acting? = some (hinge, outcome) from hlands.presents]
    simp [hhinge]
  rw [hsome]
  exact h.perm hlands.places.symm

/-- A channel is closed, and the task goes on where this is relied on. -/
theorem closes (hlands : Lands w next (hinge :: others) aside)
    (h : Single s ended ((hinge :: others).filter Point.isLater ++ aside) none)
    (hhinge : hinge.expectation = .closing) (hshut : s.IsShut)
    (hnext : next = .go (.ok .unit) [] ∧ s.AllEnded ended ∨
      ∃ point : ChannelPoint, Rises [.channel point] next ∧ s.Places ended (.channel point) ∧
        (Point.channel point).isHinge = false) : Single s ended w.places w.hinge? := by
  rcases hnext with ⟨rfl, hall⟩ | ⟨point, hrises, hplaces, hpoint⟩
  · refine hlands.arrives (by rw [Point.isHinge, hhinge]) (h.present fun point outcome heq => ?_)
    obtain ⟨rfl, rfl⟩ := Prod.mk.inj (Option.some.inj heq)
    rcases Point.eq_of_closing hhinge with rfl | ⟨_, rfl⟩ | ⟨_, _, rfl⟩ <;> exact ⟨hall, hshut⟩
  · refine hlands.rises h hrises (fun other hother => ?_) fun first hfirst => ?_
    · rw [List.mem_singleton.1 hother]
      refine ⟨?_, hplaces⟩
      cases point <;> rfl
    · rw [← Option.some.inj hfirst]
      exact hpoint

end Lands

/-! ## Courses -/

theorem Point.isHinge_keeper (point : KeeperPoint) : (Point.keeper point).isHinge = false := by
  cases point <;> rfl

theorem Point.isFeeder_keeper (point : KeeperPoint) : (Point.keeper point).isFeeder = false := by
  cases point <;> rfl

theorem Point.isHinge_of_not_pivotal (h : point.isPivotal = false) : point.isHinge = false := by
  unfold Point.isHinge Point.expectation
  cases point with
  | channel point => cases point <;> first | rfl | cases h
  | connection point => cases point <;> first | rfl | cases h
  | program point => cases point <;> rfl
  | keeper point => cases h
  | _ => rfl

theorem Point.isFeeder_of_not_pivotal (h : point.isPivotal = false) : point.isFeeder = false := by
  unfold Point.isFeeder Point.delivery?
  cases point with
  | channel point => cases point <;> first | rfl | cases h
  | connection point => cases point <;> rfl
  | program point => cases point <;> first | rfl | cases h
  | keeper point => cases h
  | _ => rfl

namespace Single.IsClear

variable {s : Shape} {pts pts' : List Point}

theorem subset (h : IsClear s pts) (hsub : ∀ point ∈ pts', point ∈ pts ∨ ∃ other, point = .keeper other) :
    IsClear s pts' where
  points := by
    intro point hpoint
    rcases hsub point hpoint with hold | ⟨other, rfl⟩
    · exact h.points point hold
    · exact ⟨rfl, rfl, fun _ heq => by cases heq⟩
  stages := h.stages

theorem addStage (h : IsClear s pts) : IsClear s.addStage pts where
  points := h.points
  stages := by
    intro number stage hstage
    rcases Shape.stages_addStage_cases hstage with hold | ⟨-, rfl⟩
    · exact h.stages number stage hold
    · rfl

end Single.IsClear

namespace Acts

variable (hacts : Acts counter w w' point outcome rest aside next)

include hacts

theorem hinge?_eq : w.hinge? = if point.isHinge then some (point, outcome) else none := by
  rw [hinge?, hacts.acting]
  simp [Option.filter]

theorem lands : Lands w' next rest aside :=
  ⟨hacts.after, hacts.presents⟩

/-- Below the point is a hinge, if the point tells one how to go on. -/
theorem exists_hinge {e : Expectation} (hpoint : point.delivery? = some e)
    (he : e = .process ∨ e = .opening ∨ e = .closing) :
    ∃ hinge others, rest = hinge :: others ∧ hinge.expectation = e := by
  obtain ⟨Γ, result, below, hsits, -, hbelow⟩ := hacts.sits
  exact hsits.feeds_hinge hbelow hpoint he

theorem not_hinge (hpoint : point.isFeeder = false) :
    ∀ other, rest.head? = some other → other.isHinge = false := by
  obtain ⟨Γ, result, below, hsits, -⟩ := hacts.sits
  exact hsits.not_hinge hpoint

theorem mem (hlater : point.isLater = true) : point ∈ w.places := by
  refine hacts.before.mem_iff.2 (List.mem_append_left _ ?_)
  simp [hlater]

variable {s : Shape} {ended : Nat → Prop} {hinge : Option (Point × Outcome)}

/-- Where the others stand, with the rest of this task. -/
theorem spare (h : Single s ended w.places hinge)
    (hpoint : point ≠ .connection .abandoned ∨ s.AllEnded ended) :
    Single s ended (rest.filter Point.isLater ++ aside) hinge := by
  have hbefore := h.perm hacts.before
  rw [List.filter_cons] at hbefore
  split at hbefore
  · exact hbefore.leave hpoint
  · exact hbefore

/-- The tasks that do not act stand where they stood. -/
theorem mem_places_of_spared {other : Point} (hother : other ∈ rest.filter Point.isLater ++ aside) :
    other ∈ w.places := by
  rw [hacts.before.mem_iff, List.filter_cons]
  split
  · exact List.mem_cons_of_mem _ hother
  · exact hother

/-- A task goes on without a change. -/
theorem idles (h : Single s ended w.places none) (hpoint : point.isFeeder = false)
    (hne : point ≠ .connection .abandoned ∨ s.AllEnded ended) (hnext : Rises [] next) :
    Single s ended w'.places w'.hinge? :=
  hacts.lands.rises (hacts.spare h hne) hnext (fun _ hother => absurd hother List.not_mem_nil)
    (hacts.not_hinge hpoint)

/-- A task goes on at another point without a change. -/
theorem steps {first : Point} (h : Single s ended w.places none) (hne : point ≠ .connection .abandoned)
    (hnext : Rises [first] next) (hfirst : first.isHinge = false) (hlaunch : first.isLaunch = false)
    (hplaces : s.Places ended first) : Single s ended w'.places w'.hinge? := by
  refine hacts.lands.rises (hacts.spare h (.inl hne)) hnext (fun other hother => ?_)
    fun other hother => ?_
  · rw [List.mem_singleton.1 hother]
    exact ⟨hlaunch, hplaces⟩
  · rw [← Option.some.inj hother]
    exact hfirst

/-- The tasks of the last channel, whose process has ended, are ended. -/
theorem subsides {l l' : Layout} {channel : Nat} (h : Single l.shape ended w.places none)
    (hpoint : point.delivery? = some .closing) (hlast : l.shape.IsLast channel)
    (hall : l.shape.AllEnded ended)
    (hclosing : ∃ track, l.shape.tracks[channel]? = some track ∧ track.closing = true)
    (hsubsides : l.Subsides channel l' next) : Single l'.shape ended w'.places w'.hinge? := by
  obtain ⟨hinge, others, rfl, hhinge⟩ := hacts.exists_hinge hpoint (.inr (.inr rfl))
  obtain ⟨track, htrack, hclosing⟩ := hclosing
  have hne : point ≠ .connection .abandoned := by
    rintro rfl
    cases hpoint
  have hshuts : ∀ s' : Shape, l.shape.Wanes s' → s'.IsShut := by
    intro s' hwanes other track' hother htrack' _
    obtain rfl := hlast.unique (hwanes.isLast.1 hother)
    obtain ⟨old, hold, -, hkept, -⟩ := hwanes.back htrack'
    obtain rfl := Option.some.inj (hold.symm.trans htrack)
    exact hkept hclosing
  -- while the last channel is being closed nothing is about to start
  have hlaunches : ∀ point ∈ w.places, point.isLaunch = false := by
    intro point hpoint
    by_contra hlaunch
    have hopen := ((h.launching point hpoint (by simpa using hlaunch)).2 channel track hlast htrack).2
    rw [hclosing] at hopen
    cases hopen
  cases hsubsides with
  | now =>
    have hwanes : l.shape.Wanes (l.shape.carry channel none) := .carry fun track' htrack' => by
      obtain rfl := Option.some.inj (htrack'.symm.trans htrack)
      exact hclosing
    have hcarried : Single (l.carry channel none).shape ended w.places none := by
      rw [Layout.shape_carry]
      exact h.wane hwanes hlaunches (.inl hall) fun _ _ heq => by cases heq
    rw [Layout.shape_carry] at hcarried ⊢
    exact hacts.lands.closes (hacts.spare hcarried (.inl hne)) hhinge (hshuts _ hwanes)
      (.inl ⟨rfl, hwanes.allEnded.2 hall⟩)
  | waits hnext =>
    exact hacts.lands.closes (hacts.spare h (.inl hne)) hhinge (hshuts _ (.refl _))
      (.inr ⟨_, hnext, ⟨hlast, hall, track, htrack, hclosing⟩, rfl⟩)

end Acts

/-- Closing a channel makes no other. -/
theorem Layout.Closes.isLast {l l' : Layout} {f : Facts} {channel other : Nat}
    (h : l.Closes f channel l' next) : l'.shape.IsLast other ↔ l.shape.IsLast other := by
  have hlength : l'.shape.tracks.length = l.shape.tracks.length := by
    cases h with
    | bare => rfl
    | subsides _ _ h => cases h <;> simp [Layout.shut, Layout.carry, Layout.setPipe, Layout.shape]
    | asks => simp [Layout.shut, Layout.setPipe, Layout.shape]
  rw [Shape.IsLast, Shape.IsLast, hlength]

namespace Lands

variable {s : Shape} {ended : Nat → Prop} {hinge : Point}

/-- The last channel is closed, and the task goes on where this is relied on. -/
theorem closing {l l' : Layout} {f : Facts} {channel : Nat} (hlands : Lands w (next.under hinge) rest aside)
    (h : Single l.shape ended (rest.filter Point.isLater ++ aside) none)
    (hhinge : hinge.expectation = .closing)
    (hplaces : ∀ s : Shape, s.IsLast channel → s.Places ended hinge)
    (hlast : l.shape.IsLast channel) (hgrows : ∀ p, l.Done f p → ended p)
    (hcloses : l.Closes f channel l' next) : Single l'.shape ended w.places w.hinge? := by
  obtain ⟨hclosed, hshut, -, hnext⟩ := h.closes (fun _ _ heq => by cases heq) hlast hgrows hcloses
  refine hlands.of_under.closes ?_ hhinge hshut hnext
  have hlater : hinge.isLater = true := by
    rcases Point.eq_of_closing hhinge with rfl | ⟨_, rfl⟩ | ⟨_, _, rfl⟩ <;> rfl
  have hlaunch : hinge.isLaunch = false := by
    rcases Point.eq_of_closing hhinge with rfl | ⟨_, rfl⟩ | ⟨_, _, rfl⟩ <;> rfl
  rw [List.filter_cons, if_pos hlater]
  exact hclosed.add hlaunch (hplaces _ (hcloses.isLast.2 hlast)) fun _ _ heq => by cases heq

end Lands

/-- A connection starts only where nobody starts or stops one and none is at work. -/
def Clears (w : World) (point : Point) : Prop :=
  (∀ number, point = .start (.connect number) → w.layout.IsIn .stopped number →
      Single.IsClear w.layout.shape w.places) ∧
    ∀ config, point = .keeper (.vacated config) → Single.IsClear w.layout.shape w.places

/-- A connection changes its phase, but is not stopped and was not. -/
theorem Single.setPhase {l : Layout} {ended : Nat → Prop} {pts : List Point} {number : Nat} {phase : Phase}
    (h : Single l.shape ended pts none)
    (hbond : ∀ bond, l.bonds[number]? = some bond → bond.phase ≠ .stopped) (hphase : phase ≠ .stopped) :
    Single (l.setPhase number phase).shape ended pts none := by
  rw [Layout.shape_setPhase]
  refine h.setStage fun stage hstage => ⟨rfl, ?_⟩
  rw [Layout.shape_stages_getElem?] at hstage
  obtain ⟨bond, hb, rfl⟩ := Option.map_eq_some_iff.1 hstage
  exact ⟨fun heq => absurd heq hphase, fun heq => absurd heq (hbond bond hb)⟩

/-- A connection that is not stopped has the last channel. -/
theorem Single.exists_channel {l : Layout} {ended : Nat → Prop} {pts : List Point}
    {hinge : Option (Point × Outcome)} (h : Single l.shape ended pts hinge) {number : Nat} {bond : Bond}
    (hbond : l.bonds[number]? = some bond) (hphase : bond.phase ≠ .stopped) :
    ∃ channel, bond.channel = some channel ∧ l.shape.IsLast channel ∧
      ∃ track, l.shape.tracks[channel]? = some track ∧ track.owner = .connection number := by
  have hstage : l.shape.stages[number]? = some bond.stage := Layout.stage_of_bond hbond
  obtain ⟨channel, track, hchannel, hlast, htrack, howner⟩ := h.led number bond.stage hstage hphase
  exact ⟨channel, hchannel, hlast, track, htrack, howner⟩

/-- A channel that is open when its process has ended is the last one, and its connection is at work. -/
theorem Single.lives_of_gone {l : Layout} {ended : Nat → Prop} {pts : List Point} {channel process : Nat}
    (h : Single l.shape ended pts none) (hmem : .channel (.gone channel process) ∈ pts) {pipe : Pipe}
    (hpipe : l.pipes[channel]? = some pipe) (hopen : pipe.closing = false) :
    pipe.process = some process ∧ l.shape.IsLast channel ∧ l.shape.Lives pipe.owner := by
  have htrack : l.shape.tracks[channel]? = some pipe.track := Layout.track_of_pipe hpipe
  obtain ⟨same, hsame, hor⟩ := h.places _ hmem
  obtain rfl := Option.some.inj (htrack.symm.trans hsame)
  have hprocess : pipe.track.process = some process :=
    hor.resolve_left (by rw [show pipe.track.closing = false from hopen]; exact Bool.false_ne_true)
  obtain ⟨hlast, ⟨_, _, hmet⟩ | hlives⟩ := h.line channel pipe.track process htrack hprocess hopen
  · cases hmet
  · exact ⟨hprocess, hlast, hlives⟩

namespace Lands

variable {l l' : Layout} {f : Facts} {ended : Nat → Prop} {number : Nat}

/-- A connection is stopped. -/
theorem disconnects (hlands : Lands w next rest aside)
    (h : Single l.shape ended (rest.filter Point.isLater ++ aside) none)
    (hgrows : ∀ p, l.Done f p → ended p)
    (hrest : ∀ first, rest.head? = some first → first.isHinge = false)
    (hcourse : l.Disconnects f number l' next) : Single l'.shape ended w.places w.hinge? := by
  cases hcourse with
  | keeps _ => exact hlands.goes h hrest
  | clears _ =>
    rw [Layout.shape_clear]
    exact hlands.goes h hrest
  | parts hready hnext =>
    obtain ⟨bond, hbond, hphase, hchannel⟩ := hready
    obtain ⟨_, hsame, hlast, -⟩ := h.exists_channel hbond (by rw [hphase]; nofun)
    obtain rfl := Option.some.inj (hchannel.symm.trans hsame)
    -- The process is asked to go first, so the channel stays open for the time being.
    have hstopping : Single (l.setPhase number .stopping).shape ended
        (rest.filter Point.isLater ++ aside) none :=
      h.setPhase (fun other hother => by
        rw [← Option.some.inj (hbond.symm.trans hother), hphase]
        nofun) nofun
    rw [Layout.shape_ask]
    refine hlands.rises hstopping hnext (fun other hother => ?_) fun first hfirst => ?_
    · rw [List.mem_singleton.1 hother]
      exact ⟨rfl, hlast⟩
    · rw [← Option.some.inj hfirst]
      rfl
  | closes hbond hchannel hphase hcloses =>
    rename_i bond channel inner
    have hnot : bond.phase ≠ .stopped := by
      rcases hphase with heq | ⟨heq, -⟩ <;> rw [heq] <;> nofun
    have hstopping : Single (l.setPhase number .stopping).shape ended
        (rest.filter Point.isLater ++ aside) none :=
      h.setPhase (fun other hother => by rwa [← Option.some.inj (hbond.symm.trans hother)]) nofun
    obtain ⟨last, hlast, hisLast, -⟩ := h.exists_channel hbond hnot
    obtain rfl : channel = some last := hchannel.symm.trans hlast
    cases hcloses with
    | closes hcloses =>
      have hisLast' : (l.setPhase number .stopping).shape.IsLast last := hisLast
      exact hlands.closing hstopping rfl (fun s hs => hs) hisLast' hgrows hcloses

/-- The keeper gives its connection up. -/
theorem vacates (hlands : Lands w next rest aside)
    (h : Single l.shape ended (rest.filter Point.isLater ++ aside) none)
    (hgrows : ∀ p, l.Done f p → ended p)
    (hrest : ∀ first, rest.head? = some first → first.isHinge = false)
    (hcourse : l.Vacates f l' next) : Single l'.shape ended w.places w.hinge? := by
  cases hcourse with
  | vacant _ => exact hlands.goes h hrest
  | leaves _ hleaves =>
    have hgrows' : ∀ p, ({ l with kept := none } : Layout).Done f p → ended p := hgrows
    refine hlands.of_under.disconnects ?_ hgrows' (fun first hfirst => ?_) hleaves
    · rw [Layout.shape_vacate]
      exact h.add rfl trivial fun _ _ heq => by cases heq
    · rw [← Option.some.inj hfirst]
      rfl

/-- A connection is started where nobody starts or stops one and none is at work. -/
theorem connects (hlands : Lands w next rest aside)
    (h : Single l.shape ended (rest.filter Point.isLater ++ aside) none)
    (hrest : ∀ first, rest.head? = some first → first.isHinge = false)
    (hclear : l.IsIn .stopped number → Single.IsClear l.shape (rest.filter Point.isLater ++ aside))
    (hcourse : l.Connects number l' next) : Single l'.shape ended w.places w.hinge? := by
  cases hcourse with
  | keeps _ hnext =>
    exact hlands.rises h hnext (fun _ hother => absurd hother List.not_mem_nil) hrest
  | begins hstopped hscript hnext =>
    rename_i started script command
    rw [Layout.shape_beginStart]
    have hlength : l.pipes.length = l.shape.tracks.length := by simp [Layout.shape]
    rw [hlength] at hnext
    refine hlands.settles ?_ hnext fun first hfirst => ?_
    · exact h.beginStart (hclear hstopped)
    · rw [← Option.some.inj hfirst]
      rfl

end Lands

/-! ## Every course -/

/-- What only hears of something leaves the shape as it is. -/
theorem Single.of_shape {s s' : Shape} {ended : Nat → Prop} {pts : List Point}
    {hinge : Option (Point × Outcome)} (h : Single s ended pts hinge) (heq : s' = s) :
    Single s' ended pts hinge :=
  heq ▸ h

/-- A channel that is the last one has lost its process. -/
theorem Shape.isShut_of_none {s : Shape} {channel : Nat} {track : Track} (hlast : s.IsLast channel)
    (htrack : s.tracks[channel]? = some track) (hnone : track.process = none) : s.IsShut := by
  intro other track' hother htrack' hsome
  obtain rfl := hlast.unique hother
  obtain rfl := Option.some.inj (htrack'.symm.trans htrack)
  rw [hnone] at hsome
  cases hsome

namespace Acts

variable {ended : Nat → Prop} {l' : Layout} {channel process number : Nat} {answer : Answer}

/-- A process is lost. -/
theorem loses {code : Option Int}
    (hacts : Acts counter w w' (.channel (.gone channel process)) (.ok answer) rest aside
      (.go (.ok .unit) []))
    (h : Single w.layout.shape ended w.places none) (hended : ended process)
    (hcourse : w.layout.Loses channel code l') : Single l'.shape ended w'.places w'.hinge? := by
  suffices hlost : Single l'.shape ended w.places none from
    hacts.lands.goes (hacts.spare hlost (.inl nofun)) (hacts.not_hinge rfl)
  obtain ⟨track, htrack, hor⟩ := h.places _ (hacts.mem rfl)
  -- an open channel is the last one, and its process was the last to be alive
  have hopens : ∀ pipe, w.layout.pipes[channel]? = some pipe → pipe.closing = false →
      w.layout.shape.AllEnded ended ∧
        Single ((w.layout.shape.shut channel).carry channel none) ended w.places none ∧
          ((w.layout.shape.shut channel).carry channel none).IsShut := by
    intro pipe hpipe hopen
    obtain rfl := Option.some.inj ((Layout.track_of_pipe hpipe).symm.trans htrack)
    have hprocess : pipe.track.process = some process :=
      hor.resolve_left (by rw [show pipe.track.closing = false from hopen]; exact Bool.false_ne_true)
    have hbind : w.layout.shape.tracks[channel]?.bind (·.process) = some process := by
      rw [htrack]
      exact hprocess
    obtain ⟨hlast, -⟩ := h.line channel pipe.track process htrack hprocess hopen
    have hall := h.allEnded nofun hlast hbind fun p hp => Option.some.inj hp ▸ hended
    have hwanes := Shape.Wanes.shut_carry w.layout.shape channel
    refine ⟨hall, h.wane hwanes (h.not_launch hlast hbind) (.inl hall) fun _ _ heq => (by cases heq),
      ?_⟩
    have hlost : ((w.layout.shape.shut channel).carry channel none).tracks[channel]? =
        some { pipe.track with closing := true, process := none } := by
      simp [Shape.carry, Shape.shut, Shape.setTrack, htrack]
    exact Shape.isShut_of_none (hwanes.isLast.2 hlast) hlost rfl
  cases hcourse with
  | expected _ => exact h
  | unheard hpipe hopen _ =>
    rw [Layout.shape_carry, Layout.shape_shut]
    exact (hopens _ hpipe hopen).2.1
  | stopping hpipe hopen _ _ _ =>
    rw [Layout.shape_clear, Layout.shape_rejectOn, Layout.shape_carry, Layout.shape_shut]
    exact (hopens _ hpipe hopen).2.1
  | stops hpipe hopen _ _ _ =>
    rw [Layout.shape_report, Layout.shape_reset, Layout.shape_clear, Layout.shape_rejectOn,
      Layout.shape_carry, Layout.shape_shut]
    obtain ⟨hall, hsingle, hshut⟩ := hopens _ hpipe hopen
    exact hsingle.reset _ hall hshut

/-- Whoever gives a channel its process goes on with who starts a connection over it. -/
theorem exists_opener {s : Shape} {hinge : Option (Point × Outcome)}
    (hacts : Acts counter w w' (.channel (.opened channel)) outcome rest aside next)
    (h : Single s ended w.places hinge) :
    ∃ number others, rest = .connection (.opened number channel) :: others ∧ s.IsLast channel := by
  obtain ⟨below, others, rfl, hbelow⟩ := hacts.exists_hinge rfl (.inr (.inl rfl))
  obtain ⟨number, other, rfl⟩ := Point.eq_of_opening hbelow
  have hmem : .connection (.opened number other) ∈ w.places :=
    hacts.before.mem_iff.2 (List.mem_append_left _ (List.mem_filter.2 ⟨by simp, rfl⟩))
  -- both channels are the last one
  have hlast : s.IsLast channel := h.places _ (hacts.mem rfl)
  obtain ⟨hother, -⟩ := h.places _ hmem
  obtain rfl := hlast.unique hother
  exact ⟨number, others, rfl, hlast⟩

/-- A channel has its process. -/
theorem opens
    (hacts : Acts counter w w' (.channel (.opened channel)) (.ok (.process process)) rest aside
      (.go (.ok .unit) []))
    (h : Single w.layout.shape ended w.places
      (some (.channel (.opened channel), .ok (.process process)))) :
    Single (w.layout.carry channel (some process)).shape ended w'.places w'.hinge? := by
  obtain ⟨number, others, rfl, hlast⟩ := hacts.exists_opener h
  rw [Layout.shape_carry]
  exact hacts.lands.arrives rfl (hacts.spare (h.carry hlast number) (.inl nofun))

/-- A channel has no process. -/
theorem shuns {failure : Failure}
    (hacts : Acts counter w w' (.channel (.opened channel)) (.error failure) rest aside
      (.go (.error failure) []))
    (h : Single w.layout.shape ended w.places (some (.channel (.opened channel), .error failure))) :
    Single w.layout.shape ended w'.places w'.hinge? := by
  obtain ⟨number, others, rfl, -⟩ := hacts.exists_opener h
  obtain ⟨⟨track, htrack, hnone, -⟩, -, -, hall⟩ := h.hinges _ _ rfl
  refine hacts.lands.arrives rfl ((hacts.spare (h.unhinge rfl) (.inl nofun)).present ?_)
  intro point outcome heq
  obtain ⟨rfl, rfl⟩ := Prod.mk.inj (Option.some.inj heq)
  exact ⟨hall failure rfl, track, htrack, hnone⟩

/-- While a connection starts, its channel is looked after by it. -/
theorem wanted
    (hacts : Acts counter w w' (.connection (.opened number channel)) (.ok answer) rest aside next)
    (h : Single w.layout.shape ended w.places (some (.connection (.opened number channel), .ok answer)))
    (hstarting : w.layout.IsIn .starting number) : Single w.layout.shape ended w.places none := by
  obtain ⟨-, track, htrack, howner⟩ := h.places _ (hacts.mem rfl)
  obtain ⟨bond, hbond, hphase⟩ := hstarting
  refine h.meet nofun fun other track' hmet htrack' => .inl ?_
  obtain ⟨_, _, heq⟩ := hmet
  obtain ⟨⟨-, rfl⟩, -⟩ : (number = _ ∧ channel = other) ∧ answer = _ := by simpa using heq
  obtain rfl := Option.some.inj (htrack'.symm.trans htrack)
  refine ⟨number, bond.stage, howner, Layout.stage_of_bond hbond, ?_⟩
  rw [show bond.stage.phase = .starting from hphase]
  nofun

/-- A process is greeted. -/
theorem greets {greeted : Nat}
    (hacts : Acts counter w w' (.connection (.opened number channel)) (.ok answer) rest aside next)
    (h : Single w.layout.shape ended w.places (some (.connection (.opened number channel), .ok answer)))
    (hstarting : w.layout.IsIn .starting number)
    (hnext : Rises [.connection (.greeted number channel greeted)] next) :
    Single w.layout.shape ended w'.places w'.hinge? := by
  obtain ⟨hlast, track, htrack, howner⟩ := h.places _ (hacts.mem rfl)
  exact hacts.steps (hacts.wanted h hstarting) nofun hnext rfl rfl ⟨hlast, track, htrack, howner⟩

/-- A process is not wanted any more. -/
theorem abandons
    (hacts : Acts counter w w' (.connection (.opened number channel)) (.ok answer) rest aside
      (next.under (.connection .abandoned)))
    (h : Single w.layout.shape ended w.places (some (.connection (.opened number channel), .ok answer)))
    (hgrows : ∀ p, w.done p → ended p) (hcloses : w.layout.Closes w.facts channel l' next) :
    Single l'.shape ended w'.places w'.hinge? := by
  obtain ⟨hlast, -⟩ := h.places _ (hacts.mem rfl)
  obtain ⟨hclosed, hshut, -, hnext⟩ := h.closes (fun point outcome heq => by
    obtain ⟨rfl, rfl⟩ := Prod.mk.inj (Option.some.inj heq)
    exact ⟨_, _, _, rfl, rfl⟩) hlast hgrows hcloses
  have hadded : Single l'.shape ended
      ((.connection .abandoned :: rest).filter Point.isLater ++ aside)
      (some (.connection (.opened number channel), .ok answer)) :=
    (hacts.spare hclosed (.inl nofun)).add rfl trivial fun point outcome heq => by
      obtain ⟨rfl, rfl⟩ := Prod.mk.inj (Option.some.inj heq)
      trivial
  refine hacts.lands.of_under.closes ?_ rfl hshut hnext
  refine hadded.meet nofun fun other track hmet htrack => .inr ⟨fun hsome => ?_, .inl ?_⟩
  · obtain ⟨_, _, heq⟩ := hmet
    obtain ⟨⟨-, rfl⟩, -⟩ : (number = _ ∧ channel = other) ∧ answer = _ := by simpa using heq
    exact hshut channel track (hcloses.isLast.2 hlast) htrack hsome
  · simp [Point.isLater]

/-- Whoever starts a program goes on with the channel that is to have its process. -/
theorem exists_launcher {script : CompanionScript} {program : List String}
    (hacts : Acts counter w w' (.program (.starting script program)) outcome rest aside next) :
    ∃ channel others, rest = .channel (.opened channel) :: others := by
  obtain ⟨below, others, rfl, hbelow⟩ := hacts.exists_hinge rfl (.inl rfl)
  obtain ⟨channel, rfl⟩ := Point.eq_of_process hbelow
  exact ⟨channel, others, rfl⟩

/-- A program is missing. -/
theorem misses {script : CompanionScript} {program : List String} {command text : String}
    (hacts : Acts counter w w' (.program (.starting script program)) (.ok answer) rest aside
      (.go (.error (.spawn command text)) []))
    (h : Single w.layout.shape ended w.places none) :
    Single w.layout.shape ended w'.places w'.hinge? := by
  obtain ⟨channel, others, rfl⟩ := hacts.exists_launcher
  exact hacts.lands.arrives rfl ((h.perm hacts.before).miss (by simp [Point.isLater]))

/-- A process is started. -/
theorem launches {script : CompanionScript} {program : List String}
    (hacts : Acts counter w w' (.program (.starting script program)) (.ok answer) rest aside
      (.go (.ok (.process w.layout.scripts.length)) []))
    (h : Single w.layout.shape ended w.places none) :
    Single (w.layout.addScript script).shape ended w'.places w'.hinge? := by
  obtain ⟨channel, others, rfl⟩ := hacts.exists_launcher
  rw [Layout.shape_addScript]
  exact hacts.lands.arrives rfl ((h.perm hacts.before).launch (by simp [Point.isLater]))

/-- When a process that was asked to end has ended, all have. -/
theorem allEnded_of_asked
    (hacts : Acts counter w w' (.channel (.asked channel process)) outcome rest aside next)
    (h : Single w.layout.shape ended w.places none) (hended : ended process) :
    w.layout.shape.IsLast channel ∧ w.layout.shape.AllEnded ended ∧
      ∃ track, w.layout.shape.tracks[channel]? = some track ∧ track.closing = true := by
  obtain ⟨hlast, track, htrack, hclosing, hprocess⟩ := h.places _ (hacts.mem rfl)
  refine ⟨hlast, h.allEnded nofun hlast rfl fun p hp => ?_, track, htrack, hclosing⟩
  rw [htrack, Option.bind_some] at hp
  exact hprocess p hp ▸ hended

/-- There is no process for a connection. -/
theorem fails {failure : Failure}
    (hacts : Acts counter w w' (.connection (.opened number channel)) (.error failure) rest aside
      (.go (.ok answer) []))
    (h : Single w.layout.shape ended w.places (some (.connection (.opened number channel), .error failure))) :
    Single (w.layout.reset number).shape ended w'.places w'.hinge? := by
  obtain ⟨hlast, -⟩ := h.places _ (hacts.mem rfl)
  obtain ⟨hall, track, htrack, hnone⟩ := h.hinges _ _ rfl
  rw [Layout.shape_reset]
  have hreset := (h.unhinge rfl).reset number hall (Shape.isShut_of_none hlast htrack hnone)
  exact hacts.lands.goes (hacts.spare hreset (.inl nofun)) (hacts.not_hinge rfl)

/-- A connection is ready. -/
theorem welcomes {greeted : Nat} {bond : Bond} {outcome' : Outcome}
    (hacts : Acts counter w w' (.connection (.greeted number channel greeted)) outcome rest aside
      (.go outcome' []))
    (h : Single w.layout.shape ended w.places none) (hbond : w.layout.bonds[number]? = some bond)
    (hphase : bond.phase = .starting) :
    Single (w.layout.welcome number channel bond).shape ended w'.places w'.hinge? := by
  rw [Layout.shape_welcome, ← Layout.shape_setPhase]
  refine hacts.lands.goes (hacts.spare (h.setPhase (fun other hother => ?_) nofun) (.inl nofun))
    (hacts.not_hinge rfl)
  rw [← Option.some.inj (hbond.symm.trans hother), hphase]
  nofun

/-- A connection has said goodbye, and its channel is closed. -/
theorem parts {f : Facts}
    (hacts : Acts counter w w' (.connection (.parted number channel)) outcome rest aside
      (next.under (.connection (.closed number (some channel)))))
    (h : Single w.layout.shape w'.done w.places none) (hgrows : f.Grow w'.facts)
    (hcloses : (w.layout.tellOf channel "exit" .null).Closes f channel l' next) :
    Single l'.shape w'.done w'.places w'.hinge? := by
  have hlast : w.layout.shape.IsLast channel := h.places _ (hacts.mem rfl)
  have hspoken := (hacts.spare h (.inl nofun)).of_shape
    (Layout.shape_tellOf _ channel "exit" .null)
  refine hacts.lands.closing hspoken rfl (fun _ hs => hs) (by rwa [Layout.shape_tellOf])
    (fun p hdone => ?_) hcloses
  rcases hdone with hended | hbarred
  · exact .inl (hgrows.ended p hended)
  · rw [Layout.shape_tellOf] at hbarred
    exact hacts.done p (.inr hbarred)

/-- The keeper gives its connection up. -/
theorem vacates {point after : KeeperPoint} (hacts : Acts counter w w' (.keeper point) outcome rest aside
      (next.under (.keeper after)))
    (h : Single w.layout.shape w'.done w.places none) (hvacates : w.layout.Vacates w.facts l' next) :
    Single l'.shape w'.done w'.places w'.hinge? := by
  refine hacts.lands.of_under.vacates ?_ hacts.done (fun first hfirst => ?_) hvacates
  · exact (hacts.spare h (.inl nofun)).add rfl trivial fun _ _ heq => by cases heq
  · rw [← Option.some.inj hfirst]
    exact Point.isHinge_keeper _

/-- The keeper makes another connection, where none is at work. -/
theorem renews {config : Companion.Config} {listener : Listener}
    (hacts : Acts counter w w' (.keeper (.vacated config)) (.ok answer) rest aside
      (next.under (.keeper (.connected config))))
    (h : Single w.layout.shape ended w.places none) (hclear : Single.IsClear w.layout.shape w.places)
    (hrenews : { w.layout.addBond config listener with kept := some w.layout.bonds.length }.Connects
      w.layout.bonds.length l' next) : Single l'.shape ended w'.places w'.hinge? := by
  refine hacts.lands.of_under.connects ?_ (fun first hfirst => ?_) (fun _ => ?_) hrenews
  · rw [Layout.shape_addBond]
    exact (hacts.spare h.addStage (.inl nofun)).add rfl trivial fun _ _ heq => by cases heq
  · rw [← Option.some.inj hfirst]
    rfl
  · rw [Layout.shape_addBond]
    -- whoever stands somewhere stood there before, or waits for the new connection
    refine hclear.addStage.subset fun other hother => ?_
    rcases List.mem_cons.1 hother with rfl | hother
    · exact .inr ⟨_, rfl⟩
    · exact .inl (hacts.mem_places_of_spared hother)

end Acts

/-- A task that acts leaves at most one process alive, if a connection starts only where nobody starts
or stops one and none is at work. -/
theorem Single.acts (hacts : Acts counter w w' point outcome rest aside next)
    (hclears : Clears w point) (hold : Single w.layout.shape w.done w.places w.hinge?) :
    Single w'.layout.shape w'.done w'.places w'.hinge? := by
  have h := hold.grow hacts.done
  rw [hacts.hinge?_eq] at h
  -- away from a hinge the task that acts is not told of anything, so that nothing is at a hinge
  have hfree : point.isHinge = false → Single w.layout.shape w'.done w.places none := by
    intro hhinge
    simpa [hhinge] using h
  have hcourse := hacts.course
  generalize hl' : w'.layout = l' at hcourse ⊢
  cases hcourse with
  | hears hpoint hasks hhears hnext =>
    refine hacts.idles ((hfree (Point.isHinge_of_not_pivotal hpoint)).of_shape hhears.shape_eq)
      (Point.isFeeder_of_not_pivotal hpoint) (.inl ?_) hnext
    rintro rfl
    cases hpoint
  | watches hprocess hnext =>
    obtain ⟨pipe, hpipe, hprocess⟩ := Option.bind_eq_some_iff.1 hprocess
    exact hacts.steps (hfree rfl) nofun hnext rfl rfl
      ⟨pipe.track, Layout.track_of_pipe hpipe, .inr hprocess⟩
  | drains hnext =>
    have hplaces := h.places _ (hacts.mem rfl)
    exact hacts.steps (hfree rfl) nofun hnext rfl rfl hplaces
  | loses hended hloses => exact hacts.loses (hfree rfl) (.inl (hacts.grows.ended _ hended)) hloses
  | sends hasks hready hnext =>
    rw [Layout.shape_ask]
    cases hasks with
    | begins limit answer => exact hacts.idles (hfree rfl) rfl (.inl nofun) hnext
    | resumes limit => exact hacts.idles (hfree rfl) rfl (.inl nofun) hnext
  | connects hconnects =>
    refine hacts.lands.connects (hacts.spare (hfree rfl) (.inl nofun)) (hacts.not_hinge rfl)
      (fun hstopped => ?_) hconnects
    -- this is where a second process would start: the assumption says that none is at work
    exact (hclears.1 _ rfl hstopped).subset fun other hother => .inl (hacts.mem_places_of_spared hother)
  | disconnects hdisconnects =>
    exact hacts.lands.disconnects (hacts.spare (hfree rfl) (.inl nofun)) hacts.done
      (hacts.not_hinge rfl) hdisconnects
  | misses => exact hacts.misses (hfree rfl)
  | launches => exact hacts.launches (hfree rfl)
  | opens => exact hacts.opens h
  | shuns => exact hacts.shuns h
  | complies hended hsubsides =>
    obtain ⟨hlast, hall, hclosing⟩ :=
      hacts.allEnded_of_asked (hfree rfl) (.inl (hacts.grows.ended _ hended))
    exact hacts.subsides (hfree rfl) rfl hlast hall hclosing hsubsides
  | kills hended hnext =>
    obtain ⟨hlast, hall, hclosing⟩ := hacts.allEnded_of_asked (hfree rfl) (.inl hended)
    exact hacts.steps (hfree rfl) nofun hnext rfl rfl ⟨hlast, hall, hclosing⟩
  | buries hsubsides =>
    obtain ⟨hlast, hall, hclosing⟩ := h.places _ (hacts.mem rfl)
    exact hacts.subsides (hfree rfl) rfl hlast hall hclosing hsubsides
  | rests =>
    obtain ⟨hlast, hall, hclosing⟩ := h.places _ (hacts.mem rfl)
    exact hacts.subsides (hfree rfl) rfl hlast hall hclosing .now
  | greets hstarting hnext =>
    rw [Layout.shape_ask]
    exact hacts.greets h hstarting hnext
  | falters hstarting _ =>
    rw [Layout.shape_list]
    exact hacts.lands.goes (hacts.spare (hacts.wanted h hstarting) (.inl nofun)) (hacts.not_hinge rfl)
  | abandons hnot hcloses => exact hacts.abandons h hacts.done hcloses
  | fails => exact hacts.fails h
  | forsakes =>
    obtain ⟨hall, -⟩ := h.hinges _ _ rfl
    exact hacts.lands.goes (hacts.spare (h.unhinge rfl) (.inr hall)) (hacts.not_hinge rfl)
  | welcomes hbond hphase _ => exact hacts.welcomes (hfree rfl) hbond hphase
  | refuses hstarting hcloses =>
    obtain ⟨hlast, -⟩ := h.places _ (hacts.mem rfl)
    exact hacts.lands.closing (hacts.spare (hfree rfl) (.inl nofun)) rfl (fun _ _ => trivial) hlast
      hacts.done hcloses
  | ignores hnot =>
    exact hacts.lands.goes (hacts.spare (hfree rfl) (.inl nofun)) (hacts.not_hinge rfl)
  | dismisses =>
    -- its process has ended, and with it all of them
    obtain ⟨hall, hshut⟩ := h.hinges _ _ rfl
    rw [Layout.shape_reset]
    exact hacts.lands.goes (hacts.spare ((h.unhinge rfl).reset _ hall hshut) (.inl nofun))
      (hacts.not_hinge rfl)
  | parts hgrows hcloses => exact hacts.parts (hfree rfl) hgrows hcloses
  | closed =>
    obtain ⟨hall, hshut⟩ := h.hinges _ _ rfl
    rw [Layout.shape_reset, Layout.shape_rejectOn]
    exact hacts.lands.goes (hacts.spare ((h.unhinge rfl).reset _ hall hshut) (.inl nofun))
      (hacts.not_hinge rfl)
  | comes hactivity hnext =>
    exact hacts.steps (hfree rfl) nofun hnext (Point.isHinge_keeper _) rfl trivial
  | vacates hpoint hvacates => exact hacts.vacates (hfree (Point.isHinge_keeper _)) hvacates
  | renews hrenews => exact hacts.renews (hfree rfl) (hclears.2 _ rfl) hrenews
  | leaves hpoint =>
    exact hacts.lands.goes (hacts.spare (hfree (Point.isHinge_keeper _)) (.inl nofun))
      (hacts.not_hinge (Point.isFeeder_keeper _))

/-- Where nobody acts, at most one process is alive as before. -/
theorem Single.drifts {notice : Option (Nat × String × Json.Value)} (hdrifts : Drifts w w' notice)
    (h : Single w.layout.shape w.done w.places w.hinge?) :
    Single w'.layout.shape w'.done w'.places w'.hinge? := by
  have hnone : w.hinge? = none := by
    rw [hinge?, hdrifts.acting]
    rfl
  have hnone' : w'.hinge? = none := by
    rw [hinge?, Option.filter_eq_none_iff]
    rintro ⟨point, outcome⟩ hacting
    simp [hdrifts.presents point outcome hacting]
  rw [hnone']
  rw [hnone] at h
  exact ((h.grow hdrifts.done).of_shape hdrifts.shape_eq).perm hdrifts.places.symm

end BasiliskServer.World
