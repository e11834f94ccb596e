import BasiliskServer.Proofs.World.HandlingSteps
import BasiliskServer.Proofs.World.Wires

/-!
# One connection, one process

A connection that starts only while nobody starts or stops it has at most one process alive at any
time, whatever its processes do, and once it has greeted a process with success it stays ready on that
process until somebody stops it or the process ends (`lone_process`). A start that begins while an
earlier one still waits for its process breaks this: the earlier one wakes up in the new life of the
connection, and both greet their processes (`overtaken_start`).
-/

namespace BasiliskServer.World

open Json (Value)

/-! ## What is asked of a run -/

/-- Everything that happens in a run is allowed when it happens. -/
def allowsAll (counter : Counter) (allows : World → Incident → Bool) : World → List Incident → Bool
  | _, [] => true
  | w, incident :: rest =>
    allows w incident && allowsAll counter allows (w.undergo counter incident) rest

/-- A connection that is stopped is started only while nobody starts or stops one. -/
def startsAlone (w : World) (incident : Incident) : Bool :=
  match w.begins? incident with
  | some (.connect number) => w.phaseOf? number ≠ some .stopped || !w.isHandled
  | _ => true

/-- Connections are started and stopped only while nobody starts or stops one. -/
def startsAndStopsAlone (w : World) (incident : Incident) : Bool :=
  match w.begins? incident with
  | some (.connect _) | some (.disconnect _) => !w.isHandled
  | _ => true

/-- Nobody stops a connection. -/
def neverStops (w : World) (incident : Incident) : Bool :=
  match w.begins? incident with
  | some (.disconnect _) => false
  | _ => true

variable {Γ : Ledger} {counter : Counter} {w w' : World} {point : Point} {outcome : Outcome}
  {rest aside : List Point} {next : Next} {incident : Incident} {before after : List Incident}
  {allows : World → Incident → Bool}

theorem undergoAll_append : w.undergoAll counter (before ++ after) =
    (w.undergoAll counter before).undergoAll counter after :=
  List.foldl_append

theorem undergoAll_cons : w.undergoAll counter (incident :: after) =
    (w.undergo counter incident).undergoAll counter after :=
  rfl

theorem allowsAll_append : w.allowsAll counter allows (before ++ after) = true ↔
    w.allowsAll counter allows before = true ∧
      (w.undergoAll counter before).allowsAll counter allows after = true := by
  induction before generalizing w with
  | nil => simp [allowsAll, undergoAll]
  | cons first others ih => simp [allowsAll, ih, undergoAll_cons, and_assoc]

theorem allowsAll_cons : w.allowsAll counter allows (incident :: after) = true ↔
    allows w incident = true ∧ (w.undergo counter incident).allowsAll counter allows after = true := by
  simp [allowsAll]

theorem startsAlone_of_startsAndStopsAlone (h : w.startsAndStopsAlone incident = true) :
    w.startsAlone incident = true := by
  unfold startsAndStopsAlone at h
  unfold startsAlone
  split at h
  · rename_i heq
    simp [heq, h]
  · rename_i heq
    simp [heq]
  · rename_i hconnect hdisconnect
    split
    · rename_i heq
      exact absurd heq (hconnect _)
    · rfl

/-! ## Where nobody starts or stops a connection -/

/-- Where nobody starts or stops a connection, nothing that belongs to it goes on. -/
theorem Ordered.clear_points (h : Ordered counter Γ w) (hnobody : w.handlers = []) :
    ∀ point ∈ w.places, point.isHandling = false ∧ point.isLaunch = false ∧
      ∀ channelPoint, point = .channel channelPoint → point.delivery? ≠ some .closing ∧
        point.delivery? ≠ some .opening := by
  intro point hpoint
  have hnot : ∀ other ∈ w.places, other.isHandling = false := by
    intro other hother
    simpa using List.filter_eq_nil_iff.1 hnobody other hother
  -- the points below stand in the same stack
  obtain ⟨hmem, -⟩ := List.mem_filter.1 hpoint
  obtain ⟨standing, hstanding, hin⟩ := List.mem_flatMap.1 hmem
  obtain ⟨number, hnumber⟩ := List.getElem?_of_mem hstanding
  obtain ⟨t, ht, rfl⟩ := Option.map_eq_some_iff.1 ((List.getElem?_map ..).symm.trans hnumber)
  obtain ⟨below, ⟨purpose, -, hbelow⟩, hsits, -⟩ := h.kept.books.tasks number t ht
  have hfinal : below.IsFinal := Ordered.below_cases hbelow
  obtain ⟨front, rest, hstack⟩ := List.append_of_mem hin
  have hstack : t.stack = front ++ point :: rest := hstack
  rw [hstack] at hsits
  have hsits := (Ledger.sits_append.1 hsits).2
  have hrest : ∀ other ∈ rest, other.isLater = true → other ∈ w.places := by
    intro other hother hlater
    refine List.mem_filter.2 ⟨List.mem_flatMap.2 ⟨t.standing, hstanding, ?_⟩, hlater⟩
    rw [show t.standing.stack = t.stack from rfl, hstack]
    exact List.mem_append_right _ (List.mem_cons_of_mem _ hother)
  -- whoever waits for a channel to be opened or closed stands below
  have hline : ∀ {other : Point} {others : List Point}, Γ.Sits counter t.result below (other :: others) →
      (∀ third ∈ others, third.isLater = true → third ∈ w.places) →
      other.delivery? ≠ some .closing ∧ other.delivery? ≠ some .opening := by
    intro other others hsits hothers
    refine ⟨fun hdelivery => ?_, fun hdelivery => ?_⟩
    · obtain ⟨hinge, others', rfl, hhinge⟩ := hsits.feeds_hinge hfinal hdelivery (.inr (.inr rfl))
      have hhandling := Point.isHandling_of_closing hhinge
      rw [hnot _ (hothers hinge List.mem_cons_self (Point.isLater_of_isHandling hhandling))] at hhandling
      cases hhandling
    · obtain ⟨hinge, others', rfl, hhinge⟩ := hsits.feeds_hinge hfinal hdelivery (.inr (.inl rfl))
      obtain ⟨_, _, rfl⟩ := Point.eq_of_opening hhinge
      cases hnot _ (hothers _ List.mem_cons_self rfl)
  refine ⟨hnot point hpoint, ?_, fun channelPoint _ => hline hsits hrest⟩
  by_contra hlaunch
  cases point with
  | program point =>
    cases point with
    | starting script command =>
      obtain ⟨hinge, others, rfl, hhinge⟩ := hsits.feeds_hinge hfinal rfl (.inl rfl)
      obtain ⟨channel, rfl⟩ := Point.eq_of_process hhinge
      exact (hline hsits.2 fun third hthird => hrest third (List.mem_cons_of_mem _ hthird)).2 rfl
    | _ => exact hlaunch rfl
  | _ => exact hlaunch rfl

/-! ## One connection -/

/-- Connections that are stopped have no channel. -/
def Shape.IsTidy (s : Shape) : Prop :=
  ∀ (number : Nat) (stage : Stage), s.stages[number]? = some stage → stage.phase = .stopped →
    stage.channel = none

/-- There are as many connections as before, and those that are stopped have no channel. -/
structure Shape.Keeps (s s' : Shape) : Prop where
  /-- There are as many connections. -/
  length : s'.stages.length = s.stages.length
  /-- Those that are stopped have no channel. -/
  tidy : s.IsTidy → s'.IsTidy

namespace Shape.Keeps

variable {s s' s'' : Shape}

theorem of_stages (h : s'.stages = s.stages) : s.Keeps s' :=
  ⟨by rw [h], fun htidy => by rw [IsTidy, h]; exact htidy⟩

protected theorem trans (h : s.Keeps s') (h' : s'.Keeps s'') : s.Keeps s'' :=
  ⟨h'.length.trans h.length, h'.tidy ∘ h.tidy⟩

theorem setStage (number : Nat) {change : Stage → Stage}
    (h : ∀ stage, (change stage).phase = .stopped → (change stage).channel = none) :
    s.Keeps (s.setStage number change) := by
  refine ⟨by simp [Shape.setStage], fun htidy other stage hstage hphase => ?_⟩
  obtain ⟨old, hold, ⟨rfl, rfl⟩ | ⟨-, rfl⟩⟩ := Tasks.getElem?_modify_cases hstage
  · exact h old hphase
  · exact htidy other _ hold hphase

theorem setPhase (number : Nat) {phase : Phase} (h : phase ≠ .stopped) :
    s.Keeps (s.setPhase number phase) :=
  setStage number fun _ hphase => absurd hphase h

theorem reset (number : Nat) : s.Keeps (s.reset number) :=
  setStage number fun _ _ => rfl

theorem beginStart (number : Nat) : s.Keeps (s.beginStart number) := by
  have hstage : s.Keeps (s.setStage number fun _ => ⟨.starting, some s.tracks.length⟩) :=
    setStage number fun _ hphase => by cases hphase
  exact hstage.trans (of_stages rfl)

end Shape.Keeps

/-- Points at which a task deals with the keeper. -/
def Point.isKeeper : Point → Bool
  | .keeper _ => true
  | _ => false

theorem Point.isKeeper_of_isMinor (h : point.isMinor = true) : point.isKeeper = false := by
  unfold Point.isMinor at h
  split at h <;> first | rfl | cases h

/-- A connection, and nobody deals with the keeper. -/
structure Lone (w : World) : Prop where
  /-- Nobody deals with the keeper. -/
  keepers : ∀ point ∈ w.places, point.isKeeper = false
  /-- There is one connection. -/
  length : w.layout.shape.stages.length = 1
  /-- If it is stopped, it has no channel. -/
  tidy : w.layout.shape.IsTidy

namespace Layout

variable {l l' : Layout} {f : Facts} {number channel : Nat}

theorem Loses.keeps_shape {code : Option Int} (h : l.Loses channel code l') :
    l.shape.Keeps l'.shape := by
  cases h with
  | expected => exact .of_stages rfl
  | unheard => exact .of_stages (by simp [Shape.shut, Shape.carry, Shape.setTrack])
  | stopping => exact .of_stages (by simp [Shape.shut, Shape.carry, Shape.setTrack])
  | stops =>
    rw [shape_report, shape_reset, shape_clear, shape_rejectOn, shape_carry, shape_shut]
    have hlost : l.shape.Keeps ((l.shape.shut channel).carry channel none) := .of_stages rfl
    exact hlost.trans (.reset _)

theorem Subsides.keeps_shape (h : l.Subsides channel l' next) :
    l.shape.Keeps l'.shape ∧ Avoids Point.isKeeper next := by
  cases h with
  | now => exact ⟨.of_stages (by simp [Shape.carry, Shape.setTrack]), .go _⟩
  | waits hnext => exact ⟨.of_stages rfl, .single (fun _ => Point.isKeeper_of_isMinor) hnext rfl⟩

theorem Closes.keeps_shape (h : l.Closes f channel l' next) :
    l.shape.Keeps l'.shape ∧ Avoids Point.isKeeper next := by
  refine ⟨.of_stages h.stages, ?_⟩
  cases h with
  | bare => exact .go _
  | subsides _ _ h => exact h.keeps_shape.2
  | asks _ hnext => exact .single (fun _ => Point.isKeeper_of_isMinor) hnext rfl

theorem Disconnects.keeps_shape (h : l.Disconnects f number l' next) :
    l.shape.Keeps l'.shape ∧ Avoids Point.isKeeper next := by
  cases h with
  | keeps => exact ⟨.of_stages rfl, .go _⟩
  | clears =>
    rw [shape_clear]
    exact ⟨.of_stages rfl, .go _⟩
  | parts _ hnext =>
    rw [shape_ask, shape_setPhase]
    exact ⟨.setPhase _ nofun, .single (fun _ => Point.isKeeper_of_isMinor) hnext rfl⟩
  | closes _ _ _ hcloses =>
    have hstopping : l.shape.Keeps (l.setPhase number .stopping).shape := by
      rw [shape_setPhase]
      exact .setPhase _ nofun
    cases hcloses with
    | nothing => exact ⟨hstopping, Avoids.under (.go _) rfl⟩
    | closes hcloses =>
      exact ⟨hstopping.trans hcloses.keeps_shape.1, hcloses.keeps_shape.2.under rfl⟩

theorem Connects.keeps_shape (h : l.Connects number l' next) :
    l.shape.Keeps l'.shape ∧ Avoids Point.isKeeper next := by
  cases h with
  | keeps _ hnext => exact ⟨.of_stages rfl, .idle (fun _ => Point.isKeeper_of_isMinor) hnext⟩
  | begins _ _ hnext =>
    rw [shape_beginStart]
    refine ⟨.beginStart _, .of_rises (fun _ => Point.isKeeper_of_isMinor) hnext fun other hother => ?_⟩
    simp only [List.mem_cons, List.not_mem_nil, or_false] at hother
    rcases hother with rfl | rfl | rfl <;> rfl

end Layout

/-- Nobody comes to the keeper where only connections are dealt with. -/
theorem Acts.not_comes {activity : Activity} {keeperPoint : KeeperPoint}
    (hacts : Acts .connections w w' (.start activity) outcome rest aside next)
    (hactivity : (∃ config ticket, activity = .ensure config ∧ keeperPoint = .admitted config ticket) ∨
      ∃ ticket, activity = .release ∧ keeperPoint = .admittedToStop ticket) : False := by
  obtain ⟨Γ, result, below, ⟨hpasses, -⟩, -⟩ := hacts.sits
  have hbegins : Counter.connections.Begins activity (expected below rest) := hpasses
  generalize expected below rest = e at hbegins
  rcases hactivity with ⟨config, -, rfl, -⟩ | ⟨-, rfl, -⟩ <;> cases e <;>
    simp [Counter.Begins, Counter.offers] at hbegins

/-- The activities of those who call on the keeper. -/
def Activity.callsOnKeeper : Activity → Bool
  | .ensure _ | .release => true
  | _ => false

/-- The points at which tasks deal with the keeper. -/
def Point.dealsWithKeeper : Point → Bool
  | .start activity => activity.callsOnKeeper
  | .keeper _ => true
  | _ => false

/-- Who does not deal with the keeper makes no connections, and does not come to deal with it. -/
theorem Course.keeps_shape {f f' : Facts} {l l' : Layout}
    (hcourse : Course f f' l point outcome l' next) (hpoint : point.dealsWithKeeper = false) :
    l.shape.Keeps l'.shape ∧ Avoids Point.isKeeper next := by
  have hsame : ∀ {s' : Shape}, s'.stages = l.shape.stages → l.shape.Keeps s' :=
    fun heq => .of_stages heq
  cases hcourse with
  | hears _ _ hhears hnext => exact ⟨hsame (by rw [hhears.shape_eq]), .idle (fun _ => Point.isKeeper_of_isMinor) hnext⟩
  | watches _ hnext => exact ⟨hsame rfl, .single (fun _ => Point.isKeeper_of_isMinor) hnext rfl⟩
  | drains hnext => exact ⟨hsame rfl, .single (fun _ => Point.isKeeper_of_isMinor) hnext rfl⟩
  | loses _ hloses => exact ⟨hloses.keeps_shape, .go _⟩
  | sends _ _ hnext => exact ⟨hsame (by rw [Layout.shape_ask]), .idle (fun _ => Point.isKeeper_of_isMinor) hnext⟩
  | connects hconnects => exact hconnects.keeps_shape
  | disconnects hdisconnects => exact hdisconnects.keeps_shape
  | misses => exact ⟨hsame rfl, .go _⟩
  | launches => exact ⟨hsame rfl, .go _⟩
  | opens => exact ⟨hsame (by simp [Shape.carry, Shape.setTrack]), .go _⟩
  | shuns => exact ⟨hsame rfl, .go _⟩
  | complies _ hsubsides => exact hsubsides.keeps_shape
  | kills _ hnext => exact ⟨hsame rfl, .single (fun _ => Point.isKeeper_of_isMinor) hnext rfl⟩
  | buries hsubsides => exact hsubsides.keeps_shape
  | rests => exact ⟨hsame (by simp [Shape.carry, Shape.setTrack]), .go _⟩
  | greets _ hnext => exact ⟨hsame (by rw [Layout.shape_ask]), .single (fun _ => Point.isKeeper_of_isMinor) hnext rfl⟩
  | falters => exact ⟨hsame (by rw [Layout.shape_list]), .go _⟩
  | abandons _ hcloses => exact ⟨hcloses.keeps_shape.1, hcloses.keeps_shape.2.under rfl⟩
  | fails =>
    rw [Layout.shape_reset]
    exact ⟨.reset _, .go _⟩
  | forsakes => exact ⟨hsame rfl, .go _⟩
  | welcomes =>
    rw [Layout.shape_welcome]
    exact ⟨.setPhase _ (by simp), .go _⟩
  | refuses _ hcloses => exact ⟨hcloses.keeps_shape.1, hcloses.keeps_shape.2.under rfl⟩
  | ignores _ => exact ⟨hsame rfl, .go _⟩
  | dismisses =>
    rw [Layout.shape_reset]
    exact ⟨.reset _, .go _⟩
  | parts _ hcloses =>
    have hkeeps := hcloses.keeps_shape.1
    rw [Layout.shape_tellOf] at hkeeps
    exact ⟨hkeeps, hcloses.keeps_shape.2.under rfl⟩
  | closed =>
    rw [Layout.shape_reset, Layout.shape_rejectOn]
    exact ⟨.reset _, .go _⟩
  | comes hactivity _ => rcases hactivity with ⟨_, _, rfl, -⟩ | ⟨_, rfl, -⟩ <;> cases hpoint
  | vacates _ _ => cases hpoint
  | renews _ => cases hpoint
  | leaves _ => cases hpoint

namespace Lone

/-- Nobody calls on the keeper where only connections are dealt with. -/
theorem not_dealing (hacts : Acts .connections w w' point outcome rest aside next) (h : Lone w) :
    point.dealsWithKeeper = false := by
  cases point with
  | start activity =>
    cases activity with
    | ensure config => exact (hacts.not_comes (.inl ⟨config, none, rfl, rfl⟩)).elim
    | release => exact (hacts.not_comes (.inr ⟨none, rfl, rfl⟩)).elim
    | _ => rfl
  | keeper point => cases h.keepers _ (hacts.mem rfl)
  | _ => rfl

/-- What a task does leaves a connection alone. -/
theorem acts (hacts : Acts .connections w w' point outcome rest aside next) (h : Lone w) : Lone w' := by
  obtain ⟨hkeeps, havoids⟩ := hacts.course.keeps_shape (h.not_dealing hacts)
  refine ⟨fun other hother => ?_, hkeeps.length.trans h.length, hkeeps.tidy h.tidy⟩
  rw [hacts.after.mem_iff, List.mem_append, List.mem_filter, List.mem_append] at hother
  rcases hother with ⟨hnext | hrest, hlater⟩ | haside
  · exact havoids other hnext
  · exact h.keepers other (hacts.before.mem_iff.2 (List.mem_append_left _
      (List.mem_filter.2 ⟨List.mem_cons_of_mem _ hrest, hlater⟩)))
  · exact h.keepers other (hacts.before.mem_iff.2 (List.mem_append_right _ haside))

theorem drifts {notice : Option (Nat × String × Value)} (hdrifts : Drifts w w' notice) (h : Lone w) :
    Lone w' := by
  have hshape := hdrifts.shape_eq
  refine ⟨fun point hpoint => h.keepers point (hdrifts.places.mem_iff.1 hpoint), ?_, ?_⟩ <;> rw [hshape]
  · exact h.length
  · exact h.tidy

/-- Where the connection is stopped, all connections are. -/
theorem stages (h : Lone w) {number : Nat} (hstopped : w.layout.IsIn .stopped number) (other : Nat)
    (stage : Stage) (hstage : w.layout.shape.stages[other]? = some stage) : stage.phase = .stopped := by
  obtain ⟨channel, hat⟩ := Layout.isIn_iff.1 hstopped
  have hlength := h.length
  obtain ⟨hother, -⟩ := List.getElem?_eq_some_iff.1 hstage
  obtain ⟨hnumber, -⟩ := List.getElem?_eq_some_iff.1 hat
  obtain rfl : number = other := by omega
  rw [Option.some.inj (hstage.symm.trans hat)]

end Lone

/-- A task begins what it was started for. -/
theorem Acts.begins? {activity : Activity}
    (hacts : Acts counter w w' (.start activity) outcome rest aside next) :
    w.begins? .step = some activity := by
  obtain ⟨Γ, result, below, -, ⟨answer, rfl⟩, -⟩ := hacts.sits
  simp [World.begins?, hacts.acting]

theorem phaseOf?_of_isIn {phase : Phase} {number : Nat} (h : w.layout.IsIn phase number) :
    w.phaseOf? number = some phase := by
  obtain ⟨bond, hbond, rfl⟩ := h
  rw [layout_bonds_getElem?] at hbond
  obtain ⟨c, hc, rfl⟩ := Option.map_eq_some_iff.1 hbond
  rw [phaseOf?, hc]
  rfl

/-- A connection that starts alone starts where nobody starts or stops it. -/
theorem Lone.clears (h : Lone w) (hordered : Ordered .connections Γ w)
    (hacts : Acts .connections w w' point outcome rest aside next)
    (halone : w.startsAlone .step = true) : Clears w point := by
  refine ⟨?_, ?_⟩
  · rintro number rfl hstopped
    have hnobody : w.isHandled = false := by
      unfold startsAlone at halone
      rw [hacts.begins?] at halone
      simpa [phaseOf?_of_isIn hstopped] using halone
    exact ⟨hordered.clear_points (isHandled_iff.1 hnobody), h.stages hstopped⟩
  · rintro config rfl
    cases h.keepers _ (hacts.mem rfl)

/-- Before anything has happened nothing is alive. -/
theorem Single.fresh {s : Shape} {ended : Nat → Prop} (htracks : s.tracks = []) (hscripts : s.scripts = [])
    (hstages : ∀ (number : Nat) (stage : Stage), s.stages[number]? = some stage → stage.phase = .stopped) :
    Single s ended [] none := by
  have hnone : ∀ process, ¬ process < s.scripts.length := by simp [hscripts]
  have hbare : ∀ (channel : Nat) (track : Track), s.tracks[channel]? ≠ some track := by simp [htracks]
  constructor
  · exact fun process hprocess => absurd hprocess (hnone process)
  · exact Nat.zero_le _
  · exact fun _ hpoint => absurd hpoint List.not_mem_nil
  · exact fun channel track _ htrack => absurd htrack (hbare channel track)
  · exact fun number stage hstage hphase => absurd (hstages number stage hstage) hphase
  · exact fun process hprocess => absurd hprocess (hnone process)
  · exact fun _ hpoint => absurd hpoint List.not_mem_nil
  · exact fun _ _ hhinge => by cases hhinge

/-! ## Runs of a connection -/

/-- A connection whose starts begin alone. -/
structure Solitary (w : World) : Prop where
  /-- Everything is in order. -/
  ordered : ∃ Γ, Ordered .connections Γ w
  /-- Nobody deals with the keeper. -/
  lone : Lone w
  /-- At most one process is alive. -/
  single : Single w.layout.shape w.done w.places w.hinge?

namespace Solitary

/-- What happens leaves a connection as it is, if it starts alone. -/
theorem undergo (h : Solitary w) (halone : w.startsAlone incident = true) :
    Solitary (w.undergo .connections incident) := by
  obtain ⟨Γ, hordered⟩ := h.ordered
  obtain ⟨Γ', -, -, hordered'⟩ := hordered.undergo incident
  rcases hordered.shifts incident with heq | ⟨point, outcome, rest, aside, next, rfl, hacts⟩ | hdrifts
  · rw [heq]
    exact h
  · exact ⟨⟨Γ', hordered'⟩, h.lone.acts hacts,
      h.single.acts hacts (h.lone.clears hordered hacts halone)⟩
  · exact ⟨⟨Γ', hordered'⟩, h.lone.drifts hdrifts, h.single.drifts hdrifts⟩

theorem undergoAll {incidents : List Incident} (h : Solitary w)
    (halone : w.allowsAll .connections startsAlone incidents = true) :
    Solitary (w.undergoAll .connections incidents) := by
  induction incidents generalizing w with
  | nil => exact h
  | cons incident rest ih =>
    obtain ⟨hfirst, hrest⟩ := allowsAll_cons.1 halone
    exact ih (h.undergo hfirst) hrest

/-- Before anything has happened. -/
theorem ofConnection (host : Files.Host) (companions : List CompanionScript)
    (config : Companion.Config) (capabilities : Value) (greetingLimit partingLimit room : Option Nat) :
    Solitary (World.ofConnection host companions config capabilities greetingLimit partingLimit room) := by
  have hstages : ∀ (number : Nat) (stage : Stage), (World.ofConnection host companions config
      capabilities greetingLimit partingLimit room).layout.shape.stages[number]? = some stage →
      stage = ⟨.stopped, none⟩ := fun number stage hstage =>
    List.mem_singleton.1 (List.mem_of_getElem? hstage)
  refine ⟨⟨{}, Ordered.fresh rfl rfl rfl (fun c hc => ?_) rfl rfl⟩,
    ⟨fun _ hpoint => absurd hpoint List.not_mem_nil, rfl, fun number stage hstage _ => ?_⟩,
    .fresh rfl rfl fun number stage hstage => ?_⟩
  · rw [List.mem_singleton.1 hc]
    exact ⟨rfl, .inr rfl⟩
  · rw [hstages number stage hstage]
  · rw [hstages number stage hstage]

end Solitary

/-! ## One after the other -/

/-- A connection that one task at a time starts or stops. -/
structure Orderly (w : World) : Prop extends Solitary w where
  /-- It can be told from that task how far the connection is. -/
  serial : Serial True w.layout.shape w.hinge? w.handlers

theorem handlers_eq_nil_of_startsAlone {number : Nat} (halone : w.startsAlone incident = true)
    (hbegins : w.begins? incident = some (.connect number)) (hstopped : w.phaseOf? number = some .stopped) :
    w.handlers = [] := by
  refine isHandled_iff.1 ?_
  unfold startsAlone at halone
  rw [hbegins] at halone
  simpa [hstopped] using halone

theorem handlers_eq_nil_of_startsAndStopsAlone {number : Nat}
    (halone : w.startsAndStopsAlone incident = true)
    (hbegins : w.begins? incident = some (.disconnect number)) : w.handlers = [] := by
  refine isHandled_iff.1 ?_
  unfold startsAndStopsAlone at halone
  rw [hbegins] at halone
  simpa using halone

theorem begins?_ne_of_neverStops (hnever : w.neverStops incident = true) (number : Nat) :
    w.begins? incident ≠ some (.disconnect number) := by
  intro hbegins
  unfold neverStops at hnever
  rw [hbegins] at hnever
  cases hnever

/-- Where the connection is stopped, it has no channel. -/
theorem Solitary.isSettled (h : Solitary w) {number : Nat} (hstopped : w.phaseOf? number = some .stopped) :
    w.layout.shape.IsSettled True := by
  have hin : w.layout.IsIn .stopped number := by
    obtain ⟨c, hc, hphase⟩ := Option.map_eq_some_iff.1 hstopped
    exact ⟨c.bond, bond_of_connection hc, hphase⟩
  refine fun other stage hstage => .inl ?_
  have hphase := h.lone.stages hin other stage hstage
  obtain ⟨phase, channel⟩ := stage
  obtain rfl : phase = .stopped := hphase
  rw [show channel = none from h.lone.tidy other _ hstage rfl]

/-- Where nobody starts or stops a connection that is stopped, nothing is on its way. -/
theorem Solitary.orderly (h : Solitary w) {number : Nat} (hstopped : w.phaseOf? number = some .stopped)
    (hnobody : w.handlers = []) : Orderly w := by
  refine ⟨h, ?_⟩
  rw [hnobody]
  exact .calm (h.isSettled hstopped)

namespace Orderly

/-- What happens leaves a connection in order, if one task at a time starts or stops it. -/
theorem undergo (h : Orderly w) (halone : w.startsAlone incident = true)
    (hstops : ∀ number, w.begins? incident = some (.disconnect number) → w.handlers = []) :
    Orderly (w.undergo .connections incident) := by
  have hsolitary := h.toSolitary.undergo halone
  obtain ⟨Γ, hordered⟩ := h.ordered
  rcases hordered.shifts incident with heq | ⟨point, outcome, rest, aside, next, rfl, hacts⟩ | hdrifts
  · rwa [heq]
  · refine ⟨hsolitary, ?_⟩
    refine h.serial.acts hacts (h.lone.clears hordered hacts halone) ?_ (.inr trivial) h.single
    rintro (⟨number, rfl⟩ | ⟨other, rfl⟩)
    · exact hstops number hacts.begins?
    · cases h.lone.keepers _ (hacts.mem rfl)
  · exact ⟨hsolitary, h.serial.drifts hdrifts⟩

/-- A connection that nobody stops stays in order. -/
theorem undergoAll_of_neverStops {incidents : List Incident} (h : Orderly w)
    (halone : w.allowsAll .connections startsAlone incidents = true)
    (hnever : w.allowsAll .connections neverStops incidents = true) :
    Orderly (w.undergoAll .connections incidents) := by
  induction incidents generalizing w with
  | nil => exact h
  | cons incident rest ih =>
    obtain ⟨hfirst, hrest⟩ := allowsAll_cons.1 halone
    obtain ⟨hfirst', hrest'⟩ := allowsAll_cons.1 hnever
    refine ih (h.undergo hfirst fun number hbegins => ?_) hrest hrest'
    exact absurd hbegins (begins?_ne_of_neverStops hfirst' number)

/-- Before anything has happened. -/
theorem ofConnection (host : Files.Host) (companions : List CompanionScript)
    (config : Companion.Config) (capabilities : Value) (greetingLimit partingLimit room : Option Nat) :
    Orderly (World.ofConnection host companions config capabilities greetingLimit partingLimit room) := by
  have hstopped : (World.ofConnection host companions config capabilities greetingLimit
    partingLimit room).phaseOf? 0 = some .stopped := rfl
  exact (Solitary.ofConnection ..).orderly hstopped rfl

end Orderly

/-! ## Ready on a process -/

/-- The connection is ready, and its channel takes messages to a process. -/
def IsReadyOn (w : World) (process : Nat) : Prop :=
  ∃ c number channel, w.connections[0]? = some c ∧ c.phase = .ready ∧ c.channel = some number ∧
    w.channels[number]? = some channel ∧ channel.process = some process ∧ channel.closing = false

/-- The first connection is ready, and its channel takes messages to a process. -/
def Shape.Serves (s : Shape) (process : Nat) : Prop :=
  ∃ channel track, s.IsAt 0 .ready (some channel) ∧ s.tracks[channel]? = some track ∧
    track.process = some process ∧ track.closing = false

theorem isReadyOn_of_serves {process : Nat} (h : w.layout.shape.Serves process) :
    w.IsReadyOn process := by
  obtain ⟨channel, track, hat, htrack, hprocess, hclosing⟩ := h
  rw [Layout.shape_tracks_getElem?, layout_pipes_getElem?] at htrack
  rw [Shape.IsAt, Layout.shape_stages_getElem?, layout_bonds_getElem?] at hat
  obtain ⟨pipe, hpipe, rfl⟩ := Option.map_eq_some_iff.1 htrack
  obtain ⟨ch, hch, rfl⟩ := Option.map_eq_some_iff.1 hpipe
  obtain ⟨bond, hbond, heq⟩ := Option.map_eq_some_iff.1 hat
  obtain ⟨c, hc, rfl⟩ := Option.map_eq_some_iff.1 hbond
  obtain ⟨hphase, hchannel⟩ := Stage.mk.inj heq
  exact ⟨c, channel, ch, hc, hphase, hchannel, hch, hprocess, hclosing⟩

/-- The connection and the channel of a process that has answered the greeting, where a task goes on
with that. -/
def greeted? (w : World) : Option (Nat × Nat) :=
  match w.acting? with
  | some (.connection (.greeted number channel _), .ok _) => some (number, channel)
  | _ => none

namespace Orderly

/-- Where nobody starts or stops the connection and it is ready on a process, it stays so until the
process ends. -/
theorem acts_serving {process : Nat} (h : Orderly w)
    (hacts : Acts .connections w w' point outcome rest aside next) (hnobody : w.handlers = [])
    (hnever : ∀ number, point ≠ .start (.disconnect number))
    (hserves : w.layout.shape.Serves process) :
    w'.handlers = [] ∧ w'.layout.shape.Serves process ∨ w'.facts.ended process := by
  obtain ⟨Γ, hordered⟩ := h.ordered
  have hclear : point.isLater = true → point.isHandling = false ∧ point.isLaunch = false ∧
      ∀ channelPoint, point = .channel channelPoint → point.delivery? ≠ some .closing ∧
        point.delivery? ≠ some .opening := fun hlater =>
    hordered.clear_points hnobody point (hacts.mem hlater)
  have hquiet : Follows next [] → w'.handlers = [] := fun hfollows => by
    have hbefore := hacts.handlers_before
    rw [hnobody] at hbefore
    have hafter := hacts.handlers_after hfollows
    rw [(List.append_eq_nil_iff.1 hbefore.symm.eq_nil).2] at hafter
    exact hafter.eq_nil
  -- what leaves the shape as it is
  have hsame : ∀ {s' : Shape}, s' = w.layout.shape → Follows next [] →
      w'.handlers = [] ∧ s'.Serves process ∨ w'.facts.ended process := fun heq hfollows =>
    .inl ⟨hquiet hfollows, heq ▸ hserves⟩
  have hhandling : point.isLater = true → point.isHandling = true →
      ∀ {s' : Shape}, w'.handlers = [] ∧ s'.Serves process ∨ w'.facts.ended process := by
    intro hlater hhandling
    rw [(hclear hlater).1] at hhandling
    cases hhandling
  have hdelivery : ∀ channelPoint, point = .channel channelPoint →
      (point.delivery? = some .closing ∨ point.delivery? = some .opening) →
      ∀ {s' : Shape}, w'.handlers = [] ∧ s'.Serves process ∨ w'.facts.ended process := by
    rintro channelPoint rfl (hclosing | hopening)
    · exact absurd hclosing ((hclear rfl).2.2 _ rfl).1
    · exact absurd hopening ((hclear rfl).2.2 _ rfl).2
  have hkeeper : ∀ keeperPoint, point ≠ .keeper keeperPoint := by
    rintro keeperPoint rfl
    cases h.lone.keepers _ (hacts.mem rfl)
  obtain ⟨line, track, hat, htrack, hprocess, hclosing⟩ := hserves
  have hcourse := hacts.course
  generalize hl' : w'.layout = l' at hcourse ⊢
  cases hcourse with
  | hears _ _ hhears hnext => exact hsame hhears.shape_eq (.idle hnext)
  | watches _ hnext => exact hsame rfl (.of_rises hnext rfl nofun)
  | drains hnext => exact hsame rfl (.of_rises hnext rfl nofun)
  | loses hended hloses =>
    rename_i channel other code
    have hfollows : Follows (.go (.ok .unit) []) [] := .idle (rises_go _ _)
    obtain ⟨last, _, hlast, hisLast, -⟩ := h.single.led 0 _ hat nofun
    obtain rfl := Option.some.inj hlast
    have hfree : Single w.layout.shape w.done w.places none := by
      have hsingle := h.single
      rwa [hacts.hinge?_eq] at hsingle
    -- only the process of the last channel is lost where the channel is not closed
    have hlost : ∀ pipe, w.layout.pipes[channel]? = some pipe → pipe.closing = false →
        w'.facts.ended process := by
      intro pipe hpipe hopen
      obtain ⟨hother, hlast', -⟩ := hfree.lives_of_gone (hacts.mem rfl) hpipe hopen
      obtain rfl := hisLast.unique hlast'
      obtain rfl := Option.some.inj ((Layout.track_of_pipe hpipe).symm.trans htrack)
      obtain rfl := Option.some.inj (hprocess.symm.trans hother)
      exact hacts.grows.ended _ hended
    cases hloses with
    | expected => exact .inl ⟨hquiet hfollows, line, track, hat, htrack, hprocess, hclosing⟩
    | unheard hpipe hopen => exact .inr (hlost _ hpipe hopen)
    | stopping hpipe hopen => exact .inr (hlost _ hpipe hopen)
    | stops hpipe hopen => exact .inr (hlost _ hpipe hopen)
  | sends _ _ hnext => exact hsame (Layout.shape_ask ..) (.idle hnext)
  | connects hconnects =>
    cases hconnects with
    | keeps _ hnext => exact hsame rfl (.idle hnext)
    | begins hstopped =>
      cases h.lone.stages hstopped 0 _ hat
  | disconnects => exact absurd rfl (hnever _)
  | misses => cases (hclear rfl).2.1
  | launches => cases (hclear rfl).2.1
  | opens => exact hdelivery _ rfl (.inr rfl)
  | shuns => exact hdelivery _ rfl (.inr rfl)
  | complies => exact hdelivery _ rfl (.inl rfl)
  | kills => exact hdelivery _ rfl (.inl rfl)
  | buries => exact hdelivery _ rfl (.inl rfl)
  | rests => exact hdelivery _ rfl (.inl rfl)
  | comes hactivity hnext =>
    exact (hacts.not_comes hactivity).elim
  | vacates => exact absurd rfl (hkeeper _)
  | renews => exact absurd rfl (hkeeper _)
  | leaves => exact absurd rfl (hkeeper _)
  | _ => exact hhandling rfl rfl

/-- Where nobody stops the connection, it stays ready on a process that does not end. -/
theorem undergo_serving {process : Nat} (h : Orderly w) (hnever : w.neverStops incident = true)
    (hserving : w.handlers = [] ∧ w.layout.shape.Serves process ∨ w.facts.ended process) :
    (w.undergo .connections incident).handlers = [] ∧
      (w.undergo .connections incident).layout.shape.Serves process ∨
        (w.undergo .connections incident).facts.ended process := by
  obtain ⟨Γ, hordered⟩ := h.ordered
  rcases hserving with ⟨hnobody, hserves⟩ | hended
  · rcases hordered.shifts incident with heq | ⟨point, outcome, rest, aside, next, rfl, hacts⟩ | hdrifts
    · rw [heq]
      exact .inl ⟨hnobody, hserves⟩
    · refine h.acts_serving hacts hnobody ?_ hserves
      rintro number rfl
      exact begins?_ne_of_neverStops hnever number hacts.begins?
    · refine .inl ⟨?_, by rw [hdrifts.shape_eq]; exact hserves⟩
      have hperm := hdrifts.places.filter Point.isHandling
      rw [show w.places.filter Point.isHandling = [] from hnobody] at hperm
      exact hperm.eq_nil
  · obtain ⟨Γ', -, hgrows, -⟩ := hordered.undergo incident
    exact .inr (hgrows.ended _ hended)

theorem undergoAll_serving {process : Nat} {incidents : List Incident} (h : Orderly w)
    (halone : w.allowsAll .connections startsAlone incidents = true)
    (hnever : w.allowsAll .connections neverStops incidents = true)
    (hserving : w.handlers = [] ∧ w.layout.shape.Serves process ∨ w.facts.ended process) :
    (w.undergoAll .connections incidents).layout.shape.Serves process ∨
      (w.undergoAll .connections incidents).facts.ended process := by
  induction incidents generalizing w with
  | nil => exact hserving.imp_left (·.2)
  | cons incident rest ih =>
    obtain ⟨hfirst, hrest⟩ := allowsAll_cons.1 halone
    obtain ⟨hfirst', hrest'⟩ := allowsAll_cons.1 hnever
    refine ih (h.undergo hfirst fun number hbegins => ?_) hrest hrest'
      (h.undergo_serving hfirst' hserving)
    exact absurd hbegins (begins?_ne_of_neverStops hfirst' number)

/-- A process that greets back makes its connection ready on it. -/
theorem serving_of_greeted {channel process : Nat} (h : Orderly w)
    (hgreeted : w.greeted? = some (0, channel))
    (hprocess : w.channels[channel]?.bind (·.process) = some process) :
    (w.undergo .connections .step).handlers = [] ∧
      (w.undergo .connections .step).layout.shape.Serves process := by
  obtain ⟨Γ, hordered⟩ := h.ordered
  obtain ⟨answer, said, hacting⟩ : ∃ answer said,
      w.acting? = some (.connection (.greeted 0 channel answer), .ok said) := by
    unfold greeted? at hgreeted
    split at hgreeted <;> cases hgreeted
    exact ⟨_, _, ‹_›⟩
  obtain ⟨rest, aside, next, hacts⟩ := hordered.acts_of_acting hacting
  generalize w.undergo .connections .step = w' at hacts ⊢
  have hmem := hacts.handlers_before
  rw [show [Point.connection (.greeted 0 channel answer)].filter Point.isHandling =
    [.connection (.greeted 0 channel answer)] from rfl] at hmem
  have hserial := h.serial.perm hmem.symm
  generalize hothers : (rest ++ aside).filter Point.isHandling = others at hserial
  cases hserial with
  | handled hnumber hstands hsole =>
    have hafter : ∀ outcome, next = .go outcome [] → w'.handlers = [] := by
      rintro outcome rfl
      have hperm := hacts.handlers_after (.idle (rises_go _ _))
      rw [hothers] at hperm
      exact hperm.eq_nil
    -- the channel has its process
    have hkept : w.layout.shape.IsAt 0 .starting (some channel) ∧ w.layout.shape.IsOpen channel := by
      refine hstands.resolve_right ?_
      rintro ⟨-, track, htrack, -, hnone⟩
      rw [Layout.shape_tracks_getElem?, layout_pipes_getElem?] at htrack
      obtain ⟨pipe, hpipe, rfl⟩ := Option.map_eq_some_iff.1 htrack
      obtain ⟨ch, hch, rfl⟩ := Option.map_eq_some_iff.1 hpipe
      rw [hch, Option.bind_some, show ch.process = none from hnone] at hprocess
      cases hprocess
    obtain ⟨hat, track, htrack, hopen, -⟩ := hkept
    have hcarries : track.process = some process := by
      rw [Layout.shape_tracks_getElem?, layout_pipes_getElem?] at htrack
      obtain ⟨pipe, hpipe, rfl⟩ := Option.map_eq_some_iff.1 htrack
      obtain ⟨ch, hch, rfl⟩ := Option.map_eq_some_iff.1 hpipe
      rwa [hch] at hprocess
    have hcourse := hacts.course
    generalize hl' : w'.layout = l' at hcourse ⊢
    cases hcourse with
    | welcomes hbond hphase =>
      refine ⟨hafter _ rfl, channel, track, ?_, ?_, hcarries, hopen⟩
      · rw [Layout.shape_welcome]
        exact Shape.isAt_setStage hat _
      · rw [Layout.shape_welcome]
        exact htrack
    | ignores hnot => exact absurd (Layout.isIn_iff.2 ⟨_, hat⟩) hnot
    | hears hpoint => cases hpoint
    | sends hasks => cases hasks

end Orderly

/-- If only the last process can be alive, at most one is. -/
theorem aliveCount_le_one {pts : List Point} {hinge : Option (Point × Outcome)}
    (h : Single w.layout.shape w.done pts hinge) (hreachable : w.Reachable) : w.aliveCount ≤ 1 := by
  have halone : ∀ number (p : Process), w.processes[number]? = some p → p.code = none →
      number + 1 = w.processes.length := by
    intro number p hp hcode
    have hlength : w.layout.shape.scripts.length = w.processes.length := by simp [layout, Layout.shape]
    rw [← hlength]
    refine h.alone number ?_ fun hdone => ?_
    · rw [hlength]
      exact (List.getElem?_eq_some_iff.1 hp).1
    · have hended := hreachable.ended hdone
      simp [facts, exitCode?, hp, hcode] at hended
  unfold aliveCount
  -- Only the last process can be alive, so none of the earlier ones counts.
  rcases List.eq_nil_or_concat w.processes with hnil | ⟨earlier, last, hlast⟩
  · simp [hnil]
  · rw [hlast, List.concat_eq_append] at halone ⊢
    have hearlier : earlier.countP (·.code.isNone) = 0 := by
      refine List.countP_eq_zero.2 fun p hp hcode => ?_
      obtain ⟨number, hnumber⟩ := List.getElem?_of_mem hp
      have hlt := (List.getElem?_eq_some_iff.1 hnumber).1
      have heq := halone number p (by rw [List.getElem?_append_left hlt, hnumber])
        (Option.isNone_iff_eq_none.1 hcode)
      rw [List.length_append, List.length_singleton] at heq
      omega
    rw [List.countP_append, hearlier, List.countP_singleton]
    split <;> omega

/-! ## One connection, one process -/

/-- The task that is about to start the connection, which is stopped, greets its process with success
when this has happened. -/
structure Greets (w : World) (during : List Incident) (process : Nat) : Prop where
  /-- It is about to start the connection. -/
  begins : w.begins? .step = some (.connect 0)
  /-- The connection is stopped. -/
  stopped : w.phaseOf? 0 = some .stopped
  /-- The process has answered. -/
  greeted : (w.undergoAll .connections (.step :: during)).greeted? = some (0, w.channels.length)
  /-- It is the process of the channel that the task has opened. -/
  carries : (w.undergoAll .connections (.step :: during)).channels[w.channels.length]?.bind (·.process) =
    some process

/-- **One connection, one process.** A connection that is started only while nobody starts or stops it
has at most one process alive, and a start that greets its process with success leaves the connection
ready on that process, unless somebody stops it or the process ends. -/
theorem lone_process (host : Files.Host) {companions : List CompanionScript} (config : Companion.Config)
    (capabilities : Value) (greetingLimit partingLimit room : Option Nat) (incidents : List Incident)
    (hreachable : ∀ script ∈ companions, script.isUnreachable = false)
    (halone : (World.ofConnection host companions config capabilities greetingLimit partingLimit
      room).allowsAll .connections startsAlone incidents = true) :
    let fresh := World.ofConnection host companions config capabilities greetingLimit partingLimit room
    (fresh.undergoAll .connections incidents).aliveCount ≤ 1 ∧
      ∀ earlier during later process, incidents = earlier ++ .step :: (during ++ .step :: later) →
        (fresh.undergoAll .connections earlier).Greets during process →
        (fresh.undergoAll .connections earlier).allowsAll .connections neverStops
          (.step :: (during ++ .step :: later)) = true →
        exitCode? (fresh.undergoAll .connections incidents) process = none →
        (fresh.undergoAll .connections incidents).IsReadyOn process := by
  intro fresh
  have hsolitary : Solitary fresh :=
    .ofConnection host companions config capabilities greetingLimit partingLimit room
  obtain ⟨Γ, hordered⟩ := hsolitary.ordered
  have hfresh : Reachable fresh :=
    ⟨hreachable, fun _ _ hmem => absurd hmem List.not_mem_nil⟩
  refine ⟨aliveCount_le_one (hsolitary.undergoAll halone).single
    (hfresh.undergoAll hordered incidents), ?_⟩
  rintro earlier during later process rfl hgreets hnever halive
  obtain ⟨hearlier, hlater⟩ := allowsAll_append.1 halone
  rw [undergoAll_append] at halive ⊢
  generalize hw : fresh.undergoAll .connections earlier = w at hgreets hnever hlater halive ⊢
  have hstart : Solitary w := hw ▸ hsolitary.undergoAll hearlier
  -- nobody starts or stops the connection when the task begins
  have hnobody : w.handlers = [] := handlers_eq_nil_of_startsAlone (allowsAll_cons.1 hlater).1
    hgreets.begins hgreets.stopped
  have horderly : Orderly w := hstart.orderly hgreets.stopped hnobody
  have hsplit : Incident.step :: (during ++ .step :: later) = (.step :: during) ++ .step :: later := rfl
  rw [hsplit] at hnever hlater halive ⊢
  rw [undergoAll_append, undergoAll_cons] at halive ⊢
  obtain ⟨hnever, hnever'⟩ := allowsAll_append.1 hnever
  obtain ⟨hduring, hlater⟩ := allowsAll_append.1 hlater
  have hstarting := horderly.undergoAll_of_neverStops hduring hnever
  obtain ⟨hfirst, hrest⟩ := allowsAll_cons.1 hlater
  obtain ⟨hfirst', hrest'⟩ := allowsAll_cons.1 hnever'
  have hserving := hstarting.serving_of_greeted hgreets.greeted hgreets.carries
  have hready : Orderly _ := hstarting.undergo hfirst fun number hbegins =>
    absurd hbegins (begins?_ne_of_neverStops hfirst' number)
  rcases hready.undergoAll_serving hrest hrest' (.inl hserving) with hserves | hended
  · exact isReadyOn_of_serves hserves
  · exact absurd hended (by simp [facts, halive])

/-- A process that starts after some time and does not read. -/
def lateScript (startDelay : Nat) : CompanionScript :=
  { startDelay, refusesInput := true }

/-- A connection whose processes start after some time and do not read. -/
def connectionWith (delays : List Nat) : World :=
  ofConnection {} (delays.map lateScript) { path := "clangd" } .null (some 10000) (some 2000) none

/-- Somebody is about to start the connection. -/
def startCalled : List Incident :=
  [.call (.connect 0), .step]

/-- The process is started and asked to introduce itself, and it does. -/
def introduction : List Incident :=
  List.replicate 10 .step ++
    .output 0 (Rpc.frame (Rpc.resultMessage (.int 1) (.object []))) :: List.replicate 7 .step

/-- The connection is started. -/
def startedOnce : List Incident :=
  startCalled ++ .step :: (introduction ++ .step :: [])

theorem lone_process_startedOnce :
    (connectionWith [0]).allowsAll .connections startsAlone startedOnce = true ∧
      ((connectionWith [0]).undergoAll .connections startedOnce).aliveCount ≤ 1 ∧
      ((connectionWith [0]).undergoAll .connections startCalled).Greets introduction 0 ∧
      ((connectionWith [0]).undergoAll .connections startedOnce).IsReadyOn 0 := by
  have halone : (connectionWith [0]).allowsAll .connections startsAlone startedOnce = true := by
    decide +kernel
  have hgreets : ((connectionWith [0]).undergoAll .connections startCalled).Greets introduction 0 :=
    ⟨by rfl, by decide +kernel, by decide +kernel, by decide +kernel⟩
  have hreachable : ∀ script ∈ [0].map lateScript, script.isUnreachable = false := by decide
  obtain ⟨hcount, hready⟩ := lone_process {} { path := "clangd" } .null (some 10000) (some 2000) none
    startedOnce hreachable halone
  exact ⟨halone, hcount, hgreets,
    hready startCalled introduction [] 0 rfl hgreets (by decide +kernel) (by decide +kernel)⟩

/-- Something happens, and the world comes to rest. -/
def Incident.andRest (incident : Incident) : List Incident :=
  incident :: List.replicate 12 .step

/-- The connection is started, and stopped before there is a process. -/
def hastyStop : List Incident :=
  [.call (.connect 0), .call (.disconnect 0)].flatMap Incident.andRest

/-- The connection is started again, and then both processes start. -/
def hastyRestart : List Incident :=
  [.call (.connect 0), .time 100, .time 200].flatMap Incident.andRest

/-- A start that still waits for its process when the connection is stopped and started again goes on
in the new life of the connection: two processes are alive. -/
theorem overtaken_start :
    let stopped := (connectionWith [100, 200]).undergoAll .connections hastyStop
    let restarted := stopped.undergoAll .connections hastyRestart
    (stopped.tasks.outcome? 3).isSome ∧ stopped.phaseOf? 0 = some .stopped ∧
      restarted.aliveCount = 2 ∧ ¬ restarted.aliveCount ≤ 1 := by
  have htwo : (((connectionWith [100, 200]).undergoAll .connections hastyStop).undergoAll
      .connections hastyRestart).aliveCount = 2 := by decide +kernel
  exact ⟨by decide +kernel, by decide +kernel, htwo, by rw [htwo]; decide⟩

end BasiliskServer.World
