import BasiliskServer.Proofs.World.Answers

/-!
# Ends of processes that are reported

A layout lists the ends of processes that were reported. One is added only when the process of a channel
is lost (`Course.losses_eq`), and never for a process that is doomed: one whose channel is being closed,
or whose connection is being stopped (`Doomed`). Every course keeps it so (`Doomed.acts`).
-/

namespace BasiliskServer.World

open Json (Value)

variable {Γ Γ' : Ledger} {counter : Counter} {w w' : World} {point : Point} {outcome : Outcome}
  {rest aside : List Point} {next : Next} {s s' : Shape} {number channel process : Nat}

/-! ## Ends that are reported -/

namespace Layout

variable (l : Layout)

@[simp]
theorem losses_say (channel : Nat) (said : Option Json.Fields) : (l.say channel said).losses = l.losses :=
  view_say (fun _ _ => rfl) _ _ _

@[simp]
theorem losses_tellOf (channel : Nat) (method : String) (params : Value) :
    (l.tellOf channel method params).losses = l.losses :=
  losses_say _ _ _

@[simp]
theorem losses_sayAll (channel : Nat) (queue : List (String × Value)) :
    (l.sayAll channel queue).losses = l.losses :=
  view_sayAll (fun _ _ => rfl) _ _ _

@[simp]
theorem losses_ask (room : Option Nat) (channel : Nat) (method : String) (params : Value)
    (answer : Nat) : (l.ask room channel method params answer).losses = l.losses := by
  unfold ask
  split
  · rfl
  · exact losses_say _ _ _

@[simp]
theorem losses_rejectOn (channel : Option Nat) (failure : Failure) :
    (l.rejectOn channel failure).losses = l.losses := by
  cases channel <;> rfl

variable {l} {l' : Layout} {f : Facts}

theorem Subsides.losses_eq (h : l.Subsides channel l' next) : l'.losses = l.losses := by
  cases h <;> rfl

theorem Closes.losses_eq (h : l.Closes f channel l' next) : l'.losses = l.losses := by
  cases h with
  | bare => rfl
  | subsides _ _ h => exact h.losses_eq
  | asks => rfl

theorem Disconnects.losses_eq (h : l.Disconnects f number l' next) : l'.losses = l.losses := by
  cases h with
  | keeps => rfl
  | clears => rfl
  | parts => exact losses_ask ..
  | closes _ _ _ hcloses =>
    cases hcloses with
    | nothing => rfl
    | closes hcloses => exact hcloses.losses_eq

theorem Connects.losses_eq (h : l.Connects number l' next) : l'.losses = l.losses := by
  cases h <;> rfl

end Layout

/-- Nothing is reported but the end of a process that is lost. -/
theorem Course.losses_eq {f f' : Facts} {l l' : Layout} (h : Course f f' l point outcome l' next)
    (hpoint : ∀ channel process code, point = .channel (.gone channel process) →
      outcome ≠ .ok (.code code)) : l'.losses = l.losses := by
  cases h with
  | hears _ _ hhears => rw [hhears.rest]
  | loses => exact absurd rfl (hpoint _ _ _ rfl)
  | sends => exact Layout.losses_ask ..
  | connects hconnects => exact hconnects.losses_eq
  | disconnects hdisconnects => exact hdisconnects.losses_eq
  | complies _ hsubsides => exact hsubsides.losses_eq
  | buries hsubsides => exact hsubsides.losses_eq
  | greets => exact Layout.losses_ask ..
  | abandons _ hcloses => exact hcloses.losses_eq
  | welcomes =>
    rw [Layout.welcome, Layout.losses_sayAll]
    exact Layout.losses_tellOf _ _ _ _
  | refuses _ hcloses => exact hcloses.losses_eq
  | parts _ hcloses => exact hcloses.losses_eq.trans (Layout.losses_tellOf _ _ _ _)
  | closed => exact Layout.losses_rejectOn _ _ _
  | vacates _ hvacates =>
    cases hvacates with
    | vacant => rfl
    | leaves _ hleaves => exact hleaves.losses_eq
  | renews hrenews => exact hrenews.losses_eq
  | _ => rfl

theorem Drifts.losses_eq {notice : Option (Nat × String × Value)} (h : Drifts w w' notice) :
    w'.layout.losses = w.layout.losses := by
  rcases h.layout with hhears | ⟨_, _, _, -, hnotifies⟩
  · rw [hhears.rest]
  · generalize w'.layout = l' at hnotifies ⊢
    cases hnotifies with
    | tells => exact Layout.losses_tellOf _ _ _ _
    | refuses => rfl
    | drops => rfl
    | queues => rfl

/-! ## Processes that are given to channels -/

/-- What tells that a process has started is a program that has. -/
theorem Point.eq_of_delivers_process (h : point.delivery? = some .process) :
    ∃ script program, point = .program (.starting script program) := by
  cases point with
  | program point => cases point <;> first | exact ⟨_, _, rfl⟩ | cases h
  | channel point => cases point <;> cases h
  | connection point => cases point <;> cases h
  | keeper point => cases point <;> cases h
  | _ => cases h

/-- A process that is about to be given to a channel has just been started. -/
theorem Acts.eq_of_given (hacts : Acts counter w w' point outcome rest aside next) {line : Nat}
    (hhinge : w'.hinge? = some (.channel (.opened line), .ok (.process process))) :
    process = w.layout.shape.scripts.length ∧ process < w'.layout.shape.scripts.length ∧
      w'.layout.shape.tracks = w.layout.shape.tracks := by
  obtain ⟨hacting, -⟩ := Option.filter_eq_some_iff.1 hhinge
  have hpresents := hacts.presents
  cases next with
  | wait promise front => cases hpresents _ _ hacting
  | go given front =>
    rw [show w'.acting? = (front ++ rest).head?.map (·, given) from hpresents] at hacting
    obtain ⟨first, hfirst, heq⟩ := Option.map_eq_some_iff.1 hacting
    obtain ⟨rfl, rfl⟩ := Prod.mk.inj heq
    cases front with
    | cons other others => exact absurd hfirst (hacts.course.supplies.head line)
    | nil =>
      have hfirst : rest.head? = some (.channel (.opened line)) := hfirst
      -- only a program that has started tells a channel of its process
      obtain ⟨e, hdelivery, he⟩ : ∃ e, point.delivery? = some e ∧
          (e = .process ∨ e = .opening ∨ e = .closing) := by
        have hfeeder : point.isFeeder ≠ false := fun hnot => by
          cases hacts.not_hinge hnot _ hfirst
        unfold Point.isFeeder at hfeeder
        split at hfeeder
        · exact ⟨_, ‹_›, .inl rfl⟩
        · exact ⟨_, ‹_›, .inr (.inl rfl)⟩
        · exact ⟨_, ‹_›, .inr (.inr rfl)⟩
        · exact absurd rfl hfeeder
      obtain ⟨hinge, others, hrest, hhinge⟩ := hacts.exists_hinge hdelivery he
      rw [hrest] at hfirst
      obtain rfl := Option.some.inj hfirst
      obtain rfl : Expectation.process = e := hhinge
      obtain ⟨script, program, rfl⟩ := Point.eq_of_delivers_process hdelivery
      have hcourse := hacts.course
      generalize w'.layout = l' at hcourse ⊢
      cases hcourse with
      | launches => exact ⟨rfl, by simp [Layout.shape, Layout.addScript], rfl⟩
      | hears hpivotal => cases hpivotal
      | sends hasks => cases hasks

/-! ## Processes whose end is not reported -/

/-- A process was given to a channel, if it ever is. -/
structure Shape.Given (s : Shape) (hinge : Option (Point × Outcome)) (process : Nat) : Prop where
  /-- There is the process. -/
  known : process < s.scripts.length
  /-- It is not about to be given to a channel. -/
  given : ∀ line, hinge ≠ some (.channel (.opened line), .ok (.process process))

/-- Every process belongs to one channel, and one that is about to be given to a channel to none. -/
structure Shape.IsHeld (s : Shape) (hinge : Option (Point × Outcome)) : Prop where
  /-- A process that a channel has was given to it only. -/
  held : ∀ (channel process : Nat) (track : Track), s.tracks[channel]? = some track →
    track.process = some process → s.Given hinge process ∧
      ∀ (line : Nat) (other : Track), s.tracks[line]? = some other → other.process = some process →
        line = channel
  /-- A process that is about to be given to a channel is not that of one. -/
  free : ∀ line process : Nat, hinge = some (.channel (.opened line), .ok (.process process)) →
    process < s.scripts.length ∧ ∀ (other : Nat) (track : Track), s.tracks[other]? = some track →
      track.process ≠ some process

/-- The connection of whatever channel still takes messages to a process is being stopped. -/
structure Doomed (s : Shape) (hinge : Option (Point × Outcome)) (process : Nat) : Prop
    extends s.Given hinge process where
  /-- Its connection is being stopped, if its channel is open. -/
  stopping : ∀ (channel : Nat) (track : Track), s.tracks[channel]? = some track →
    track.process = some process → track.closing = false →
    ∃ number line, track.owner = .connection number ∧ s.IsAt number .stopping line

/-- Channels with the process had it before, and connections go on being stopped. -/
structure Shape.Spares (s s' : Shape) (process : Nat) : Prop where
  /-- Channels with the process had it before, and those that are open were so. -/
  tracks : ∀ (channel : Nat) (track' : Track), s'.tracks[channel]? = some track' →
    track'.process = some process →
    ∃ track : Track, s.tracks[channel]? = some track ∧ track.process = some process ∧
      (track'.closing = false → track.closing = false) ∧ track'.owner = track.owner
  /-- Connections go on being stopped. -/
  stages : ∀ number line, s.IsAt number .stopping line → ∃ line', s'.IsAt number .stopping line'

namespace Shape.Spares

protected theorem refl (s : Shape) (process : Nat) : s.Spares s process :=
  ⟨fun _ track htrack hprocess => ⟨track, htrack, hprocess, id, rfl⟩, fun _ line hat => ⟨line, hat⟩⟩

protected theorem trans {s'' : Shape} (h : s.Spares s' process) (h' : s'.Spares s'' process) :
    s.Spares s'' process where
  tracks := fun channel track'' htrack'' hprocess'' => by
    obtain ⟨track', htrack', hprocess', hopen', howner'⟩ := h'.tracks channel track'' htrack'' hprocess''
    obtain ⟨track, htrack, hprocess, hopen, howner⟩ := h.tracks channel track' htrack' hprocess'
    exact ⟨track, htrack, hprocess, hopen ∘ hopen', howner'.trans howner⟩
  stages := fun _ line hat => by
    obtain ⟨line', hat'⟩ := h.stages _ line hat
    exact h'.stages _ line' hat'

theorem of_wanes (h : s.Wanes s') : s.Spares s' process where
  tracks := fun channel track' htrack' hprocess' => by
    obtain ⟨track, htrack, howner, hclosing, hsame⟩ := h.back htrack'
    rcases hsame with heq | ⟨hnone, -⟩
    · refine ⟨track, htrack, heq ▸ hprocess', fun hopen' => ?_, howner⟩
      cases hopen : track.closing with
      | false => rfl
      | true => rw [hclosing hopen] at hopen'; cases hopen'
    · rw [hnone] at hprocess'
      cases hprocess'
  stages := fun _ line hat => ⟨line, hat.of_stages h.stages⟩

theorem of_same (htracks : s'.tracks = s.tracks) (hstages : s'.stages = s.stages) :
    s.Spares s' process where
  tracks := fun _ track htrack hprocess => ⟨track, htracks ▸ htrack, hprocess, id, rfl⟩
  stages := fun _ line hat => ⟨line, hat.of_stages hstages⟩

/-- A connection changes that is not being stopped, or goes on being stopped. -/
theorem setStage (s : Shape) (number : Nat) {change : Stage → Stage}
    (h : ∀ line, s.IsAt number .stopping line → (change ⟨.stopping, line⟩).phase = .stopping) :
    s.Spares (s.setStage number change) process where
  tracks := fun _ track htrack hprocess => ⟨track, htrack, hprocess, id, rfl⟩
  stages := fun other line hat => by
    by_cases heq : number = other
    · subst heq
      have hchanged := Shape.isAt_setStage hat change
      rw [h line hat] at hchanged
      exact ⟨_, hchanged⟩
    · exact ⟨line, by simpa [Shape.IsAt, Shape.setStage, List.getElem?_modify, heq] using hat⟩

/-- A connection changes that is in another phase. -/
theorem setStage_of_isAt {phase : Phase} {line : Option Nat} (hat : s.IsAt number phase line)
    (hphase : phase ≠ .stopping) (change : Stage → Stage) :
    s.Spares (s.setStage number change) process :=
  setStage s number fun _ hstopping => absurd (hat.unique hstopping).1.symm hphase

/-- A channel loses its process, or is given another one. -/
theorem carry (s : Shape) (channel : Nat) {given : Option Nat} (h : given ≠ some process) :
    s.Spares (s.carry channel given) process where
  tracks := fun line track' htrack' hprocess' => by
    obtain ⟨track, htrack, ⟨rfl, rfl⟩ | ⟨-, rfl⟩⟩ := Tasks.getElem?_modify_cases htrack'
    · exact absurd hprocess' h
    · exact ⟨track', htrack, hprocess', id, rfl⟩
  stages := fun _ line hat => ⟨line, hat⟩

/-- A connection that was stopped begins to start. -/
theorem beginStart {line : Option Nat} (hat : s.IsAt number .stopped line) :
    s.Spares (s.beginStart number) process where
  tracks := fun channel track' htrack' hprocess' => by
    rcases Shape.tracks_beginStart_cases htrack' with hold | ⟨-, rfl⟩
    · exact ⟨track', hold, hprocess', id, rfl⟩
    · cases hprocess'
  stages := fun other line' hat' => by
    have hne : number ≠ other := by
      rintro rfl
      cases (hat.unique hat').1
    exact ⟨line', by simpa [Shape.IsAt, Shape.beginStart, List.getElem?_modify, hne] using hat'⟩

theorem addStage (s : Shape) : s.Spares s.addStage process where
  tracks := fun _ track htrack hprocess => ⟨track, htrack, hprocess, id, rfl⟩
  stages := fun _ line hat =>
    ⟨line, Tasks.getElem?_append_of_some hat _⟩

end Shape.Spares

namespace Layout

variable {l l' : Layout} {f : Facts}

theorem Subsides.spares (h : l.Subsides channel l' next) : l.shape.Spares l'.shape process := by
  cases h with
  | now =>
    rw [shape_carry]
    exact .carry _ _ nofun
  | waits => exact .refl _ _

theorem Closes.spares (h : l.Closes f channel l' next) : l.shape.Spares l'.shape process := by
  have hshut : l.shape.Spares (l.shut channel).shape process := by
    rw [shape_shut]
    exact .of_wanes (.shut _ _)
  cases h with
  | bare => exact .refl _ _
  | subsides _ _ h => exact hshut.trans h.spares
  | asks => exact hshut

theorem Disconnects.spares (h : l.Disconnects f number l' next) : l.shape.Spares l'.shape process := by
  have hstopping : l.shape.Spares (l.setPhase number .stopping).shape process := by
    rw [shape_setPhase]
    exact .setStage _ _ fun _ _ => rfl
  cases h with
  | keeps => exact .refl _ _
  | clears =>
    rw [shape_clear]
    exact .refl _ _
  | parts =>
    rw [shape_ask]
    exact hstopping
  | closes _ _ _ hcloses =>
    cases hcloses with
    | nothing => exact hstopping
    | closes hcloses => exact hstopping.trans hcloses.spares

theorem Connects.spares (h : l.Connects number l' next) : l.shape.Spares l'.shape process := by
  cases h with
  | keeps => exact .refl _ _
  | begins hstopped =>
    obtain ⟨line, hat⟩ := isIn_iff.1 hstopped
    rw [shape_beginStart]
    exact .beginStart hat

theorem Loses.spares {code : Option Int} (h : l.Loses channel code l') :
    l.shape.Spares l'.shape process := by
  have hlost : l.shape.Spares ((l.shape.shut channel).carry channel none) process :=
    .of_wanes (.shut_carry _ _)
  cases h with
  | expected => exact .refl _ _
  | unheard => simpa using hlost
  | stopping => simpa using hlost
  | stops _ _ _ hbond hphase =>
    rw [shape_report, shape_reset, shape_clear, shape_rejectOn, shape_carry, shape_shut]
    refine hlost.trans (.setStage _ _ fun line hat => ?_)
    rw [Shape.IsAt, show ((l.shape.shut channel).carry channel none).stages = l.shape.stages from rfl,
      shape_stages_getElem?, hbond] at hat
    exact absurd (congrArg Stage.phase (Option.some.inj hat)) hphase

end Layout

namespace Acts

/-- Unless a connection has been stopped, channels with a process that is not being given to one had it
before, and connections go on being stopped. -/
theorem spares (hacts : Acts counter w w' point outcome rest aside next)
    (hpoint : ∀ number channel, point ≠ .connection (.closed number channel))
    (hserial : Serial sticks w.layout.shape w.hinge? w.handlers)
    (hgiven : ∀ line, w.hinge? ≠ some (.channel (.opened line), .ok (.process process))) :
    w.layout.shape.Spares w'.layout.shape process := by
  have hsame : ∀ {s' : Shape}, s' = w.layout.shape → w.layout.shape.Spares s' process := by
    rintro s' rfl
    exact .refl _ _
  have hcourse := hacts.course
  generalize w'.layout = l' at hcourse ⊢
  -- A channel gets a process in `opens` only, and a stage rises only if it was not stopped.
  cases hcourse with
  | hears _ _ hhears => exact hsame hhears.shape_eq
  | loses _ hloses => exact hloses.spares
  | sends => exact hsame (Layout.shape_ask ..)
  | connects hconnects => exact hconnects.spares
  | disconnects hdisconnects => exact hdisconnects.spares
  | launches => exact .of_same rfl rfl
  | opens =>
    rename_i channel given
    rw [Layout.shape_carry]
    refine .carry _ _ fun heq => hgiven channel ?_
    rw [hacts.hinge?_eq, Option.some.inj heq]
    rfl
  | complies _ hsubsides => exact hsubsides.spares
  | buries hsubsides => exact hsubsides.spares
  | rests => exact Layout.Subsides.now.spares
  | greets => exact hsame (Layout.shape_ask ..)
  | falters => exact hsame (Layout.shape_list ..)
  | abandons _ hcloses => exact hcloses.spares
  | fails =>
    rw [Layout.shape_reset]
    exact .setStage_of_isAt (hacts.stands hserial rfl).1 nofun _
  | welcomes hbond hphase =>
    rw [Layout.shape_welcome]
    exact .setStage_of_isAt ((hacts.stands hserial rfl).of_starting ⟨_, hbond, hphase⟩).1 nofun _
  | refuses _ hcloses => exact hcloses.spares
  | dismisses =>
    obtain ⟨line, hat, -⟩ := hacts.stands hserial rfl
    rw [Layout.shape_reset]
    exact .setStage_of_isAt hat nofun _
  | parts _ hcloses =>
    have hspares : Shape.Spares _ _ process := hcloses.spares
    rwa [Layout.shape_tellOf] at hspares
  | closed => exact absurd rfl (hpoint _ _)
  | vacates _ hvacates =>
    cases hvacates with
    | vacant => exact .refl _ _
    | leaves _ hleaves => exact hleaves.spares
  | renews hrenews =>
    have hspares : Shape.Spares _ _ process := hrenews.spares
    rw [Layout.shape_addBond] at hspares
    exact (Shape.Spares.addStage _).trans hspares
  | _ => exact .refl _ _

/-- A process that was given to a channel is not given to one again. -/
theorem given (hacts : Acts counter w w' point outcome rest aside next)
    (h : w.layout.shape.Given w.hinge? process) : w'.layout.shape.Given w'.hinge? process where
  known := by
    obtain ⟨launched, hscripts, -⟩ := hacts.course.supplies.scripts
    rw [hscripts, List.length_append]
    exact Nat.lt_add_right _ h.known
  given := fun line hhinge => by
    have hknown := h.known
    rw [← (hacts.eq_of_given hhinge).1] at hknown
    exact Nat.lt_irrefl _ hknown

/-- A connection that has been stopped leaves channels as they are. -/
theorem tracks_of_closed {channel : Option Nat}
    (hacts : Acts counter w w' (.connection (.closed number channel)) outcome rest aside next) :
    w'.layout.shape.tracks = w.layout.shape.tracks ∧ ∃ answer, outcome = .ok answer := by
  have hcourse := hacts.course
  generalize w'.layout = l' at hcourse ⊢
  cases hcourse with
  | hears hpivotal => cases hpivotal
  | sends hasks => cases hasks
  | closed =>
    rw [Layout.shape_reset, Layout.shape_rejectOn]
    exact ⟨rfl, _, rfl⟩

end Acts

/-- A channel with a process had it before, or is given it. -/
theorem Acts.had (hacts : Acts counter w w' point outcome rest aside next)
    (hserial : Serial sticks w.layout.shape w.hinge? w.handlers)
    (hgiven : ∀ line, w.hinge? ≠ some (.channel (.opened line), .ok (.process process)))
    {track' : Track} (htrack' : w'.layout.shape.tracks[channel]? = some track')
    (hprocess' : track'.process = some process) :
    ∃ track : Track, w.layout.shape.tracks[channel]? = some track ∧ track.process = some process := by
  by_cases hpoint : ∃ number line, point = .connection (.closed number line)
  · obtain ⟨number, line, rfl⟩ := hpoint
    rw [hacts.tracks_of_closed.1] at htrack'
    exact ⟨track', htrack', hprocess'⟩
  · have hspares := hacts.spares (fun number line heq => hpoint ⟨number, line, heq⟩) hserial hgiven
    obtain ⟨track, htrack, hprocess, -⟩ := hspares.tracks channel track' htrack' hprocess'
    exact ⟨track, htrack, hprocess⟩

/-- A channel whose process has started is given it. -/
theorem Acts.shape_of_opened {line : Nat} (hacts : Acts counter w w' (.channel (.opened line))
    (.ok (.process process)) rest aside next) :
    w'.layout.shape = w.layout.shape.carry line (some process) := by
  have hcourse := hacts.course
  generalize w'.layout = l' at hcourse ⊢
  cases hcourse with
  | hears hpivotal => cases hpivotal
  | sends hasks => cases hasks
  | opens => exact Layout.shape_carry _ _ _

/-- Every process belongs to one channel after a task has acted, if it did before. -/
theorem Shape.IsHeld.acts (hacts : Acts counter w w' point outcome rest aside next)
    (hserial : Serial sticks w.layout.shape w.hinge? w.handlers) (h : w.layout.shape.IsHeld w.hinge?) :
    w'.layout.shape.IsHeld w'.hinge? where
  held := fun channel process track' htrack' hprocess' => by
    by_cases hgiven : ∃ line, w.hinge? = some (.channel (.opened line), .ok (.process process))
    · -- the process is given to a channel now, and no other had it
      obtain ⟨line, hhinge⟩ := hgiven
      obtain ⟨hknown, hfree⟩ := h.free line process hhinge
      have hsame := hacts.acting.symm.trans (Option.filter_eq_some_iff.1 hhinge).1
      obtain ⟨rfl, rfl⟩ := Prod.mk.inj (Option.some.inj hsame)
      have hline : ∀ {other : Nat} {track : Track}, w'.layout.shape.tracks[other]? = some track →
          track.process = some process → other = line := by
        intro other track htrack hprocess
        rw [hacts.shape_of_opened] at htrack
        obtain ⟨old, hold, ⟨heq, -⟩ | ⟨-, rfl⟩⟩ := Tasks.getElem?_modify_cases htrack
        · exact heq.symm
        · exact absurd hprocess (hfree other track hold)
      refine ⟨⟨?_, fun other hhinge' => ?_⟩, fun other track htrack hprocess =>
        (hline htrack hprocess).trans (hline htrack' hprocess').symm⟩
      · rw [hacts.shape_of_opened]
        exact hknown
      · exact Nat.ne_of_lt hknown (hacts.eq_of_given hhinge').1
    · have hgiven : ∀ line, w.hinge? ≠ some (.channel (.opened line), .ok (.process process)) :=
        fun line hhinge => hgiven ⟨line, hhinge⟩
      obtain ⟨track, htrack, hprocess⟩ := hacts.had hserial hgiven htrack' hprocess'
      obtain ⟨hgiven', honly⟩ := h.held channel process track htrack hprocess
      refine ⟨hacts.given hgiven', fun line other' hother' hsame' => ?_⟩
      obtain ⟨other, hother, hsame⟩ := hacts.had hserial hgiven hother' hsame'
      exact honly line other hother hsame
  free := fun line process hhinge => by
    obtain ⟨heq, hknown, htracks⟩ := hacts.eq_of_given hhinge
    refine ⟨hknown, fun other track htrack hprocess => ?_⟩
    rw [htracks] at htrack
    exact Nat.ne_of_lt (h.held other process track htrack hprocess).1.known heq

/-- A process whose end is not reported goes on so when a task acts. -/
theorem Doomed.acts (hacts : Acts counter w w' point outcome rest aside next)
    (hserial : Serial sticks w.layout.shape w.hinge? w.handlers)
    (hsingle : Single w.layout.shape w.done w.places w.hinge?)
    (h : Doomed w.layout.shape w.hinge? process) : Doomed w'.layout.shape w'.hinge? process := by
  refine ⟨hacts.given h.toGiven, fun channel track' htrack' hprocess' hopen' => ?_⟩
  by_cases hpoint : ∃ number channel, point = .connection (.closed number channel)
  · -- the channel of a connection that has been stopped is closed
    obtain ⟨number, line, rfl⟩ := hpoint
    obtain ⟨htracks, answer, rfl⟩ := hacts.tracks_of_closed
    rw [htracks] at htrack'
    rw [hacts.hinge?_eq] at hsingle
    obtain ⟨hlast, -⟩ := hsingle.line channel track' process htrack' hprocess' hopen'
    obtain ⟨-, hshut⟩ := hsingle.hinges _ _ rfl
    rw [hshut channel track' hlast htrack' (by rw [hprocess']; rfl)] at hopen'
    cases hopen'
  · have hspares := hacts.spares (fun number line heq => hpoint ⟨number, line, heq⟩) hserial h.given
    obtain ⟨track, htrack, hprocess, hopen, howner⟩ := hspares.tracks channel track' htrack' hprocess'
    obtain ⟨number, line, hnumber, hat⟩ := h.stopping channel track htrack hprocess (hopen hopen')
    obtain ⟨line', hat'⟩ := hspares.stages number line hat
    exact ⟨number, line', howner.trans hnumber, hat'⟩

/-- Where nobody acts, no process is given to a channel. -/
theorem Drifts.given {notice : Option (Nat × String × Value)} (hdrifts : Drifts w w' notice)
    (h : w.layout.shape.Given w.hinge? process) : w'.layout.shape.Given w'.hinge? process where
  known := by
    rw [hdrifts.shape_eq]
    exact h.known
  given := fun line hhinge => by
    cases hdrifts.presents _ _ (Option.filter_eq_some_iff.1 hhinge).1

end BasiliskServer.World
