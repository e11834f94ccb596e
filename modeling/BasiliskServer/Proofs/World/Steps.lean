import BasiliskServer.Proofs.World.Service

/-!
# What a task does at a point

One theorem says what every task does at every point that a session can reach, whatever it is told
there as long as the point can rely on it (`Point.resume_handles`): connections, channels and
processes still belong together, the keeper still serves one at a time, the points at which the task
goes on fit the point below, and what has happened is a deed as the documents see it.
-/

namespace BasiliskServer.World

open Json (Value Fields)

/-! ## What is passed from point to point -/

/-- An outcome is one on which a point can rely. -/
def Delivers (w : World) (outcome : Outcome) : Option Role → Prop
  | some .process =>
    (∃ failure, outcome = .error failure) ∨
      ∃ process, outcome = .ok (.process process) ∧ w.view.IsNew process
  | some (.opening channel) => ∀ answer, outcome = .ok answer → w.view.HasProcess channel
  | some .turn => ∃ answer, outcome = .ok answer
  | some (.ticket number) =>
    ∀ answer, outcome = .ok answer → ∃ answer', w.tasks.outcome? number = some (.ok answer')
  | _ => True

/-- Whether an outcome says that a process was started, so that the open documents are about to be
announced. -/
def announces : Option Role → Outcome → Bool
  | some .readiness, .ok (.bool true) => true
  | some .service, .ok (.bool true) => true
  | _, _ => false

/-- Waiting for a promise is as a point expects: it takes whatever comes, or waits for its ticket. -/
def Waits (promise : Nat) : Option Role → Prop
  | none => True
  | some (.ticket number) => promise = number
  | _ => False

theorem Waits.eq {promise : Nat} {role : Option Role}
    (h : Waits promise role) : role = none ∨ role = some (.ticket promise) := by
  unfold Waits at h
  split at h
  · exact .inl rfl
  · rw [h]
    exact .inr rfl
  · cases h

/-- An activity goes on as the point below it expects. -/
def Reaches (w : World) (below : Option Role) : Next → Prop
  | .wait promise front => Fits below front ∧ Waits promise (lead below front)
  | .go outcome front => Fits below front ∧ Delivers w outcome (lead below front)

/-- Whether the open documents are about to be announced. -/
def isAnnouncing (below : Option Role) : Next → Bool
  | .wait _ _ => false
  | .go outcome front => announces (lead below front) outcome

/-! ## What an action has to do -/

/-- A task stands at a point, and other points are those below it and those of the other tasks. -/
structure Stands (w : World) (point : Point) (pts : List Point) : Prop where
  /-- Connections, channels and processes belong together. -/
  coherent : Coherent w.view (point :: pts)
  /-- The keeper serves one at a time. -/
  exclusive : Exclusive w false (point :: pts)
  /-- Below the point there is one that expects what it reports. -/
  reported : ∀ role, point.reports = some role → ∃ other ∈ pts, other.expects = some role
  /-- Every start of a connection is waited for. -/
  starts : pts.countP Point.isStart + point.isStart.toNat ≤ pts.countP Point.isConnected

/-- The action does what it should in the world, with other tasks at the given points, if it is about
to announce the open documents or not, and edits a document or not. -/
structure Handles (w : World) (pts : List Point) (below : Option Role) (announcing : Bool)
    (edit : Option (String × Sync)) (act : Act Next) : Prop where
  /-- No task is moved. -/
  drift : ∃ called, Drift called w (act.run w).2
  /-- Connections, channels and processes belong together. -/
  coherent : Coherent (act.run w).2.view (points (act.run w).1 ++ pts)
  /-- The keeper serves one at a time. -/
  exclusive : Exclusive (act.run w).2 false (points (act.run w).1 ++ pts)
  /-- The task goes on as the point below expects. -/
  reaches : Reaches (act.run w).2 below (act.run w).1
  /-- What happens to the documents. -/
  deed : Deed w.view announcing edit (act.run w).2.view (isAnnouncing below (act.run w).1)

namespace Handles

variable {w : World} {pts : List Point} {below : Option Role} {announcing : Bool}
  {edit : Option (String × Sync)} {act : Act Next} {called : Option Nat} {v : View}

/-- The action leads to points that take whatever comes. -/
theorem of_leads {rest : List Point} (hturns : Turns called w v (Leads v rest) act)
    (hcoherent : Coherent v pts) (hplaced : ∀ point ∈ rest, v.Places point)
    (hexclusive : ∀ w' : World, Drift called w w' → w'.view = v → Exclusive w' false (rest ++ pts))
    (hfits : Fits below rest) (hlead : lead below rest = none)
    (hdeed : Deed w.view announcing edit v false) :
    Handles w pts below announcing edit act := by
  obtain ⟨hdrift, hview, front, hfront, hpoints⟩ := hturns
  obtain ⟨hfrontFits, hfrontLead⟩ := fits_of_allows hfront
  -- what stands in front is allowed in any view and leads to nothing, so the task stands as if it were `rest`
  have hallFits : Fits below (points (act.run w).1) := by
    rw [hpoints, fits_append, hlead]
    exact ⟨hfrontFits, hfits⟩
  have hallLead : lead below (points (act.run w).1) = none := by
    rw [hpoints, lead_append, hlead, hfrontLead]
  refine ⟨⟨called, hdrift⟩, ?coherent, ?exclusive, ?reaches, ?deed⟩
  case coherent =>
    rw [hview, hpoints, List.append_assoc]
    refine (hcoherent.add hplaced).add fun point hpoint => ?_
    exact View.places_of_allows (hfront point hpoint)
  case exclusive =>
    rw [hpoints, List.append_assoc]
    refine (hexclusive _ hdrift hview).add fun point hpoint => ?_
    obtain ⟨hholds, -, hticket⟩ := not_counted_of_allows (hfront point hpoint)
    exact ⟨hholds, hticket⟩
  case reaches =>
    cases hnext : (act.run w).1 with
    | wait promise all =>
      rw [hnext] at hallFits hallLead
      refine ⟨hallFits, ?_⟩
      rw [show lead below all = none from hallLead]
      trivial
    | go outcome all =>
      rw [hnext] at hallFits hallLead
      refine ⟨hallFits, ?_⟩
      rw [show lead below all = none from hallLead]
      trivial
  case deed =>
    have hquiet : isAnnouncing below (act.run w).1 = false := by
      cases hnext : (act.run w).1 with
      | wait promise all => rfl
      | go outcome all =>
        rw [hnext] at hallLead
        rw [isAnnouncing, show lead below all = none from hallLead]
        rfl
    rw [hview, hquiet]
    exact hdeed

/-- The action comes to an outcome at once. -/
theorem of_go {outcome : Outcome} (hturns : Turns called w v (· = .go outcome []) act)
    (hcoherent : Coherent v pts)
    (hexclusive : ∀ w' : World, Drift called w w' → w'.view = v → Exclusive w' false pts)
    (hdelivers : ∀ w' : World, w'.view = v → Delivers w' outcome below)
    (hdeed : Deed w.view announcing edit v (announces below outcome)) :
    Handles w pts below announcing edit act := by
  obtain ⟨hdrift, hview, hnext⟩ := hturns
  refine ⟨⟨called, hdrift⟩, ?coherent, ?exclusive, ?reaches, ?deed⟩
  case coherent =>
    rw [hview, hnext]
    exact hcoherent
  case exclusive =>
    rw [hnext]
    exact hexclusive _ hdrift hview
  case reaches =>
    rw [hnext]
    exact ⟨trivial, hdelivers _ hview⟩
  case deed =>
    rw [hview, hnext]
    exact hdeed

/-- Before the action everything happens in the background. -/
theorem after_quiet {α : Type} {first : Act α} {rest : α → Act Next} (hquiet : Quiet first)
    (h : Handles (first.run w).2 pts below announcing edit (rest (first.run w).1)) :
    Handles w pts below announcing edit (first >>= rest) := by
  have hback := (hquiet w).1
  obtain ⟨called, hdrift⟩ := h.drift
  refine ⟨⟨called, hback.toDrift.weaken.trans hdrift⟩, h.coherent, h.exclusive, h.reaches, ?_⟩
  rw [← hback.view]
  exact h.deed

theorem get_bind {rest : World → Act Next} (h : Handles w pts below announcing edit (rest w)) :
    Handles w pts below announcing edit (get >>= rest) :=
  ⟨h.drift, h.coherent, h.exclusive, h.reaches, h.deed⟩

end Handles

namespace Stands

variable {w : World} {point : Point} {pts : List Point}

theorem coherent_rest (h : Stands w point pts) : Coherent w.view pts :=
  h.coherent.of_subset fun _ hother => List.mem_cons_of_mem _ hother

/-- Where the point is not that of a task with a turn or a ticket, nothing happens to the turns. -/
theorem exclusive_rest (h : Stands w point pts) (hholds : point.holds = false)
    (hticket : point.ticket? = none) {v : View} (hkeeper : v.keeper = w.keeper) {w' : World}
    (hdrift : Drift none w w') (hview : w'.view = v) : Exclusive w' false pts := by
  have hsame : w'.keeper = w.keeper := (congrArg View.keeper hview).trans hkeeper
  exact (h.exclusive.drop hholds hticket).drift hdrift (by rw [hsame]) (by rw [hsame])

/-- What happens in the background leaves everything as it is. -/
theorem background (h : Stands w point pts) {w' : World} (hback : Background w w') :
    Stands w' point pts := by
  have hkeeper : w'.keeper = w.keeper := congrArg View.keeper hback.view
  refine ⟨?_, ?_, h.reported, h.starts⟩
  · rw [hback.view]
    exact h.coherent
  · exact h.exclusive.drift hback.toDrift (by rw [hkeeper]) (by rw [hkeeper])

/-- While a connection starts at the point, none starts elsewhere. -/
theorem no_start_of_isStart (h : Stands w point pts) (hstart : point.isStart) :
    ∀ other ∈ pts, other.isStart = false := by
  have hstarts := h.starts
  have hholders := h.exclusive.holders
  have hle := Bool.toNat_le w.keeper.busy
  have hconnected : pts.countP Point.isConnected ≤ (point :: pts).countP Point.holds :=
    Nat.le_trans (List.countP_mono_left fun _ _ => holds_of_isConnected)
      ((List.sublist_cons_self point pts).countP_le)
  simp only [hstart, Bool.toNat_true] at hstarts
  simp only [Bool.toNat_false] at hholders
  have hzero : pts.countP Point.isStart = 0 := by omega
  intro other hother
  simpa using List.countP_eq_zero.1 hzero other hother

/-- While a task has its turn, nobody else has, and no connection starts elsewhere. -/
theorem alone (h : Stands w point pts) {w' : World} (hexclusive : Exclusive w' true pts) :
    ∀ other ∈ pts, other.isStart = false ∧ other.holds = false := by
  have hstarts := h.starts
  have hzero := hexclusive.holders_eq_zero
  have hconnected : pts.countP Point.isConnected ≤ pts.countP Point.holds :=
    List.countP_mono_left fun _ _ => holds_of_isConnected
  have hnone : pts.countP Point.isStart = 0 := by omega
  intro other hother
  exact ⟨by simpa using List.countP_eq_zero.1 hnone other hother,
    by simpa using List.countP_eq_zero.1 hzero other hother⟩

end Stands

/-! ## In the background -/

/-- An activity in the background. -/
theorem modest_handles {w : World} {point : Point} {pts : List Point} (h : Stands w point pts)
    (hholds : point.holds = false) (hticket : point.ticket? = none) {act : Act Next}
    (hmodest : Modest Plain act) : Handles w pts none false none act := by
  have hturns : Turns none w w.view Plain act := .of_modest hmodest w
  exact .of_leads (hturns.imp fun _ => Leads.of_plain) h.coherent_rest (by simp)
    (fun w' hdrift hview => h.exclusive_rest hholds hticket rfl hdrift hview) trivial rfl
    (.aside (.refl _))

/-- An outcome that says nothing of a process is passed on. -/
theorem give_handles {w : World} {point : Point} {pts : List Point} (h : Stands w point pts)
    (hholds : point.holds = false) (hticket : point.ticket? = none) {below : Option Role}
    {outcome : Outcome} (hdelivers : Delivers w outcome below)
    (hannounces : announces below outcome = false)
    (hdelivered : ∀ w' : World, w'.view = w.view → Delivers w outcome below → Delivers w' outcome below) :
    Handles w pts below false none (give outcome) := by
  have hturns : Turns none w w.view (· = .go outcome []) (give outcome) := .pure rfl
  refine .of_go hturns h.coherent_rest (fun w' hdrift hview =>
    h.exclusive_rest hholds hticket rfl hdrift hview)
    (fun w' hview => hdelivered w' hview hdelivers) ?_
  rw [hannounces]
  exact .aside (.refl _)

/-! ## Programs and channels -/

theorem starting_handles {w : World} {script : CompanionScript} {command : List String}
    {pts : List Point} (h : Stands w (.program (.starting script command)) pts)
    (outcome : Outcome) :
    Handles w pts (some .process) false none
      ((Point.program (.starting script command)).resume outcome) := by
  rcases starting_turns w script command outcome with ⟨failure, hturns⟩ | hturns
  · exact .of_go hturns h.coherent_rest
      (fun w' hdrift hview => h.exclusive_rest rfl rfl rfl hdrift hview)
      (fun _ _ => .inl ⟨failure, rfl⟩) (.aside (.refl _))
  · refine .of_go hturns h.coherent_rest.addProcess
      (fun w' hdrift hview => h.exclusive_rest rfl rfl rfl hdrift hview)
      (fun w' hview => .inr ⟨_, rfl, ?_⟩) (.aside ⟨rfl, rfl, .inl rfl⟩)
    rw [hview]
    exact h.coherent_rest.isNew_addProcess

theorem opened_of_expects {point : Point} {channel : Nat}
    (h : point.expects = some (.opening channel)) :
    ∃ number, point = .connection (.opened number channel) := by
  unfold Point.expects at h
  split at h <;> first | cases h | skip
  · exact ⟨_, rfl⟩
  all_goals
    rename_i ticket
    cases ticket <;> cases h

theorem opened_handles {w : World} {channel : Nat} {pts : List Point}
    (h : Stands w (.channel (.opened channel)) pts) {outcome : Outcome}
    (hdelivers : Delivers w outcome (some .process)) :
    Handles w pts (some (.opening channel)) false none
      ((Point.channel (.opened channel)).resume outcome) := by
  obtain ⟨other, hother, hexpects⟩ := h.reported _ rfl
  obtain ⟨number, rfl⟩ := opened_of_expects hexpects
  have hlaunches : w.view.Launches number channel := h.coherent_rest.placed _ hother
  rcases hdelivers with ⟨failure, rfl⟩ | ⟨process, rfl, hnew⟩
  · have hturns : Turns none w w.view (· = .go (.error failure) [])
        ((Point.channel (.opened channel)).resume (.error failure)) := .pure rfl
    exact .of_go hturns h.coherent_rest
      (fun w' hdrift hview => h.exclusive_rest rfl rfl rfl hdrift hview)
      (fun w' _ answer heq => by cases heq) (.aside (.refl _))
  · refine .of_go (opened_turns w channel process) (h.coherent_rest.setProcess hlaunches hnew)
      (fun w' hdrift hview => h.exclusive_rest rfl rfl rfl hdrift hview)
      (fun w' hview answer _ => ?_)
      (.aside (View.aside_setLine (h.coherent_rest.not_led hlaunches)))
    obtain ⟨link, line, -, hline, -⟩ := hlaunches
    rw [hview]
    exact ⟨{ line with process := some process }, by rw [View.lines_setLine, hline]; simp, rfl⟩

/-- An action that brings a channel nearer to its end that does not matter. -/
theorem ends_handles {w : World} {point : Point} {pts : List Point} (h : Stands w point pts)
    (hholds : point.holds = false) (hticket : point.ticket? = none) {channel : Nat}
    (hspare : Spare w.view pts channel) {act : Act Next} (hends : Ends w channel act) :
    Handles w pts none false none act := by
  obtain ⟨change, hchange, hturns⟩ := hends
  exact .of_leads hturns (h.coherent_rest.setLine hspare hchange) (by simp)
    (fun w' hdrift hview => h.exclusive_rest hholds hticket rfl hdrift hview) trivial rfl
    (.aside (View.aside_setLine hspare.ready))

theorem asked_handles {w : World} {channel process : Nat} {pts : List Point}
    (h : Stands w (.channel (.asked channel process)) pts) (outcome : Outcome) :
    Handles w pts none false none ((Point.channel (.asked channel process)).resume outcome) := by
  have hclosing : w.view.IsClosing channel := h.coherent.placed _ List.mem_cons_self
  have hspare := h.coherent_rest.spare_of_isClosing hclosing
  show Handles w pts none false none (ChannelPoint.resume _ outcome)
  unfold ChannelPoint.resume
  split <;> first | contradiction | skip
  · rename_i heq
    cases heq
    exact ends_handles h rfl rfl hspare (endTraffic_ends w hclosing)
  · rename_i heq
    cases heq
    -- it takes too long: the process is killed
    have hclosing' := (kill_quiet process w).1.view.symm ▸ hclosing
    have hends : Ends w channel (do
        kill process
        under (.channel (.killed channel)) (awaitExit process)) := by
      refine .after_quiet (kill_quiet process) ⟨id, ending_id, ?_⟩
      rw [setLine_id]
      have hwaits : Turns none ((kill process).run w).2 _ _ _ :=
        .of_modest (awaitExit_modest process) _
      refine hwaits.under fun next hnext => ?_
      obtain ⟨front, hfront, heq⟩ := (Leads.of_plain hnext).under (.channel (.killed channel))
      refine ⟨front ++ [_], fun point hpoint => ?_, by simpa using heq⟩
      rcases List.mem_append.1 hpoint with hpoint | hpoint
      · exact hfront point hpoint
      · rw [List.mem_singleton.1 hpoint]
        exact .inr ⟨channel, rfl, hclosing'⟩
    exact ends_handles h rfl rfl hspare hends
  · exact modest_handles h rfl rfl (.give _)

theorem killed_handles {w : World} {channel : Nat} {pts : List Point}
    (h : Stands w (.channel (.killed channel)) pts) (outcome : Outcome) :
    Handles w pts none false none ((Point.channel (.killed channel)).resume outcome) := by
  have hclosing : w.view.IsClosing channel := h.coherent.placed _ List.mem_cons_self
  cases outcome with
  | ok answer =>
    exact ends_handles h rfl rfl (h.coherent_rest.spare_of_isClosing hclosing)
      (endTraffic_ends w hclosing)
  | error failure => exact modest_handles h rfl rfl (.give _)

theorem quiet_handles {w : World} {channel : Nat} {pts : List Point}
    (h : Stands w (.channel (.quiet channel)) pts) (outcome : Outcome) :
    Handles w pts none false none ((Point.channel (.quiet channel)).resume outcome) := by
  have hclosing : w.view.IsClosing channel := h.coherent.placed _ List.mem_cons_self
  cases outcome with
  | ok answer =>
    have hcleared : Turns none w (w.view.setLine channel fun line => { line with process := none })
        (fun _ => True) (updateChannel channel fun c => { c with process := none, tasks := [] }) :=
      updateChannel_turns w channel (fun _ => rfl) fun _ _ hq => hq
    exact ends_handles h rfl rfl (h.coherent_rest.spare_of_isClosing hclosing)
      ⟨_, ending_clear, hcleared.seq_modest fun _ => (Modest.finish _).imp fun _ => .of_plain⟩
  | error failure => exact modest_handles h rfl rfl (.give _)

theorem ending_lost : Ending Line.lost :=
  fun _ => ⟨rfl, fun _ => rfl, .inr rfl⟩

/-- A connection whose process has ended is neither starting nor ready. -/
theorem phase_lost (link : Link) : link.lost.phase ≠ .starting ∧ link.lost.phase ≠ .ready := by
  unfold Link.lost
  split
  · rename_i hphase
    simp [hphase]
  · simp [Link.stopped]

theorem room_lost (link : Link) : link.lost.room = link.room := by
  unfold Link.lost
  split <;> rfl

/-- A process has ended on its own: its connection comes to an end, and then its channel. -/
theorem lost_coherent {v : View} {pts : List Point} (h : Coherent v pts) {channel : Nat} {line : Line}
    (hline : v.lines[channel]? = some line) :
    Coherent ((v.leave line.owner).setLine channel Line.lost) pts ∧
      v.Aside ((v.leave line.owner).setLine channel Line.lost) := by
  cases howner : line.owner with
  | recorder full takes =>
    have hspare := h.spare_of_owner hline (by simp [howner])
    exact ⟨h.setLine hspare ending_lost, View.aside_setLine hspare.ready⟩
  | connection number =>
    have hleft : Coherent (v.setLink number Link.lost) pts :=
      h.setLink (fun link _ => phase_lost link) room_lost
    have hspare : Spare (v.setLink number Link.lost) pts channel := by
      have hsame : (v.setLink number Link.lost).lines[channel]? = some line := hline
      refine hleft.spare_of_owner hsame fun other hother => ?_
      rw [howner] at hother
      obtain rfl := Owner.connection.inj hother
      rintro (⟨link, hlink, hphase⟩ | ⟨link, hlink, hphase⟩) <;>
        rw [View.links_setLink] at hlink <;>
        obtain ⟨link₀, -, rfl⟩ := Option.map_eq_some_iff.1 hlink <;>
        rw [if_pos rfl] at hphase
      · exact (phase_lost link₀).1 hphase
      · exact (phase_lost link₀).2 hphase
    exact ⟨hleft.setLine hspare ending_lost,
      (View.aside_setLink fun link _ => phase_lost link).trans (View.aside_setLine hspare.ready)⟩

theorem gone_handles {w : World} {channel process : Nat} {pts : List Point}
    (h : Stands w (.channel (.gone channel process)) pts) (outcome : Outcome) :
    Handles w pts none false none ((Point.channel (.gone channel process)).resume outcome) := by
  show Handles w pts none false none (ChannelPoint.resume _ outcome)
  unfold ChannelPoint.resume
  split <;> first | contradiction | skip
  · rename_i heq
    cases heq
    obtain ⟨v, hv, hturns⟩ := loseProcess_turns w channel ‹Option Int›
    have hlost : v.keeper = w.keeper ∧ Coherent v pts ∧ w.view.Aside v := by
      rcases hv with rfl | ⟨line, hline, -, rfl⟩
      · exact ⟨rfl, h.coherent_rest, .refl _⟩
      · refine ⟨?_, lost_coherent h.coherent_rest hline⟩
        cases line.owner <;> rfl
    obtain ⟨hkeeper, hcoherent, haside⟩ := hlost
    exact .of_leads (hturns.imp fun _ => Leads.of_plain) hcoherent (by simp)
      (fun w' hdrift hview => h.exclusive_rest rfl rfl hkeeper hdrift hview) trivial rfl
      (.aside haside)
  · exact modest_handles h rfl rfl (.give _)

/-! ## Connections -/

theorem isInPhase_run (w : World) (phase : Phase) (number : Nat) :
    ∃ isIn, (isInPhase phase number).run w = (isIn, w) ∧ (isIn = true ↔ w.view.IsIn phase number) := by
  have hturns := isInPhase_turns w phase number
  refine ⟨_, Prod.ext rfl ?_, hturns.result⟩
  simp only [isInPhase, run_bind, run_get]
  cases w.connections[number]? <;> rfl

/-- An activity that first looks how far a connection is. -/
theorem phase_handles {w : World} {pts : List Point} {below : Option Role} {announcing : Bool}
    {edit : Option (String × Sync)} {phase : Phase} {number : Nat} {yes no : Act Next}
    (hyes : w.view.IsIn phase number → Handles w pts below announcing edit yes)
    (hno : ¬ w.view.IsIn phase number → Handles w pts below announcing edit no) :
    Handles w pts below announcing edit (do if ← isInPhase phase number then yes else no) := by
  obtain ⟨isIn, hrun, hiff⟩ := isInPhase_run w phase number
  have hsame : ((do if ← isInPhase phase number then yes else no : Act Next)).run w =
      (if isIn then yes else no).run w := by
    rw [run_bind, hrun]
  have hcase : Handles w pts below announcing edit (if isIn then yes else no) := by
    cases isIn with
    | true => exact hyes (hiff.1 rfl)
    | false => exact hno fun hin => absurd (hiff.2 hin) Bool.false_ne_true
  obtain ⟨hdrift, hcoherent, hexclusive, hreaches, hdeed⟩ := hcase
  refine ⟨?_, ?_, ?_, ?_, ?_⟩ <;> rw [hsame] <;> assumption

/-- The start of a connection comes to nothing. -/
theorem finish_handles {w : World} {point : Point} {pts : List Point} (h : Stands w point pts)
    (hholds : point.holds = false) (hticket : point.ticket? = none) :
    Handles w pts (some .readiness) false none (finish (.bool false)) :=
  give_handles h hholds hticket trivial rfl fun _ _ _ => trivial

theorem fail_handles {w : World} {point : Point} {pts : List Point} (h : Stands w point pts)
    (hholds : point.holds = false) (hticket : point.ticket? = none) (failure : Failure) :
    Handles w pts (some .readiness) false none (fail failure) :=
  give_handles h hholds hticket trivial rfl fun _ _ _ => trivial

/-- A connection is stopped. -/
theorem reset_handles {w : World} {point : Point} {pts : List Point} (h : Stands w point pts)
    (hholds : point.holds = false) (hticket : point.ticket? = none) {below : Option Role}
    (number : Nat) {answer : Answer} (hdelivers : ∀ w', Delivers w' (.ok answer) below)
    (hannounces : announces below (.ok answer) = false) :
    Handles w pts below false none (do
      reset number
      finish answer) := by
  have hceases : ∀ link, w.view.links[number]? = some link →
      link.stopped.phase ≠ .starting ∧ link.stopped.phase ≠ .ready := by
    simp [Link.stopped]
  have hturns : Turns none w (w.view.setLink number Link.stopped) (· = .go (.ok answer) []) (do
      reset number
      finish answer) :=
    (reset_turns w number).seq_modest fun _ => .pure rfl
  refine .of_go hturns (h.coherent_rest.setLink hceases fun _ => rfl)
    (fun w' hdrift hview => h.exclusive_rest hholds hticket rfl hdrift hview)
    (fun w' _ => hdelivers w') ?_
  rw [hannounces]
  exact .aside (View.aside_setLink hceases)

/-- A channel that does not matter is closed, and then the task goes on. -/
theorem close_handles {w : World} {point next : Point} {pts : List Point} (h : Stands w point pts)
    (hholds : point.holds = false) (hticket : point.ticket? = none) {below : Option Role}
    {channel : Nat} (hspare : Spare w.view pts channel) (hplaced : ∀ v : View, v.Places next)
    (hcounted : next.holds = false ∧ next.ticket? = none) (hreports : next.reports = below)
    (hexpects : next.expects = none) :
    Handles w pts below false none (under next (closeChannel channel)) := by
  obtain ⟨change, hchange, hturns⟩ := (closeChannel_ends w channel).under next
  refine .of_leads hturns (h.coherent_rest.setLine hspare hchange) ?_ (fun w' hdrift hview => ?_)
    ⟨hreports, trivial⟩ hexpects (.aside (View.aside_setLine hspare.ready))
  · intro other hother
    rw [List.mem_singleton.1 hother]
    exact hplaced _
  · refine (h.exclusive_rest hholds hticket rfl hdrift hview).add fun other hother => ?_
    rw [List.mem_singleton.1 hother]
    exact hcounted

/-- A channel through which no connection starts any more does not matter. -/
theorem spare_of_launches {w : World} {point : Point} {pts : List Point} (h : Stands w point pts)
    (hstart : point.isStart) {number channel : Nat} (hlaunches : w.view.Launches number channel) :
    Spare w.view pts channel := by
  refine ⟨h.coherent_rest.not_led hlaunches, fun other hother number' hstarts => ?_⟩
  have hisStart := View.isStart_of_starts? hstarts
  rw [h.no_start_of_isStart hstart other hother] at hisStart
  cases hisStart

theorem connectionOpened_handles {w : World} {number channel : Nat} {pts : List Point}
    (h : Stands w (.connection (.opened number channel)) pts) {outcome : Outcome}
    (hdelivers : Delivers w outcome (some (.opening channel))) :
    Handles w pts (some .readiness) false none
      ((Point.connection (.opened number channel)).resume outcome) := by
  have hlaunches : w.view.Launches number channel := h.coherent.placed _ List.mem_cons_self
  cases outcome with
  | ok answer =>
    refine phase_handles (fun hstarting => ?_) fun _ => ?_
    · obtain ⟨greeted, hgreets⟩ := greet_turns hstarting h.coherent.unlimited channel
      refine .of_leads hgreets h.coherent_rest ?_ (fun w' hdrift hview => ?_) ⟨rfl, trivial⟩ rfl
        (.aside (.refl _))
      · intro other hother
        rw [List.mem_singleton.1 hother]
        exact ⟨hlaunches, fun _ => hdelivers _ rfl⟩
      · refine (h.exclusive_rest rfl rfl rfl hdrift hview).add fun other hother => ?_
        rw [List.mem_singleton.1 hother]
        exact ⟨rfl, rfl⟩
    · -- it is not wanted any more
      exact close_handles h rfl rfl (spare_of_launches h rfl hlaunches) (fun _ => trivial)
        ⟨rfl, rfl⟩ rfl rfl
  | error failure =>
    cases failure with
    | spawn command text => exact reset_handles h rfl rfl number (fun _ => trivial) rfl
    | _ => exact fail_handles h rfl rfl _

theorem abandoned_handles {w : World} {pts : List Point}
    (h : Stands w (.connection .abandoned) pts) (outcome : Outcome) :
    Handles w pts (some .readiness) false none
      ((Point.connection .abandoned).resume outcome) := by
  cases outcome with
  | ok answer => exact finish_handles h rfl rfl
  | error failure => exact fail_handles h rfl rfl failure

theorem greeted_handles {w : World} {number channel answer : Nat} {pts : List Point}
    (h : Stands w (.connection (.greeted number channel answer)) pts) (outcome : Outcome) :
    Handles w pts (some .readiness) false none
      ((Point.connection (.greeted number channel answer)).resume outcome) := by
  obtain ⟨hlaunches, hprocess⟩ : w.view.Launches number channel ∧
      (w.view.IsIn .starting number → w.view.HasProcess channel) :=
    h.coherent.placed _ List.mem_cons_self
  cases outcome with
  | ok said =>
    refine phase_handles (fun hstarting => ?_) fun _ => finish_handles h rfl rfl
    obtain ⟨link, hlink, hphase⟩ := id hstarting
    obtain ⟨hcoherent, hdeed⟩ := h.coherent_rest.flush (h.no_start_of_isStart rfl) hlink hphase
      hlaunches (hprocess hstarting)
    have hroom := h.coherent.unlimited link (List.mem_of_getElem? hlink)
    refine .of_go (becomeReady_turns hlink hroom channel said.value) hcoherent
      (fun w' hdrift hview => h.exclusive_rest rfl rfl ?_ hdrift hview) (fun _ _ => trivial) hdeed
    exact handAll_keeper _ _ _
  | error failure =>
    show Handles w pts _ false none (if isUnanswered failure then _ else _ : Act Next)
    split
    · refine phase_handles (fun hstarting => ?_) fun _ => finish_handles h rfl rfl
      exact close_handles h rfl rfl (spare_of_launches h rfl hlaunches) (fun _ => trivial)
        ⟨rfl, rfl⟩ rfl rfl
    · exact fail_handles h rfl rfl failure

theorem refused_handles {w : World} {number : Nat} {pts : List Point}
    (h : Stands w (.connection (.refused number)) pts) (outcome : Outcome) :
    Handles w pts (some .readiness) false none
      ((Point.connection (.refused number)).resume outcome) := by
  cases outcome with
  | ok answer => exact reset_handles h rfl rfl number (fun _ => trivial) rfl
  | error failure => exact fail_handles h rfl rfl failure

theorem parted_handles {w : World} {number channel : Nat} {pts : List Point}
    (h : Stands w (.connection (.parted number channel)) pts) (outcome : Outcome) :
    Handles w pts none false none
      ((Point.connection (.parted number channel)).resume outcome) := by
  have hexit : Quiet (notifyThrough channel "exit") := notifyThrough_quiet channel rfl
  have hclose : Handles w pts none false none (do
      notifyThrough channel "exit"
      closeConnection number (some channel)) := by
    have h' := h.background (hexit w).1
    obtain ⟨link, line, hlink, hline, howner, hstarting, hready⟩ :
        ((notifyThrough channel "exit").run w).2.view.Leaves number channel :=
      h'.coherent.placed _ List.mem_cons_self
    -- The connection is on its way out, so nobody relies on its channel any more.
    have hspare : Spare ((notifyThrough channel "exit").run w).2.view pts channel := by
      refine h'.coherent_rest.spare_of_owner hline fun other hother => ?_
      rw [howner] at hother
      obtain rfl := Owner.connection.inj hother
      rintro (⟨link', hlink', hphase⟩ | ⟨link', hlink', hphase⟩) <;>
        rw [hlink] at hlink' <;> obtain rfl := Option.some.inj hlink'
      · exact hstarting hphase
      · exact hready hphase
    exact .after_quiet hexit (close_handles h' rfl rfl hspare (fun _ => trivial) ⟨rfl, rfl⟩ rfl rfl)
  cases outcome with
  | ok answer => exact hclose
  | error failure =>
    show Handles w pts _ false none (if isUnanswered failure then _ else _ : Act Next)
    split
    · exact hclose
    · exact modest_handles h rfl rfl (.fail failure)

theorem closed_handles {w : World} {number : Nat} {channel : Option Nat} {pts : List Point}
    (h : Stands w (.connection (.closed number channel)) pts) (outcome : Outcome) :
    Handles w pts none false none
      ((Point.connection (.closed number channel)).resume outcome) := by
  cases outcome with
  | ok answer =>
    have hreject : Quiet (channel.forM fun channel => rejectAll channel (.exited none)) :=
      .forM_option fun channel _ => rejectAll_quiet channel _
    exact .after_quiet hreject
      (reset_handles (h.background (hreject w).1) rfl rfl number (fun _ => trivial) rfl)
  | error failure => exact modest_handles h rfl rfl (.give _)

end BasiliskServer.World
