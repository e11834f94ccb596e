import BasiliskServer.Proofs.World.Shifts

/-!
# Shapes

The shape of a layout is what it says about how far connections are and which processes channels have.
Requests, answers, queues and what is told leave the shape as it is.
-/

namespace BasiliskServer.World

open Json (Value Fields)

/-- What matters of a channel. -/
structure Track where
  /-- Its process. -/
  process : Option Nat
  /-- Whether it is being closed. -/
  closing : Bool
  /-- Who takes the messages of the process. -/
  owner : Owner

/-- What matters of a connection. -/
structure Stage where
  /-- How far it is. -/
  phase : Phase
  /-- The channel to its process. -/
  channel : Option Nat

/-- What matters of connections, channels and processes. -/
structure Shape where
  /-- The channels. -/
  tracks : List Track
  /-- The connections. -/
  stages : List Stage
  /-- How the processes behave. -/
  scripts : List CompanionScript
  /-- How the next processes behave. -/
  companions : List CompanionScript

/-- What matters of a channel. -/
def Pipe.track (p : Pipe) : Track :=
  ⟨p.process, p.closing, p.owner⟩

/-- What matters of a connection. -/
def Bond.stage (b : Bond) : Stage :=
  ⟨b.phase, b.channel⟩

/-- The shape of a layout. -/
def Layout.shape (l : Layout) : Shape :=
  ⟨l.pipes.map Pipe.track, l.bonds.map Bond.stage, l.scripts, l.companions⟩

namespace Shape

/-- A channel changes. -/
def setTrack (s : Shape) (channel : Nat) (change : Track → Track) : Shape :=
  { s with tracks := s.tracks.modify channel change }

/-- A connection changes. -/
def setStage (s : Shape) (number : Nat) (change : Stage → Stage) : Shape :=
  { s with stages := s.stages.modify number change }

/-- A channel is closed to messages. -/
def shut (s : Shape) (channel : Nat) : Shape :=
  s.setTrack channel fun t => { t with closing := true }

/-- A channel has a process, or none. -/
def carry (s : Shape) (channel : Nat) (process : Option Nat) : Shape :=
  s.setTrack channel fun t => { t with process }

/-- A connection is in another phase. -/
def setPhase (s : Shape) (number : Nat) (phase : Phase) : Shape :=
  s.setStage number fun g => { g with phase }

/-- A connection is stopped. -/
def reset (s : Shape) (number : Nat) : Shape :=
  s.setStage number fun _ => ⟨.stopped, none⟩

/-- A connection begins to start with a channel of its own. -/
def beginStart (s : Shape) (number : Nat) : Shape :=
  { s with
    tracks := s.tracks ++ [⟨none, false, .connection number⟩]
    stages := s.stages.modify number fun _ => ⟨.starting, some s.tracks.length⟩ }

/-- There is another process. -/
def addScript (s : Shape) (script : CompanionScript) : Shape :=
  { s with scripts := s.scripts ++ [script] }

/-- There is another connection. -/
def addStage (s : Shape) : Shape :=
  { s with stages := s.stages ++ [⟨.stopped, none⟩] }

theorem tracks_beginStart_cases {s : Shape} {number channel : Nat} {track : Track}
    (h : (s.beginStart number).tracks[channel]? = some track) :
    s.tracks[channel]? = some track ∨
      channel = s.tracks.length ∧ track = ⟨none, false, .connection number⟩ :=
  Tasks.getElem?_concat_cases h

theorem stages_addStage_cases {s : Shape} {number : Nat} {stage : Stage}
    (h : s.addStage.stages[number]? = some stage) :
    s.stages[number]? = some stage ∨ number = s.stages.length ∧ stage = ⟨.stopped, none⟩ :=
  Tasks.getElem?_concat_cases h

end Shape

namespace Layout

variable (l : Layout) (number channel : Nat)

theorem shape_setPipe {change : Pipe → Pipe} {change' : Track → Track}
    (h : ∀ p, (change p).track = change' p.track) :
    (l.setPipe channel change).shape = l.shape.setTrack channel change' := by
  simp [shape, setPipe, Shape.setTrack, map_modify_of_comm h]

theorem shape_setPipe_same {change : Pipe → Pipe} (h : ∀ p, (change p).track = p.track) :
    (l.setPipe channel change).shape = l.shape := by
  simp [shape, setPipe, map_modify_of_eq h]

theorem shape_setBond {change : Bond → Bond} {change' : Stage → Stage}
    (h : ∀ b, (change b).stage = change' b.stage) :
    (l.setBond number change).shape = l.shape.setStage number change' := by
  simp [shape, setBond, Shape.setStage, map_modify_of_comm h]

theorem shape_setBond_same {change : Bond → Bond} (h : ∀ b, (change b).stage = b.stage) :
    (l.setBond number change).shape = l.shape := by
  simp [shape, setBond, map_modify_of_eq h]

@[simp]
theorem shape_tell (process : Nat) (said : Option Fields) :
    (l.tell process said).shape = l.shape := by
  unfold tell
  split <;> rfl

@[simp]
theorem shape_say (said : Option Fields) : (l.say channel said).shape = l.shape := by
  unfold say
  split
  · exact shape_tell _ _ _
  · rfl

@[simp]
theorem shape_tellOf (method : String) (params : Value) :
    (l.tellOf channel method params).shape = l.shape :=
  shape_say _ _ _

@[simp]
theorem shape_sayAll (queue : List (String × Value)) : (l.sayAll channel queue).shape = l.shape := by
  induction queue generalizing l with
  | nil => rfl
  | cons entry rest ih => exact (ih _).trans (shape_tellOf _ _ _ _)

@[simp]
theorem shape_list (method : String) (answer : Nat) :
    (l.list channel method answer).shape = l.shape :=
  shape_setPipe_same _ _ fun _ => rfl

@[simp]
theorem shape_ask (room : Option Nat) (method : String) (params : Value) (answer : Nat) :
    (l.ask room channel method params answer).shape = l.shape := by
  unfold ask
  split
  · rfl
  · exact (shape_say _ _ _).trans (shape_list _ _ _ _)

@[simp]
theorem shape_rejectOn (channel : Option Nat) (failure : Failure) :
    (l.rejectOn channel failure).shape = l.shape := by
  cases channel with
  | none => rfl
  | some channel => exact shape_setPipe_same _ _ fun _ => rfl

@[simp]
theorem shape_clear : (l.clear number).shape = l.shape :=
  shape_setBond_same _ _ fun _ => rfl

@[simp]
theorem shape_report (told : List (Option Int)) : (l.report told).shape = l.shape :=
  rfl

@[simp]
theorem shape_shut : (l.shut channel).shape = l.shape.shut channel :=
  shape_setPipe _ _ fun _ => rfl

@[simp]
theorem shape_carry (process : Option Nat) :
    (l.carry channel process).shape = l.shape.carry channel process :=
  shape_setPipe _ _ fun _ => rfl

@[simp]
theorem shape_setPhase (phase : Phase) :
    (l.setPhase number phase).shape = l.shape.setPhase number phase :=
  shape_setBond _ _ fun _ => rfl

@[simp]
theorem shape_reset : (l.reset number).shape = l.shape.reset number :=
  shape_setBond _ _ fun _ => rfl

@[simp]
theorem shape_beginStart (started : Nat) :
    (l.beginStart number started).shape = l.shape.beginStart number := by
  have hbond : (l.beginStart number started).shape =
      (l.addPipe (.connection number)).shape.setStage number fun _ =>
        ⟨.starting, some l.pipes.length⟩ := shape_setBond _ _ fun _ => rfl
  rw [hbond]
  simp [Shape.beginStart, Shape.setStage, shape, addPipe, Pipe.track]

@[simp]
theorem shape_addScript (script : CompanionScript) :
    (l.addScript script).shape = l.shape.addScript script :=
  rfl

@[simp]
theorem shape_addBond (config : Companion.Config) (listener : Listener) (kept : Option Nat) :
    ({ l.addBond config listener with kept } : Layout).shape = l.shape.addStage := by
  simp [shape, addBond, Shape.addStage, Bond.stage, Connection.bond]

@[simp]
theorem shape_vacate : ({ l with kept := none } : Layout).shape = l.shape :=
  rfl

@[simp]
theorem shape_welcome (bond : Bond) :
    (l.welcome number channel bond).shape = l.shape.setPhase number .ready := by
  simp [welcome]

variable {l number channel}

theorem Hears.shape_eq {l' : Layout} (h : l.Hears l') : l'.shape = l.shape := by
  have htracks : l'.pipes.map Pipe.track = l.pipes.map Pipe.track := by
    refine List.ext_getElem? fun i => ?_
    simp only [List.getElem?_map]
    cases hpipe : l.pipes[i]? with
    | none =>
      have hge := List.getElem?_eq_none_iff.1 hpipe
      rw [List.getElem?_eq_none_iff.2 (h.length ▸ hge)]
    | some pipe =>
      obtain ⟨requests, hpipe', -⟩ := h.pipes i pipe hpipe
      rw [hpipe']
      rfl
  rw [shape, htracks, h.rest]
  rfl

theorem Notifies.shape_eq {l' : Layout} {method : String} {params : Value}
    (h : l.Notifies number method params l') : l'.shape = l.shape := by
  cases h with
  | tells hready => exact shape_tellOf _ _ _ _
  | refuses => rfl
  | drops hnot => rfl
  | queues hbond hphase hready => exact shape_setBond_same _ _ fun _ => rfl

theorem shape_tracks_getElem? (l : Layout) (channel : Nat) :
    l.shape.tracks[channel]? = (l.pipes[channel]?).map Pipe.track := by
  simp [shape]

theorem shape_stages_getElem? (l : Layout) (number : Nat) :
    l.shape.stages[number]? = (l.bonds[number]?).map Bond.stage := by
  simp [shape]

theorem track_of_pipe {l : Layout} {channel : Nat} {pipe : Pipe}
    (hpipe : l.pipes[channel]? = some pipe) : l.shape.tracks[channel]? = some pipe.track := by
  rw [shape_tracks_getElem?, hpipe, Option.map_some]

theorem stage_of_bond {l : Layout} {number : Nat} {bond : Bond}
    (hbond : l.bonds[number]? = some bond) : l.shape.stages[number]? = some bond.stage := by
  rw [shape_stages_getElem?, hbond, Option.map_some]

end Layout

/-- Where nobody acts the shape stays as it is. -/
theorem Drifts.shape_eq {w w' : World} {notice : Option (Nat × String × Value)}
    (h : Drifts w w' notice) : w'.layout.shape = w.layout.shape := by
  rcases h.layout with hhears | ⟨_, _, _, -, hnotifies⟩
  · exact hhears.shape_eq
  · exact hnotifies.shape_eq

/-!
## Where programs come from

Only a program that takes its time to start becomes a process, and only programs that there are begin
to start (`Course.supplies`). A process that has ended or cannot be asked to end is done with: nothing
is waited for any more when its channel is closed (`World.done`).
-/

open Json (Value)

/-! ## Points that are avoided -/

/-- A task does not go on at points of a kind. -/
def Avoids (kind : Point → Bool) (next : Next) : Prop :=
  ∀ point ∈ points next, kind point = false

/-- Points at which a program takes its time to start, or a process is waited for. -/
def Point.isSupply : Point → Bool
  | .program (.starting _ _) | .channel (.opened _) => true
  | _ => false

theorem Point.isLaunch_of_isMinor {point : Point} (h : point.isMinor = true) :
    point.isLaunch = false := by
  unfold Point.isMinor at h
  split at h <;> first | rfl | cases h

theorem Point.isSupply_of_isMinor {point : Point} (h : point.isMinor = true) :
    point.isSupply = false := by
  unfold Point.isMinor at h
  split at h <;> first | rfl | cases h

namespace Avoids

variable {kind : Point → Bool} {next : Next} {point : Point} {front : List Point}

theorem go (outcome : Outcome) : Avoids kind (.go outcome []) :=
  fun _ h => absurd h List.not_mem_nil

theorem under (h : Avoids kind next) (hpoint : kind point = false) :
    Avoids kind (next.under point) := by
  intro other hother
  rw [points_under] at hother
  rcases List.mem_append.1 hother with hother | hother
  · exact h other hother
  · rwa [List.mem_singleton.1 hother]

section

variable (hkind : ∀ point : Point, point.isMinor = true → kind point = false)

include hkind

theorem of_rises (h : Rises front next) (hfront : ∀ other ∈ front, kind other = false) :
    Avoids kind next := by
  obtain ⟨minor, hpoints, hminor⟩ := h
  intro other hother
  rw [hpoints] at hother
  rcases List.mem_append.1 hother with hother | hother
  · exact hkind other (hminor other hother)
  · exact hfront other hother

theorem idle (h : Rises [] next) : Avoids kind next :=
  of_rises hkind h fun _ hother => absurd hother List.not_mem_nil

theorem single (h : Rises [point] next) (hpoint : kind point = false) : Avoids kind next :=
  of_rises hkind h fun other hother => by rwa [List.mem_singleton.1 hother]

end

end Avoids

/-! ## Programs and processes -/

/-- Processes and programs are the same. -/
def Shape.Stocks (s s' : Shape) : Prop :=
  s'.scripts = s.scripts ∧ s'.companions = s.companions

/-- Processes and programs are the same, and a task begins to start only programs that there are. -/
structure Shape.Draws (s s' : Shape) (next : Next) : Prop where
  /-- Processes and programs are the same. -/
  stocks : s.Stocks s'
  /-- What begins to start is a program that there is. -/
  starting : ∀ script program, .program (.starting script program) ∈ points next →
    script ∈ s.companions ∨ script = {}
  /-- The task does not go on where it is given a process. -/
  head : ∀ line, (points next).head? ≠ some (.channel (.opened line))

namespace Shape.Draws

variable {s s' : Shape} {below : Point} {next : Next}

theorem of_avoids (h : s.Stocks s') (hnext : Avoids Point.isSupply next) : s.Draws s' next :=
  ⟨h, fun _ _ hmem => (Bool.false_ne_true (hnext _ hmem).symm).elim,
    fun _ hhead => Bool.false_ne_true (hnext _ (List.mem_of_mem_head? hhead)).symm⟩

theorem goes (h : s.Stocks s') {outcome : Outcome} : s.Draws s' (.go outcome []) :=
  of_avoids h (.go _)

theorem idle (h : s.Stocks s') (hnext : Rises [] next) : s.Draws s' next :=
  of_avoids h (.idle (fun _ => Point.isSupply_of_isMinor) hnext)

theorem single (h : s.Stocks s') (hnext : Rises [below] next) (hbelow : below.isSupply = false) :
    s.Draws s' next :=
  of_avoids h (.single (fun _ => Point.isSupply_of_isMinor) hnext hbelow)

theorem under (h : s.Draws s' next) (hbelow : below.isSupply = false) :
    s.Draws s' (next.under below) := by
  have hpoints : points (next.under below) = points next ++ [below] := by cases next <;> rfl
  refine ⟨h.stocks, fun script program hmem => ?_, fun line hhead => ?_⟩
  · rw [hpoints] at hmem
    rcases List.mem_append.1 hmem with hmem | hmem
    · exact h.starting script program hmem
    · rw [← List.mem_singleton.1 hmem] at hbelow
      cases hbelow
  · have hold := h.head line
    rw [hpoints] at hhead
    cases hfront : points next with
    | nil =>
      rw [hfront] at hhead
      rw [Option.some.inj hhead] at hbelow
      cases hbelow
    | cons first others =>
      rw [hfront] at hhead hold
      exact hold hhead

end Shape.Draws

namespace Layout

variable {l l' : Layout} {f : Facts} {number channel : Nat} {next : Next}

theorem Loses.stocks {code : Option Int} (h : l.Loses channel code l') : l.shape.Stocks l'.shape := by
  cases h <;> simp [Shape.Stocks, Shape.shut, Shape.carry, Shape.setTrack, Shape.reset, Shape.setStage]

theorem Subsides.draws (h : l.Subsides channel l' next) : l.shape.Draws l'.shape next := by
  cases h with
  | now => exact .goes (by simp [Shape.Stocks, Shape.carry, Shape.setTrack])
  | waits hnext => exact .single ⟨rfl, rfl⟩ hnext rfl

theorem Closes.draws (h : l.Closes f channel l' next) : l.shape.Draws l'.shape next := by
  cases h with
  | bare => exact .goes ⟨rfl, rfl⟩
  | subsides _ _ h =>
    have hdraws := h.draws
    rw [shape_shut] at hdraws
    exact ⟨hdraws.stocks, hdraws.starting, hdraws.head⟩
  | asks _ hnext => exact .single ⟨rfl, rfl⟩ hnext rfl

theorem Disconnects.draws (h : l.Disconnects f number l' next) : l.shape.Draws l'.shape next := by
  cases h with
  | keeps => exact .goes ⟨rfl, rfl⟩
  | clears => exact .goes (by simp [Shape.Stocks])
  | parts _ hnext => exact .single (by simp [Shape.Stocks, Shape.setPhase, Shape.setStage]) hnext rfl
  | closes _ _ _ hcloses =>
    cases hcloses with
    | nothing =>
      exact Shape.Draws.under (.goes (by simp [Shape.Stocks, Shape.setPhase, Shape.setStage])) rfl
    | closes hcloses =>
      have hdraws := hcloses.draws
      rw [shape_setPhase] at hdraws
      exact Shape.Draws.under ⟨hdraws.stocks, hdraws.starting, hdraws.head⟩ rfl

theorem Connects.draws (h : l.Connects number l' next) : l.shape.Draws l'.shape next := by
  cases h with
  | keeps _ hnext => exact .idle ⟨rfl, rfl⟩ hnext
  | begins _ hscript hnext =>
    obtain ⟨minor, hpoints, hminor⟩ := hnext
    refine ⟨by simp [Shape.Stocks, Shape.beginStart], fun script program hmem => ?_, fun line hhead => ?_⟩
    · rw [hpoints] at hmem
      rcases List.mem_append.1 hmem with hmem | hmem
      · cases hminor _ hmem
      · simp only [List.mem_cons, Point.program.injEq, ProgramPoint.starting.injEq, reduceCtorEq,
          List.not_mem_nil, or_false] at hmem
        exact hmem.1 ▸ hscript
    · -- the program comes before those who wait for its process
      rw [hpoints] at hhead
      cases minor with
      | nil => cases hhead
      | cons first others =>
        have hfirst := hminor first List.mem_cons_self
        rw [Option.some.inj hhead] at hfirst
        cases hfirst

end Layout

/-- A task that goes on at a point makes a process of the program that starts there at most, and begins
to start only programs that there are. -/
structure Shape.Supplies (s s' : Shape) (point : Point) (next : Next) : Prop where
  /-- What becomes a process was about to start. -/
  scripts : ∃ launched, s'.scripts = s.scripts ++ launched ∧
    ∀ script ∈ launched, ∃ program, point = .program (.starting script program)
  /-- The programs are the same. -/
  companions : s'.companions = s.companions
  /-- What begins to start is one of them. -/
  starting : ∀ script program, .program (.starting script program) ∈ points next →
    script ∈ s.companions ∨ script = {}
  /-- The task does not go on where it is given a process. -/
  head : ∀ line, (points next).head? ≠ some (.channel (.opened line))

theorem Shape.Draws.supplies {s s' : Shape} {point : Point} {next : Next} (h : s.Draws s' next) :
    s.Supplies s' point next :=
  ⟨⟨[], by rw [h.stocks.1, List.append_nil], fun _ hscript => absurd hscript List.not_mem_nil⟩,
    h.stocks.2, h.starting, h.head⟩

/-- Whatever course a task takes, only programs that there are become processes. -/
theorem Course.supplies {f f' : Facts} {l l' : Layout} {point : Point} {outcome : Outcome}
    {next : Next} (h : Course f f' l point outcome l' next) : l.shape.Supplies l'.shape point next := by
  cases h with
  | hears _ _ hhears hnext =>
    exact (Shape.Draws.idle (by rw [hhears.shape_eq]; exact ⟨rfl, rfl⟩) hnext).supplies
  | watches _ hnext => exact (Shape.Draws.single ⟨rfl, rfl⟩ hnext rfl).supplies
  | drains hnext => exact (Shape.Draws.single ⟨rfl, rfl⟩ hnext rfl).supplies
  | loses _ hloses => exact (Shape.Draws.goes hloses.stocks).supplies
  | sends _ _ hnext =>
    exact (Shape.Draws.idle (by rw [Layout.shape_ask]; exact ⟨rfl, rfl⟩) hnext).supplies
  | connects hconnects => exact hconnects.draws.supplies
  | disconnects hdisconnects => exact hdisconnects.draws.supplies
  | launches =>
    rename_i script program answer
    exact ⟨⟨[script], rfl, fun other hother => ⟨program, by rw [List.mem_singleton.1 hother]⟩⟩, rfl,
      fun _ _ hmem => absurd hmem List.not_mem_nil, nofun⟩
  | complies _ hsubsides => exact hsubsides.draws.supplies
  | kills _ hnext => exact (Shape.Draws.single ⟨rfl, rfl⟩ hnext rfl).supplies
  | buries hsubsides => exact hsubsides.draws.supplies
  | greets _ hnext =>
    exact (Shape.Draws.single (by rw [Layout.shape_ask]; exact ⟨rfl, rfl⟩) hnext rfl).supplies
  | abandons _ hcloses => exact (hcloses.draws.under rfl).supplies
  | refuses _ hcloses => exact (hcloses.draws.under rfl).supplies
  | welcomes => exact (Shape.Draws.goes (by rw [Layout.shape_welcome]; exact ⟨rfl, rfl⟩)).supplies
  | parts _ hcloses =>
    have hdraws := hcloses.draws
    rw [Layout.shape_tellOf] at hdraws
    exact (hdraws.under rfl).supplies
  | closed =>
    exact (Shape.Draws.goes (by simp [Shape.Stocks, Shape.reset, Shape.setStage])).supplies
  | comes _ hnext => exact (Shape.Draws.single ⟨rfl, rfl⟩ hnext rfl).supplies
  | vacates _ hvacates =>
    cases hvacates with
    | vacant => exact (Shape.Draws.under (.goes ⟨rfl, rfl⟩) rfl).supplies
    | leaves _ hleaves =>
      have hdraws := hleaves.draws
      rw [Layout.shape_vacate] at hdraws
      exact ((hdraws.under rfl).under rfl).supplies
  | renews hrenews =>
    have hdraws := hrenews.draws
    rw [Layout.shape_addBond] at hdraws
    have hinner : l.shape.Draws l'.shape _ := ⟨hdraws.stocks, hdraws.starting, hdraws.head⟩
    exact (hinner.under rfl).supplies
  | _ =>
    refine (Shape.Draws.goes ?_).supplies
    simp [Shape.Stocks, Shape.carry, Shape.setTrack, Shape.reset, Shape.setStage]

/-! ## Processes that are done with -/

/-- A process has ended, or cannot be asked to end. -/
def Layout.Done (l : Layout) (f : Facts) (process : Nat) : Prop :=
  f.ended process ∨ (l.shape.scripts[process]?).any (·.isUnreachable)

/-- A process has ended, or cannot be asked to end. -/
def done (w : World) (process : Nat) : Prop :=
  w.layout.Done w.facts process

/-- A process that is done with stays so when a task acts. -/
theorem Acts.done {counter : Counter} {w w' : World} {point : Point} {outcome : Outcome}
    {rest aside : List Point} {next : Next} (hacts : Acts counter w w' point outcome rest aside next)
    (process : Nat) (h : w.done process) : w'.done process := by
  refine h.imp (hacts.grows.ended process) fun hbarred => ?_
  obtain ⟨launched, hscripts, -⟩ := hacts.course.supplies.scripts
  rw [hscripts]
  obtain ⟨script, hscript, hunreachable⟩ := (Option.any_eq_true ..).1 hbarred
  rw [Tasks.getElem?_append_of_some hscript]
  exact hunreachable

/-- A process that is done with stays so where nobody acts. -/
theorem Drifts.done {w w' : World} {notice : Option (Nat × String × Value)} (h : Drifts w w' notice)
    (process : Nat) (hdone : w.done process) : w'.done process := by
  refine hdone.imp (h.grows.ended process) fun hbarred => ?_
  rwa [h.shape_eq]

/-! ## Where every program can be asked to end -/

/-- Every program can be asked to end, also those that have started or are about to. -/
structure Reachable (w : World) : Prop where
  /-- Those that have started, and those to come. -/
  programs : ∀ script ∈ w.layout.shape.scripts ++ w.layout.shape.companions,
    script.isUnreachable = false
  /-- Those that are about to start. -/
  starting : ∀ script program, .program (.starting script program) ∈ w.places →
    script.isUnreachable = false

namespace Reachable

variable {Γ : Ledger} {counter : Counter} {w w' : World} {point : Point} {outcome : Outcome}
  {rest aside : List Point} {next : Next}

theorem acts (hacts : Acts counter w w' point outcome rest aside next) (h : Reachable w) :
    Reachable w' := by
  obtain ⟨⟨launched, hscripts, hlaunched⟩, hcompanions, hstarting, -⟩ := hacts.course.supplies
  have hbefore : ∀ script program, .program (.starting script program) ∈ point :: rest ++ aside →
      script.isUnreachable = false := by
    intro script program hmem
    refine h.starting script program (hacts.before.mem_iff.2 ?_)
    rcases List.mem_append.1 hmem with hmem | hmem
    · exact List.mem_append_left _ (List.mem_filter.2 ⟨hmem, rfl⟩)
    · exact List.mem_append_right _ hmem
  refine ⟨fun script hscript => ?_, fun script program hmem => ?_⟩
  · rw [hscripts, hcompanions, List.append_assoc, List.mem_append, List.mem_append] at hscript
    rcases hscript with hold | hnew | hcoming
    · exact h.programs script (List.mem_append_left _ hold)
    · obtain ⟨program, rfl⟩ := hlaunched script hnew
      exact hbefore script program List.mem_cons_self
    · exact h.programs script (List.mem_append_right _ hcoming)
  · rw [hacts.after.mem_iff, List.mem_append, List.mem_filter, List.mem_append] at hmem
    rcases hmem with ⟨hnext | hrest, -⟩ | haside
    · rcases hstarting script program hnext with hcoming | rfl
      · exact h.programs script (List.mem_append_right _ hcoming)
      · rfl
    · exact hbefore script program (List.mem_append_left _ (List.mem_cons_of_mem _ hrest))
    · exact hbefore script program (List.mem_append_right _ haside)

theorem undergo (h : Reachable w) (hordered : Ordered counter Γ w) (incident : Incident) :
    Reachable (w.undergo counter incident) := by
  rcases hordered.shifts incident with heq | ⟨_, _, _, _, _, -, hacts⟩ | hdrifts
  · rwa [heq]
  · exact h.acts hacts
  · refine ⟨by rw [hdrifts.shape_eq]; exact h.programs, fun script program hmem => ?_⟩
    exact h.starting script program (hdrifts.places.mem_iff.1 hmem)

theorem undergoAll (h : Reachable w) (hordered : Ordered counter Γ w) (incidents : List Incident) :
    Reachable (w.undergoAll counter incidents) := by
  induction incidents generalizing Γ w with
  | nil => exact h
  | cons incident rest ih =>
    obtain ⟨Γ', -, -, hordered'⟩ := hordered.undergo incident
    exact ih (h.undergo hordered incident) hordered'

/-- A process that is done with has ended. -/
theorem ended {process : Nat} (h : Reachable w) (hdone : w.done process) : w.facts.ended process := by
  refine hdone.resolve_right fun hbarred => ?_
  obtain ⟨script, hscript, hunreachable⟩ := (Option.any_eq_true ..).1 hbarred
  rw [h.programs script (List.mem_append_left _ (List.mem_of_getElem? hscript))] at hunreachable
  cases hunreachable

end Reachable

end BasiliskServer.World
