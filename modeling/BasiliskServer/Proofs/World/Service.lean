import BasiliskServer.Proofs.World.Coherence

/-!
# What the kept connection is good for

To the documents the kept connection is one of three things (`Service`): it is good for nothing, what
is said waits in it until its process is ready, or what is said reaches its process. All that happens
in a world is, seen this way, one of six kinds of deeds (`Deed`): the editor edits a document, and the
service learns of it; a connection begins to start; it becomes ready, and what has waited reaches the
process; the open documents are announced; between these two nothing happens; or what happens is
aside from all this.
-/

namespace BasiliskServer.World

open Json (Value Fields)

/-- What notifications say about documents. -/
def heard (queue : List (String × Value)) : List (String × Sync) :=
  queue.filterMap fun entry => Sync.ofNotification? entry.1 entry.2

/-- What the kept connection is good for. -/
inductive Service where
  /-- Nothing that is said about documents reaches a process. -/
  | none
  /-- What is said waits until the process is ready. -/
  | starting (waiting : List (String × Sync))
  /-- What is said reaches the process. -/
  | ready (process : Nat)
  deriving DecidableEq

/-- What is said when an open document is announced. -/
def Sheet.opening (sheet : Sheet) : String × Sync :=
  (sheet.uri, .opened sheet.text sheet.version)

namespace View

/-- What the kept connection is good for. -/
def service (v : View) : Service :=
  match v.keeper.connection.bind (v.links[·]?) with
  | .none => .none
  | some link =>
    match link.phase with
    | .starting => .starting (heard link.queue)
    | .ready => ((link.channel.bind (v.lines[·]?)).bind (·.process)).elim .none .ready
    | _ => .none

/-- The text and the version of an open document. -/
def content? (v : View) (uri : String) : Option (String × Int) :=
  (v.sheets.find? (·.uri = uri)).map fun sheet => (sheet.text, sheet.version)

/-- No document is open twice. -/
def Distinct (v : View) : Prop :=
  (v.sheets.map (·.uri)).Nodup

/-- What is said reaches whom the service reaches. -/
def Learns (v : View) (said : List (String × Sync)) (next : View) : Prop :=
  match v.service with
  | .none => next.service = .none ∧ next.syncs = v.syncs
  | .starting waiting => next.service = .starting (waiting ++ said) ∧ next.syncs = v.syncs
  | .ready process =>
    next.service = .ready process ∧ next.syncs = v.syncs ++ said.map fun entry => (process, entry)

/-- One document is edited. -/
structure Edits (v : View) (uri : String) (sync : Sync) (next : View) : Prop where
  /-- It has the text and the version that are said, or is closed; the others are as they were. -/
  content? : ∀ other, next.content? other =
    if other = uri then sync.content? else v.content? other
  /-- No document is open twice. -/
  distinct : v.Distinct → next.Distinct

/-- The documents and what was told of them are the same, and the kept connection serves them as
before or not at all. -/
structure Aside (v next : View) : Prop where
  /-- The documents. -/
  sheets : next.sheets = v.sheets
  /-- What was told. -/
  syncs : next.syncs = v.syncs
  /-- What the kept connection is good for. -/
  service : next.service = v.service ∨ next.service = .none

end View

/-- What happens, seen from the documents. The flags say whether the open documents are about to be
announced, before and afterwards; the edit is what the editor does to a document. -/
inductive Deed (v : View) : Bool → Option (String × Sync) → View → Bool → Prop where
  /-- It does not concern the documents. -/
  | aside {next : View} (haside : v.Aside next) : Deed v false none next false
  /-- A connection begins to start. -/
  | begin {next : View} (hsheets : next.sheets = v.sheets) (hsyncs : next.syncs = v.syncs)
    (hnone : v.service = .none) (hservice : next.service = .starting []) :
    Deed v false none next false
  /-- The editor edits a document. -/
  | edit {next : View} {uri : String} {sync : Sync} (hedits : v.Edits uri sync next)
    (hlearns : v.Learns [(uri, sync)] next) : Deed v false (some (uri, sync)) next false
  /-- The connection becomes ready, and what has waited reaches the process. -/
  | ready {next : View} {waiting : List (String × Sync)} {process : Nat}
    (hsheets : next.sheets = v.sheets) (hkept : next.keeper.connection = v.keeper.connection)
    (hstarting : v.service = .starting waiting) (hnew : v.IsNew process)
    (hready : next.service = .ready process)
    (hsyncs : next.syncs = v.syncs ++ waiting.map fun entry => (process, entry)) :
    Deed v false none next true
  /-- Nothing happens between becoming ready and announcing the documents. -/
  | pass {next : View} (hsheets : next.sheets = v.sheets) (hsyncs : next.syncs = v.syncs)
    (hservice : next.service = v.service) : Deed v true none next true
  /-- The open documents are announced. -/
  | announce {next : View} (hsheets : next.sheets = v.sheets)
    (hlearns : v.Learns (v.sheets.map Sheet.opening) next) : Deed v true none next false

namespace View

variable {v v' v'' : View}

theorem Aside.refl (v : View) : v.Aside v :=
  ⟨rfl, rfl, .inl rfl⟩

theorem Aside.trans (h : v.Aside v') (h' : v'.Aside v'') : v.Aside v'' where
  sheets := h'.sheets.trans h.sheets
  syncs := h'.syncs.trans h.syncs
  service := by
    rcases h'.service with heq | hnone
    · rw [heq]
      exact h.service
    · exact .inr hnone

theorem Learns.trans {said said' : List (String × Sync)} (h : v.Learns said v')
    (h' : v'.Learns said' v'') : v.Learns (said ++ said') v'' := by
  unfold Learns at h ⊢
  split at h
  all_goals
    obtain ⟨hservice, hsyncs⟩ := h
    rw [Learns, hservice] at h'
    obtain ⟨hservice', hsyncs'⟩ := h'
    rw [hservice', hsyncs', hsyncs]
    simp

theorem Learns.of_nothing (hservice : v'.service = v.service) (hsyncs : v'.syncs = v.syncs) :
    v.Learns [] v' := by
  unfold Learns
  split <;> simp_all

/-- What waits afterwards waited before, except for what is said. -/
theorem Learns.of_starting {said waiting : List (String × Sync)} (h : v.Learns said v')
    (hwaiting : v'.service = .starting waiting) :
    ∃ before, v.service = .starting before ∧ waiting = before ++ said := by
  unfold Learns at h
  split at h
  · rw [h.1] at hwaiting
    cases hwaiting
  · rename_i before hservice
    rw [h.1] at hwaiting
    cases hwaiting
    exact ⟨before, hservice, rfl⟩
  · rw [h.1] at hwaiting
    cases hwaiting

/-- What is said reaches the process that is served. -/
theorem Learns.of_ready {said : List (String × Sync)} {process : Nat} (h : v.Learns said v')
    (hready : v'.service = .ready process) :
    v.service = .ready process ∧
      v'.syncs = v.syncs ++ said.map fun entry => (process, entry) := by
  unfold Learns at h
  split at h
  · rw [h.1] at hready
    cases hready
  · rw [h.1] at hready
    cases hready
  · rename_i process' hservice
    rw [h.1] at hready
    cases hready
    exact ⟨hservice, h.2⟩

/-- Saying nothing is aside. -/
theorem Learns.aside (h : v.Learns [] v') (hsheets : v'.sheets = v.sheets) : v.Aside v' := by
  unfold Learns at h
  refine ⟨hsheets, ?_, .inl ?_⟩ <;> split at h <;> simp_all

/-! ## Changes of the view -/

/-- What the kept connection is good for depends on how far it is and where it leads. -/
theorem service_congr (hkept : v'.keeper.connection = v.keeper.connection)
    (hlinks : ∀ number, v.keeper.connection = some number → v'.links[number]? = v.links[number]?)
    (hlines : ∀ (number : Nat) (link : Link) (channel : Nat), v.links[number]? = some link →
      link.phase = .ready → link.channel = some channel → v'.lines[channel]? = v.lines[channel]?) :
    v'.service = v.service := by
  unfold service
  rw [hkept]
  cases hconnection : v.keeper.connection with
  | none => rfl
  | some number =>
    simp only [Option.bind_some, hlinks number hconnection]
    cases hlink : v.links[number]? with
    | none => rfl
    | some link =>
      obtain ⟨phase, channel, queue⟩ := link
      cases phase with
      | ready =>
        cases channel with
        | none => rfl
        | some channel => simp [hlines number _ channel hlink rfl rfl]
      | _ => rfl

theorem service_setKeeper {change : Keeper → Keeper}
    (hsame : (change v.keeper).connection = v.keeper.connection) :
    (v.setKeeper change).service = v.service :=
  service_congr hsame (fun _ _ => rfl) fun _ _ _ _ _ _ => rfl

theorem aside_setKeeper {change : Keeper → Keeper}
    (hsame : (change v.keeper).connection = v.keeper.connection) : v.Aside (v.setKeeper change) :=
  ⟨rfl, rfl, .inl (service_setKeeper hsame)⟩

theorem aside_release {change : Keeper → Keeper} (hnone : (change v.keeper).connection = none) :
    v.Aside (v.setKeeper change) :=
  ⟨rfl, rfl, .inr (by simp [service, setKeeper, hnone])⟩

theorem aside_setLine {channel : Nat} {change : Line → Line}
    (hled : ∀ (number : Nat) (link : Link), v.links[number]? = some link → link.phase = .ready →
      link.channel ≠ some channel) : v.Aside (v.setLine channel change) := by
  refine ⟨rfl, rfl, .inl (service_congr rfl (fun _ _ => rfl) ?_)⟩
  intro number link leading hlink hphase hleads
  have hne : channel ≠ leading := fun heq => hled number link hlink hphase (heq ▸ hleads)
  rw [lines_setLine]
  simp [hne]

theorem aside_setLink {number : Nat} {change : Link → Link}
    (hceases : ∀ link, v.links[number]? = some link →
      (change link).phase ≠ .starting ∧ (change link).phase ≠ .ready) :
    v.Aside (v.setLink number change) := by
  refine ⟨rfl, rfl, ?_⟩
  by_cases hkept : v.keeper.connection = some number
  · -- it was the kept connection
    refine .inr ?_
    have hsame : (v.setLink number change).keeper.connection = some number := hkept
    unfold service
    rw [hsame, Option.bind_some, links_setLink]
    cases hlink : v.links[number]? with
    | none => rfl
    | some link =>
      obtain ⟨hstarting, hready⟩ := hceases link hlink
      simp only [Option.map_some, if_true]
  · refine .inl (service_congr rfl (fun other hother => ?_) fun _ _ _ _ _ _ => rfl)
    have hne : number ≠ other := by
      rintro rfl
      exact hkept hother
    rw [links_setLink]
    simp [hne]

end View

/-- The turns that the keeper gives do not concern the documents. -/
theorem Deed.of_setKeeper {v next : View} {change : Keeper → Keeper} {announcing announcing' : Bool}
    {edit : Option (String × Sync)} (hsame : (change v.keeper).connection = v.keeper.connection)
    (h : Deed (v.setKeeper change) announcing edit next announcing') :
    Deed v announcing edit next announcing' := by
  have hservice := View.service_setKeeper hsame
  cases h with
  | aside haside => exact .aside ((View.aside_setKeeper hsame).trans haside)
  | begin hsheets hsyncs hnone hstarting => exact .begin hsheets hsyncs (hservice ▸ hnone) hstarting
  | edit hedits hlearns =>
    rw [View.Learns, hservice] at hlearns
    exact .edit ⟨hedits.content?, hedits.distinct⟩ hlearns
  | ready hsheets hkept hstarting hnew hready hsyncs =>
    exact .ready hsheets (hkept.trans hsame) (hservice ▸ hstarting) hnew hready hsyncs
  | pass hsheets hsyncs hsameService => exact .pass hsheets hsyncs (hsameService.trans hservice)
  | announce hsheets hlearns =>
    rw [View.Learns, hservice] at hlearns
    exact .announce hsheets hlearns

namespace View

variable {v v' v'' : View}

/-! ## Notifications -/

theorem heard_append (queue queue' : List (String × Value)) :
    heard (queue ++ queue') = heard queue ++ heard queue' := by
  simp [heard]

/-- What is handed to the process of an open channel reaches it. -/
theorem hand_eq {channel process : Nat} {owner : Owner}
    (hline : v.lines[channel]? = some ⟨some process, false, owner⟩)
    (hlt : process < v.processCount) (method : String) (params : Value) :
    v.hand channel method params =
      { v with
        syncs := v.syncs ++ (heard [(method, params)]).map fun entry => (process, entry) } := by
  simp only [hand, hline, tell, hlt, if_true, heard, List.filterMap_cons, List.filterMap_nil]
  cases Sync.ofNotification? method params <;> simp

theorem handAll_eq {channel process : Nat} {owner : Owner}
    (hline : v.lines[channel]? = some ⟨some process, false, owner⟩)
    (hlt : process < v.processCount) (queue : List (String × Value)) :
    v.handAll channel queue =
      { v with syncs := v.syncs ++ (heard queue).map fun entry => (process, entry) } := by
  induction queue generalizing v with
  | nil => simp [handAll, heard]
  | cons entry rest ih =>
    have hfirst := hand_eq hline hlt entry.1 entry.2
    rw [handAll, List.foldl_cons, hfirst]
    refine (ih ?_ ?_).trans ?_
    · exact hline
    · exact hlt
    · have hheard : heard (entry :: rest) = heard [entry] ++ heard rest := heard_append [entry] rest
      simp [hheard]

end View

namespace Coherent

variable {v : View} {pts : List Point}

/-- A connection that is ready is the kept one, and what is said reaches its process. -/
theorem service_of_ready (h : Coherent v pts) {number : Nat} {link : Link}
    (hlink : v.links[number]? = some link) (hphase : link.phase = .ready) :
    ∃ channel process, link.channel = some channel ∧
      v.lines[channel]? = some ⟨some process, false, .connection number⟩ ∧
      process < v.processCount ∧ v.service = .ready process := by
  obtain ⟨channel, process, hchannel, hline, hlt⟩ := h.served number link hlink hphase
  refine ⟨channel, process, hchannel, hline, hlt, ?_⟩
  have hkept := h.kept number (.inr ⟨link, hlink, hphase⟩)
  simp [View.service, hkept, hlink, hphase, hchannel, hline]

/-- A connection that is starting is the kept one, and what is said waits in it. -/
theorem service_of_starting (h : Coherent v pts) {number : Nat} {link : Link}
    (hlink : v.links[number]? = some link) (hphase : link.phase = .starting) :
    v.service = .starting (heard link.queue) := by
  have hkept := h.kept number (.inl ⟨link, hlink, hphase⟩)
  simp [View.service, hkept, hlink, hphase]

/-- A notification that is passed on reaches whom the service reaches. -/
theorem forward (h : Coherent v pts) (method : String) (params : Value) :
    Coherent (v.forward method params) pts ∧ (v.forward method params).sheets = v.sheets ∧
      v.Learns (heard [(method, params)]) (v.forward method params) := by
  have hnothing : v.service = .none → v.forward method params = v →
      Coherent (v.forward method params) pts ∧ (v.forward method params).sheets = v.sheets ∧
        v.Learns (heard [(method, params)]) (v.forward method params) := by
    intro hservice heq
    rw [heq, View.Learns, hservice]
    exact ⟨h, rfl, rfl, rfl⟩
  -- Only a connection that is starting or ready takes
  -- the notification, in its queue or to its process.
  cases hkept : v.keeper.connection with
  | none => exact hnothing (by simp [View.service, hkept]) (by simp [View.forward, hkept])
  | some number =>
    cases hlink : v.links[number]? with
    | none =>
      exact hnothing (by simp [View.service, hkept, hlink]) (by simp [View.forward, hkept, hlink])
    | some link =>
      cases hphase : link.phase with
      | stopped =>
        exact hnothing (by simp [View.service, hkept, hlink, hphase])
          (by simp [View.forward, hkept, hlink, hphase])
      | stopping =>
        exact hnothing (by simp [View.service, hkept, hlink, hphase])
          (by simp [View.forward, hkept, hlink, hphase, View.notify])
      | starting =>
        have heq : v.forward method params =
            v.setLink number fun l => { l with queue := l.queue ++ [(method, params)] } := by
          simp [View.forward, hkept, hlink, hphase, View.notify]
        have hservice : (v.forward method params).service =
            .starting (heard (link.queue ++ [(method, params)])) := by
          rw [heq]
          have hsame : (v.setLink number fun l =>
            { l with queue := l.queue ++ [(method, params)] }).keeper.connection = some number := hkept
          simp [View.service, hsame, View.links_setLink, hlink, hphase]
        rw [View.Learns, h.service_of_starting hlink hphase, hservice, View.heard_append, heq]
        exact ⟨h.setQueue number (· ++ [(method, params)]), rfl, rfl, rfl⟩
      | ready =>
        obtain ⟨channel, process, hchannel, hline, hlt, hservice⟩ := h.service_of_ready hlink hphase
        have heq : v.forward method params = { v with
            syncs := v.syncs ++ (heard [(method, params)]).map fun entry => (process, entry) } := by
          rw [← View.hand_eq hline hlt]
          have hroom := h.unlimited link (List.mem_of_getElem? hlink)
          have hfree : obstacle? link.room (method, params) = none := by rw [hroom]; rfl
          simp [View.forward, hkept, hlink, hphase, hchannel, View.notify, hfree]
        rw [View.Learns, hservice, heq]
        refine ⟨h.hear ?_ (h.not_starting ⟨link, hlink, hphase⟩), rfl, hservice, rfl⟩
        intro entry hentry
        obtain ⟨_, -, rfl⟩ := List.mem_map.1 hentry
        exact hlt

/-- The parameters with which a document is announced say that it is open. -/
theorem heard_openParams (document : Diagnostics.Document) :
    heard [("textDocument/didOpen", openParams document)] = [(sheetOf document).opening] :=
  rfl

/-- Documents that are announced become known to whom the service reaches. -/
theorem announce (h : Coherent v pts) (documents : List Diagnostics.Document) :
    Coherent (v.announce documents) pts ∧ (v.announce documents).sheets = v.sheets ∧
      v.Learns (documents.map fun document => (sheetOf document).opening)
        (v.announce documents) := by
  induction documents generalizing v with
  | nil => exact ⟨h, rfl, .of_nothing rfl rfl⟩
  | cons document rest ih =>
    obtain ⟨hcoherent, hsheets, hlearns⟩ :=
      h.forward "textDocument/didOpen" (openParams document)
    obtain ⟨hcoherent', hsheets', hlearns'⟩ := ih hcoherent
    rw [View.announce, List.foldl_cons]
    refine ⟨hcoherent', hsheets'.trans hsheets, ?_⟩
    rw [heard_openParams] at hlearns
    exact hlearns.trans hlearns'

/-- A connection becomes ready, and what has waited in it reaches the process. -/
theorem flush (h : Coherent v pts) (hno : ∀ point ∈ pts, point.isStart = false)
    {number channel : Nat} {link : Link} (hlink : v.links[number]? = some link)
    (hphase : link.phase = .starting) (hlaunches : v.Launches number channel)
    (hprocess : v.HasProcess channel) :
    Coherent ((v.setLink number fun l => { l with phase := .ready, queue := [] }).handAll channel
        link.queue) pts ∧
      Deed v false none ((v.setLink number fun l =>
        { l with phase := .ready, queue := [] }).handAll channel link.queue) true := by
  obtain ⟨process, hline, hnew, hready⟩ :=
    h.becomeReady hno hlaunches ⟨link, hlink, hphase⟩ hprocess
  have hlink' : (v.setLink number fun l => { l with phase := .ready, queue := [] }).links[number]? =
      some { link with phase := .ready, queue := [] } := by
    rw [View.links_setLink, hlink]
    simp
  obtain ⟨channel', process', hchannel', hline', hlt, hservice⟩ :=
    hready.service_of_ready hlink' rfl
  obtain ⟨link₀, line₀, hlink₀, -, -, -, hstarting⟩ := hlaunches
  rw [hlink] at hlink₀
  obtain rfl := Option.some.inj hlink₀
  -- The process that is told is the one that the connection was started with.
  have hsame : channel' = channel := by
    rw [show link.channel = some channel' from hchannel'] at hstarting
    exact Option.some.inj (hstarting hphase).1
  subst hsame
  rw [show v.lines[channel']? = some ⟨some process', false, .connection number⟩ from hline'] at hline
  obtain rfl : process' = process := by
    simpa using hline
  rw [View.handAll_eq hline' hlt]
  refine ⟨hready.hear ?_ (hready.not_starting ⟨_, hlink', rfl⟩), ?_⟩
  · intro entry hentry
    obtain ⟨_, -, rfl⟩ := List.mem_map.1 hentry
    exact hlt
  · exact .ready rfl rfl (h.service_of_starting hlink hphase) hnew hservice rfl

/-- When a connection is made and started, what is said waits in it. -/
theorem service_arise (change : Keeper → Keeper)
    (hkept : (change v.keeper).connection = some v.links.length) :
    (v.arise change).service = .starting [] := by
  simp [View.service, View.arise, hkept, heard]

end Coherent

end BasiliskServer.World
