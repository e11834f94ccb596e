import BasiliskServer.Proofs.World.Handshake

/-!
# What a process is told in a run

Whatever happens to a connection that one task at a time starts or stops, each of its processes is told
what `Tale` says: the first request, and nothing else before it was answered with success; then what has
waited, then what is sent while the connection is ready, and at last the farewell
(`process_conversation`). What one incident preserves is `Annals.undergo`; the run is an induction on it.
-/

namespace BasiliskServer.World

open Json (Value Fields)

variable {fresh w w' : World} {incident : Incident} {incidents : List Incident}

namespace Annals

/-- Where nothing acts and nothing is sent, nothing is said. -/
theorem idles (h : Annals fresh incidents w) (hstep : w.undergo .connections incident = w')
    (hserial : Serial sticks w'.layout.shape w'.hinge? w'.handlers)
    (hspoken : w'.layout.spoken = w.layout.spoken) (hwires : w'.layout.wires = w.layout.wires)
    (hshape : w'.layout.shape = w.layout.shape)
    (hissue : ∀ channel, w.layout.shape.IsAt 0 .ready (some channel) → w.issue? incident = none)
    (hhinge : ∀ point outcome, w'.hinge? = some (point, outcome) → w.hinge? = some (point, outcome))
    (hhandlers : ∀ point ∈ w'.handlers, point ∈ w.handlers) :
    Annals fresh (incidents ++ [incident]) w' := by
  have hasked := Layout.asked_of_wires hwires
  refine h.silent hstep hserial hspoken (Nat.le_of_eq (congrArg (·.scripts.length) hshape.symm))
    (fun channel _ => hasked channel) (fun channel process hat hcarries => ?_) hissue
    (fun channel process hgiven => ?_) fun point hpoint => ?_
  · rw [hshape] at hat hcarries
    exact ⟨hat, hcarries⟩
  · exact h.given channel process (hhinge _ _ hgiven)
  · exact (h.handled point (hhandlers point hpoint)).keep (Layout.told_of_spoken hspoken) hasked
      (fun channel process hcarries => by rwa [hshape] at hcarries) [incident]

/-- Nobody acts, and nothing is passed to the connection. -/
theorem drifts (h : Annals fresh incidents w) (hserial : Serial sticks w.layout.shape w.hinge? w.handlers)
    {notice : Option (Nat × String × Value)} (hdrifts : Drifts w (w.undergo .connections incident) notice)
    (hspoken : (w.undergo .connections incident).layout.spoken = w.layout.spoken)
    (hissue : ∀ channel, w.layout.shape.IsAt 0 .ready (some channel) → w.issue? incident = none) :
    Annals fresh (incidents ++ [incident]) (w.undergo .connections incident) := by
  refine h.idles rfl (hserial.drifts hdrifts) hspoken hdrifts.wires_eq hdrifts.shape_eq hissue
    (fun point outcome hhinge => ?_) fun point hpoint => (hdrifts.places.filter _).mem_iff.1 hpoint
  obtain ⟨hacting, hisHinge⟩ := Option.filter_eq_some_iff.1 hhinge
  rw [hdrifts.presents _ _ hacting] at hisHinge
  cases hisHinge

/-- A notification is passed to the connection, which is ready, while no task runs. -/
theorem notified_ready (h : Annals fresh incidents w) (hattentive : Attentive w) {number channel : Nat}
    {method : String} {params : Value} (hidle : w.tasks.running = none)
    (hready : w.layout.IsReady number channel)
    (hl' : (w.undergo .connections (.notify number method params)).layout = w.layout.say channel
      (written? (w.layout.room number) (Rpc.notificationMessage method params)))
    {notice : Option (Nat × String × Value)}
    (hdrifts : Drifts w (w.undergo .connections (.notify number method params)) notice) :
    Annals fresh (incidents ++ [.notify number method params])
      (w.undergo .connections (.notify number method params)) := by
  have hat := hready.isAt
  obtain ⟨rfl, process, hreaches⟩ := hattentive.of_ready hready
  have hissue : w.issue? (.notify 0 method params) = some (.notification w.room method params) := by
    simp [issue?, hidle]
  rw [layout_room] at hl'
  refine h.sends rfl (Serial.drifts hdrifts hattentive.serial) hat hreaches hdrifts.shape_eq hissue ?_ ?_
    ?_ ?_ fun channel process hhinge => ?_
  · rw [hl']
    exact h.known.say _ _
  · rw [hl', Layout.told_say_self hreaches, messages, messages, List.append_nil]
    rfl
  · rw [hl']
    exact fun other hother => Layout.told_say_other hother _
  · exact Layout.asked_of_wires hdrifts.wires_eq _
  · cases hdrifts.presents _ _ (Option.filter_eq_some_iff.1 hhinge).1

/-- A notification is passed to the connection while no task runs. -/
theorem notified (h : Annals fresh incidents w) (hattentive : Attentive w) {number : Nat}
    {method : String} {params : Value} (hidle : w.tasks.running = none)
    (hnotifies : w.layout.Notifies number method params
      (w.undergo .connections (.notify number method params)).layout)
    {notice : Option (Nat × String × Value)}
    (hdrifts : Drifts w (w.undergo .connections (.notify number method params)) notice) :
    Annals fresh (incidents ++ [.notify number method params])
      (w.undergo .connections (.notify number method params)) := by
  have hquiet := h.drifts hattentive.serial hdrifts
  have hsends : ∀ {channel : Nat}, w.layout.IsReady number channel → _ :=
    fun hready hl' => h.notified_ready hattentive hidle hready hl' hdrifts
  generalize hl' : (w.undergo .connections (.notify number method params)).layout = l' at hnotifies hsends
  -- There is one connection, so whatever is told, dropped or kept concerns that one.
  cases hnotifies with
  | tells hready hroom =>
    refine hsends hready ?_
    rw [written?_of_obstacle?_eq_none hroom]
    rfl
  | refuses hready hroom =>
    refine hsends hready ?_
    rw [written?_of_obstacle?_ne_none hroom, Layout.say_none]
  | drops hnone =>
    refine hquiet (by rw [hl']) fun channel hready => ?_
    rcases hnone with hnone | hstopping
    · cases number with
      | zero =>
        obtain ⟨bond, hbond⟩ := hattentive.exists_bond
        cases hnone.symm.trans hbond
      | succ number => rfl
    · obtain ⟨line, hat⟩ := Layout.isIn_iff.1 hstopping
      obtain rfl := hattentive.lone.eq_zero hat
      cases (hat.unique hready).1
  | queues hbond hphase hnever =>
    rename_i bond
    refine hquiet (by rw [hl']; rfl) fun channel hready => ?_
    have hat : w.layout.shape.stages[number]? = some bond.stage := Layout.stage_of_bond hbond
    obtain rfl := hattentive.lone.eq_zero hat
    have hstage : bond.stage = ⟨.ready, some channel⟩ := Option.some.inj (hat.symm.trans hready)
    exact absurd ⟨bond, hbond, congrArg Stage.phase hstage, congrArg Stage.channel hstage⟩ (hnever channel)

/-- What processes were told, whatever happens next. -/
theorem undergo (h : Annals fresh incidents w) (hattentive : Attentive w)
    (hqueues : Queues fresh incidents w) (halone : w.startsAndStopsAlone incident = true) :
    Annals fresh (incidents ++ [incident]) (w.undergo .connections incident) := by
  obtain ⟨Γ, hordered⟩ := hattentive.ordered
  have hattentive' := hattentive.undergo halone
  rcases hordered.turns incident with ⟨point, outcome, rest, aside, next, rfl, hacts⟩ |
    ⟨hstep, hrunning, heq⟩ | ⟨hidle, number, method, params, rfl, hnotifies, hdrifts⟩ | ⟨hnotice, hdrifts⟩
  · refine h.acts hattentive hattentive' hacts hqueues fun number hpoint => ?_
    subst hpoint
    exact handlers_eq_nil_of_startsAndStopsAlone halone hacts.begins?
  · -- what happens has to wait until the task that runs has acted
    have hissue : w.issue? incident = none := by
      obtain ⟨pair, hpair⟩ := Option.isSome_iff_exists.1 hrunning
      unfold issue?
      split
      · simp [hpair]
      · exact absurd rfl hstep
      · rfl
    rw [heq]
    exact h.idles heq hattentive.serial rfl rfl rfl (fun _ _ => hissue) (fun _ _ hhinge => hhinge)
      fun _ hpoint => hpoint
  · exact h.notified hattentive hidle hnotifies hdrifts
  · refine h.drifts hattentive.serial hdrifts ?_ fun _ _ => ?_
    · rcases hdrifts.layout with hhears | ⟨_, _, _, hsome, -⟩
      · rw [hhears.rest]
      · cases hsome
    · cases incident with
      | notify number method params => cases hnotice
      | step => simp [issue?, hdrifts.acting]
      | _ => rfl

/-- What processes were told, however a run goes on. -/
theorem undergoAll {earlier later : List Incident} (h : Annals fresh earlier w) (hattentive : Attentive w)
    (hqueues : Queues fresh earlier w)
    (halone : w.allowsAll .connections startsAndStopsAlone later = true) :
    Annals fresh (earlier ++ later) (w.undergoAll .connections later) := by
  induction later generalizing w earlier with
  | nil =>
    rw [List.append_nil]
    exact h
  | cons incident rest ih =>
    obtain ⟨hfirst, hrest⟩ := allowsAll_cons.1 halone
    rw [List.append_cons]
    exact ih (h.undergo hattentive hqueues hfirst) (hattentive.undergo hfirst)
      (hqueues.undergo h.run hattentive hfirst) hrest

/-- Before anything has happened, nobody was told anything. -/
theorem ofConnection (host : Files.Host) (companions : List CompanionScript) (config : Companion.Config)
    (capabilities : Value) (greetingLimit partingLimit room : Option Nat) :
    let fresh := World.ofConnection host companions config capabilities greetingLimit partingLimit room
    Annals fresh [] fresh := by
  intro fresh
  have hstage : ∀ line, ¬ fresh.layout.shape.IsAt 0 .ready line := fun line hat => by
    cases Option.some.inj hat
  refine ⟨rfl, fun entry hentry => absurd hentry List.not_mem_nil, fun channel process hhinge => ?_,
    fun point hpoint => absurd hpoint List.not_mem_nil, fun channel process hat => absurd hat (hstage _),
    fun process _ => ⟨[], rfl, fun _ => .silent⟩⟩
  cases hhinge

end Annals

theorem Queues.ofConnection (host : Files.Host) (companions : List CompanionScript)
    (config : Companion.Config) (capabilities : Value) (greetingLimit partingLimit room : Option Nat) :
    let fresh := World.ofConnection host companions config capabilities greetingLimit partingLimit room
    Queues fresh [] fresh := by
  intro fresh bond hbond _
  rw [← Option.some.inj hbond]
  rfl

/-- **The conversation with a process.** Where the connection is started and stopped by one task at a
time, a process is told, answers apart, the first request, unless that cannot be written, and nothing
else until it has answered with success; then that it is welcome, then the notifications that were
accepted since the queue was last cleared, once each and in their order, up to the first one that cannot
be written, then what is sent over the connection as long as it is ready, in the order in which it is
sent and without what cannot be written, and then at most the farewell. -/
theorem process_conversation (host : Files.Host) (companions : List CompanionScript)
    (config : Companion.Config) (capabilities : Value) (greetingLimit partingLimit room : Option Nat)
    (incidents : List Incident)
    (halone : (ofConnection host companions config capabilities greetingLimit partingLimit
      room).allowsAll .connections startsAndStopsAlone incidents = true) (process : Nat) :
    let fresh := ofConnection host companions config capabilities greetingLimit partingLimit room
    ∃ sayings, (fresh.undergoAll .connections incidents).utterances process = messages 0 sayings ∧
      Tale fresh incidents process sayings := by
  intro fresh
  have hannals : Annals fresh incidents (fresh.undergoAll .connections incidents) :=
    (Annals.ofConnection host companions config capabilities greetingLimit partingLimit room).undergoAll
      (.ofConnection host companions config capabilities greetingLimit partingLimit room)
      (.ofConnection host companions config capabilities greetingLimit partingLimit room) halone
  rw [utterances_eq]
  by_cases hcurrent : ∃ channel,
      (fresh.undergoAll .connections incidents).layout.shape.IsAt 0 .ready (some channel) ∧
        (fresh.undergoAll .connections incidents).layout.shape.Carries channel process
  · obtain ⟨channel, hat, hcarries⟩ := hcurrent
    obtain ⟨sayings, hchapter, htold, -⟩ := hannals.current channel process hat hcarries
    exact ⟨sayings, htold, by simpa using hchapter.tale List.nil_prefix⟩
  · obtain ⟨sayings, htold, htale⟩ := hannals.past process fun channel hat hcarries =>
      hcurrent ⟨channel, hat, hcarries⟩
    exact ⟨sayings, htold, by simpa using htale []⟩

/-- A notification waits for the connection, then another one and a request are sent over it, and then it
is stopped; the process answers. -/
def wholeConversation : List Incident :=
  .notify 0 "early" .null :: (startedOnce ++ (Incident.step.andRest ++ .notify 0 "late" .null ::
    (Incident.call (.ask 0 "query" .null none)).andRest ++ .notify 0 "later" .null ::
      (Incident.call (.disconnect 0)).andRest ++
        (Incident.output 0 (Rpc.frame (Rpc.resultMessage (.int 3) .null))).andRest ++
          Incident.step.andRest))

theorem process_conversation_wholeConversation :
    (connectionWith [0]).allowsAll .connections startsAndStopsAlone wholeConversation = true ∧
      (((connectionWith [0]).undergoAll .connections wholeConversation).utterances 0).map
        (fun message => (Value.object message).textAt "method") =
          ["initialize", "initialized", "early", "late", "query", "later", "shutdown", "exit"] ∧
      ∃ sayings, ((connectionWith [0]).undergoAll .connections wholeConversation).utterances 0 =
        messages 0 sayings ∧ Tale (connectionWith [0]) wholeConversation 0 sayings := by
  have halone : (connectionWith [0]).allowsAll .connections startsAndStopsAlone wholeConversation = true := by
    decide +kernel
  exact ⟨halone, by decide +kernel, process_conversation {} ([0].map lateScript) { path := "clangd" } .null
    (some 10000) (some 2000) none wholeConversation halone 0⟩

/-- Two notifications wait for the connection, the first one with a text that has no bytes, and the
process is about to answer the greeting. -/
def brokenFirst : List Incident :=
  .notify 0 "broken" (.broken [.half 0xD800]) :: .notify 0 "plain" .null ::
    (startCalled ++ .step :: introduction)

/-- A notification that cannot be written takes those behind it along: both wait until the process has
answered, but then it is told neither of them, and whoever starts the connection fails, although the
connection is ready. -/
theorem waiting_lost_brokenFirst :
    let fresh := ofConnection {} [lateScript 0] { path := "clangd" } .null (some 10000) (some 2000)
      (some 100)
    let waiting := fresh.undergoAll .connections brokenFirst
    let ready := fresh.undergoAll .connections (brokenFirst ++ Incident.step.andRest)
    fresh.allowsAll .connections startsAndStopsAlone (brokenFirst ++ Incident.step.andRest) = true ∧
      waiting.connections.map (fun c => c.queue.map (·.1)) = [["broken", "plain"]] ∧
      waiting.greeted? = some (0, 0) ∧ ready.phaseOf? 0 = some .ready ∧
      (ready.utterances 0).map (fun message => (Value.object message).textAt "method") =
        ["initialize", "initialized"] ∧
      (ready.tasks.outcome? 0).map (·.isOk) = some false := by
  decide +kernel

end BasiliskServer.World
