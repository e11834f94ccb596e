import BasiliskServer.Proofs.World.Order

/-!
# What connections and channels are like

The layout of a world is what there is of connections, channels and processes, what processes were
told with a method, and which ends of processes were reported. Most of what the server does leaves it
as it is (`Inert`): promises are made and settled, processes write and end, tasks begin and wait. The
rest changes it in a few ways, one for each elementary change of a connection or a channel.
-/

namespace BasiliskServer.World

open Json (Value Fields)
open Tasks (Notice Scheduler)

/-! ## Layouts -/

/-- What something that is handed over says with a method; answers have none. -/
def Payload.utterance? : Payload → Option Fields
  | .message fields => if fields.has "method" then some fields else none
  | .raw _ => none

/-- The code with which a process has ended, if this is told. -/
def Event.loss? : Event → Option (Option Int)
  | .exit code => some code
  | _ => none

/-- What a connection is like. -/
structure Bond where
  /-- How far it is. -/
  phase : Phase
  /-- The channel to its process. -/
  channel : Option Nat
  /-- Notifications that wait. -/
  queue : List (String × Value)
  /-- The promise that says whether it became ready. -/
  started : Option Nat
  /-- Who is told what its process says. -/
  listener : Listener
  /-- How many levels what is sent may have. -/
  room : Option Nat
  /-- How its process is greeted. -/
  greeting : Value

/-- What a channel is like. -/
structure Pipe where
  /-- Its process. -/
  process : Option Nat
  /-- Whether it is being closed. -/
  closing : Bool
  /-- Who takes the messages of the process. -/
  owner : Owner
  /-- The requests sent through it. -/
  requests : Rpc.Requests
  /-- The promises of their answers. -/
  answers : List Nat

/-- What there is of connections, channels and processes. -/
structure Layout where
  /-- The connections. -/
  bonds : List Bond
  /-- The channels. -/
  pipes : List Pipe
  /-- The connection of the keeper. -/
  kept : Option Nat
  /-- How the processes behave. -/
  scripts : List CompanionScript
  /-- How the next processes behave. -/
  companions : List CompanionScript
  /-- What processes were told with a method. -/
  spoken : List (Nat × Fields)
  /-- The ends of processes that were reported. -/
  losses : List (Option Int)

/-- What a connection is like. -/
def Connection.bond (c : Connection) : Bond :=
  ⟨c.phase, c.channel, c.queue, c.started, c.listener, c.room,
    c.config.greeting ownProcessId c.capabilities⟩

/-- What a channel is like. -/
def Channel.pipe (c : Channel) : Pipe :=
  ⟨c.process, c.closing, c.owner, c.requests, c.answers⟩

/-- What processes were told with a method. -/
def spoken (w : World) : List (Nat × Fields) :=
  w.record.handed.filterMap fun entry => entry.2.utterance?.map (entry.1, ·)

/-- The ends of processes that were reported. -/
def losses (w : World) : List (Option Int) :=
  w.record.events.filterMap Event.loss?

/-- What there is of connections, channels and processes. -/
def layout (w : World) : Layout where
  bonds := w.connections.map Connection.bond
  pipes := w.channels.map Channel.pipe
  kept := w.keeper.connection
  scripts := w.processes.map (·.script)
  companions := w.companions
  spoken := w.spoken
  losses := w.losses

namespace Layout

/-- How many levels what a connection sends may have. -/
def room (l : Layout) (number : Nat) : Option Nat :=
  (l.bonds[number]?).bind (·.room)

/-- A connection changes. -/
def setBond (l : Layout) (number : Nat) (change : Bond → Bond) : Layout :=
  { l with bonds := l.bonds.modify number change }

/-- A channel changes. -/
def setPipe (l : Layout) (number : Nat) (change : Pipe → Pipe) : Layout :=
  { l with pipes := l.pipes.modify number change }

/-- There is another channel. -/
def addPipe (l : Layout) (owner : Owner) : Layout :=
  { l with pipes := l.pipes ++ [⟨none, false, owner, {}, []⟩] }

/-- There is another connection. -/
def addBond (l : Layout) (config : Companion.Config) (listener : Listener) : Layout :=
  { l with bonds := l.bonds ++ [({ config, listener } : Connection).bond] }

/-- There is another process. -/
def addScript (l : Layout) (script : CompanionScript) : Layout :=
  { l with scripts := l.scripts ++ [script] }

/-- A process is told something with a method, if there is the process. -/
def tell (l : Layout) (process : Nat) (said : Option Fields) : Layout :=
  if process < l.scripts.length then
    { l with spoken := l.spoken ++ (said.map (process, ·)).toList }
  else l

/-- The process of a channel is told something with a method, unless the channel is closed. -/
def say (l : Layout) (channel : Nat) (said : Option Fields) : Layout :=
  match l.pipes[channel]? with
  | some { process := some process, closing := false, .. } => l.tell process said
  | _ => l

end Layout

/-! ## Actions that leave everything as it is -/

/-- The action leaves connections and channels as they are. -/
def Inert {α : Type} (act : Act α) : Prop :=
  ∀ w : World, (act.run w).2.layout = w.layout

/-- In the world `w` the action brings about a layout, and its result satisfies `post`. -/
structure Lays {α : Type} (w : World) (l : Layout) (post : α → Prop) (act : Act α) : Prop where
  /-- The layout afterwards. -/
  layout : (act.run w).2.layout = l
  /-- What is known of the result. -/
  result : post (act.run w).1

namespace Inert

variable {α β : Type}

protected theorem pure (a : α) : Inert (pure a) :=
  fun _ => rfl

theorem seq {act : Act α} {rest : α → Act β} (hact : Inert act) (hrest : ∀ a, Inert (rest a)) :
    Inert (act >>= rest) :=
  fun w => (hrest _ _).trans (hact w)

/-- An action that looks at the world first. -/
theorem of_get {rest : World → Act β} (h : ∀ w, Inert (rest w)) : Inert (get >>= rest) :=
  fun w => h w w

theorem forM {items : List β} {act : β → Act Unit} (h : ∀ item, Inert (act item)) :
    Inert (items.forM act) := by
  induction items with
  | nil => exact .pure ()
  | cons item rest ih => exact seq (h item) fun _ => ih

theorem forM_option {item : Option β} {act : β → Act Unit} (h : ∀ i, Inert (act i)) :
    Inert (item.forM act) := by
  cases item with
  | none => exact .pure ()
  | some i => exact h i

end Inert

namespace Lays

variable {α β : Type} {w : World} {l l' : Layout} {post : α → Prop} {post' : β → Prop}

protected theorem pure {a : α} (h : post a) : Lays w w.layout post (pure a) :=
  ⟨rfl, h⟩

theorem of_inert {act : Act α} (h : Inert act) : Lays w w.layout (fun _ => True) act :=
  ⟨h w, trivial⟩

theorem bind {act : Act α} {rest : α → Act β} (h : Lays w l post act)
    (hrest : ∀ (a : α) (w' : World), w'.layout = l → post a → Lays w' l' post' (rest a)) :
    Lays w l' post' (act >>= rest) := by
  obtain ⟨hlayout, hresult⟩ := hrest _ _ h.layout h.result
  exact ⟨hlayout, hresult⟩

/-- Before the rest of an action nothing is changed. -/
theorem after {act : Act α} {rest : α → Act β} (h : Inert act)
    (hrest : ∀ (a : α) (w' : World), w'.layout = w.layout → Lays w' l' post' (rest a)) :
    Lays w l' post' (act >>= rest) :=
  (of_inert h).bind fun a w' hw' _ => hrest a w' hw'

theorem get_bind {rest : World → Act β} (h : Lays w l' post' (rest w)) :
    Lays w l' post' (get >>= rest) :=
  ⟨h.layout, h.result⟩

theorem imp {post₂ : α → Prop} {act : Act α} (h : Lays w l post act)
    (hpost : ∀ a, post a → post₂ a) : Lays w l post₂ act :=
  ⟨h.layout, hpost _ h.result⟩

end Lays

/-! ## Programs -/

theorem modifyTasks_inert
    (step : Scheduler Point Answer Hook → Scheduler Point Answer Hook) : Inert (modifyTasks step) :=
  fun _ => rfl

theorem onTasks_inert {α : Type}
    (step : Scheduler Point Answer Hook → α × Scheduler Point Answer Hook) : Inert (onTasks step) :=
  fun _ => rfl

theorem note_inert {change : Record → Record}
    (h : ∀ r, (change r).handed = r.handed ∧
      (change r).events.filterMap Event.loss? = r.events.filterMap Event.loss?) :
    Inert (note change) := by
  intro w
  show World.layout { w with record := change w.record } = w.layout
  simp [layout, spoken, losses, (h w.record).1, (h w.record).2]

theorem updateSession_inert (change : Session → Session) : Inert (updateSession change) :=
  fun _ => rfl

theorem updateProcess_inert (number : Nat) {change : Process → Process}
    (h : ∀ p, (change p).script = p.script) : Inert (updateProcess number change) := by
  intro w
  show World.layout { w with processes := w.processes.modify number change } = w.layout
  have hscripts : (w.processes.modify number change).map (·.script) = w.processes.map (·.script) :=
    map_modify_of_eq h
  rw [layout, hscripts]
  rfl

theorem wakeReader_inert (reader : Reader) : Inert (wakeReader reader) :=
  .forM_option fun _ => modifyTasks_inert _

theorem writeOutput_inert (number : Nat) (bytes : List UInt8) : Inert (writeOutput number bytes) := by
  refine .of_get fun w => ?_
  split
  · exact .pure ()
  · split
    · refine Inert.seq ?_ fun _ => wakeReader_inert _
      exact updateProcess_inert number fun _ => rfl
    · exact .pure ()

theorem writeErrors_inert (number : Nat) (bytes : List UInt8) : Inert (writeErrors number bytes) := by
  refine .of_get fun w => ?_
  split
  · exact .pure ()
  · split
    · refine Inert.seq ?_ fun _ => wakeReader_inert _
      exact updateProcess_inert number fun _ => rfl
    · exact .pure ()

theorem breakOutput_inert (number : Nat) (text : String) : Inert (breakOutput number text) := by
  refine .of_get fun w => ?_
  split
  · exact .pure ()
  · refine Inert.seq ?_ fun _ => wakeReader_inert _
    exact updateProcess_inert number fun _ => rfl

theorem quit_inert (number : Nat) (code : Int) : Inert (quit number code) := by
  refine .of_get fun w => ?_
  split
  · exact .pure ()
  · split
    · refine Inert.seq ?_ fun _ => ?_
      · exact updateProcess_inert number fun _ => rfl
      · refine (wakeReader_inert _).seq fun _ => (wakeReader_inert _).seq fun _ => ?_
        exact .forM fun _ => modifyTasks_inert _
    · exact .pure ()

theorem afterDelay_inert (delay : Nat) (hook : Hook) {now : Act Unit} (hnow : Inert now) :
    Inert (afterDelay delay hook now) := by
  unfold afterDelay
  split
  · exact hnow
  · exact (onTasks_inert _).seq fun _ => .pure ()

theorem say_inert (number : Nat) (message : Fields) (delay : Nat) : Inert (say number message delay) :=
  afterDelay_inert delay _ (writeOutput_inert _ _)

theorem carryOut_inert (number : Nat) (id : Value) (reply : Reply) :
    Inert (carryOut number id reply) := by
  cases reply with
  | result value delay => exact say_inert _ _ _
  | refusal error delay => exact say_inert _ _ _
  | quit code delay => exact afterDelay_inert delay _ (quit_inert _ _)
  | silence => exact .pure ()

theorem tellOnOpen_inert (number : Nat) (script : CompanionScript) (method : String)
    (params : Value) : Inert (tellOnOpen number script method params) := by
  unfold tellOnOpen
  split
  · refine (writeErrors_inert _ _).seq fun _ => ?_
    cases script.problemsOnOpen with
    | none => exact .pure ()
    | some problems => exact say_inert _ _ _
  · exact .pure ()

theorem receive_inert (number : Nat) (message : Fields) : Inert (receive number message) := by
  refine .of_get fun w => ?_
  split
  · exact .pure ()
  · refine Inert.seq ?_ fun _ => Inert.seq ?_ fun _ => ?_
    · exact note_inert fun _ => ⟨rfl, rfl⟩
    · exact updateProcess_inert number fun _ => rfl
    · split
      · refine (tellOnOpen_inert _ _ _ _).seq fun _ => ?_
        split
        · exact .pure ()
        · exact carryOut_inert _ _ _
      · exact .pure ()

theorem askToEnd_inert (number : Nat) : Inert (askToEnd number) := by
  refine Inert.seq ?_ fun _ => .of_get fun w => ?_
  · exact note_inert fun _ => ⟨rfl, rfl⟩
  split
  · exact .pure true
  · split
    · exact .pure false
    · split
      · exact (quit_inert number (-15)).seq fun _ => .pure true
      · exact .pure true

theorem kill_inert (number : Nat) : Inert (kill number) := by
  refine Inert.seq ?_ fun _ => quit_inert number (-9)
  exact note_inert fun _ => ⟨rfl, rfl⟩

/-! ## Elementary changes -/

theorem layout_pipes_getElem? (w : World) (number : Nat) :
    w.layout.pipes[number]? = (w.channels[number]?).map Channel.pipe := by
  simp [layout]

theorem layout_bonds_getElem? (w : World) (number : Nat) :
    w.layout.bonds[number]? = (w.connections[number]?).map Connection.bond := by
  simp [layout]

theorem pipe_of_channel {w : World} {number : Nat} {c : Channel} (hc : w.channels[number]? = some c) :
    w.layout.pipes[number]? = some c.pipe := by
  rw [layout_pipes_getElem?, hc, Option.map_some]

theorem bond_of_connection {w : World} {number : Nat} {c : Connection}
    (hc : w.connections[number]? = some c) : w.layout.bonds[number]? = some c.bond := by
  rw [layout_bonds_getElem?, hc, Option.map_some]

theorem updateConnection_lays (w : World) (number : Nat) {change : Connection → Connection}
    {change' : Bond → Bond} (h : ∀ c, (change c).bond = change' c.bond) :
    Lays w (w.layout.setBond number change') (fun _ => True) (updateConnection number change) := by
  refine ⟨?_, trivial⟩
  show World.layout { w with connections := w.connections.modify number change } = _
  simp [layout, Layout.setBond, map_modify_of_comm h, spoken, losses]

theorem updateConnection_inert (number : Nat) {change : Connection → Connection}
    (h : ∀ c, (change c).bond = c.bond) : Inert (updateConnection number change) := by
  intro w
  show World.layout { w with connections := w.connections.modify number change } = _
  simp [layout, map_modify_of_eq h, spoken, losses]

theorem updateChannel_lays (w : World) (number : Nat) {change : Channel → Channel}
    {change' : Pipe → Pipe} (h : ∀ c, (change c).pipe = change' c.pipe) :
    Lays w (w.layout.setPipe number change') (fun _ => True) (updateChannel number change) := by
  refine ⟨?_, trivial⟩
  show World.layout { w with channels := w.channels.modify number change } = _
  simp [layout, Layout.setPipe, map_modify_of_comm h, spoken, losses]

theorem updateChannel_inert (number : Nat) {change : Channel → Channel}
    (h : ∀ c, (change c).pipe = c.pipe) : Inert (updateChannel number change) := by
  intro w
  show World.layout { w with channels := w.channels.modify number change } = _
  simp [layout, map_modify_of_eq h, spoken, losses]

theorem newChannel_lays (w : World) (command : List String) (owner : Owner) :
    Lays w (w.layout.addPipe owner) (· = w.layout.pipes.length) (newChannel command owner) := by
  refine .get_bind ⟨?_, ?_⟩
  · show World.layout { w with channels := w.channels ++
        [{ command, owner, decoder := { nesting := w.host.nesting } }] } = _
    simp [layout, Layout.addPipe, Channel.pipe, spoken, losses]
  · show w.channels.length = _
    simp [layout]

theorem newConnection_lays (w : World) (config : Companion.Config) (listener : Listener) :
    Lays w (w.layout.addBond config listener) (· = w.layout.bonds.length)
      (newConnection { config, listener }) := by
  refine .get_bind ⟨?_, ?_⟩
  · show World.layout { w with connections := w.connections ++ [{ config, listener }] } = _
    simp [layout, Layout.addBond, Connection.bond, spoken, losses]
  · show w.connections.length = _
    simp [layout]

theorem updateKeeper_inert {change : Keeper → Keeper}
    (h : ∀ k, (change k).connection = k.connection) : Inert (updateKeeper change) := by
  intro w
  show World.layout { w with keeper := change w.keeper } = _
  simp [layout, h, spoken, losses]

theorem addProcess_lays (w : World) (script : CompanionScript) :
    Lays w (w.layout.addScript script) (fun _ => True)
      (modify fun w => { w with processes := w.processes ++ [{ script }] } : Act Unit) := by
  refine ⟨?_, trivial⟩
  show World.layout { w with processes := w.processes ++ [{ script }] } = _
  simp [layout, Layout.addScript, spoken, losses]

theorem writeInput_lays (w : World) (process : Nat) (payload : Payload) :
    Lays w (w.layout.tell process payload.utterance?) (fun _ => True)
      (writeInput process payload) := by
  refine .get_bind ?_
  have hcount : w.layout.scripts.length = w.processes.length := by simp [layout]
  -- What is said counts as told to any process that exists, even if it does not read any more.
  cases hp : w.processes[process]? with
  | none =>
    have hge := List.getElem?_eq_none_iff.1 hp
    rw [Layout.tell, if_neg (by omega)]
    exact .pure trivial
  | some p =>
    have hlt := (List.getElem?_eq_some_iff.1 hp).1
    rw [Layout.tell, if_pos (by omega)]
    have hnoted : Lays w
        { w.layout with
          spoken := w.layout.spoken ++ (payload.utterance?.map (process, ·)).toList }
        (fun _ => True)
        (note fun r => { r with handed := r.handed ++ [(process, payload)] }) := by
      refine ⟨?_, trivial⟩
      show World.layout { w with record := _ } = _
      cases hsaid : payload.utterance? <;> simp [layout, spoken, losses, hsaid]
    refine hnoted.bind fun _ w' hw' _ => ?_
    rw [← hw']
    split
    · refine Lays.after (updateProcess_inert process fun _ => rfl) fun _ w'' hw'' => ?_
      rw [← hw'']
      exact .of_inert (.forM_option fun _ => .forM fun _ => receive_inert process _)
    · exact .pure trivial

theorem send_lays (w : World) (channel : Nat) (payload : Payload) :
    Lays w (w.layout.say channel payload.utterance?) (fun _ => True) (send channel payload) := by
  refine .get_bind ?_
  rw [Layout.say, layout_pipes_getElem?]
  cases hchannel : w.channels[channel]? with
  | none => exact .pure trivial
  | some c =>
    obtain ⟨command, owner, process, closing, tasks, decoder, requests, answers⟩ := c
    cases process with
    | none => exact .pure trivial
    | some process =>
      cases closing with
      | true => exact .pure trivial
      | false => exact writeInput_lays w process payload

end BasiliskServer.World
