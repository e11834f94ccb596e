import BasiliskServer.Proofs.World.Layout

/-!
# What tasks do to connections and channels

A task that goes on at a point takes one of a few courses. `Course` says for each point what becomes
of the layout and where the task goes on: a connection starts through a channel of its own, its
process is started, greeted and told what waited, a channel is closed in stages, a connection says
goodbye, or a process is lost. Everything else leaves the layout as it is.
-/

namespace BasiliskServer.World

open Json (Value Fields)
open Tasks (Notice Scheduler)

/-! ## Requests that are heard of -/

/-- A table of requests has moved on by what the peer has said or by what was given up. -/
structure Turned (requests next : Rpc.Requests) : Prop where
  /-- The requests are the same. -/
  methods : next.sent.map (·.method) = requests.sent.map (·.method)
  /-- What was decided is decided. -/
  advances : requests.Valid → requests.Advances next

namespace Turned

theorem refl (requests : Rpc.Requests) : Turned requests requests :=
  ⟨rfl, .refl⟩

theorem trans {requests next last : Rpc.Requests} (h : Turned requests next)
    (h' : Turned next last) : Turned requests last where
  methods := h'.methods.trans h.methods
  advances := fun hvalid =>
    have hnext := h.advances hvalid
    have hlast := h'.advances hnext.valid
    ⟨hlast.valid, hlast.length.trans hnext.length, fun id outcome ho =>
      hlast.outcomes id outcome (hnext.outcomes id outcome ho)⟩

/-- Changing requests without changing their methods. -/
theorem methods_update (requests : Rpc.Requests) (id : Nat) {change : Rpc.Request → Rpc.Request}
    (h : ∀ request, (change request).method = request.method) :
    (requests.update id change).sent.map (·.method) = requests.sent.map (·.method) := by
  simp only [Rpc.Requests.update, List.map_map]
  refine List.map_congr_left fun request _ => ?_
  simp only [Function.comp]
  split
  · exact h request
  · rfl

theorem methods_decide (requests : Rpc.Requests) (id : Nat) (outcome : Rpc.Outcome) :
    (requests.decide id outcome).sent.map (·.method) = requests.sent.map (·.method) :=
  methods_update requests id fun request => by split <;> rfl

theorem methods_unlist (requests : Rpc.Requests) (id : Nat) :
    (requests.unlist id).sent.map (·.method) = requests.sent.map (·.method) :=
  methods_update requests id fun _ => rfl

theorem handle (requests : Rpc.Requests) (writing : Option Nat) (message : Fields) :
    Turned requests (requests.handle { writing } Rpc.defaultHandlers message).1 where
  methods := by
    have hsettle : (requests.settle none message).1.sent.map (·.method) =
        requests.sent.map (·.method) := by
      unfold Rpc.Requests.settle
      split
      · rfl
      · split
        · split
          · exact (methods_unlist _ _).trans (methods_decide _ _ _)
          · exact methods_unlist _ _
        · exact methods_unlist _ _
    unfold Rpc.Requests.handle
    simp only
    split
    · rfl
    · rfl
    · exact hsettle
    · rfl
  advances := fun hvalid =>
    Rpc.Requests.Advances.step hvalid Rpc.defaultHandlers
      (Rpc.Requests.spelled_receive writing message) rfl

theorem forget (requests : Rpc.Requests) (id : Nat) :
    Turned requests ((requests.cancel id).unlist id) where
  methods := (methods_unlist _ _).trans (methods_decide _ _ _)
  advances := fun hvalid => Rpc.Requests.advances_forget hvalid id

end Turned

/-- Channels are the same, and their requests have moved on. -/
structure Layout.Hears (l l' : Layout) : Prop where
  /-- The rest is the same. -/
  rest : l' = { l with pipes := l'.pipes }
  /-- There are as many channels. -/
  length : l'.pipes.length = l.pipes.length
  /-- The channels are the same. -/
  pipes : ∀ (number : Nat) (pipe : Pipe), l.pipes[number]? = some pipe →
    ∃ requests, l'.pipes[number]? = some { pipe with requests } ∧ Turned pipe.requests requests

namespace Layout.Hears

variable {l l' l'' : Layout}

protected theorem refl (l : Layout) : l.Hears l :=
  ⟨rfl, rfl, fun _ pipe h => ⟨pipe.requests, h, .refl _⟩⟩

protected theorem trans (h : l.Hears l') (h' : l'.Hears l'') : l.Hears l'' where
  rest := by rw [h'.rest, h.rest]
  length := h'.length.trans h.length
  pipes := by
    intro number pipe hpipe
    obtain ⟨requests, hnext, hturned⟩ := h.pipes number pipe hpipe
    obtain ⟨requests', hlast, hturned'⟩ := h'.pipes number _ hnext
    exact ⟨requests', hlast, hturned.trans hturned'⟩

/-- The requests of one channel have moved on. -/
theorem setPipe (l : Layout) (channel : Nat) {change : Pipe → Rpc.Requests}
    (h : ∀ pipe, l.pipes[channel]? = some pipe → Turned pipe.requests (change pipe)) :
    l.Hears (l.setPipe channel fun p => { p with requests := change p }) where
  rest := rfl
  length := List.length_modify ..
  pipes := by
    intro number pipe hpipe
    simp only [Layout.setPipe, List.getElem?_modify, hpipe]
    split
    · rename_i heq
      subst heq
      exact ⟨change pipe, rfl, h pipe hpipe⟩
    · exact ⟨pipe.requests, rfl, .refl _⟩

end Layout.Hears

/-- Whatever the layout was, the action lets channels hear something at most. -/
def Heeds {α : Type} (act : Act α) : Prop :=
  ∀ w : World, w.layout.Hears (act.run w).2.layout

namespace Heeds

variable {α β : Type}

theorem of_inert {act : Act α} (h : Inert act) : Heeds act := by
  intro w
  rw [h w]
  exact .refl _

theorem seq {act : Act α} {rest : α → Act β} (hact : Heeds act) (hrest : ∀ a, Heeds (rest a)) :
    Heeds (act >>= rest) :=
  fun w => (hact w).trans (hrest _ _)

theorem of_get {rest : World → Act β} (h : ∀ w, Heeds (rest w)) : Heeds (get >>= rest) :=
  fun w => h w w

theorem forM {items : List β} {act : β → Act Unit} (h : ∀ item, Heeds (act item)) :
    Heeds (items.forM act) := by
  induction items with
  | nil => exact of_inert (.pure ())
  | cons item rest ih => exact seq (h item) fun _ => ih

end Heeds

/-! ## What listeners are told -/

theorem schedule_inert (activity : Activity) : Inert (schedule activity) := by
  refine (onTasks_inert _).seq fun started => ?_
  exact (updateSession_inert _).seq fun _ => modifyTasks_inert _

theorem report_inert (listener : Listener) (uri : String) (problems : List Value)
    (version : Option Value) : Inert (listener.report uri problems version) := by
  cases listener with
  | nobody => exact .pure ()
  | recorder => exact note_inert fun r => ⟨rfl, by simp [Event.loss?]⟩
  | session =>
    refine .of_get fun w => (updateSession_inert _).seq fun _ => ?_
    split
    · exact .pure ()
    · exact schedule_inert _
  | check expected received =>
    show Inert (if uri = expected then _ else _)
    split
    · exact modifyTasks_inert _
    · exact .pure ()

theorem message_inert (listener : Listener) (text : String) : Inert (listener.message text) := by
  cases listener with
  | recorder => exact note_inert fun r => ⟨rfl, by simp [Event.loss?]⟩
  | session => exact note_inert fun _ => ⟨rfl, rfl⟩
  | _ => exact .pure ()

theorem errors_inert (listener : Listener) (line : String) : Inert (listener.errors line) := by
  cases listener with
  | recorder => exact note_inert fun r => ⟨rfl, by simp [Event.loss?]⟩
  | check expected received => exact note_inert fun _ => ⟨rfl, rfl⟩
  | _ => exact .pure ()

theorem takeNotification_inert (c : Connection) (method : String) (params : Value) :
    Inert (takeNotification c method params) := by
  have htext : Inert (takeNotification.takeText c params) := by
    unfold takeNotification.takeText
    split
    · split
      · exact .pure ()
      · exact message_inert _ _
    · exact .pure ()
  unfold takeNotification
  split
  · split
    · exact report_inert _ _ _ _
    · exact .pure ()
  · exact htext
  · exact htext
  · exact .pure ()

/-- What an answer says is nothing with a method. -/
theorem utterance?_answer (handlers : Rpc.Handlers) (id : Value) (method : String) (params : Value) :
    (Payload.message (Rpc.answerMessage handlers id method params)).utterance? = none := by
  unfold Rpc.answerMessage
  split <;> rfl

theorem utterance?_of_reply {requests : Rpc.Requests} {room : Rpc.Room} {message reply : Fields}
    (h : (requests.handle room Rpc.defaultHandlers message).2 = .reply reply) :
    (Payload.message reply).utterance? = none := by
  obtain ⟨id, method, params, rfl⟩ := eq_answer_of_reply (Prod.ext rfl h)
  exact utterance?_answer _ _ _ _

theorem Layout.say_none (l : Layout) (channel : Nat) : l.say channel none = l := by
  unfold Layout.say
  split
  · unfold Layout.tell
    split <;> simp
  · rfl

/-- Nothing with a method is said. -/
theorem send_inert (channel : Nat) {payload : Payload} (h : payload.utterance? = none) :
    Inert (send channel payload) := by
  intro w
  have hsent := (send_lays w channel payload).layout
  rwa [h, Layout.say_none] at hsent

theorem takeMessage_lays {number : Nat} {c : Channel} (hc : w.channels[number]? = some c)
    (room : Option Nat) (message : Fields) : Lays w (w.layout.setPipe number fun p =>
      { p with requests :=
          (c.requests.handle { writing := room } Rpc.defaultHandlers message).1 }) (fun _ => True)
      (takeMessage room number message) := by
  refine .get_bind ?_
  simp only [hc]
  have hupdate : Lays w (w.layout.setPipe number fun p =>
      { p with requests :=
          (c.requests.handle { writing := room } Rpc.defaultHandlers message).1 }) (fun _ => True)
      (updateChannel number fun c' =>
        { c' with requests :=
            (c.requests.handle { writing := room } Rpc.defaultHandlers message).1 }) :=
    updateChannel_lays w number fun _ => rfl
  refine hupdate.bind fun _ w' hw' _ => ?_
  rw [← hw']
  -- neither an answer nor a decision has a method
  split
  · exact .of_inert (.pure none)
  · exact .of_inert (.pure none)
  · rename_i reply hreply
    exact .of_inert ((send_inert number (utterance?_of_reply hreply)).seq fun _ => .pure none)
  · exact .of_inert (Inert.seq (.forM_option fun _ => modifyTasks_inert _) fun _ => .pure none)
  · exact .of_inert (.pure _)

theorem takeMessage_heeds (room : Option Nat) (number : Nat) (message : Fields) :
    Heeds (takeMessage room number message) := by
  intro w
  cases hc : w.channels[number]? with
  | none =>
    have hnone : Lays w w.layout (fun _ => True) (takeMessage room number message) := by
      refine .get_bind ?_
      simp only [hc]
      exact .of_inert (.pure none)
    rw [hnone.layout]
    exact .refl _
  | some c =>
    rw [(takeMessage_lays hc room message).layout]
    refine .setPipe _ number fun pipe hpipe => ?_
    obtain rfl := Option.some.inj ((pipe_of_channel hc).symm.trans hpipe)
    exact .handle _ _ _

theorem takeFrame_heeds (number : Nat) (message : Fields) : Heeds (takeFrame number message) := by
  refine .of_get fun w => ?_
  split
  · split
    · refine (takeMessage_heeds _ _ _).seq fun told => ?_
      split
      · exact .of_inert (takeNotification_inert _ _ _)
      · exact .of_inert (.pure ())
    · exact .of_inert (.pure ())
  · exact .of_inert (.pure ())

theorem frame_heeds (owner : Owner) (message : Fields) : Heeds (owner.frame message) := by
  cases owner with
  | recorder full takes =>
    show Heeds (if _ then _ else _)
    split
    · exact .of_inert (.pure ())
    · exact .of_inert (note_inert fun _ => ⟨rfl, rfl⟩)
  | connection number => exact takeFrame_heeds number message

theorem ownerErrors_inert (owner : Owner) (line : String) : Inert (owner.errors line) := by
  cases owner with
  | recorder full takes =>
    show Inert (if _ then _ else _)
    split
    · exact note_inert fun _ => ⟨rfl, rfl⟩
    · exact .pure ()
  | connection number =>
    refine .of_get fun w => ?_
    split
    · exact errors_inert _ _
    · exact .pure ()

/-! ## Waiting -/

/-- Points of waiting, and others that nothing else depends on. -/
def Point.isMinor : Point → Bool
  | .wait _ | .program (.ending _) => true
  | .channel (.output _ _) | .channel (.errors _ _) => true
  | .connection (.awaited _ _ _ _) => true
  | _ => false

/-- A task goes on at some points, and above them at minor points. -/
def Rises (front : List Point) (next : Next) : Prop :=
  ∃ minor, points next = minor ++ front ∧ ∀ point ∈ minor, point.isMinor

theorem Rises.under {front : List Point} {next : Next} (h : Rises front next) (point : Point) :
    Rises (front ++ [point]) (next.under point) := by
  obtain ⟨minor, hpoints, hminor⟩ := h
  refine ⟨minor, ?_, hminor⟩
  rw [← List.append_assoc, ← hpoints]
  cases next <;> rfl

/-- Minor points are not counted. -/
theorem Rises.of_minor {next : Next} (h : ∀ point ∈ points next, point.isMinor) : Rises [] next :=
  ⟨points next, by simp, h⟩

theorem rises_go (outcome : Outcome) (front : List Point) : Rises front (.go outcome front) :=
  ⟨[], rfl, fun _ h => absurd h List.not_mem_nil⟩

theorem rises_wait (promise : Nat) (front : List Point) : Rises front (.wait promise front) :=
  ⟨[], rfl, fun _ h => absurd h List.not_mem_nil⟩

/-- The action leaves the layout as it is, and its task goes on at the points. -/
def Lingers (front : List Point) (act : Act Next) : Prop :=
  ∀ w : World, Lays w w.layout (Rises front) act

namespace Lingers

variable {front : List Point}

protected theorem pure {next : Next} (h : Rises front next) : Lingers front (pure next) :=
  fun _ => .pure h

theorem seq {α : Type} {act : Act α} {rest : α → Act Next} (hact : Inert act)
    (hrest : ∀ a, Lingers front (rest a)) : Lingers front (act >>= rest) :=
  fun _ => .after hact fun a w' hw' => hw' ▸ hrest a w'

theorem of_get {rest : World → Act Next} (h : ∀ w, Lingers front (rest w)) :
    Lingers front (get >>= rest) :=
  fun w => .get_bind (h w w)

theorem under {act : Act Next} (h : Lingers front act) (point : Point) :
    Lingers (front ++ [point]) (World.under point act) :=
  fun w => (h w).bind fun _ _ hw' hnext => hw' ▸ .pure (hnext.under point)

theorem give (outcome : Outcome) : Lingers [] (give outcome) :=
  .pure (rises_go _ _)

theorem waitAt (promise : Nat) (point : Point) : Lingers [point] (waitAt promise point) :=
  .pure (rises_wait _ _)

/-- A task that goes on at a minor point. -/
theorem minor {act : Act Next} {point : Point} (h : Lingers [point] act) (hpoint : point.isMinor) :
    Lingers [] act := by
  refine fun w => (h w).imp fun next hnext => .of_minor fun other hother => ?_
  obtain ⟨minor, hpoints, hminor⟩ := hnext
  rw [hpoints] at hother
  rcases List.mem_append.1 hother with hother | hlast
  · exact hminor other hother
  · rwa [List.mem_singleton.1 hlast]

end Lingers

theorem sleep_lingers (delay : Nat) : Lingers [] (sleep delay) :=
  .seq (onTasks_inert _) fun _ => .seq (onTasks_inert _) fun _ => (Lingers.waitAt _ _).minor rfl

theorem reap_lingers (inner : Nat) (alarm : Option Nat) (interrupted : Bool) :
    Lingers [] (reap inner alarm interrupted) :=
  .seq (onTasks_inert _) fun _ => .seq (modifyTasks_inert _) fun _ =>
    .seq (modifyTasks_inert _) fun _ => (Lingers.waitAt _ _).minor rfl

theorem waitLimited_lingers (inner limit : Nat) : Lingers [] (waitLimited inner limit) := by
  unfold waitLimited
  split
  · refine .of_get fun w => ?_
    split
    · exact .give _
    · exact reap_lingers _ _ _
  · exact .seq (onTasks_inert _) fun _ => .seq (onTasks_inert _) fun _ =>
      .seq (modifyTasks_inert _) fun _ => (Lingers.waitAt _ _).minor rfl

theorem waitWithin_lingers (inner : Nat) (limit : Option Nat) : Lingers [] (waitWithin inner limit) := by
  cases limit with
  | none => exact .pure (rises_wait _ _)
  | some limit => exact waitLimited_lingers inner limit

theorem waitShielded_lingers (inner : Nat) : Lingers [] (waitShielded inner) := by
  refine .of_get fun w => ?_
  split
  · exact .give _
  · exact .seq (onTasks_inert _) fun _ => .seq (modifyTasks_inert _) fun _ => .pure (rises_wait _ _)

theorem waitAll_lingers (promises : List Nat) (point : Point) :
    Lingers [point] (waitAll promises point) :=
  .seq (onTasks_inert _) fun _ => .seq (.forM fun _ => modifyTasks_inert _) fun _ => .waitAt _ _

theorem waitResume_lingers (point : WaitPoint) (outcome : Outcome) :
    Lingers [] (point.resume outcome) := by
  cases point with
  | sleeping alarm => exact .seq (modifyTasks_inert _) fun _ => .give _
  | limited inner alarm =>
    refine .of_get fun w => ?_
    split
    · exact .seq (modifyTasks_inert _) fun _ => .give _
    · cases outcome with
      | ok answer => exact reap_lingers _ _ _
      | error failure => exact reap_lingers _ _ _
  | reaping inner alarm interrupted =>
    refine .seq (.forM_option fun _ => modifyTasks_inert _) fun _ => ?_
    cases outcome with
    | error failure => exact .give _
    | ok answer =>
      simp only
      split
      · exact .give _
      · exact .of_get fun w => .give _

theorem awaitExit_lingers (number : Nat) : Lingers [] (awaitExit number) := by
  refine .of_get fun w => ?_
  split
  · exact .give _
  · refine .seq (onTasks_inert _) fun waiter => .seq ?_ fun _ => (Lingers.waitAt _ _).minor rfl
    exact updateProcess_inert number fun _ => rfl

/-! ## Requests and notifications -/

/-- What is told of the end of a process. -/
def Listener.told (listener : Listener) (code : Option Int) : List (Option Int) :=
  match listener with
  | .recorder => [code]
  | _ => []

/-- A message, if it can be written with so many levels left. -/
def written? (room : Option Nat) (message : Fields) : Option Fields :=
  if (Rpc.refusal? room (.object message)).isNone then some message else none

namespace Layout

/-- A request is listed for a channel, with a promise for its answer. -/
def list (l : Layout) (channel : Nat) (method : String) (answer : Nat) : Layout :=
  l.setPipe channel fun p =>
    { p with requests := p.requests.request method, answers := p.answers ++ [answer] }

/-- A request is listed for a channel, and sent if it can be written. -/
def ask (l : Layout) (room : Option Nat) (channel : Nat) (method : String) (params : Value)
    (answer : Nat) : Layout :=
  match l.pipes[channel]? with
  | none => l
  | some pipe => (l.list channel method answer).say channel
    (written? room (Rpc.requestMessage (.nat pipe.requests.nextId) method params))

/-- The next request over a channel can be written. -/
def CanAsk (l : Layout) (room : Option Nat) (channel : Nat) (method : String) (params : Value) : Prop :=
  ∀ pipe, l.pipes[channel]? = some pipe →
    Rpc.refusal? room (.object (Rpc.requestMessage (.nat pipe.requests.nextId) method params)) = none

/-- A notification is sent through a channel. -/
def tellOf (l : Layout) (channel : Nat) (method : String) (params : Value) : Layout :=
  l.say channel (some (Rpc.notificationMessage method params))

/-- Notifications are sent one after the other. -/
def sayAll (l : Layout) (channel : Nat) (queue : List (String × Value)) : Layout :=
  queue.foldl (fun l entry => l.tellOf channel entry.1 entry.2) l

/-- All requests of a channel are decided. -/
def rejectAll (l : Layout) (channel : Nat) (failure : Failure) : Layout :=
  l.setPipe channel fun p => { p with requests := p.requests.rejectAll failure }

/-- All requests of a channel are decided, if there is a channel. -/
def rejectOn (l : Layout) (channel : Option Nat) (failure : Failure) : Layout :=
  channel.elim l (l.rejectAll · failure)

/-- A connection is stopped. -/
def reset (l : Layout) (number : Nat) : Layout :=
  l.setBond number fun b => { b with channel := none, queue := [], phase := .stopped }

/-- The queue of a connection is cleared. -/
def clear (l : Layout) (number : Nat) : Layout :=
  l.setBond number fun b => { b with queue := [] }

/-- A connection is in another phase. -/
def setPhase (l : Layout) (number : Nat) (phase : Phase) : Layout :=
  l.setBond number fun b => { b with phase }

/-- A channel is closed to messages. -/
def shut (l : Layout) (channel : Nat) : Layout :=
  l.setPipe channel fun p => { p with closing := true }

/-- A channel has a process, or none. -/
def carry (l : Layout) (channel : Nat) (process : Option Nat) : Layout :=
  l.setPipe channel fun p => { p with process }

/-- Ends of processes are reported. -/
def report (l : Layout) (told : List (Option Int)) : Layout :=
  { l with losses := l.losses ++ told }

/-- Whether a connection is in a phase. -/
def IsIn (l : Layout) (phase : Phase) (number : Nat) : Prop :=
  ∃ bond, l.bonds[number]? = some bond ∧ bond.phase = phase

/-- A request that can be written is sent. -/
theorem ask_of_canAsk {l : Layout} {room : Option Nat} {channel : Nat} {method : String}
    {params : Value} (h : l.CanAsk room channel method params) (answer : Nat) :
    l.ask room channel method params answer = l.ask none channel method params answer := by
  unfold ask
  split
  · rfl
  · rename_i pipe hpipe
    rw [written?, h pipe hpipe]
    rfl

/-- A request that cannot be written is listed all the same. -/
theorem ask_of_not_canAsk {l : Layout} {room : Option Nat} {channel : Nat} {method : String}
    {params : Value} (h : ¬ l.CanAsk room channel method params) (answer : Nat) :
    l.ask room channel method params answer = l.list channel method answer := by
  unfold CanAsk at h
  push Not at h
  obtain ⟨pipe, hpipe, hrefused⟩ := h
  unfold ask
  rw [hpipe]
  simp only
  rw [written?, if_neg (by simpa using hrefused), say_none]

theorem setPipe_of_none {l : Layout} {channel : Nat} (h : l.pipes[channel]? = none)
    (change : Pipe → Pipe) : l.setPipe channel change = l := by
  have hge := List.getElem?_eq_none_iff.1 h
  rw [setPipe, List.modify_eq_self hge]

end Layout

/-! ### What changes them -/

theorem clear_lays (w : World) (number : Nat) :
    Lays w (w.layout.clear number) (fun _ => True)
      (updateConnection number fun c => { c with queue := [] }) :=
  updateConnection_lays w number fun _ => rfl

theorem setPhase_lays (w : World) (number : Nat) (phase : Phase) :
    Lays w (w.layout.setPhase number phase) (fun _ => True)
      (updateConnection number fun c => { c with phase }) :=
  updateConnection_lays w number fun _ => rfl

theorem shut_lays (w : World) (channel : Nat) :
    Lays w (w.layout.shut channel) (fun _ => True)
      (updateChannel channel fun c => { c with closing := true }) :=
  updateChannel_lays w channel fun _ => rfl

theorem carry_lays (w : World) (channel : Nat) (process : Option Nat) :
    Lays w (w.layout.carry channel process) (fun _ => True)
      (updateChannel channel fun c => { c with process }) :=
  updateChannel_lays w channel fun _ => rfl

theorem notifyThrough_lays (w : World) (channel : Nat) (method : String) (params : Value) :
    Lays w (w.layout.tellOf channel method params) (fun _ => True)
      (notifyThrough channel method params) :=
  send_lays w channel (.message (Rpc.notificationMessage method params))

theorem notifyAll_lays (w : World) (channel : Nat) (queue : List (String × Value)) :
    Lays w (w.layout.sayAll channel queue) (fun _ => True)
      (queue.forM fun entry => notifyThrough channel entry.1 entry.2) := by
  induction queue generalizing w with
  | nil => exact .pure trivial
  | cons entry rest ih =>
    refine (notifyThrough_lays w channel entry.1 entry.2).bind fun _ w' hw' _ => ?_
    have hrest := ih w'
    rwa [hw'] at hrest

theorem requestThrough_lays (w : World) (room : Option Nat) (channel : Nat) (method : String)
    (params : Value) :
    Lays w (w.layout.ask room channel method params w.tasks.promises.length)
      (fun asked =>
        asked = .ok w.tasks.promises.length ∧ w.layout.CanAsk room channel method params ∨
          (∃ what, asked = .error what) ∧ ¬ w.layout.CanAsk room channel method params)
      (requestThrough room channel method params) := by
  have hpromise : Lays w w.layout (· = w.tasks.promises.length) (promise : Act Nat) :=
    ⟨onTasks_inert _ w, rfl⟩
  refine hpromise.bind fun answer w₁ hw₁ hanswer => .get_bind ?_
  subst hanswer
  rw [Layout.ask, Layout.CanAsk, ← hw₁, layout_pipes_getElem?]
  cases hc : w₁.channels[channel]? with
  | none => exact .pure (.inl ⟨rfl, nofun⟩)
  | some c =>
    have hadded : Lays w₁ (w₁.layout.list channel method w.tasks.promises.length) (fun _ => True)
        (updateChannel channel fun c =>
          { c with
            requests := c.requests.request method
            answers := c.answers ++ [w.tasks.promises.length] }) :=
      updateChannel_lays _ channel fun _ => rfl
    -- What the layout does at once takes three actions: the request is entered, observed and sent.
    refine hadded.bind fun _ w₂ hw₂ _ => ?_
    refine .after (modifyTasks_inert _) fun _ w₃ hw₃ => ?_
    have hentered : w₃.layout = w₁.layout.list channel method w.tasks.promises.length :=
      hw₃.trans hw₂
    simp only [Option.map_some, Option.some.injEq, forall_eq']
    rw [← hentered]
    cases hrefusal : Rpc.refusal? room
        (.object (Rpc.requestMessage (.nat c.requests.nextId) method params)) with
    | some what =>
      have hunwritten : written? room
          (Rpc.requestMessage (.nat c.pipe.requests.nextId) method params) = none := by
        rw [written?, show c.pipe.requests = c.requests from rfl, hrefusal]
        rfl
      rw [hunwritten, Layout.say_none]
      refine .pure (.inr ⟨⟨_, rfl⟩, ?_⟩)
      rw [show c.pipe.requests = c.requests from rfl, hrefusal]
      nofun
    | none =>
      have hwritten : written? room
          (Rpc.requestMessage (.nat c.pipe.requests.nextId) method params) =
            some (Rpc.requestMessage (.nat c.requests.nextId) method params) := by
        rw [written?, show c.pipe.requests = c.requests from rfl, hrefusal]
        rfl
      rw [hwritten]
      refine (send_lays w₃ channel (.message (Rpc.requestMessage _ method params))).bind
        fun _ w₄ hw₄ _ => ?_
      exact ⟨hw₄, .inl ⟨rfl, hrefusal⟩⟩

theorem rejectAll_lays (w : World) (channel : Nat) (failure : Failure) :
    Lays w (w.layout.rejectAll channel failure) (fun _ => True) (rejectAll channel failure) := by
  refine .get_bind ?_
  cases hc : w.channels[channel]? with
  | none =>
    have hnone : w.layout.pipes[channel]? = none := by rw [layout_pipes_getElem?, hc]; rfl
    rw [Layout.rejectAll, Layout.setPipe_of_none hnone]
    exact .pure trivial
  | some c =>
    have hrejected : Lays w (w.layout.rejectAll channel failure) (fun _ => True)
        (updateChannel channel fun c => { c with requests := c.requests.rejectAll failure }) :=
      updateChannel_lays w channel fun _ => rfl
    refine hrejected.bind fun _ w₁ hw₁ _ => ?_
    have hsettles : Inert (c.requests.rejectable.forM fun request =>
        (c.answerTo? request.id).forM fun answer => settle answer (.error failure)) :=
      .forM fun _ => .forM_option fun _ => modifyTasks_inert _
    exact ⟨(hsettles w₁).trans hw₁, trivial⟩

theorem rejectOn_lays (w : World) (channel : Option Nat) (failure : Failure) :
    Lays w (w.layout.rejectOn channel failure) (fun _ => True)
      (channel.forM fun channel => rejectAll channel failure) := by
  cases channel with
  | none => exact .pure trivial
  | some channel => exact rejectAll_lays w channel failure

theorem settleStarted_inert (number : Nat) (ready : Bool) : Inert (settleStarted number ready) := by
  refine .of_get fun w => ?_
  split
  · exact modifyTasks_inert _
  · exact .pure ()

theorem reset_lays (w : World) (number : Nat) :
    Lays w (w.layout.reset number) (fun _ => True) (reset number) := by
  have hstopped : Lays w (w.layout.reset number) (fun _ => True)
      (updateConnection number fun c => { c with channel := none, queue := [], phase := .stopped }) :=
    updateConnection_lays w number fun _ => rfl
  exact hstopped.bind fun _ w' hw' _ => ⟨(settleStarted_inert number false w').trans hw', trivial⟩

/-! ## Channels -/

namespace Layout

/-- What becomes of connections and channels when a process has ended on its own. -/
inductive Loses (l : Layout) (channel : Nat) (code : Option Int) : Layout → Prop where
  /-- The channel is being closed, or there is no such channel. -/
  | expected (h : ∀ pipe, l.pipes[channel]? = some pipe → pipe.closing = true) :
    Loses l channel code l
  /-- No connection is told. -/
  | unheard {pipe : Pipe} (hpipe : l.pipes[channel]? = some pipe) (hopen : pipe.closing = false)
    (howner : ∀ number : Nat, pipe.owner = .connection number → l.bonds[number]? = none) :
    Loses l channel code ((l.shut channel).carry channel none)
  /-- A connection that is being stopped is told. -/
  | stopping {pipe : Pipe} {number : Nat} {bond : Bond} (hpipe : l.pipes[channel]? = some pipe)
    (hopen : pipe.closing = false) (howner : pipe.owner = .connection number)
    (hbond : l.bonds[number]? = some bond) (hphase : bond.phase = .stopping) :
    Loses l channel code
      ((((l.shut channel).carry channel none).rejectOn bond.channel (.exited code)).clear number)
  /-- A connection is told and is stopped. -/
  | stops {pipe : Pipe} {number : Nat} {bond : Bond} (hpipe : l.pipes[channel]? = some pipe)
    (hopen : pipe.closing = false) (howner : pipe.owner = .connection number)
    (hbond : l.bonds[number]? = some bond) (hphase : bond.phase ≠ .stopping) :
    Loses l channel code
      ((((((l.shut channel).carry channel none).rejectOn bond.channel (.exited code)).clear
        number).reset number).report (bond.listener.told code))

/-- The tasks of a channel are ended. -/
inductive Subsides (l : Layout) (channel : Nat) : Layout → Next → Prop where
  /-- There are none. -/
  | now : Subsides l channel (l.carry channel none) (.go (.ok .unit) [])
  /-- Their end is waited for. -/
  | waits {next : Next} (h : Rises [.channel (.quiet channel)] next) : Subsides l channel l next

/-- A channel is closed. -/
inductive Closes (l : Layout) (f : Facts) (channel : Nat) : Layout → Next → Prop where
  /-- It has no process. -/
  | bare (h : l.pipes[channel]?.bind (·.process) = none) :
    Closes l f channel l (.go (.ok .unit) [])
  /-- Its process has ended, or cannot be asked to end. -/
  | subsides {process : Nat} {l' : Layout} {next : Next}
    (hprocess : l.pipes[channel]?.bind (·.process) = some process)
    (hended : f.ended process ∨ (l.scripts[process]?).any (·.isUnreachable))
    (h : Subsides (l.shut channel) channel l' next) : Closes l f channel l' next
  /-- Its process is asked to end. -/
  | asks {process : Nat} {next : Next} (hprocess : l.pipes[channel]?.bind (·.process) = some process)
    (h : Rises [.channel (.asked channel process)] next) :
    Closes l f channel (l.shut channel) next

end Layout

/-- What an activity comes to: what becomes of the layout, and where its task goes on. -/
def Goes (w : World) (course : Layout → Next → Prop) (act : Act Next) : Prop :=
  course (act.run w).2.layout (act.run w).1

namespace Goes

variable {w : World} {course : Layout → Next → Prop}

theorem of_lays {l : Layout} {act : Act Next} (h : Lays w l (course l) act) : Goes w course act := by
  have hresult := h.result
  rw [← h.layout] at hresult
  exact hresult

/-- After an action of which it is known what it does to the layout. -/
theorem bind {α : Type} {l : Layout} {post : α → Prop} {act : Act α} {rest : α → Act Next}
    (h : Lays w l post act)
    (hrest : ∀ (a : α) (w' : World), act.run w = (a, w') → w'.layout = l → post a →
      Goes w' course (rest a)) : Goes w course (act >>= rest) :=
  hrest _ _ rfl h.layout h.result

theorem get_bind {rest : World → Act Next} (h : Goes w course (rest w)) :
    Goes w course (get >>= rest) :=
  h

theorem imp {course' : Layout → Next → Prop} {act : Act Next} (h : Goes w course act)
    (himp : ∀ l next, course l next → course' l next) : Goes w course' act :=
  himp _ _ h

theorem under {course' : Layout → Next → Prop} {act : Act Next} (h : Goes w course act)
    {point : Point} (himp : ∀ l next, course l next → course' l (next.under point)) :
    Goes w course' (World.under point act) :=
  himp _ _ h

theorem pure {next : Next} (h : course w.layout next) : Goes w course (pure next) :=
  h

theorem of_lingers {front : List Point} {act : Act Next} (h : Lingers front act)
    (himp : ∀ next, Rises front next → course w.layout next) : Goes w course act :=
  of_lays ((h w).imp himp)

end Goes

theorem Lays.goes {w : World} {l : Layout} {post : Next → Prop} {act : Act Next}
    (h : Lays w l post act) : Goes w (fun l' next => l' = l ∧ post next) act :=
  ⟨h.layout, h.result⟩

theorem endTraffic_goes (w : World) (channel : Nat) :
    Goes w (w.layout.Subsides channel) (endTraffic channel) := by
  refine .get_bind ?_
  cases hc : w.channels[channel]? with
  | none =>
    have hnone : w.layout.pipes[channel]? = none := by rw [layout_pipes_getElem?, hc]; rfl
    refine Goes.pure ?_
    have hnow : w.layout.Subsides channel (w.layout.carry channel none) (.go (.ok .unit) []) := .now
    rwa [Layout.carry, Layout.setPipe_of_none hnone] at hnow
  | some c =>
    refine .bind (.of_inert (.forM fun _ => modifyTasks_inert _)) fun _ w₁ _ hw₁ _ => ?_
    split
    · refine .bind (carry_lays w₁ channel none) fun _ w₂ _ hw₂ _ => .pure ?_
      rw [hw₂, hw₁]
      exact .now
    · refine .of_lingers (waitAll_lingers _ _) fun next hnext => ?_
      rw [hw₁]
      exact .waits hnext

theorem askToEnd_lays (w : World) (number : Nat) :
    Lays w w.layout (fun asked => asked = false → (w.layout.scripts[number]?).any (·.isUnreachable))
      (askToEnd number) := by
  refine ⟨askToEnd_inert number w, ?_⟩
  show ((askToEnd number).run w).1 = false → _
  have hscript : w.layout.scripts[number]? = (w.processes[number]?).map (·.script) := by
    simp [layout]
  rw [hscript]
  unfold askToEnd
  simp only [run_bind, run_get]
  have hnoted : ((note fun r => { r with signals := r.signals ++ ["terminate"] }).run w).2.processes =
      w.processes := rfl
  rw [hnoted]
  cases w.processes[number]? with
  | none =>
    intro h
    cases h
  | some p =>
    simp only [Option.map_some, Option.any_some]
    cases p.script.isUnreachable with
    | true => exact fun _ => rfl
    | false =>
      simp only [Bool.false_eq_true, if_false]
      split <;> (intro h; cases h)

theorem closeChannel_goes (w : World) (channel : Nat) :
    Goes w (w.layout.Closes w.facts channel) (closeChannel channel) := by
  have hprocess : w.layout.pipes[channel]?.bind (·.process) = w.channels[channel]?.bind (·.process) := by
    rw [layout_pipes_getElem?]
    cases w.channels[channel]? <;> rfl
  refine .get_bind ?_
  rw [← hprocess]
  cases hp : w.layout.pipes[channel]?.bind (·.process) with
  | none => exact .pure (.bare hp)
  | some process =>
    refine .bind (shut_lays w channel) fun _ w₁ hrun hw₁ _ => ?_
    have hcode : exitCode? w₁ process = exitCode? w process := by
      have hw₁ : w₁ = ((updateChannel channel fun c => { c with closing := true }).run w).2 :=
        (congrArg Prod.snd hrun).symm
      rw [hw₁]
      rfl
    refine .get_bind ?_
    -- Only a process that can still be asked to end is waited for.
    split
    · rename_i hended
      rw [hcode] at hended
      refine (endTraffic_goes w₁ channel).imp fun l next h => .subsides hp (.inl hended) ?_
      rwa [hw₁] at h
    · refine .bind (askToEnd_lays w₁ process) fun asked w₂ _ hw₂ hasked => ?_
      cases asked with
      | true =>
        refine .bind (.of_inert (onTasks_inert _)) fun started w₃ _ hw₃ _ => ?_
        refine .of_lingers ((waitLimited_lingers _ _).under _) fun next hnext => ?_
        rw [hw₃, hw₂, hw₁]
        exact .asks hp hnext
      | false =>
        refine (endTraffic_goes w₂ channel).imp fun l next h => .subsides hp (.inr ?_) ?_
        · have hfalse := hasked rfl
          rwa [hw₁] at hfalse
        · rwa [hw₂, hw₁] at h

theorem exit_lays (w : World) (listener : Listener) (code : Option Int) :
    Lays w (w.layout.report (listener.told code)) (fun _ => True) (listener.exit code) := by
  have hsilent : ∀ act : Act Unit, Inert act → Lays w (w.layout.report []) (fun _ => True) act := by
    intro act hact
    rw [Layout.report, List.append_nil]
    exact .of_inert hact
  cases listener with
  | recorder =>
    refine ⟨?_, trivial⟩
    show World.layout { w with record := _ } = _
    simp [layout, spoken, losses, Event.loss?, Listener.told, Layout.report]
  | session =>
    refine hsilent _ ?_
    refine Inert.seq ?_ fun _ => (updateSession_inert _).seq fun _ => .of_get fun w => ?_
    · exact note_inert fun _ => ⟨rfl, rfl⟩
    · exact .forM fun _ => schedule_inert _
  | _ => exact hsilent _ (.pure ())

/-- A connection is told that a process has ended. -/
theorem takeLoss_lays (w : World) {number : Nat} {c : Connection} (code : Option Int)
    (hc : w.connections[number]? = some c) :
    Lays w
      (if c.phase = .stopping then (w.layout.rejectOn c.channel (.exited code)).clear number
        else ((((w.layout.rejectOn c.channel (.exited code)).clear number).reset number).report
          (c.listener.told code)))
      (fun _ => True) (takeLoss number code) := by
  refine .get_bind ?_
  rw [hc]
  refine (rejectOn_lays w c.channel _).bind fun _ w₂ hw₂ _ => ?_
  refine (clear_lays w₂ number).bind fun _ w₃ hw₃ _ => ?_
  rw [← hw₂, ← hw₃]
  by_cases hphase : c.phase = .stopping
  · rw [if_pos hphase, if_neg (not_not_intro hphase)]
    exact .pure trivial
  · rw [if_neg hphase, if_pos hphase]
    refine (reset_lays w₃ number).bind fun _ w₄ hw₄ _ => ?_
    rw [← hw₄]
    exact exit_lays w₄ c.listener code

theorem loseProcess_goes (w : World) (channel : Nat) (code : Option Int) :
    Goes w (fun l next => w.layout.Loses channel code l ∧ next = .go (.ok .unit) [])
      (loseProcess channel code) := by
  refine .get_bind ?_
  cases hc : w.channels[channel]? with
  | none =>
    refine Goes.pure ⟨.expected fun pipe hpipe => ?_, rfl⟩
    rw [layout_pipes_getElem?, hc] at hpipe
    cases hpipe
  | some c =>
    have hpipe : w.layout.pipes[channel]? = some c.pipe := pipe_of_channel hc
    simp only
    split
    · rename_i hopen
      have hopen : c.pipe.closing = false := (Bool.not_eq_true' c.closing).mp hopen
      -- the channel is closed and left without a process in one go
      have hshut : Lays w ((w.layout.shut channel).carry channel none) (fun _ => True)
          (updateChannel channel fun c => { c with closing := true, process := none }) := by
        have hboth : (w.layout.shut channel).carry channel none = w.layout.setPipe channel fun p =>
            { p with closing := true, process := none } := by
          simp [Layout.setPipe, Layout.shut, Layout.carry, List.modify_modify_eq, Function.comp_def]
        rw [hboth]
        exact updateChannel_lays w channel fun _ => rfl
      refine .bind hshut fun _ w₁ hrun hw₁ _ => ?_
      have hconnections : w₁.connections = w.connections := by
        have hw₁ : w₁ = _ := (congrArg Prod.snd hrun).symm
        rw [hw₁]
        rfl
      -- its owner hears of it: a session notes it, a connection stops unless it is being stopped
      have htold : ∃ l', w.layout.Loses channel code l' ∧
          Lays w₁ l' (fun _ => True) (c.owner.exit code) := by
        cases howner : c.owner with
        | recorder full takes =>
          have hinert : Inert (Owner.exit (.recorder full takes) code) := by
            show Inert (if full then _ else _)
            split
            · exact note_inert fun _ => ⟨rfl, rfl⟩
            · exact .pure ()
          refine ⟨_, .unheard hpipe hopen fun number hnumber => ?_, hw₁ ▸ .of_inert hinert⟩
          rw [show c.pipe.owner = c.owner from rfl, howner] at hnumber
          cases hnumber
        | connection number =>
          have hbonds : w.layout.bonds[number]? = (w₁.connections[number]?).map Connection.bond := by
            rw [layout_bonds_getElem?, hconnections]
          cases hb : w₁.connections[number]? with
          | none =>
            have hinert : ((Owner.exit (.connection number) code).run w₁).2 = w₁ := by
              simp only [Owner.exit, takeLoss, run_bind, run_get, hb]
              rfl
            refine ⟨_, .unheard hpipe hopen fun other hother => ?_,
              (congrArg World.layout hinert).trans hw₁, trivial⟩
            obtain rfl := Owner.connection.inj (howner.symm.trans hother)
            rw [hbonds, hb]
            rfl
          | some b =>
            have hbond : w.layout.bonds[number]? = some b.bond := by rw [hbonds, hb]; rfl
            have htaken := takeLoss_lays w₁ code hb
            rw [hw₁] at htaken
            by_cases hphase : b.phase = .stopping
            · rw [if_pos hphase] at htaken
              exact ⟨_, .stopping hpipe hopen howner hbond hphase, htaken⟩
            · rw [if_neg hphase] at htaken
              exact ⟨_, .stops hpipe hopen howner hbond hphase, htaken⟩
      obtain ⟨l', hloses, hlays⟩ := htold
      refine .bind hlays fun _ w₂ _ hw₂ _ => .pure ⟨?_, rfl⟩
      rw [hw₂]
      exact hloses
    · rename_i hclosing
      have hclosing : c.closing = true := by simpa using hclosing
      refine .pure ⟨.expected fun pipe hpipe' => ?_, rfl⟩
      rw [hpipe] at hpipe'
      exact Option.some.inj hpipe' ▸ hclosing

end BasiliskServer.World
