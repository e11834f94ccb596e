import BasiliskServer.Proofs.World.Background.Features

/-!
# Notifications and the view

The changes of the view that matter for what companion processes know of the documents, and the actions
that pass notifications on: they are handed to processes or queued, and documents are announced.

`Turns called w v post act` says that in the world `w` the action `act` turns the view into `v`, moves
no task and settles nobody else's promise except the ticket that is called, and that its result
satisfies `post`.
-/

namespace BasiliskServer.World

open Json (Value Fields)
open Tasks (Notice Scheduler)

/-! ## Changes of the view -/

namespace View

/-- Changes how far a connection is. -/
def setLink (v : View) (number : Nat) (change : Link → Link) : View :=
  { v with links := v.links.modify number change }

/-- Changes where a channel leads. -/
def setLine (v : View) (number : Nat) (change : Line → Line) : View :=
  { v with lines := v.lines.modify number change }

/-- There is another connection. -/
def addLink (v : View) (link : Link) : View :=
  { v with links := v.links ++ [link] }

/-- There is another channel, which leads nowhere. -/
def addLine (v : View) (owner : Owner) : View :=
  { v with lines := v.lines ++ [⟨none, false, owner⟩] }

/-- There is another process. -/
def addProcess (v : View) : View :=
  { v with processCount := v.processCount + 1 }

/-- Changes the keeper. -/
def setKeeper (v : View) (change : Keeper → Keeper) : View :=
  { v with keeper := change v.keeper }

/-- A process that exists is told something about a document, or nothing. -/
def tell (v : View) (process : Nat) (said : Option (String × Sync)) : View :=
  if process < v.processCount then
    { v with syncs := v.syncs ++ (said.map (process, ·)).toList }
  else v

/-- A notification is handed to the process of a channel, unless it is closed. -/
def hand (v : View) (channel : Nat) (method : String) (params : Value) : View :=
  match v.lines[channel]? with
  | some ⟨some process, false, _⟩ => v.tell process (Sync.ofNotification? method params)
  | _ => v

/-- A notification is passed to a connection. -/
def notify (v : View) (number : Nat) (method : String) (params : Value) : View :=
  match v.links[number]? with
  | none => v
  | some link =>
    match link.phase, link.channel with
    | .ready, some channel =>
      if (obstacle? link.room (method, params)).isSome then v else v.hand channel method params
    | .stopping, _ => v
    | _, _ => v.setLink number fun l => { l with queue := l.queue ++ [(method, params)] }

/-- A notification is passed to the connection that is kept. -/
def forward (v : View) (method : String) (params : Value) : View :=
  match v.keeper.connection with
  | none => v
  | some number =>
    match v.links[number]? with
    | none => v
    | some link => if link.phase = .stopped then v else v.notify number method params

/-- Notifications are handed to the process of a channel one after the other. -/
def handAll (v : View) (channel : Nat) (queue : List (String × Value)) : View :=
  queue.foldl (fun v entry => v.hand channel entry.1 entry.2) v

/-- Documents are announced to the connection that is kept one after the other. -/
def announce (v : View) (documents : List Diagnostics.Document) : View :=
  documents.foldl (fun v document => v.forward "textDocument/didOpen" (openParams document)) v

end View

/-! ## Turning the view -/

/-- In the world `w` the action turns the view into `v` and moves no task, and its result satisfies
`post`. -/
structure Turns {α : Type} (called : Option Nat) (w : World) (v : View) (post : α → Prop)
    (act : Act α) : Prop where
  /-- No task is moved. -/
  drift : Drift called w (act.run w).2
  /-- The view afterwards. -/
  view : (act.run w).2.view = v
  /-- What is known of the result. -/
  result : post (act.run w).1

namespace Turns

variable {α β : Type} {called : Option Nat} {w : World} {v v' : View} {post : α → Prop} {post' : β → Prop}

theorem of_modest {act : Act α} (h : Modest post act) (w : World) : Turns called w w.view post act :=
  ⟨(h w).1.toDrift.weaken, (h w).1.view, (h w).2⟩

theorem weaken {act : Act α} (h : Turns none w v post act) : Turns called w v post act :=
  ⟨h.drift.weaken, h.view, h.result⟩

theorem pure {a : α} (h : post a) : Turns called w w.view post (Pure.pure a) :=
  ⟨.refl w, rfl, h⟩

theorem bind {act : Act α} {rest : α → Act β} (h : Turns called w v post act)
    (hrest : ∀ a w', w'.view = v → post a → Turns called w' v' post' (rest a)) :
    Turns called w v' post' (act >>= rest) := by
  obtain ⟨hdrift', hview', hresult'⟩ := hrest _ _ h.view h.result
  exact ⟨h.drift.trans hdrift', hview', hresult'⟩

/-- An action whose result is of no interest. -/
theorem discard {act : Act α} (h : Turns called w v post act) :
    Turns called w v (fun _ => True) (discard act) :=
  ⟨h.drift, h.view, trivial⟩

/-- The rest of an action, in the world that its first part leaves. -/
theorem bind_run {act : Act α} {rest : α → Act β} (h : Drift called w (act.run w).2)
    (hrest : Turns called (act.run w).2 v' post' (rest (act.run w).1)) :
    Turns called w v' post' (act >>= rest) :=
  ⟨h.trans hrest.drift, hrest.view, hrest.result⟩

/-- After the action everything happens in the background. -/
theorem seq_modest {act : Act α} {rest : α → Act β} (h : Turns called w v post act)
    (hrest : ∀ a, Modest post' (rest a)) : Turns called w v post' (act >>= rest) :=
  h.bind fun a w' hw' _ => hw' ▸ of_modest (hrest a) w'

/-- Before the action everything happens in the background. -/
theorem modest_seq {act : Act α} {rest : α → Act β} (h : Quiet act)
    (hrest : ∀ a w', w'.view = w.view → Turns called w' v post' (rest a)) :
    Turns called w v post' (act >>= rest) :=
  (of_modest h w).bind fun a w' hw' _ => hrest a w' hw'

theorem get_bind {rest : World → Act β} (h : Turns called w v' post' (rest w)) :
    Turns called w v' post' (get >>= rest) :=
  ⟨h.drift, h.view, h.result⟩

theorem imp {post₂ : α → Prop} {act : Act α} (h : Turns called w v post act)
    (hpost : ∀ a, post a → post₂ a) : Turns called w v post₂ act :=
  ⟨h.drift, h.view, hpost _ h.result⟩

theorem under {point : Point} {act : Act Next} {post : Next → Prop} {post₂ : Next → Prop}
    (h : Turns called w v post act) (hpost : ∀ next, post next → post₂ (next.under point)) :
    Turns called w v post₂ (World.under point act) :=
  ⟨h.drift, h.view, hpost _ h.result⟩

end Turns

/-- A change of one item shows in the list of projections as a change of one item. -/
theorem map_modify_of_comm {α β : Type} {items : List α} {number : Nat} {change : α → α}
    {f : α → β} {change' : β → β} (h : ∀ a, f (change a) = change' (f a)) :
    (items.modify number change).map f = (items.map f).modify number change' := by
  refine List.ext_getElem? fun i => ?_
  simp only [List.getElem?_map, List.getElem?_modify]
  split
  · cases items[i]? <;> simp [h]
  · cases items[i]? <;> rfl

theorem updateConnection_turns (w : World) (number : Nat) {change : Connection → Connection}
    {change' : Link → Link} (hlink : ∀ c, (change c).link = change' c.link)
    (hwaiters : ∀ c, ∀ q ∈ (change c).waiters, q ∈ c.waiters) :
    Turns none w (w.view.setLink number change') (fun _ => True) (updateConnection number change) where
  drift := (Drift.refl w).setConnection number change fun c _ q hq => .inl (hwaiters c q hq)
  view := by
    show World.view { w with connections := w.connections.modify number change } = _
    simp [view, View.setLink, map_modify_of_comm hlink, syncs]
  result := trivial

theorem updateChannel_turns (w : World) (number : Nat) {change : Channel → Channel}
    {change' : Line → Line} (hline : ∀ c, (change c).line = change' c.line)
    (hanswers : ∀ c, ∀ q ∈ (change c).answers, q ∈ c.answers) :
    Turns none w (w.view.setLine number change') (fun _ => True) (updateChannel number change) where
  drift := (Drift.refl w).setChannel number change fun c _ q hq => .inl (hanswers c q hq)
  view := by
    show World.view { w with channels := w.channels.modify number change } = _
    simp [view, View.setLine, map_modify_of_comm hline, syncs]
  result := trivial

theorem updateKeeper_turns (w : World) (change : Keeper → Keeper) :
    Turns none w (w.view.setKeeper change) (fun _ => True) (updateKeeper change) where
  drift := (Drift.refl w).of_tasks_eq rfl fun _ hq => .inl hq
  view := rfl
  result := trivial

/-! ## Notifications -/

theorem view_links_getElem? (w : World) (number : Nat) :
    w.view.links[number]? = (w.connections[number]?).map Connection.link := by
  simp [view]

theorem view_lines_getElem? (w : World) (number : Nat) :
    w.view.lines[number]? = (w.channels[number]?).map Channel.line := by
  simp [view]

theorem writeInput_turns (w : World) (process : Nat) (payload : Payload) :
    Turns none w (w.view.tell process payload.sync?) (fun _ => True) (writeInput process payload) := by
  refine .get_bind ?_
  have hcount : w.view.processCount = w.processes.length := rfl
  split
  · rename_i hnone
    have hge := List.getElem?_eq_none_iff.1 hnone
    rw [View.tell, if_neg (by omega)]
    exact .pure trivial
  · rename_i p hp
    have hlt := (List.getElem?_eq_some_iff.1 hp).1
    rw [View.tell, if_pos (by omega)]
    have hnoted : Turns none w
        { w.view with
          syncs := w.view.syncs ++ (payload.sync?.map (process, ·)).toList }
        (fun _ => True)
        (note fun r => { r with handed := r.handed ++ [(process, payload)] }) := by
      refine ⟨(Drift.refl w).of_tasks_eq rfl fun _ hq => .inl hq, ?_, trivial⟩
      show World.view { w with record := _ } = _
      cases hsync : payload.sync? <;> simp [view, syncs, hsync]
    -- the process reads it
    refine hnoted.seq_modest fun _ => ?_
    split
    · refine .seq (updateProcess_quiet process _ fun _ _ hq => hq) fun _ => ?_
      exact .forM_option fun messages _ => .forM fun message _ => receive_quiet process message
    · exact .pure trivial

theorem notifyThrough_turns (w : World) (channel : Nat) (method : String) (params : Value) :
    Turns none w (w.view.hand channel method params) (fun _ => True)
      (notifyThrough channel method params) := by
  refine .get_bind ?_
  rw [View.hand, view_lines_getElem?]
  cases hchannel : w.channels[channel]? with
  | none => exact .pure trivial
  | some c =>
    obtain ⟨command, owner, process, closing, tasks, decoder, requests, answers⟩ := c
    cases process with
    | none => exact .pure trivial
    | some process =>
      cases closing with
      | true => exact .pure trivial
      | false =>
        rw [← sync?_notificationMessage]
        exact writeInput_turns w process _

theorem handAll_turns (w : World) (channel : Nat) (queue : List (String × Value)) :
    Turns none w (w.view.handAll channel queue) (fun _ => True)
      (queue.forM fun entry => notifyThrough channel entry.1 entry.2) := by
  induction queue generalizing w with
  | nil => exact .pure trivial
  | cons entry rest ih =>
    refine (notifyThrough_turns w channel entry.1 entry.2).bind fun _ w' hw' _ => ?_
    rw [View.handAll, List.foldl_cons, ← hw']
    exact ih w'

theorem notify_turns (w : World) (number : Nat) (method : String) (params : Value) :
    Turns none w (w.view.notify number method params) (fun _ => True) (notify number method params) := by
  refine .get_bind ?_
  rw [View.notify, view_links_getElem?]
  cases hconnection : w.connections[number]? with
  | none => exact .pure trivial
  | some c =>
    have hqueued : Turns none w
        (w.view.setLink number fun l => { l with queue := l.queue ++ [(method, params)] })
        (fun _ => True)
        (updateConnection number fun c => { c with queue := c.queue ++ [(method, params)] }) :=
      updateConnection_turns w number (fun _ => rfl) fun _ _ hq => hq
    have hqueue : Turns none w
        (w.view.setLink number fun l => { l with queue := l.queue ++ [(method, params)] })
        (fun _ => True) (do
          updateConnection number fun c => { c with queue := c.queue ++ [(method, params)] }
          return (none : Option Json.Excess)) :=
      hqueued.seq_modest fun _ => .pure trivial
    simp only [Option.map_some, Connection.link]
    cases hphase : c.phase with
    | ready =>
      cases hchannel : c.channel with
      | none => exact hqueue
      | some channel =>
        dsimp only
        cases obstacle? c.room (method, params) with
        | some what => exact .pure trivial
        | none =>
          exact (notifyThrough_turns w channel method params).seq_modest fun _ => .pure trivial
    | stopping => exact .pure trivial
    | stopped => exact hqueue
    | starting => exact hqueue

theorem forward_turns (w : World) (method : String) (params : Value) :
    Turns none w (w.view.forward method params) (fun _ => True) (forward method params) := by
  refine .get_bind ?_
  have hkeeper : w.view.keeper = w.keeper := rfl
  rw [View.forward, hkeeper]
  cases w.keeper.connection with
  | none => exact .pure trivial
  | some number =>
    simp only [view_links_getElem?, Option.forM]
    cases hconnection : w.connections[number]? with
    | none => exact .pure trivial
    | some c =>
      simp only [Option.map_some, Connection.link]
      split
      · exact .pure trivial
      · exact (notify_turns w number method params).discard

theorem announce_turns (w : World) (documents : List Diagnostics.Document) :
    Turns none w (w.view.announce documents) (fun _ => True) (documents.forM forwardOpen) := by
  induction documents generalizing w with
  | nil => exact .pure trivial
  | cons document rest ih =>
    refine (forward_turns w _ (openParams document)).bind fun _ w' hw' _ => ?_
    rw [View.announce, List.foldl_cons, ← hw']
    exact ih w'

/-! ### The keeper stays as it is -/

theorem tell_keeper (v : View) (process : Nat) (said : Option (String × Sync)) :
    (v.tell process said).keeper = v.keeper := by
  unfold View.tell
  split <;> rfl

theorem hand_keeper (v : View) (channel : Nat) (method : String) (params : Value) :
    (v.hand channel method params).keeper = v.keeper := by
  unfold View.hand
  split
  · exact tell_keeper v _ _
  · rfl

theorem handAll_keeper (v : View) (channel : Nat) (queue : List (String × Value)) :
    (v.handAll channel queue).keeper = v.keeper := by
  induction queue generalizing v with
  | nil => rfl
  | cons entry rest ih =>
    rw [View.handAll, List.foldl_cons]
    exact (ih _).trans (hand_keeper v _ _ _)

theorem notify_keeper (v : View) (number : Nat) (method : String) (params : Value) :
    (v.notify number method params).keeper = v.keeper := by
  unfold View.notify
  split
  · rfl
  · split
    · split
      · rfl
      · exact hand_keeper v _ _ _
    · rfl
    · rfl

theorem forward_keeper (v : View) (method : String) (params : Value) :
    (v.forward method params).keeper = v.keeper := by
  unfold View.forward
  split
  · rfl
  · split
    · rfl
    · split
      · rfl
      · exact notify_keeper v _ _ _

theorem announce_keeper (v : View) (documents : List Diagnostics.Document) :
    (v.announce documents).keeper = v.keeper := by
  induction documents generalizing v with
  | nil => rfl
  | cons document rest ih =>
    rw [View.announce, List.foldl_cons]
    exact (ih _).trans (forward_keeper v _ _)

end BasiliskServer.World
