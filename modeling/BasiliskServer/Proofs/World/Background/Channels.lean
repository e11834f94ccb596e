import BasiliskServer.Proofs.World.Background.Programs

/-!
# Messages in the background

One lemma for each action that reads or sends messages without telling the companion process anything
about documents, for what listeners do with messages, and for asking the companion process: all of this
changes things in the background only.
-/

namespace BasiliskServer.World

open Json (Value Fields)
open Wire (Diagnostic)
open Tasks (Notice Scheduler)

/-! ## Channels -/

/-- A channel is changed that leads where it did and waits for no more than before. -/
theorem updateChannel_quiet (number : Nat) (change : Channel → Channel)
    (hline : ∀ c, (change c).line = c.line)
    (hanswers : ∀ c, ∀ q ∈ (change c).answers, q ∈ c.answers) :
    Quiet (updateChannel number change) :=
  fun w => ⟨(Background.refl w).setChannel number change hline
    fun c _ q hq => .inl (hanswers c q hq), trivial⟩

theorem send_quiet (number : Nat) {payload : Payload} (hsync : payload.sync? = none) :
    Quiet (send number payload) := by
  refine .get_bind fun w => ?_
  split
  · exact writeInput_quiet _ hsync
  · exact .pure trivial

/-- A message with an id is not about documents. -/
theorem sync?_of_id {message : Fields} (hid : message.has "id") :
    (Payload.message message).sync? = none := by
  simp [Payload.sync?, Sync.ofMessage?, hid]

theorem sync?_requestMessage (id : Value) (method : String) (params : Value) :
    (Payload.message (Rpc.requestMessage id method params)).sync? = none :=
  sync?_of_id rfl

theorem sync?_answer (handlers : Rpc.Handlers) (id : Value) (method : String) (params : Value) :
    (Payload.message (Rpc.answerMessage handlers id method params)).sync? = none := by
  unfold Rpc.answerMessage
  split <;> exact sync?_of_id rfl

theorem sync?_notificationMessage (method : String) (params : Value) :
    (Payload.message (Rpc.notificationMessage method params)).sync? =
      Sync.ofNotification? method params := by
  cases params <;> rfl

theorem notifyThrough_quiet (number : Nat) {method : String} {params : Value}
    (hsync : Sync.ofNotification? method params = none) :
    Quiet (notifyThrough number method params) :=
  send_quiet number ((sync?_notificationMessage method params).trans hsync)

theorem requestThrough_quiet (room : Option Nat) (number : Nat) (method : String)
    (params : Value) : Quiet (requestThrough room number method params) := by
  intro w
  refine ⟨?_, trivial⟩
  have hanswer := (Background.refl w).promise 0
  simp only [requestThrough, run_bind, run_get, run_promise]
  split
  · exact hanswer
  · rename_i c _
    -- the answer will settle the promise that was just made
    have hlisted := hanswer.setChannel number
      (fun c => { c with
        requests := c.requests.request method
        answers := c.answers ++ [w.tasks.promises.length] })
      (fun _ => rfl) (by
        intro c _ q hq
        rcases List.mem_append.1 hq with hq | hq
        · exact .inl hq
        · rw [List.mem_singleton.1 hq]
          exact .inr ⟨Nat.le_refl _, by simp [Scheduler.addPromise]⟩)
    have hobserved := hlisted.observe w.tasks.promises.length
      (.hook (.forget number c.requests.nextId)) (by simp [Notice.target?])
    split
    · exact hobserved
    · exact hobserved.trans (send_quiet number (sync?_requestMessage _ method params) _).1

/-- Without a limit every request is sent. -/
theorem requestThrough_ok (number : Nat) (method : String) (params : Value) (w : World) :
    ∃ answer, ((requestThrough none number method params).run w).1 = .ok answer := by
  simp only [requestThrough, run_bind, run_get, run_promise]
  split <;> exact ⟨_, rfl⟩

/-- Without a limit all notifications can be written. -/
theorem writable_none (queue : List (String × Value)) : writable none queue = queue := by
  induction queue with
  | nil => rfl
  | cons entry rest ih => exact congrArg (entry :: ·) ih

/-- Without a limit nothing stands against a notification. -/
theorem findSome?_obstacle_none (queue : List (String × Value)) :
    queue.findSome? (obstacle? none) = none :=
  List.findSome?_eq_none_iff.2 fun _ _ => rfl

/-- A message that goes out in reply is an answer. -/
theorem eq_answer_of_reply {requests next : Rpc.Requests} {room : Rpc.Room}
    {handlers : Rpc.Handlers} {message reply : Fields}
    (h : requests.handle room handlers message = (next, .reply reply)) :
    ∃ id method params, reply = Rpc.answerMessage handlers id method params := by
  unfold Rpc.Requests.handle at h
  split at h
  · have hreply := congrArg Prod.snd h
    unfold Rpc.answer at hreply
    dsimp only at hreply
    split at hreply
    · cases hreply
      exact ⟨_, _, _, rfl⟩
    · cases hreply
  · simp at h
  · unfold Rpc.Requests.settle at h
    split at h
    · simp at h
    · split at h
      · split at h <;> simp at h
      · simp at h
  · simp at h

theorem takeMessage_quiet (room : Option Nat) (number : Nat) (message : Fields) :
    Quiet (takeMessage room number message) := by
  refine .of_get fun w => ⟨?_, trivial⟩
  split
  · exact .refl w
  · rename_i c hc
    rcases hhandled : c.requests.handle { writing := room } Rpc.defaultHandlers message with
      ⟨requests, reaction⟩
    have hupdated := (updateChannel_quiet number (fun c => { c with requests })
      (fun _ => rfl) (fun _ _ hq => hq) w).1
    simp only [run_bind]
    cases reaction with
    | none => exact hupdated
    | failed => exact hupdated
    | reply reply =>
      obtain ⟨id, method, params, rfl⟩ := eq_answer_of_reply hhandled
      exact hupdated.trans (send_quiet number (sync?_answer _ id method params) _).1
    | decided id outcome =>
      dsimp only
      cases hanswer : c.answerTo? id with
      | none => exact hupdated
      | some answer =>
        refine hupdated.settle answer _ (.inr (.inl ?_))
        exact Background.mem_targets_of_channel hc (List.mem_of_getElem? hanswer)
    | notified => exact hupdated

theorem rejectAll_quiet (number : Nat) (failure : Failure) : Quiet (rejectAll number failure) := by
  refine .get_bind fun w => ?_
  split
  · exact .pure trivial
  · refine .seq (updateChannel_quiet number _ (fun _ => rfl) fun _ _ hq => hq) fun _ => ?_
    exact .forM fun request _ => .forM_option fun answer _ => settle_failure_quiet answer failure

theorem forget_quiet (number id : Nat) : Quiet (forget number id) :=
  updateChannel_quiet number _ (fun _ => rfl) fun _ _ hq => hq

/-! ## What a companion process tells -/

/-- The session is changed, and what is open stays as it is. -/
theorem updateSession_quiet (change : Session → Session)
    (hsheets : ∀ s, (change s).store.documents.map sheetOf = s.store.documents.map sheetOf) :
    Quiet (updateSession change) :=
  fun w => ⟨(Background.refl w).setSession _ (hsheets w.session), trivial⟩

theorem log_quiet (importance : Importance) (text : String) : Quiet (log importance text) :=
  note_quiet fun _ => rfl

theorem popUp_quiet (importance : Importance) (text : String) : Quiet (popUp importance text) :=
  note_quiet fun _ => rfl

theorem display_quiet (publications : List Diagnostics.Publication) :
    Quiet (display publications) :=
  .get_bind fun _ => note_quiet fun _ => rfl

theorem schedule_quiet {activity : Activity} (hactivity : activity.isOfSession) :
    Quiet (schedule activity) := by
  refine .seq (spawn_quiet hactivity) fun _ => ?_
  refine .seq (updateSession_quiet _ fun _ => rfl) fun _ => ?_
  exact observe_quiet _ rfl

theorem retire_quiet (task : Nat) : Quiet (retire task) :=
  updateSession_quiet _ fun _ => rfl

/-! ### What is open -/

/-- Putting a document back as it is known outside changes nothing of what is open. -/
theorem sheets_put {store : Diagnostics.Store} {uri : String}
    {document next : Diagnostics.Document} (hget : store.get? uri = some document)
    (hnext : sheetOf next = sheetOf document) :
    (store.put next).documents.map sheetOf = store.documents.map sheetOf := by
  obtain ⟨documents⟩ := store
  have huri : next.uri = uri := by
    rw [show next.uri = document.uri from congrArg Sheet.uri hnext]
    exact Diagnostics.Store.uri_of_get? hget
  subst huri
  simp only [Diagnostics.Store.get?, Diagnostics.Store.put] at hget ⊢
  induction documents with
  | nil => simp at hget
  | cons first rest ih =>
    rw [Diagnostics.Store.putIn]
    by_cases hfirst : first.uri = next.uri
    · rw [List.find?_cons_of_pos (by simpa using hfirst)] at hget
      cases hget
      rw [if_pos hfirst, List.map_cons, List.map_cons, hnext]
    · rw [List.find?_cons_of_neg (by simpa using hfirst)] at hget
      rw [if_neg hfirst, List.map_cons, List.map_cons, ih hget]

theorem sheets_beginPush (store : Diagnostics.Store) (uri : String) (version : Option Int) :
    (store.beginPush uri version).1.documents.map sheetOf = store.documents.map sheetOf := by
  unfold Diagnostics.Store.beginPush
  split
  · rfl
  · rename_i document hget
    cases version with
    | none => exact sheets_put hget rfl
    | some version =>
      simp only
      split
      · rfl
      · exact sheets_put hget rfl

theorem sheets_commitOwn (store : Diagnostics.Store) (uri : String) (version : Int)
    (found : List Diagnostic) (limit : Int) :
    (store.commitOwn uri version found limit).1.documents.map sheetOf =
      store.documents.map sheetOf := by
  unfold Diagnostics.Store.commitOwn
  split
  · rfl
  · rename_i document hget
    split
    · exact sheets_put hget rfl
    · rfl

theorem sheets_commitPush (store : Diagnostics.Store) (uri : String) (generation : Int)
    (found : List Diagnostic) (publish : Bool) (limit : Int) :
    (store.commitPush uri generation found publish limit).1.documents.map sheetOf =
      store.documents.map sheetOf := by
  unfold Diagnostics.Store.commitPush
  split
  · rfl
  · rename_i document hget
    split
    · exact sheets_put hget rfl
    · rfl

theorem sheets_clearCompanion (store : Diagnostics.Store) :
    store.clearCompanion.documents.map sheetOf = store.documents.map sheetOf := by
  simp [Diagnostics.Store.clearCompanion, sheetOf, Function.comp_def]

/-! ### Listeners -/

theorem takeReport_quiet (uri : String) (problems : List Value) (version : Option Int) :
    Quiet (takeReport uri problems version) := by
  refine .of_get fun w => ⟨?_, trivial⟩
  rcases hbegun : w.session.store.beginPush uri version with ⟨store, generation⟩
  have hsheets : store.documents.map sheetOf = w.session.store.documents.map sheetOf := by
    have hsame := sheets_beginPush w.session.store uri version
    rwa [hbegun] at hsame
  have hstored : Background w { w with session := { w.session with store } } :=
    (Background.refl w).setSession _ hsheets
  cases generation with
  | none => exact hstored
  | some generation => exact (schedule_quiet rfl).after hstored

theorem clearCompanion_quiet :
    Quiet (updateSession fun s => { s with store := s.store.clearCompanion }) :=
  updateSession_quiet _ fun s => sheets_clearCompanion s.store

theorem takeExit_quiet (code : Option Int) : Quiet (takeExit code) := by
  refine .seq (log_quiet _ _) fun _ => .seq clearCompanion_quiet fun _ => .get_bind fun w => ?_
  exact .forM fun document _ => schedule_quiet rfl

/-- The listener of a connection settles its own promise only. -/
theorem report_background {base w : World} (h : Background base w) {c : Connection}
    (hc : ∀ q ∈ c.waiters, q ∈ base.targets) (uri : String) (problems : List Value)
    (version : Option Value) :
    Background base ((c.listener.report uri problems version).run w).2 := by
  cases hlistener : c.listener with
  | nobody => exact h
  | recorder =>
    have hnoted : Quiet (Listener.recorder.report uri problems version) := note_quiet fun _ => rfl
    exact hnoted.after h
  | session => exact (takeReport_quiet uri problems _).after h
  | check expected received =>
    simp only [Listener.report]
    split
    · exact h.settle received _ (.inr (.inl (hc received (by simp [Connection.waiters, hlistener]))))
    · exact h

theorem message_quiet (listener : Listener) (text : String) : Quiet (listener.message text) := by
  cases listener with
  | nobody => exact .pure trivial
  | recorder => exact note_quiet fun _ => rfl
  | session => exact log_quiet _ _
  | check expected received => exact .pure trivial

theorem errors_quiet (listener : Listener) (line : String) : Quiet (listener.errors line) := by
  cases listener with
  | nobody => exact .pure trivial
  | recorder => exact note_quiet fun _ => rfl
  | session => exact .pure trivial
  | check expected received => exact note_quiet fun _ => rfl

theorem exit_quiet (listener : Listener) (code : Option Int) : Quiet (listener.exit code) := by
  cases listener with
  | nobody => exact .pure trivial
  | recorder => exact note_quiet fun _ => rfl
  | session => exact takeExit_quiet code
  | check expected received => exact .pure trivial

theorem takeText_quiet (c : Connection) (params : Value) :
    Quiet (takeNotification.takeText c params) := by
  unfold takeNotification.takeText
  split
  · split
    · exact .pure trivial
    · exact message_quiet _ _
  · exact .pure trivial

theorem takeNotification_background {base w : World} (h : Background base w) {c : Connection}
    (hc : ∀ q ∈ c.waiters, q ∈ base.targets) (method : String) (params : Value) :
    Background base ((takeNotification c method params).run w).2 := by
  unfold takeNotification
  split
  · split
    · exact report_background h hc _ _ _
    · exact h
  · exact (takeText_quiet c params).after h
  · exact (takeText_quiet c params).after h
  · exact h

theorem takeFrame_quiet (number : Nat) (message : Fields) : Quiet (takeFrame number message) := by
  refine .of_get fun w => ⟨?_, trivial⟩
  split
  · rename_i c hc
    split
    · rename_i channel _
      have htaken := (takeMessage_quiet c.room channel message w).1
      simp only [run_bind]
      split
      · exact takeNotification_background htaken
          (fun q hq => Background.mem_targets_of_connection hc hq) _ _
      · exact htaken
    · exact .refl w
  · exact .refl w

theorem settleStarted_quiet (number : Nat) (ready : Bool) : Quiet (settleStarted number ready) := by
  refine .of_get fun w => ⟨?_, trivial⟩
  split
  · rename_i c started hstarted hc
    refine (Background.refl w).settle started _ (.inr (.inl ?_))
    exact Background.mem_targets_of_connection hc (by simp [Connection.waiters])
  · exact .refl w

theorem Owner.frame_quiet (owner : Owner) (message : Fields) : Quiet (owner.frame message) := by
  unfold Owner.frame
  split
  · split
    · exact .pure trivial
    · exact note_quiet fun _ => rfl
  · exact takeFrame_quiet _ message

theorem Owner.errors_quiet (owner : Owner) (line : String) : Quiet (owner.errors line) := by
  unfold Owner.errors
  split
  · split
    · exact note_quiet fun _ => rfl
    · exact .pure trivial
  · refine .get_bind fun w => ?_
    split
    · exact World.errors_quiet _ _
    · exact .pure trivial

/-! ## Reading -/

theorem withProcess_modest (number : Nat) {activity : Nat → Act Next}
    (h : ∀ process, Modest Plain (activity process)) :
    Modest Plain (withProcess number activity) := by
  refine .get_bind fun w => ?_
  split
  · exact .finish _
  · exact h _

theorem readOutput_modest (number process : Nat) : Modest Plain (readOutput number process) := by
  refine .of_get fun w => ?_
  simp only [run_bind, run_get]
  split
  · split
    · exact Modest.fail _ w
    · split
      · exact Modest.finish _ w
      · have hwaiter := (Background.refl w).promise 0
        -- the process will settle the promise that was just made
        have hwaits := hwaiter.setProcess process
          (fun p => { p with stdout := { p.stdout with waiter := some w.tasks.promises.length } })
          (by
            intro p _ q hq
            simp only [Process.waiters, List.mem_append, Option.mem_toList, Option.some.injEq]
              at hq ⊢
            rcases hq with (rfl | hq) | hq
            · exact .inr ⟨Nat.le_refl _, by simp [Scheduler.addPromise]⟩
            · exact .inl (.inl (.inr hq))
            · exact .inl (.inr hq))
        exact ⟨hwaits, (waitAt_modest _ rfl w).2⟩
    · refine Modest.apply ?_ w
      refine .seq (updateProcess_quiet process _ fun _ _ hq => hq) fun _ => ?_
      refine .seq (updateChannel_quiet number _ (fun _ => rfl) fun _ _ hq => hq) fun _ => ?_
      split
      · exact .fail _
      · refine .seq (.forM fun message _ => Owner.frame_quiet _ message) fun _ => .pure ?_
        intro point hpoint
        rw [List.mem_singleton.1 hpoint]
        rfl
  · exact Modest.finish _ w

theorem readErrors_modest (number process : Nat) : Modest Plain (readErrors number process) := by
  have hagain : Modest Plain
      (return .go (.ok .unit) [.channel (.errors number process)] : Act Next) := by
    refine .pure fun point hpoint => ?_
    rw [List.mem_singleton.1 hpoint]
    rfl
  refine .of_get fun w => ?_
  simp only [run_bind, run_get]
  split
  · rename_i p c _ _
    split
    · refine Modest.apply ?_ w
      refine .seq (updateProcess_quiet process _ fun _ _ hq => hq) fun _ => ?_
      split
      · exact .fail _
      · exact .seq (Owner.errors_quiet _ _) fun _ => hagain
    · split
      · refine Modest.apply ?_ w
        exact .seq (updateProcess_quiet process _ fun _ _ hq => hq) fun _ => .fail _
      · split
        · split
          · exact Modest.finish _ w
          · refine Modest.apply ?_ w
            refine .seq (updateProcess_quiet process _ fun _ _ hq => hq) fun _ => ?_
            exact .seq (Owner.errors_quiet _ _) fun _ => hagain
        · have hwaiter := (Background.refl w).promise 0
          have hwaits := hwaiter.setProcess process
            (fun p => { p with
              stderr := { p.stderr with waiter := some w.tasks.promises.length } })
            (by
              intro p _ q hq
              simp only [Process.waiters, List.mem_append, Option.mem_toList, Option.some.injEq]
                at hq ⊢
              rcases hq with (hq | rfl) | hq
              · exact .inl (.inl (.inl hq))
              · exact .inr ⟨Nat.le_refl _, by simp [Scheduler.addPromise]⟩
              · exact .inl (.inr hq))
          exact ⟨hwaits, (waitAt_modest _ rfl w).2⟩
  · exact Modest.finish _ w

/-! ## Asking -/

theorem askReady_modest (number : Nat) (method : String) (params : Value) (limit : Option Nat) :
    Modest Plain (askReady number method params limit) := by
  refine .get_bind fun w => ?_
  split
  · exact .fail _
  · split
    · refine .seq (requestThrough_quiet _ _ _ _) fun asked => ?_
      cases asked with
      | ok answer => exact waitWithin_modest _ _
      | error what => exact .fail _
    · exact .fail _

theorem ask_modest (number : Nat) (method : String) (params : Value) (limit : Option Nat) :
    Modest Plain (ask number method params limit) := by
  refine .get_bind fun w => ?_
  split
  · exact .under rfl (waitShielded_modest _)
  · exact askReady_modest number method params limit

theorem proxy_modest (settings : Settings) (method : String) (params : Value) :
    Modest Plain (proxy settings method params) := by
  refine .get_bind fun w => ?_
  split
  · split
    · exact .under rfl (ask_modest _ _ _ _)
    · exact .finish _
  · exact .finish _

end BasiliskServer.World
