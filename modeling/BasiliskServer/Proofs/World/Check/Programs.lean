import BasiliskServer.Proofs.World.Check.Actions

/-!
# Programs and messages around a check

What processes, channels and connections do keeps what they pledge. Where a process ends, is killed or
is waited for, and where messages come and go, nothing changes in the inventory but what the rule says.
-/

namespace BasiliskServer.World

open Json (Value Fields)
open Tasks (Notice Scheduler)

namespace Trust

variable {α β : Type} {T T' T'' : Trust} {w w' w'' : World}

/-! ## What else changes -/

theorem note_does (change : Record → Record) : T.Does w (note change) :=
  .modify (fun hw => ⟨hw.sound, hw.staffed, hw.processes, hw.commands, hw.channels, hw.connections,
    hw.obliging⟩) rfl (.refl _) rfl

theorem updateSession_does (change : Session → Session) : T.Does w (updateSession change) :=
  .modify (fun hw => ⟨hw.sound, hw.staffed, hw.processes, hw.commands, hw.channels, hw.connections,
    hw.obliging⟩) rfl (.refl _) rfl

/-- What is known of an item stays known when items change in a way that keeps it known. -/
theorem isSome_modify {α β : Type} {items : List α} {number n : Nat} {change : α → α} {f : α → Option β}
    (hchange : ∀ a, (f a).isSome → (f (change a)).isSome) (h : (items[n]?.bind f).isSome) :
    ((items.modify number change)[n]?.bind f).isSome := by
  rw [List.getElem?_modify]
  cases hitem : items[n]? with
  | none => simp [hitem] at h
  | some a =>
    have ha : (f a).isSome := by simpa [hitem] using h
    split
    · simpa using hchange a ha
    · simpa using ha

/-- A process changes; when it has ended, it stays so. -/
theorem updateProcess_acts (number : Nat) {change : Process → Process}
    (hserves : ∀ p, w.processes[number]? = some p → T.Serves number p → T.Serves number (change p))
    (hcode : ∀ p : Process, p.code.isSome → (change p).code.isSome) :
    T.Acts w (updateProcess number change) fun T' w' _ => T' = T ∧ w'.inventory = w.inventory ∧
      w' = { w with processes := w.processes.modify number change } := by
  have hends : w.ended.Grow ({ w with processes := w.processes.modify number change } : World).ended :=
    ⟨fun _ h => isSome_modify hcode h, fun _ h => h, fun _ h => h⟩
  refine (Acts.modify (fun hw => ?_) rfl hends).imp fun T' w' _ _ _ hdone => ⟨hdone.1, ?_, hdone.2⟩
  · refine ⟨hw.sound.grow hends, hw.staffed, ?_, hw.commands, ?_, hw.connections, hw.obliging⟩
    · intro other p hp
      obtain ⟨old, hold, ⟨rfl, rfl⟩ | ⟨-, rfl⟩⟩ := Tasks.getElem?_modify_cases hp
      · exact hserves old hold (hw.processes _ old hold)
      · exact hw.processes other _ hold
    · exact fun c hc => (hw.channels c hc).mono .refl Unmoved.refl.keepsResults (by simp)
  · rw [hdone.2]
    simp [inventory]

theorem updateProcess_does (number : Nat) {change : Process → Process}
    (hserves : ∀ p, w.processes[number]? = some p → T.Serves number p → T.Serves number (change p))
    (hcode : ∀ p : Process, p.code.isSome → (change p).code.isSome) :
    T.Does w (updateProcess number change) :=
  (updateProcess_acts number hserves hcode).imp fun _ _ _ _ _ hdone => ⟨hdone.1, hdone.2.1⟩

/-- A channel changes. -/
theorem updateChannel_acts (number : Nat) {change : Channel → Channel}
    (hconveys : ∀ c, w.channels[number]? = some c → T.Conveys w.tasks w.processes.length c →
      T.Conveys w.tasks w.processes.length (change c)) :
    T.Acts w (updateChannel number change) fun T' w' _ => T' = T ∧
      w' = { w with channels := w.channels.modify number change } := by
  refine Acts.modify (fun hw => ?_) rfl (.refl _)
  refine ⟨hw.sound, hw.staffed, hw.processes, hw.commands, ?_, hw.connections, hw.obliging⟩
  intro c hc
  obtain ⟨other, hother⟩ := List.mem_iff_getElem?.1 hc
  obtain ⟨old, hold, ⟨rfl, rfl⟩ | ⟨-, rfl⟩⟩ := Tasks.getElem?_modify_cases hother
  · exact hconveys old hold (hw.channels old (List.mem_of_getElem? hold))
  · exact hw.channels c (List.mem_of_getElem? hold)

/-- What a change leaves as it is does not show that it was made. -/
theorem map_modify_of_eq {α β : Type} {items : List α} {number : Nat} {change : α → α} {f : α → β}
    (h : ∀ a, f (change a) = f a) : (items.modify number change).map f = items.map f := by
  refine List.ext_getElem? fun i => ?_
  rw [List.getElem?_map, List.getElem?_modify, List.getElem?_map]
  split <;> cases items[i]? <;> simp [h]

theorem updateChannel_does (number : Nat) {change : Channel → Channel}
    (hconveys : ∀ c, w.channels[number]? = some c → T.Conveys w.tasks w.processes.length c →
      T.Conveys w.tasks w.processes.length (change c))
    (hprocess : ∀ c : Channel, (change c).process = c.process) : T.Does w (updateChannel number change) := by
  refine (updateChannel_acts number hconveys).imp fun T' w' _ _ _ hdone => ⟨hdone.1, ?_⟩
  rw [hdone.2]
  simp only [inventory, map_modify_of_eq hprocess]

/-- A connection changes. -/
theorem updateConnection_acts (number : Nat) {change : Connection → Connection}
    (hbinds : ∀ c, T.Binds c → T.Binds (change c)) :
    T.Acts w (updateConnection number change) fun T' w' _ => T' = T ∧
      w' = { w with connections := w.connections.modify number change } := by
  refine Acts.modify (fun hw => ?_) rfl (.refl _)
  refine ⟨hw.sound, hw.staffed, hw.processes, hw.commands, hw.channels, ?_, hw.obliging⟩
  intro c hc
  obtain ⟨other, hother⟩ := List.mem_iff_getElem?.1 hc
  obtain ⟨old, hold, ⟨rfl, rfl⟩ | ⟨-, rfl⟩⟩ := Tasks.getElem?_modify_cases hother
  · exact hbinds old (hw.connections old (List.mem_of_getElem? hold))
  · exact hw.connections c (List.mem_of_getElem? hold)

theorem updateConnection_does (number : Nat) {change : Connection → Connection}
    (hbinds : ∀ c, T.Binds c → T.Binds (change c)) (hphase : ∀ c : Connection, (change c).phase = c.phase)
    (hchannel : ∀ c : Connection, (change c).channel = c.channel) :
    T.Does w (updateConnection number change) := by
  refine (updateConnection_acts number hbinds).imp fun T' w' _ _ _ hdone => ⟨hdone.1, ?_⟩
  rw [hdone.2]
  simp only [inventory]
  rw [map_modify_of_eq fun c => by rw [hphase, hchannel]]

/-- A command changes; when it has ended, it stays so. -/
theorem updateCommand_does (number : Nat) {change : Command → Command}
    (hscript : ∀ c : Command, (change c).script = c.script)
    (hcode : ∀ c : Command, c.code.isSome → (change c).code.isSome) :
    T.Acts w (updateCommand number change) fun T' w' _ => T' = T ∧ w'.inventory = w.inventory ∧
      w' = { w with commands := w.commands.modify number change } := by
  have hends : w.ended.Grow ({ w with commands := w.commands.modify number change } : World).ended := by
    refine ⟨fun _ h => h, fun _ h => isSome_modify hcode h, fun command hp => ?_⟩
    show command < (w.commands.modify number change).length
    rw [List.length_modify]
    exact hp
  refine (Acts.modify (fun hw => ?_) rfl hends).imp fun T' w' _ _ _ hdone => ⟨hdone.1, ?_, hdone.2⟩
  · refine ⟨hw.sound.grow hends, hw.staffed, hw.processes, ?_, hw.channels, hw.connections, hw.obliging⟩
    intro c hc
    obtain ⟨other, hother⟩ := List.mem_iff_getElem?.1 hc
    obtain ⟨old, hold, ⟨rfl, rfl⟩ | ⟨-, rfl⟩⟩ := Tasks.getElem?_modify_cases hother
    · rw [hscript]
      exact hw.commands old (List.mem_of_getElem? hold)
    · exact hw.commands c (List.mem_of_getElem? hold)
  · rw [hdone.2]
    simp [inventory]

/-! ## Processes -/

theorem wakeReader_does {reader : Reader} (h : ∀ q, reader.waiter = some q → T.pledges[q]? = some .free) :
    T.Does w (wakeReader reader) :=
  .forM_option fun q hq => settle_free_does (h q hq) _

/-- A process loses a task that waits for its output. -/
theorem Serves.setOutput {number : Nat} {p : Process} (h : T.Serves number p) {reader : Reader}
    (hwaiter : reader.waiter = none) : T.Serves number { p with stdout := reader } :=
  ⟨h.reachable, fun q hq => (by rw [hwaiter] at hq; cases hq), h.errors, h.exits⟩

/-- A process loses a task that waits for its error output. -/
theorem Serves.setErrors {number : Nat} {p : Process} (h : T.Serves number p) {reader : Reader}
    (hwaiter : reader.waiter = none) : T.Serves number { p with stderr := reader } :=
  ⟨h.reachable, h.output, fun q hq => (by rw [hwaiter] at hq; cases hq), h.exits⟩

theorem writeOutput_does (number : Nat) (bytes : List UInt8) : T.Does w (writeOutput number bytes) := by
  refine Acts.get fun hw => ?_
  split
  · exact Does.pure ()
  · rename_i p hp
    split
    · exact Does.seq (updateProcess_does number (fun _ _ h => h.setOutput rfl) fun _ h => h) fun _ _ _ =>
        wakeReader_does (hw.processes number p hp).output
    · exact Does.pure ()

theorem writeErrors_does (number : Nat) (bytes : List UInt8) : T.Does w (writeErrors number bytes) := by
  refine Acts.get fun hw => ?_
  split
  · exact Does.pure ()
  · rename_i p hp
    split
    · exact Does.seq (updateProcess_does number (fun _ _ h => h.setErrors rfl) fun _ h => h) fun _ _ _ =>
        wakeReader_does (hw.processes number p hp).errors
    · exact Does.pure ()

theorem breakOutput_does (number : Nat) (text : String) : T.Does w (breakOutput number text) := by
  refine Acts.get fun hw => ?_
  split
  · exact Does.pure ()
  · rename_i p hp
    exact Does.seq (updateProcess_does number (fun _ _ h => h.setOutput rfl) fun _ h => h) fun _ _ _ =>
      wakeReader_does (hw.processes number p hp).output

/-- A process ends, and all who wait for it are told. -/
theorem quit_acts (number : Nat) (code : Int) : T.Acts w (quit number code) fun T' w' _ => T' = T ∧
    w'.inventory = w.inventory ∧ (number < w.processes.length → w'.ended.process number) := by
  refine Acts.get fun hw => ?_
  split
  · rename_i hnone
    exact .pure fun _ => ⟨rfl, rfl, fun hlt => absurd (List.getElem?_eq_none_iff.1 hnone) (by omega)⟩
  · rename_i p hp
    split
    · have hp' := hw.processes number p hp
      refine Acts.bind (updateProcess_acts number (fun _ _ h => ⟨h.reachable, fun _ hq => (by cases hq),
        fun _ hq => (by cases hq), fun _ hq => absurd hq List.not_mem_nil⟩) fun _ _ => rfl) ?_
      rintro _ w' - hmoves - ⟨rfl, hinventory, hchanged⟩
      -- now the process has ended
      have hended : w'.ended.process number := by
        show ((w'.processes[number]?).bind (·.code)).isSome
        simp [hchanged, hp]
      refine (wakeReader_does hp'.output).acts fun w₁ _ hmoves₁ hinventory₁ => ?_
      refine (wakeReader_does hp'.errors).acts fun w₂ _ hmoves₂ hinventory₂ => ?_
      refine Acts.imp (Does.forM fun q hq w₃ hmoves₃ => settle_does fun pledge hpledge => ?_)
        fun T' w₃ _ hmoves₃ _ hdone => ⟨hdone.1, ?_, fun _ => ?_⟩
      · obtain ⟨excuse, hexcuse⟩ := hp'.exits q hq
        obtain rfl := Option.some.inj (hexcuse.symm.trans hpledge)
        exact (hmoves₁.trans (hmoves₂.trans hmoves₃)).ends.process number hended
      · rw [hdone.2, hinventory₂, hinventory₁, hinventory]
      · exact (hmoves₁.trans (hmoves₂.trans hmoves₃)).ends.process number hended
    · rename_i hsome
      refine .pure fun _ => ⟨rfl, rfl, fun _ => ?_⟩
      show ((w.processes[number]?).bind (·.code)).isSome
      rw [hp]
      simpa [Option.isSome_iff_ne_none] using hsome

theorem quit_does (number : Nat) (code : Int) : T.Does w (quit number code) :=
  (quit_acts number code).imp fun _ _ _ _ _ hdone => ⟨hdone.1, hdone.2.1⟩

theorem afterDelay_does (delay : Nat) (hook : Hook) {now : Act Unit} (hnow : T.Does w now) :
    T.Does w (afterDelay delay hook now) := by
  unfold afterDelay
  split
  · exact hnow
  · exact (timer_does delay (.hook hook) trivial).seq fun _ _ _ => Does.pure ()

theorem say_does (number : Nat) (message : Fields) (delay : Nat) : T.Does w (say number message delay) :=
  afterDelay_does delay _ (writeOutput_does _ _)

theorem carryOut_does (number : Nat) (id : Value) (reply : Reply) : T.Does w (carryOut number id reply) := by
  cases reply with
  | result value delay => exact say_does _ _ _
  | refusal error delay => exact say_does _ _ _
  | quit code delay => exact afterDelay_does delay _ (quit_does _ _)
  | silence => exact Does.pure ()

theorem tellOnOpen_does (number : Nat) (script : CompanionScript) (method : String) (params : Value) :
    T.Does w (tellOnOpen number script method params) := by
  unfold tellOnOpen
  split
  · refine (writeErrors_does _ _).seq fun _ _ _ => ?_
    cases script.problemsOnOpen with
    | none => exact Does.pure ()
    | some problems => exact say_does _ _ _
  · exact Does.pure ()

/-- What a process has been told does not matter to who waits for it. -/
theorem Serves.setInput {number : Nat} {p : Process} (h : T.Serves number p) (decoder : Rpc.Decoder)
    (received : List Fields) : T.Serves number { p with decoder, received } :=
  ⟨h.reachable, h.output, h.errors, h.exits⟩

theorem receive_does (number : Nat) (message : Fields) : T.Does w (receive number message) := by
  refine Acts.get fun _ => ?_
  split
  · exact Does.pure ()
  · refine (note_does _).seq fun _ _ _ => Does.seq
      (updateProcess_does number (fun p _ h => h.setInput p.decoder _) fun _ h => h) fun _ _ _ => ?_
    split
    · refine (tellOnOpen_does _ _ _ _).seq fun _ _ _ => ?_
      split
      · exact Does.pure ()
      · exact carryOut_does _ _ _
    · exact Does.pure ()

theorem writeInput_does (number : Nat) (payload : Payload) : T.Does w (writeInput number payload) := by
  refine Acts.get fun _ => ?_
  split
  · exact Does.pure ()
  · refine (note_does _).seq fun _ _ _ => ?_
    split
    · refine Does.seq (updateProcess_does number (fun p _ h => h.setInput _ p.received) fun _ h => h)
        fun _ _ _ => ?_
      exact .forM_option fun _ _ => .forM fun _ _ _ _ => receive_does number _
    · exact Does.pure ()

/-- A process is asked to end; it can be. -/
theorem askToEnd_acts (number : Nat) : T.Acts w (askToEnd number) fun T' w' asked => T' = T ∧
    w'.inventory = w.inventory ∧ asked = true := by
  refine (note_does _).acts fun w₁ _ _ hinventory => Acts.get fun hw => ?_
  split
  · exact .pure fun _ => ⟨rfl, hinventory, rfl⟩
  · rename_i p hp
    rw [(hw.processes number p hp).reachable]
    simp only [Bool.false_eq_true, if_false]
    split
    · refine (quit_does number (-15)).acts fun w₂ _ _ hinventory₂ => .pure fun _ => ?_
      exact ⟨rfl, hinventory₂.trans hinventory, rfl⟩
    · exact .pure fun _ => ⟨rfl, hinventory, rfl⟩

/-- A process that is killed has ended. -/
theorem kill_acts (number : Nat) : T.Acts w (kill number) fun T' w' _ => T' = T ∧
    w'.inventory = w.inventory ∧ (number < w.processes.length → w'.ended.process number) := by
  refine (note_does _).acts fun w₁ _ _ hinventory => (quit_acts number (-9)).imp ?_
  rintro T' w' - - - ⟨rfl, hsame, hended⟩
  refine ⟨rfl, hsame.trans hinventory, fun hlt => hended ?_⟩
  have hlength : w₁.processes.length = w.processes.length := congrArg Inventory.processes hinventory
  omega

/-! ## Waiting -/

/-- Waits for some time, for someone who excuses this. -/
theorem sleep_acts (excuse : Excuse) (delay : Nat) : T.Acts w (sleep delay) fun T' w' next =>
    w'.inventory = w.inventory ∧ ∃ done alarm, next = .wait done [.wait (.sleeping alarm)] ∧
      T'.pledges[done]? = some ⟨.nothing, excuse⟩ := by
  refine (promise_acts 0 fun _ => ⟨.nothing, excuse⟩).bind fun T₁ w₁ done _ _ hpledge => ?_
  refine (timer_does delay (.release done) ⟨_, hpledge.1, rfl⟩).acts fun w₂ alarm _ hinventory => ?_
  exact .pure fun _ => ⟨hinventory.trans hpledge.2.2.1, done, alarm, rfl, hpledge.1⟩

/-- Waits for all of several promises, for someone who excuses this. -/
theorem waitAll_acts (excuse : Excuse) (promises : List Nat) (point : Point) :
    T.Acts w (waitAll promises point) fun T' w' next => w'.inventory = w.inventory ∧
      ∃ done, next = .wait done [point] ∧ T'.pledges[done]? = some ⟨.nothing, excuse⟩ := by
  refine (promise_acts _ fun _ => ⟨.nothing, excuse⟩).bind fun T₁ w₁ done _ _ hpledge => ?_
  refine (Does.forM fun q _ w₂ _ => observe_does q (.tally done) ⟨_, hpledge.1, rfl⟩).acts
    fun w₂ _ _ hinventory => ?_
  exact .pure fun _ => ⟨hinventory.trans hpledge.2.2.1, done, rfl, hpledge.1⟩

/-- Waits for the end of a process, for someone who excuses this. -/
theorem awaitExit_acts (excuse : Excuse) (number : Nat) : T.Acts w (awaitExit number) fun T' w' next =>
    w'.inventory = w.inventory ∧
      ((∃ code, next = .go (.ok (.code code)) []) ∧ w'.ended.process number ∨
        ¬ w.ended.process number ∧ ∃ done, next = .wait done [.program (.ending number)] ∧
          T'.pledges[done]? = some ⟨.ended number, excuse⟩) := by
  refine Acts.get fun _ => ?_
  -- The code is known, or the process keeps a promise that its end will settle.
  split
  · rename_i code hcode
    refine .pure fun _ => ⟨rfl, .inl ⟨⟨_, rfl⟩, ?_⟩⟩
    show (exitCode? w number).isSome
    rw [hcode]
    rfl
  · rename_i hnone
    refine (promise_acts 0 fun _ => ⟨.ended number, excuse⟩).bind fun T₁ w₁ done _ _ hpledge => ?_
    refine Does.acts (updateProcess_does number
      (fun p _ h => ⟨h.reachable, h.output, h.errors, fun q hq => ?_⟩) fun _ h => h)
      fun w₂ _ _ hinventory => .pure fun _ => ⟨hinventory.trans hpledge.2.2.1, .inr ⟨?_, ?_⟩⟩
    · rcases List.mem_append.1 hq with hold | hnew
      · exact h.exits q hold
      · obtain rfl := List.mem_singleton.1 hnew
        exact ⟨excuse, hpledge.1⟩
    · show ¬ (exitCode? w number).isSome
      rw [hnone]
      exact Bool.false_ne_true
    · exact ⟨done, rfl, hpledge.1⟩

/-! ## Messages -/

theorem send_does (number : Nat) (payload : Payload) : T.Does w (send number payload) := by
  refine Acts.get fun _ => ?_
  split
  · exact writeInput_does _ _
  · exact Does.pure ()

theorem notifyThrough_does (number : Nat) (method : String) (params : Value) :
    T.Does w (notifyThrough number method params) :=
  send_does number _

/-- What a request is known by does not matter to who waits for answers. -/
theorem Conveys.setRequests {s : Scheduler Point Answer Hook} {size : Nat} {c : Channel}
    (h : T.Conveys s size c) (requests : Rpc.Requests) : T.Conveys s size { c with requests } :=
  ⟨h.process, h.answers, h.tasks⟩

/-- A request is sent by whoever writes everything, and its answer is promised. -/
theorem requestThrough_acts (number : Nat) (method : String) (params : Value) :
    T.Acts w (requestThrough none number method params) fun T' w' asked => ∃ q, asked = .ok q ∧
      T'.pledges[q]? = some (.reply q) ∧ q ∉ T'.given ∧ w'.inventory = w.inventory := by
  refine (promise_acts 0 .reply).bind fun T₁ w₁ q _ _ hpledge => Acts.get fun _ => ?_
  split
  · exact .pure fun _ => ⟨q, rfl, hpledge.1, hpledge.2.1, hpledge.2.2.1⟩
  · refine Does.acts (updateChannel_does number (fun c _ h => ⟨h.process, fun other hother => ?_, h.tasks⟩)
      fun _ => rfl) fun w₂ _ _ hinventory₂ => ?_
    · rcases List.mem_append.1 hother with hold | hnew
      · exact h.answers other hold
      · obtain rfl := List.mem_singleton.1 hnew
        exact hpledge.1
    · refine (observe_does q (.hook _) trivial).acts fun w₃ _ _ hinventory₃ => ?_
      refine (send_does _ _).acts fun w₄ _ _ hinventory₄ => .pure fun _ =>
        ⟨q, rfl, hpledge.1, hpledge.2.1, ?_⟩
      rw [hinventory₄, hinventory₃, hinventory₂, hpledge.2.2.1]

/-- An answer brings a value or a failure of the peer. -/
theorem peer_of_outcomeOf {spelling : Option Nat} {message : Fields} {method : String}
    {failure : Failure} (h : Rpc.outcomeOf spelling message method = .ok (.error failure)) :
    isUnanswered failure := by
  unfold Rpc.outcomeOf at h
  split at h
  · cases h
  · cases h
  · rename_i error _ _
    cases hfault : Rpc.peerFault spelling error method with
    | error what =>
      rw [hfault] at h
      cases h
    | ok fault =>
      rw [hfault] at h
      cases h
      rfl

/-- What the peer decides against a request is a failure of the peer. -/
theorem peer_of_decided {requests requests' : Rpc.Requests} {room : Rpc.Room} {message : Fields}
    {id : Nat} {outcome : Rpc.Outcome} {failure : Failure}
    (h : requests.handle room Rpc.defaultHandlers message = (requests', .decided id outcome))
    (hfailed : outcome = .error failure) : isUnanswered failure := by
  subst hfailed
  have hsettle : ∀ requests' : Rpc.Requests,
      requests.settle room.spelling message = (requests', .decided id (.error failure)) →
      isUnanswered failure := by
    intro requests' hsettle
    unfold Rpc.Requests.settle at hsettle
    split at hsettle
    · cases hsettle
    · split at hsettle
      · split at hsettle
        · rename_i houtcome
          obtain ⟨-, -, rfl⟩ : _ ∧ _ ∧ _ = _ := by simpa using hsettle
          exact peer_of_outcomeOf houtcome
        · cases hsettle
      · cases hsettle
  unfold Rpc.Requests.handle at h
  simp only at h
  split at h
  · have hanswer := congrArg Prod.snd h
    simp only [Rpc.answer] at hanswer
    split at hanswer <;> cases hanswer
  · cases h
  · exact hsettle _ h
  · cases h

theorem takeMessage_does (room : Option Nat) (number : Nat) (message : Fields) :
    T.Does w (takeMessage room number message) := by
  refine Acts.get fun hw => ?_
  split
  · exact Does.pure none
  · rename_i c hc
    -- only an answer settles anything: the promise of the request that it answers
    refine Does.seq (updateChannel_does number (fun _ _ h => h.setRequests _) fun _ => rfl) fun w₁ _ _ => ?_
    split
    · exact Does.pure none
    · exact Does.pure none
    · exact (send_does _ _).seq fun _ _ _ => Does.pure none
    · rename_i id outcome hreaction
      refine (Does.forM_option fun q hq => ?_).seq fun _ _ _ => Does.pure none
      refine settle_reply_does ((hw.channels c (List.mem_of_getElem? hc)).answers q
        (List.mem_of_getElem? hq)) fun failure hfailure => ?_
      -- a failure in the answer is one of the peer
      refine peer_of_decided (Prod.ext rfl hreaction) ?_
      cases outcome with
      | ok value => cases hfailure
      | error other =>
        obtain rfl := Except.error.inj hfailure
        rfl
    · exact Does.pure _

theorem rejectAll_does (number : Nat) (failure : Failure) (hfailure : isUnanswered failure) :
    T.Does w (rejectAll number failure) := by
  refine Acts.get fun hw => ?_
  split
  · exact Does.pure ()
  · rename_i c hc
    refine Does.seq (updateChannel_does number (fun _ _ h => h.setRequests _) fun _ => rfl) fun w₁ _ _ => ?_
    refine .forM fun request _ w₂ _ => .forM_option fun q hq => ?_
    refine settle_reply_does ((hw.channels c (List.mem_of_getElem? hc)).answers q (List.mem_of_getElem? hq))
      fun other hother => ?_
    obtain rfl := Except.error.inj hother
    exact hfailure

theorem forget_does (number id : Nat) : T.Does w (forget number id) :=
  updateChannel_does number (fun _ _ h => h.setRequests _) fun _ => rfl

theorem takeNotification_does {c : Connection} (hbinds : T.Binds c) (method : String) (params : Value) :
    T.Does w (takeNotification c method params) := by
  obtain ⟨expected, received, hlistener, hreply⟩ := hbinds.listener
  have htext : T.Does w (takeNotification.takeText c params) := by
    unfold takeNotification.takeText
    rw [hlistener]
    split
    · split <;> exact Does.pure ()
    · exact Does.pure ()
  unfold takeNotification
  split
  · split
    · rw [hlistener]
      show T.Does w (if _ then _ else _)
      split
      · exact settle_reply_does hreply fun _ h => by cases h
      · exact Does.pure ()
    · exact Does.pure ()
  · exact htext
  · exact htext
  · exact Does.pure ()

theorem takeFrame_does (number : Nat) (message : Fields) : T.Does w (takeFrame number message) := by
  refine Acts.get fun hw => ?_
  split
  · rename_i c hc
    split
    · refine (takeMessage_does _ _ _).seq fun w₁ told _ => ?_
      split
      · exact takeNotification_does (hw.connections c (List.mem_of_getElem? hc)) _ _
      · exact Does.pure ()
    · exact Does.pure ()
  · exact Does.pure ()

theorem frame_does (owner : Owner) (message : Fields) : T.Does w (owner.frame message) := by
  cases owner with
  | recorder full takes =>
    show T.Does w (if _ then _ else _)
    split
    · exact Does.pure ()
    · exact note_does _
  | connection number => exact takeFrame_does number message

theorem ownerErrors_does (owner : Owner) (line : String) : T.Does w (owner.errors line) := by
  cases owner with
  | recorder full takes =>
    show T.Does w (if _ then _ else _)
    split
    · exact note_does _
    · exact Does.pure ()
  | connection number =>
    refine Acts.get fun hw => ?_
    split
    · rename_i c hc
      obtain ⟨expected, received, hlistener, -⟩ := (hw.connections c (List.mem_of_getElem? hc)).listener
      rw [hlistener]
      exact note_does _
    · exact Does.pure ()

theorem settleStarted_does (number : Nat) (ready : Bool) : T.Does w (settleStarted number ready) := by
  refine Acts.get fun hw => ?_
  split
  · rename_i c hc
    exact settle_free_does ((hw.connections _ (List.mem_of_getElem? hc)).started _ rfl) _
  · exact Does.pure ()

end Trust

end BasiliskServer.World
