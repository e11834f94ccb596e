import BasiliskServer.Proofs.World.Background
import BasiliskServer.World.Incidents

/-!
# What leaves the output of a process unread

Of the tasks of a channel only one reads the output of the process. Everything else that happens to
a channel leaves what was read as it is, and what was written stays where it is until it is read:
`Beside` says so, relative to the world before. It also says that the record of the ends of the
process does not change, and that nothing is handed to the process once its channel is being closed.

`Respects` lifts this to actions, as `Modest` does for what goes on in the background. The points of
the tasks that do not read are bystanders: going on at one of them leads to others.
-/

namespace BasiliskServer.World

open Json (Value Fields)
open Tasks (Notice Scheduler)

/-! ## Actions that keep what holds of a world -/

/-- The action keeps `I`, and where `I` holds, its result satisfies `post`. -/
def Respects {α : Type} (I : World → Prop) (post : α → Prop) (act : Act α) : Prop :=
  ∀ w, I w → I (act.run w).2 ∧ post (act.run w).1

/-- The action keeps `I`. -/
abbrev Keeps {α : Type} (I : World → Prop) (act : Act α) : Prop :=
  Respects I (fun _ => True) act

namespace Respects

variable {α β : Type} {I : World → Prop} {post : α → Prop} {post' : β → Prop}

theorem pure {a : α} (h : post a) : Respects I post (Pure.pure a) :=
  fun _ hw => ⟨hw, h⟩

theorem bind {act : Act α} {rest : α → Act β} (h : Respects I post act)
    (hrest : ∀ a, post a → Respects I post' (rest a)) : Respects I post' (act >>= rest) := by
  intro w hw
  obtain ⟨hact, ha⟩ := h w hw
  exact hrest _ ha _ hact

/-- After an action that leaves nothing to know. -/
theorem seq {act : Act α} {rest : α → Act β} (h : Keeps I act)
    (hrest : ∀ a, Respects I post' (rest a)) : Respects I post' (act >>= rest) :=
  bind h fun a _ => hrest a

/-- An action that looks at the world first. -/
theorem get_bind {rest : World → Act β} (h : ∀ w, I w → Respects I post' (rest w)) :
    Respects I post' (get >>= rest) :=
  fun w hw => h w hw w hw

/-- An action that looks at the world first, where it matters that it is this world. -/
theorem of_get {rest : World → Act β}
    (h : ∀ w, I w → I ((rest w).run w).2 ∧ post' ((rest w).run w).1) :
    Respects I post' (get >>= rest) :=
  h

theorem forM {items : List β} {act : β → Act Unit} (h : ∀ item ∈ items, Keeps I (act item)) :
    Keeps I (items.forM act) := by
  induction items with
  | nil => exact pure trivial
  | cons item rest ih =>
    refine bind (h item List.mem_cons_self) fun _ _ => ih fun other hother => ?_
    exact h other (List.mem_cons_of_mem _ hother)

theorem forM_option {item : Option β} {act : β → Act Unit} (h : ∀ i, item = some i → Keeps I (act i)) :
    Keeps I (item.forM act) := by
  cases item with
  | none => exact pure trivial
  | some i => exact h i rfl

/-- An activity that goes on at a further point afterwards. -/
theorem under (good : Point → Prop) {point : Point} {act : Act Next} (hpoint : good point)
    (h : Respects I (fun next => ∀ other ∈ points next, good other) act) :
    Respects I (fun next => ∀ other ∈ points next, good other) (World.under point act) := by
  refine bind h fun next hnext => pure fun other hother => ?_
  have hmem : other ∈ points next ++ [point] := by
    cases next <;> exact hother
  rcases List.mem_append.1 hmem with hmem | hmem
  · exact hnext other hmem
  · rw [List.mem_singleton.1 hmem]
    exact hpoint

end Respects

/-! ## Bystanders -/

/-- The points of the tasks of a channel at which no output is read. -/
def Point.isAside : Point → Bool
  | .start (.readErrors _) | .start (.watch _ _) | .start (.closeChannel _)
  | .start (.awaitExit _) => true
  | .wait _ => true
  | .program (.ending _) => true
  | .channel (.opened _) | .channel (.output _ _) => false
  | .channel _ => true
  | _ => false

/-- The channel `next` has come out of `c`, and nothing was read. -/
structure Channel.Follows (c next : Channel) : Prop where
  /-- Nothing was read. -/
  decoder : next.decoder = c.decoder
  /-- The same takes the messages. -/
  owner : next.owner = c.owner
  /-- A channel that is being closed stays so. -/
  closing : c.closing → next.closing

/-- The process `next` has come out of `p`, and nothing was read. -/
structure Process.Follows (p next : Process) : Prop where
  /-- What was written stays; a process that has ended writes nothing more. -/
  written : ∃ new, next.stdout.buffer = p.stdout.buffer ++ new ∧ (p.stdout.ended → new = [])
  /-- A process that has ended stays so. -/
  ended : p.stdout.ended → next.stdout.ended
  /-- The output can be read as before. -/
  fault : next.stdout.fault = p.stdout.fault
  /-- The output has ended when the process has. -/
  code : next.stdout.ended = next.code.isSome

/-- Where the tasks stand. -/
def positions (w : World) : List (List Point) :=
  w.tasks.tasks.map (·.stack)

/-- The world `w` with one channel and one process has come out of one in which they were `c` and
`p`, and nothing was read. -/
structure Beside (base : World) (c : Channel) (p : Process) (w : World) : Prop where
  /-- The channel. -/
  channel : ∃ next, w.channels = [next] ∧ c.Follows next
  /-- The process. -/
  process : ∃ next, w.processes = [next] ∧ p.Follows next
  /-- No messages were taken. -/
  frames : w.record.frames = base.record.frames
  /-- No end was reported. -/
  exits : w.record.exits = base.record.exits
  /-- Nothing is handed to the process of a channel that is being closed. -/
  handed : c.closing → w.record.handed = base.record.handed
  /-- The same task runs. -/
  running : w.tasks.running = base.tasks.running
  /-- The tasks stand where they stood, and those that were started are bystanders. -/
  positions : ∃ added : List Point, (∀ point ∈ added, point.isAside) ∧
    w.positions = base.positions ++ added.map ([·])

theorem Channel.Follows.refl (c : Channel) : c.Follows c :=
  ⟨rfl, rfl, id⟩

/-- A change that does not concern the output. -/
theorem Process.Follows.of_eq {p next : Process} (hcode : p.stdout.ended = p.code.isSome)
    (hbuffer : next.stdout.buffer = p.stdout.buffer) (hended : next.stdout.ended = p.stdout.ended)
    (hfault : next.stdout.fault = p.stdout.fault) (hsame : next.code = p.code) :
    p.Follows next where
  written := ⟨[], by rw [hbuffer, List.append_nil], fun _ => rfl⟩
  ended := fun hp => hended.trans hp
  fault := hfault
  code := by rw [hended, hsame, hcode]

theorem Process.Follows.refl {p : Process} (hcode : p.stdout.ended = p.code.isSome) :
    p.Follows p :=
  .of_eq hcode rfl rfl rfl rfl

theorem Process.Follows.trans {p next last : Process} (h : p.Follows next)
    (h' : next.Follows last) : p.Follows last where
  written := by
    obtain ⟨new, hnew, hended⟩ := h.written
    obtain ⟨more, hmore, hended'⟩ := h'.written
    refine ⟨new ++ more, by rw [hmore, hnew, List.append_assoc], fun hp => ?_⟩
    rw [hended hp, hended' (h.ended hp), List.append_nil]
  ended := fun hp => h'.ended (h.ended hp)
  fault := h'.fault.trans h.fault
  code := h'.code

namespace Beside

variable {base w : World} {c : Channel} {p : Process}

protected theorem refl (hc : w.channels = [c]) (hp : w.processes = [p])
    (hcode : p.stdout.ended = p.code.isSome) : Beside w c p w where
  channel := ⟨c, hc, .refl c⟩
  process := ⟨p, hp, .refl hcode⟩
  frames := rfl
  exits := rfl
  handed := fun _ => rfl
  running := rfl
  positions := ⟨[], by simp, by simp⟩

/-- The tasks are changed, and none is moved. -/
theorem setTasks (h : Beside base c p w) {tasks : Scheduler Point Answer Hook}
    (hrunning : tasks.running = w.tasks.running) (hstacks : tasks.tasks.map (·.stack) = w.positions) :
    Beside base c p { w with tasks } where
  channel := h.channel
  process := h.process
  frames := h.frames
  exits := h.exits
  handed := h.handed
  running := hrunning.trans h.running
  positions := by
    obtain ⟨added, hadded, heq⟩ := h.positions
    exact ⟨added, hadded, hstacks.trans heq⟩

/-- The process is changed, and nothing is read. -/
theorem setProcess (h : Beside base c p w) (number : Nat) (change : Process → Process)
    (hchange : ∀ q : Process, w.processes = [q] → q.stdout.ended = q.code.isSome →
      q.Follows (change q)) :
    Beside base c p { w with processes := w.processes.modify number change } where
  channel := h.channel
  process := by
    obtain ⟨next, hnext, hfollows⟩ := h.process
    have hlater := hfollows.trans (hchange next hnext hfollows.code)
    rw [hnext]
    cases number with
    | zero => exact ⟨change next, rfl, hlater⟩
    | succ number => exact ⟨next, by simp, hfollows⟩
  frames := h.frames
  exits := h.exits
  handed := h.handed
  running := h.running
  positions := h.positions

/-- The channel is changed, and nothing is read. -/
theorem setChannel (h : Beside base c p w) (number : Nat) {change : Channel → Channel}
    (hchange : ∀ d : Channel, d.Follows (change d)) :
    Beside base c p { w with channels := w.channels.modify number change } where
  channel := by
    obtain ⟨next, hnext, hfollows⟩ := h.channel
    have hlater := hchange next
    rw [hnext]
    cases number with
    | zero =>
      refine ⟨change next, rfl, ?_, ?_, fun hc => hlater.closing (hfollows.closing hc)⟩
      · exact hlater.decoder.trans hfollows.decoder
      · exact hlater.owner.trans hfollows.owner
    | succ number => exact ⟨next, by simp, hfollows⟩
  process := h.process
  frames := h.frames
  exits := h.exits
  handed := h.handed
  running := h.running
  positions := h.positions

/-- Something can be seen from outside, but no message and no end. -/
theorem setRecord (h : Beside base c p w) {record : Record}
    (hframes : record.frames = w.record.frames) (hexits : record.exits = w.record.exits)
    (hhanded : c.closing → record.handed = w.record.handed) :
    Beside base c p { w with record } where
  channel := h.channel
  process := h.process
  frames := hframes.trans h.frames
  exits := hexits.trans h.exits
  handed := fun hc => (hhanded hc).trans (h.handed hc)
  running := h.running
  positions := h.positions

/-- A bystander is started. -/
theorem spawn (h : Beside base c p w) {point : Point} (hpoint : point.isAside) :
    Beside base c p { w with tasks := (w.tasks.spawn point).2 } where
  channel := h.channel
  process := h.process
  frames := h.frames
  exits := h.exits
  handed := h.handed
  running := h.running
  positions := by
    obtain ⟨added, hadded, heq⟩ := h.positions
    have hstacks : ({ w with tasks := (w.tasks.spawn point).2 } : World).positions =
        w.positions ++ [[point]] := by
      simp [World.positions, Scheduler.spawn]
    refine ⟨added ++ [point], ?_, ?_⟩
    · simpa [or_imp, forall_and] using ⟨hadded, hpoint⟩
    · rw [hstacks, heq, List.append_assoc, List.map_append, List.map_singleton]

end Beside

/-! ## Steps of activities -/

section Tasks

variable {s : Scheduler Point Answer Hook}

/-- Giving a task up does not move it. -/
theorem interrupt_same (task : Nat) : (s.interrupt task).running = s.running ∧
    (s.interrupt task).tasks.map (·.stack) = s.tasks.map (·.stack) := by
  rcases s.interrupt_cases task with heq | ⟨t, ht, heq | ⟨q, -, heq⟩⟩ <;> rw [heq]
  · exact ⟨rfl, rfl⟩
  · exact ⟨rfl, Scheduler.map_set_of_eq ht rfl⟩
  · exact (s.settle_same q _).imp id fun heq => by rw [heq]

theorem giveUp_same (promise : Nat) : (s.giveUp promise).running = s.running ∧
    (s.giveUp promise).tasks.map (·.stack) = s.tasks.map (·.stack) := by
  rcases s.giveUp_cases promise with ⟨task, -, heq⟩ | ⟨-, heq⟩ <;> rw [heq]
  · exact interrupt_same task
  · exact (s.settle_same promise _).imp id fun heq => by rw [heq]

end Tasks

/-- The points at which an activity goes on are bystanders. -/
def Aside (next : Next) : Prop :=
  ∀ point ∈ points next, point.isAside

section

variable {base : World} {c : Channel} {p : Process}

theorem modifyTasks_beside {step : Scheduler Point Answer Hook → Scheduler Point Answer Hook}
    (h : ∀ s : Scheduler Point Answer Hook, (step s).running = s.running ∧
      (step s).tasks.map (·.stack) = s.tasks.map (·.stack)) :
    Keeps (Beside base c p) (modifyTasks step) :=
  fun w hw => ⟨hw.setTasks (h w.tasks).1 (h w.tasks).2, trivial⟩

theorem settle_beside (promise : Nat) (outcome : Outcome) :
    Keeps (Beside base c p) (settle promise outcome) :=
  modifyTasks_beside fun _ => (Scheduler.settle_same _ promise outcome).imp id fun heq => by rw [heq]

theorem observe_beside (promise : Nat) (notice : Notice Hook) :
    Keeps (Beside base c p) (observe promise notice) :=
  modifyTasks_beside fun _ => (Scheduler.observe_same _ promise notice).imp id fun heq => by rw [heq]

theorem promise_beside (missing : Nat) : Keeps (Beside base c p) (promise missing) :=
  fun _ hw => ⟨hw.setTasks rfl rfl, trivial⟩

theorem timer_beside (delay : Nat) (notice : Notice Hook) :
    Keeps (Beside base c p) (timer delay notice) :=
  fun _ hw => ⟨hw.setTasks rfl rfl, trivial⟩

theorem stopTimer_beside (number : Nat) : Keeps (Beside base c p) (stopTimer number) :=
  modifyTasks_beside fun _ => ⟨rfl, rfl⟩

theorem spawn_beside {activity : Activity} (h : (Point.start activity).isAside) :
    Keeps (Beside base c p) (spawn activity) :=
  fun _ hw => ⟨hw.spawn h, trivial⟩

theorem note_beside {change : Record → Record} (hframes : ∀ r, (change r).frames = r.frames)
    (hexits : ∀ r, (change r).exits = r.exits) (hhanded : c.closing → ∀ r, (change r).handed = r.handed) :
    Keeps (Beside base c p) (note change) :=
  fun _ hw => ⟨hw.setRecord (hframes _) (hexits _) fun hc => hhanded hc _, trivial⟩

theorem updateChannel_beside (number : Nat) {change : Channel → Channel}
    (h : ∀ d : Channel, d.Follows (change d)) :
    Keeps (Beside base c p) (updateChannel number change) :=
  fun _ hw => ⟨hw.setChannel number h, trivial⟩

theorem updateProcess_beside (number : Nat) {change : Process → Process}
    (h : ∀ q : Process, q.stdout.ended = q.code.isSome → q.Follows (change q)) :
    Keeps (Beside base c p) (updateProcess number change) :=
  fun _ hw => ⟨hw.setProcess number change fun q _ => h q, trivial⟩

theorem finish_beside (answer : Answer) : Respects (Beside base c p) Aside (finish answer) :=
  .pure fun _ h => absurd h List.not_mem_nil

theorem fail_beside (failure : Failure) : Respects (Beside base c p) Aside (fail failure) :=
  .pure fun _ h => absurd h List.not_mem_nil

theorem give_beside (outcome : Outcome) : Respects (Beside base c p) Aside (give outcome) :=
  .pure fun _ h => absurd h List.not_mem_nil

theorem waitAt_beside (promise : Nat) {point : Point} (h : point.isAside) :
    Respects (Beside base c p) Aside (waitAt promise point) :=
  .pure fun other hother => by rw [List.mem_singleton.1 hother]; exact h

theorem under_beside {point : Point} {act : Act Next} (hpoint : point.isAside)
    (h : Respects (Beside base c p) Aside act) :
    Respects (Beside base c p) Aside (under point act) :=
  Respects.under (fun other : Point => other.isAside = true) hpoint h

/-! ### Waiting -/

theorem reap_beside (inner : Nat) (alarm : Option Nat) (interrupted : Bool) :
    Respects (Beside base c p) Aside (reap inner alarm interrupted) :=
  .seq (promise_beside 0) fun done => .seq (observe_beside inner _) fun _ =>
    .seq (modifyTasks_beside fun _ => giveUp_same inner) fun _ => waitAt_beside done rfl

theorem waitLimited_beside (inner limit : Nat) :
    Respects (Beside base c p) Aside (waitLimited inner limit) := by
  unfold waitLimited
  split
  · refine .get_bind fun w _ => ?_
    split
    · exact give_beside _
    · exact reap_beside inner none false
  · exact .seq (promise_beside 0) fun done => .seq (timer_beside limit _) fun _ =>
      .seq (observe_beside inner _) fun _ => waitAt_beside done rfl

theorem waitAll_beside (promises : List Nat) {point : Point} (h : point.isAside) :
    Respects (Beside base c p) Aside (waitAll promises point) :=
  .seq (promise_beside _) fun done =>
    .seq (.forM fun other _ => observe_beside other _) fun _ => waitAt_beside done h

theorem waitResume_beside (point : WaitPoint) (outcome : Outcome) :
    Respects (Beside base c p) Aside (point.resume outcome) := by
  cases point with
  | sleeping alarm => exact .seq (stopTimer_beside alarm) fun _ => give_beside outcome
  | limited inner alarm =>
    refine .get_bind fun w _ => ?_
    split
    · exact .seq (stopTimer_beside alarm) fun _ => give_beside _
    · split
      · exact reap_beside inner (some alarm) false
      · exact reap_beside inner (some alarm) true
  | reaping inner alarm interrupted =>
    refine .seq (.forM_option fun number _ => stopTimer_beside number) fun _ => ?_
    cases outcome with
    | error failure => exact fail_beside failure
    | ok answer =>
      cases interrupted with
      | true => exact fail_beside .cancelled
      | false => exact .get_bind fun w _ => give_beside _

/-! ### The process -/

theorem wakeReader_beside (reader : Reader) : Keeps (Beside base c p) (wakeReader reader) :=
  .forM_option fun waiter _ => settle_beside waiter _

theorem eq_of_getElem?_singleton {α : Type} {a b : α} {number : Nat}
    (h : [a][number]? = some b) : b = a := by
  cases number with
  | zero => exact (Option.some.inj h).symm
  | succ number => simp at h

theorem writeOutput_beside (number : Nat) (bytes : List UInt8) :
    Keeps (Beside base c p) (writeOutput number bytes) := by
  refine .of_get fun w hw => ?_
  split
  · exact ⟨hw, trivial⟩
  · rename_i q hq
    split
    · rename_i hwrites
      -- The process is alive, so that its output has not ended.
      have hset := hw.setProcess number (fun p => { p with
          stdout := { p.stdout with buffer := p.stdout.buffer ++ bytes, waiter := none } }) ?_
      · exact wakeReader_beside q.stdout _ hset
      · intro q' hq' hcode
        rw [hq'] at hq
        obtain rfl := eq_of_getElem?_singleton hq
        simp only [Bool.and_eq_true, Option.isNone_iff_eq_none] at hwrites
        have hended : q.stdout.ended = false := by rw [hcode, hwrites.1]; rfl
        exact ⟨⟨bytes, rfl, fun h => by simp [hended] at h⟩, id, rfl, hcode⟩
    · exact ⟨hw, trivial⟩

theorem writeErrors_beside (number : Nat) (bytes : List UInt8) :
    Keeps (Beside base c p) (writeErrors number bytes) := by
  refine .get_bind fun w _ => ?_
  split
  · exact .pure trivial
  · split
    · exact .seq (updateProcess_beside number fun q hcode => .of_eq hcode rfl rfl rfl rfl) fun _ =>
        wakeReader_beside _
    · exact .pure trivial

theorem quit_beside (number : Nat) (code : Int) :
    Keeps (Beside base c p) (quit number code) := by
  refine .get_bind fun w _ => ?_
  split
  · exact .pure trivial
  · split
    · refine .seq (updateProcess_beside number fun q hcode => ?_) fun _ =>
        .seq (wakeReader_beside _) fun _ => .seq (wakeReader_beside _) fun _ =>
          .forM fun waiter _ => settle_beside waiter _
      exact ⟨⟨[], by simp, fun _ => rfl⟩, fun _ => rfl, rfl, rfl⟩
    · exact .pure trivial

/-! ### What a process is handed -/

theorem afterDelay_beside (delay : Nat) (hook : Hook) {now : Act Unit}
    (h : Keeps (Beside base c p) now) : Keeps (Beside base c p) (afterDelay delay hook now) := by
  unfold afterDelay
  split
  · exact h
  · exact .seq (timer_beside delay _) fun _ => .pure trivial

theorem say_beside (number : Nat) (message : Fields) (delay : Nat) :
    Keeps (Beside base c p) (say number message delay) :=
  afterDelay_beside delay _ (writeOutput_beside number _)

theorem carryOut_beside (number : Nat) (id : Value) (reply : Reply) :
    Keeps (Beside base c p) (carryOut number id reply) := by
  cases reply with
  | result value delay => exact say_beside number _ delay
  | refusal error delay => exact say_beside number _ delay
  | quit code delay => exact afterDelay_beside delay _ (quit_beside number code)
  | silence => exact .pure trivial

theorem tellOnOpen_beside (number : Nat) (script : CompanionScript) (method : String)
    (params : Value) : Keeps (Beside base c p) (tellOnOpen number script method params) := by
  unfold tellOnOpen
  split
  · refine .seq (writeErrors_beside number _) fun _ => ?_
    split
    · exact .pure trivial
    · exact say_beside number _ 0
  · exact .pure trivial

theorem receive_beside (number : Nat) (message : Fields) :
    Keeps (Beside base c p) (receive number message) := by
  refine .get_bind fun w _ => ?_
  split
  · exact .pure trivial
  · refine .seq (note_beside (fun _ => rfl) (fun _ => rfl) fun _ _ => rfl) fun _ =>
      .seq (updateProcess_beside number fun q hcode => .of_eq hcode rfl rfl rfl rfl) fun _ => ?_
    split
    · refine .seq (tellOnOpen_beside number _ _ _) fun _ => ?_
      split
      · exact .pure trivial
      · exact carryOut_beside number _ _
    · exact .pure trivial

/-- Something is handed to the process of a channel that is not being closed. -/
theorem writeInput_beside (hopen : c.closing = false) (number : Nat) (payload : Payload) :
    Keeps (Beside base c p) (writeInput number payload) := by
  refine .get_bind fun w _ => ?_
  split
  · exact .pure trivial
  · refine .seq (note_beside (fun _ => rfl) (fun _ => rfl) fun h => by simp [hopen] at h) fun _ => ?_
    split
    · refine .seq (updateProcess_beside number fun q hcode => .of_eq hcode rfl rfl rfl rfl)
        fun _ => .forM_option fun messages _ => .forM fun message _ => ?_
      exact receive_beside number message
    · exact .pure trivial

/-- Nothing is handed to the process of a channel that is being closed. -/
theorem send_beside (payload : Payload) : Keeps (Beside base c p) (send 0 payload) := by
  refine .get_bind fun w hw => ?_
  obtain ⟨next, hnext, hfollows⟩ := hw.channel
  rw [hnext]
  cases hclosing : next.closing with
  | false =>
    have hopen : c.closing = false := Bool.eq_false_iff.2 fun hc => by
      simp [hfollows.closing hc] at hclosing
    split
    · exact writeInput_beside hopen _ payload
    · exact .pure trivial
  | true =>
    split
    · rename_i heq
      simp only [List.getElem?_cons_zero, Option.some.injEq] at heq
      rw [heq] at hclosing
      simp at hclosing
    · exact .pure trivial

/-! ## Points -/

theorem awaitExit_beside (number : Nat) :
    Respects (Beside base c p) Aside (awaitExit number) := by
  refine .get_bind fun w _ => ?_
  split
  · exact finish_beside _
  · exact .seq (promise_beside 0) fun waiter =>
      .seq (updateProcess_beside number fun q hcode => .of_eq hcode rfl rfl rfl rfl) fun _ =>
        waitAt_beside waiter rfl

theorem withProcess_beside (number : Nat) {activity : Nat → Act Next}
    (h : ∀ process, Respects (Beside base c p) Aside (activity process)) :
    Respects (Beside base c p) Aside (withProcess number activity) := by
  refine .get_bind fun w _ => ?_
  split
  · exact finish_beside _
  · exact h _

/-- A line of error output is recorded. -/
theorem ownerErrors_beside (full : Bool) (takes : Fields → Bool) (line : String) :
    Keeps (Beside base c p) ((Owner.recorder full takes).errors line) := by
  cases full with
  | false => exact .pure trivial
  | true =>
    change Keeps _ (note fun r => { r with errors := r.errors ++ [line] })
    exact note_beside (fun _ => rfl) (fun _ => rfl) fun _ _ => rfl

theorem readErrors_beside (number process : Nat)
    (hrecorder : ∃ full takes, c.owner = .recorder full takes) :
    Respects (Beside base c p) Aside (readErrors number process) := by
  obtain ⟨full, takes, hfull⟩ := hrecorder
  have hprocess (change : Process → Process) (hstdout : ∀ q, (change q).stdout = q.stdout)
      (hcode : ∀ q, (change q).code = q.code) :
      Keeps (Beside base c p) (updateProcess process change) :=
    updateProcess_beside process fun q h => by
      refine .of_eq h ?_ ?_ ?_ (hcode q) <;> rw [hstdout]
  have hagain : Respects (Beside base c p) Aside
      (pure (.go (.ok .unit) [.channel (.errors number process)])) :=
    .pure fun point hpoint => by rw [List.mem_singleton.1 hpoint]; rfl
  refine .get_bind fun w hw => .get_bind fun w' hw' => ?_
  obtain ⟨next, hnext, hfollows⟩ := hw'.channel
  -- Each branch changes at most the process, tells the recorder, and waits, goes on or ends.
  split
  · rename_i q d hq hd
    rw [hnext] at hd
    obtain rfl := eq_of_getElem?_singleton hd
    rw [hfollows.owner, hfull]
    split
    · refine .seq (hprocess _ (fun _ => rfl) fun _ => rfl) fun _ => ?_
      split
      · exact fail_beside _
      · exact .seq (ownerErrors_beside full takes _) fun _ => hagain
    · split
      · exact .seq (hprocess _ (fun _ => rfl) fun _ => rfl) fun _ => fail_beside _
      · split
        · split
          · exact finish_beside _
          · exact .seq (hprocess _ (fun _ => rfl) fun _ => rfl) fun _ =>
              .seq (ownerErrors_beside full takes _) fun _ => hagain
        · exact .seq (promise_beside 0) fun waiter =>
            .seq (hprocess _ (fun _ => rfl) fun _ => rfl) fun _ => waitAt_beside waiter rfl
  · exact finish_beside _

theorem endTraffic_beside (number : Nat) :
    Respects (Beside base c p) Aside (endTraffic number) := by
  refine .get_bind fun w _ => ?_
  split
  · exact finish_beside _
  · refine .seq (.forM fun task _ => modifyTasks_beside fun _ => interrupt_same task) fun _ => ?_
    split
    · exact .seq (updateChannel_beside number fun _ => ⟨rfl, rfl, id⟩) fun _ => finish_beside _
    · exact waitAll_beside _ rfl

theorem kill_beside (number : Nat) : Keeps (Beside base c p) (kill number) :=
  .seq (note_beside (fun _ => rfl) (fun _ => rfl) fun _ _ => rfl) fun _ => quit_beside number _

theorem askToEnd_beside (number : Nat) : Keeps (Beside base c p) (askToEnd number) := by
  refine .seq (note_beside (fun _ => rfl) (fun _ => rfl) fun _ _ => rfl) fun _ =>
    .get_bind fun w _ => ?_
  split
  · exact .pure trivial
  · split
    · exact .pure trivial
    · split
      · exact .seq (quit_beside number _) fun _ => .pure trivial
      · exact .pure trivial

theorem endProcess_beside (number process : Nat) :
    Respects (Beside base c p) Aside (endProcess number process) := by
  refine .get_bind fun w _ => ?_
  split
  · exact endTraffic_beside number
  · refine .seq (askToEnd_beside process) fun asked => ?_
    split
    · exact .seq (spawn_beside rfl) fun _ => under_beside rfl (waitLimited_beside _ _)
    · exact endTraffic_beside number

theorem closeChannel_beside (number : Nat) :
    Respects (Beside base c p) Aside (closeChannel number) :=
  withProcess_beside number fun process =>
    .seq (updateChannel_beside number fun _ => ⟨rfl, rfl, fun _ => rfl⟩) fun _ =>
      endProcess_beside number process

/-- The points at which the end of a process is reported. -/
def Point.isGone : Point → Bool
  | .channel (.gone _ _) => true
  | _ => false

/-- Going on as a bystander leaves the output unread, and leads to bystanders. -/
theorem resume_beside {point : Point} (hpoint : point.isAside) (hgone : point.isGone = false)
    (hrecorder : ∃ full takes, c.owner = .recorder full takes) (outcome : Outcome) :
    Respects (Beside base c p) Aside (point.resume outcome) := by
  cases point with
  | start activity =>
    cases outcome with
    | error failure => exact fail_beside failure
    | ok answer =>
      -- Of the activities, only those of a channel are started by bystanders.
      cases activity with
      | readErrors number =>
        exact withProcess_beside number fun process => readErrors_beside number process hrecorder
      | watch number reader =>
        exact withProcess_beside number fun process => waitAll_beside [reader] rfl
      | closeChannel number => exact closeChannel_beside number
      | awaitExit process => exact awaitExit_beside process
      | _ => simp [Point.isAside] at hpoint
  | wait point => exact waitResume_beside point outcome
  | program point =>
    cases point with
    | ending process =>
      cases outcome with
      | error failure => exact give_beside _
      | ok answer => exact .get_bind fun w _ => finish_beside _
    | _ => simp [Point.isAside] at hpoint
  | channel point =>
    cases point with
    | opened number => simp [Point.isAside] at hpoint
    | output number process => simp [Point.isAside] at hpoint
    | errors number process =>
      cases outcome with
      | error failure => exact give_beside _
      | ok answer => exact readErrors_beside number process hrecorder
    | drained number process =>
      cases outcome with
      | error failure => exact give_beside _
      | ok answer => exact under_beside rfl (awaitExit_beside process)
    | gone number process => simp [Point.isGone] at hgone
    | asked number process =>
      cases outcome with
      | error failure =>
        cases failure with
        | timedOut =>
          exact .seq (kill_beside process) fun _ => under_beside rfl (awaitExit_beside process)
        | _ => exact give_beside _
      | ok answer => exact endTraffic_beside number
    | killed number =>
      cases outcome with
      | error failure => exact give_beside _
      | ok answer => exact endTraffic_beside number
    | quiet number =>
      cases outcome with
      | error failure => exact give_beside _
      | ok answer =>
        exact .seq (updateChannel_beside number fun _ => ⟨rfl, rfl, id⟩) fun _ => finish_beside _
  | connection point => simp [Point.isAside] at hpoint
  | keeper point => simp [Point.isAside] at hpoint
  | tool point => simp [Point.isAside] at hpoint
  | session point => simp [Point.isAside] at hpoint

end

end BasiliskServer.World
