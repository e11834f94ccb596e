import Mathlib
import BasiliskServer.Proofs.World.DeliverySteps

/-!
# Messages first, then the end

Whatever happens to a channel that has its process, it delivers the first messages of what the
process writes, in order; it reports the end of the process at most once, after all messages, unless
the decoder fails on what was written, and never once somebody has begun to close the channel; and
nothing is handed to the process after that (`attached_delivers`).

Every passage keeps the invariant `Delivering` (`Delivering.pass`), and so does every run
(`Delivering.passAll`). Where the decoder fails, messages are lost and the end is reported all the
same (`reports_lost`).
-/

namespace BasiliskServer.World

open Json (Fields)
open Tasks (Notice Scheduler)

section

variable {r : Reception} {written : List UInt8} {w : World} {c : Channel} {p : Process}
  {t : Tasks.Task Point}

/-! ## One step -/

/-- What becomes of the reader when it goes on: it reads, or it is over at once, since it was given
up or the channel has lost its process. -/
theorem resume_isReading {point : Point} (h : point.isReading) (hprocesses : w.processes = [p])
    (hchannels : w.channels = [c]) (outcome : Outcome) :
    (point.resume outcome).run w = (readOutput 0 0).run w ∨
      (∃ result, (point.resume outcome).run w = (.go result [], w)) ∧
        ((∃ failure, outcome = .error failure) ∨ c.process ≠ some 0) := by
  have hc : w.channels[0]?.bind (·.process) = c.process := by
    rw [hchannels]
    rfl
  obtain rfl | rfl : point = .start (.readOutput 0) ∨ point = .channel (.output 0 0) := by
    unfold Point.isReading at h
    split at h
    · exact .inl rfl
    · exact .inr rfl
    · exact absurd h Bool.false_ne_true
  · cases outcome with
    | error failure => exact .inr ⟨⟨_, rfl⟩, .inl ⟨failure, rfl⟩⟩
    | ok answer =>
      -- A reader that begins looks for the process of its channel first.
      have hbegin : ((Point.start (.readOutput 0)).resume (.ok answer)).run w =
          (withProcess 0 (readOutput 0)).run w := rfl
      rw [hbegin]
      simp only [withProcess, run_bind, run_get, hc]
      cases hprocess : c.process with
      | none => exact .inr ⟨⟨_, rfl⟩, .inr (Option.some_ne_none 0).symm⟩
      | some number =>
        cases number with
        | zero => exact .inl rfl
        | succ number =>
          refine .inr ⟨⟨.ok .unit, ?_⟩, .inr fun heq => Nat.succ_ne_zero _ (Option.some.inj heq)⟩
          have hnone : w.processes[number + 1]? = none := by
            rw [hprocesses]
            rfl
          simp only [readOutput, run_bind, run_get, hnone]
          rfl
  · cases outcome with
    | error failure => exact .inr ⟨⟨_, rfl⟩, .inl ⟨failure, rfl⟩⟩
    | ok answer => exact .inl rfl

/-- The reader goes on. -/
theorem Delivering.resume_reader (h : Delivering r written w c p t) {point : Point}
    {outcome : Outcome} (hrunning : w.tasks.running = some (0, outcome))
    (hstack : t.stack = [point]) (hpoint : point.isReading) :
    Advances r written w c ((w.popped 0 t []).resumed 0 point outcome) := by
  have hreading : t.stack ≠ [] := by rw [hstack]; exact List.cons_ne_nil _ _
  rcases resume_isReading (w := w.popped 0 t []) hpoint h.processes h.channels outcome with
    hread | ⟨⟨result, hrun⟩, hstopped⟩
  · exact h.resume_read hrunning hstack hread
  -- The reader of a channel at work is not given up, and there is the process.
  have hclosing : c.closing := by
    cases hopen : c.closing with
    | true => rfl
    | false =>
      obtain ⟨waiters, hw⟩ := h.atWork hopen
      rcases hstopped with ⟨failure, rfl⟩ | hlost
      · obtain ⟨u, hu, -, hok⟩ := hw.tasks.running 0 _ hrunning
        obtain rfl := Option.some.inj (hu.symm.trans h.reader)
        obtain ⟨answer, hanswer⟩ := hok rfl hreading
        cases hanswer
      · obtain ⟨c', full, _, hc', hprocess, -⟩ := hw.channel
        obtain rfl := List.singleton_inj.1 (hc'.symm.trans h.channels)
        exact absurd hprocess hlost
  obtain ⟨-, ⟨t', ht', hover⟩, haside⟩ := h.reader_moves (by rw [hrun])
  rw [hrun] at hover
  rw [resumed, hrun] at ht' haside ⊢
  exact ⟨⟨c, p, t', h.follow _ h.channels (.refl c) h.processes (.refl h.code) ht'
    (fun hempty => absurd hempty hreading) (.inl hover) (fun _ => .inr (.inl hclosing)) haside
    rfl rfl fun _ => .inl hclosing, id⟩, fun _ => ⟨rfl, rfl⟩⟩

/-- What a step does when a task runs that stands somewhere. -/
theorem step_of_running {i : Nat} {outcome : Outcome}
    (hrunning : w.tasks.running = some (i, outcome)) {u : Tasks.Task Point} (hu : w.tasks.tasks[i]? = some u) {point : Point} {rest : List Point}
    (hstack : u.stack = point :: rest) :
    w.step = (w.popped i u rest).resumed i point outcome := by
  simp only [step, perform, stepAct, advanceTask, run_bind, run_get, hrunning, hu, hstack]
  rfl

/-- The world takes a step. -/
theorem Delivering.step (h : Delivering r written w c p t) : Advances r written w c w.step := by
  cases hrunning : w.tasks.running with
  | none => exact h.notice hrunning
  | some pair =>
    obtain ⟨i, outcome⟩ := pair
    cases hu : w.tasks.tasks[i]? with
    | none =>
      have hstep : w.step = { w with tasks := { w.tasks with running := none } } := by
        simp only [World.step, perform, stepAct, advanceTask, run_bind, run_get, hrunning, hu]
        rfl
      rw [hstep]
      have hrest : Delivering r written { w with tasks := { w.tasks with running := none } } c p t :=
        h.setTasks rfl fun waiters hw => hw.rest
      exact hrest.advances (Nat.le_refl _) id fun _ => ⟨rfl, rfl⟩
    | some u =>
      cases hstack : u.stack with
      | nil =>
        have hstep : w.step = ((settle u.result outcome).run
            { w with tasks := { w.tasks with running := none } }).2 := by
          simp only [World.step, perform, stepAct, advanceTask, run_bind, run_get, hrunning, hu,
            hstack]
          rfl
        rw [hstep]
        exact h.finish hu hstack
      | cons point rest =>
        rw [step_of_running hrunning hu hstack]
        -- The first task is the reader, and of all others
        -- only one that finds the process gone reports.
        by_cases hi : i = 0
        · subst hi
          obtain rfl := Option.some.inj (hu.symm.trans h.reader)
          obtain hempty | ⟨only, hone, honly⟩ := h.reads
          · exact absurd (hstack.symm.trans hempty) (List.cons_ne_nil _ _)
          · obtain ⟨rfl, rfl⟩ := List.cons.inj (hstack.symm.trans hone)
            exact h.resume_reader hrunning hone honly
        · cases hgone : point.isGone with
          | false => exact h.resume_calm hrunning hu hi hstack hgone
          | true =>
            obtain ⟨number, process, rfl⟩ :
                ∃ number process, point = .channel (.gone number process) := by
              unfold Point.isGone at hgone
              split at hgone
              · exact ⟨_, _, rfl⟩
              · exact absurd hgone Bool.false_ne_true
            exact h.resume_gone hrunning hu hi hstack

/-! ## Runs -/

/-- Something happens. -/
theorem Delivering.pass (h : Delivering r written w c p t) (passage : Passage) :
    Advances r written w c (w.pass passage) := by
  have hidle : Advances r written w c w := h.advances (Nat.le_refl _) id fun _ => ⟨rfl, rfl⟩
  unfold World.pass
  split
  · exact h.step
  · exact hidle
  · rename_i hstep _
    exact h.passage hstep

/-- The channel has delivered what it should after every run. -/
theorem Delivering.passAll (h : Delivering r written w c p t) (passages : List Passage) :
    ∃ c' p' t', Delivering r (written ++ w.emitted passages) (w.passAll passages) c' p' t' := by
  induction passages generalizing written w c p t with
  | nil => exact ⟨c, p, t, by rwa [World.emitted, List.append_nil]⟩
  | cons passage rest ih =>
    obtain ⟨⟨c', p', t', hnext, -⟩, -⟩ := h.pass passage
    have hall := ih hnext
    rwa [List.append_assoc] at hall

/-- Once the channel is being closed, it reports no end and hands nothing over. -/
theorem Delivering.passAll_of_closing (h : Delivering r written w c p t) (hclosing : c.closing)
    (passages : List Passage) :
    (w.passAll passages).record.exits = w.record.exits ∧
      (w.passAll passages).record.handed = w.record.handed := by
  induction passages generalizing written w c p t with
  | nil => exact ⟨rfl, rfl⟩
  | cons passage rest ih =>
    obtain ⟨⟨c', p', t', hnext, hclosed⟩, hsame⟩ := h.pass passage
    obtain ⟨hexits, hhanded⟩ := hsame hclosing
    obtain ⟨hexits', hhanded'⟩ := ih hnext (hclosed hclosing)
    exact ⟨hexits'.trans hexits, hhanded'.trans hhanded⟩

/-- When somebody begins to close the channel, it is closed at once. -/
theorem Delivering.beginsClosing (h : Delivering r written w c p t) {passage : Passage}
    (hbegins : w.beginsClosing passage) :
    (∃ c' p' t', Delivering r (written ++ w.emittedBy passage) (w.pass passage) c' p' t' ∧
        c'.closing) ∧
      (w.pass passage).record.exits = w.record.exits ∧
      (w.pass passage).record.handed = w.record.handed := by
  unfold World.beginsClosing at hbegins
  split at hbegins
  · split at hbegins
    · rename_i answer hacting
      -- The task that begins to close the channel.
      unfold acting? at hacting
      simp only [Option.bind_eq_bind, Option.bind_eq_some_iff] at hacting
      obtain ⟨⟨i, outcome⟩, hrunning, u, hu, point, hpoint, heq⟩ := hacting
      obtain ⟨rfl, rfl⟩ := Prod.mk.inj (Option.some.inj heq)
      obtain ⟨rest, hstack⟩ := List.head?_eq_some_iff.1 hpoint
      have hprocess : ∃ number, c.process = some number := by
        rw [isAttached, h.channels] at hbegins
        exact Option.isSome_iff_exists.1 hbegins
      obtain ⟨number, hnumber⟩ := hprocess
      obtain ⟨⟨next, hnext, hclosing⟩, hexits, hhanded⟩ :=
        closeChannel_closes (w := w.popped i u rest) h.channels h.processes h.code hnumber
      obtain ⟨⟨c', p', t', hdelivering, -⟩, -⟩ := h.step
      have hstep : w.step = (w.popped i u rest).resumed i (.start (.closeChannel 0)) (.ok answer) :=
        step_of_running hrunning hu hstack
      refine ⟨⟨c', p', t', hdelivering, ?_⟩, ?_, ?_⟩
      · have hsame : w.step.channels = [next] := by
          rw [hstep]
          exact hnext
        obtain rfl := List.singleton_inj.1 (hdelivering.channels.symm.trans hsame)
        exact hclosing
      · exact (congrArg (·.record.exits) hstep).trans hexits
      · exact (congrArg (·.record.handed) hstep).trans hhanded
    · exact absurd hbegins Bool.false_ne_true
  · exact absurd hbegins Bool.false_ne_true

end

/-! ## The beginning -/

/-- The tasks of a channel that have not begun yet. -/
def freshTasks : Scheduler Point Answer Hook where
  promises := [{ task := some 0 }, { task := some 1 }, { task := some 2 }]
  tasks :=
    [{ stack := [.start (.readOutput 0)], result := 0 },
      { stack := [.start (.readErrors 0)], result := 1 },
      { stack := [.start (.watch 0 0)], result := 2 }]
  ready := [.wake 0, .wake 1, .wake 2]

theorem undisturbed_freshTasks : Undisturbed freshTasks [] where
  reader := ⟨_, rfl, rfl⟩
  results := by
    intro i t ht
    rcases i with _ | _ | _ | i
    · exact Option.some.inj ht ▸ ⟨_, rfl, rfl⟩
    · exact Option.some.inj ht ▸ ⟨_, rfl, rfl⟩
    · exact Option.some.inj ht ▸ ⟨_, rfl, rfl⟩
    · cases ht
  calm := by
    intro i t ht hi
    rcases i with _ | _ | _ | i
    · exact absurd rfl hi
    · exact Option.some.inj ht ▸ by decide
    · exact Option.some.inj ht ▸ by decide
    · cases ht
  waits := by
    intro t ht q hq
    have hnone : ∀ t ∈ freshTasks.tasks, t.waiting = none := by decide
    rw [hnone t ht] at hq
    cases hq
  unharmed := by
    rintro q ⟨promise, hpromise, htask⟩ failure
    -- Every promise is a result.
    rcases q with _ | _ | _ | q
    · exact absurd (Option.some.inj hpromise ▸ htask) (by decide)
    · exact absurd (Option.some.inj hpromise ▸ htask) (by decide)
    · exact absurd (Option.some.inj hpromise ▸ htask) (by decide)
    · cases hpromise
  eager := by decide
  served := fun q hq => absurd hq List.not_mem_nil
  ready := by decide
  timers := by decide
  observers := by
    intro q promise hpromise
    rcases q with _ | _ | _ | q
    · exact Option.some.inj hpromise ▸ by decide
    · exact Option.some.inj hpromise ▸ by decide
    · exact Option.some.inj hpromise ▸ by decide
    · cases hpromise
  running := by
    intro i outcome hrunning
    cases hrunning
  silent := by decide
  drained := by decide
  gone := by decide

/-- A channel that has just got its process has delivered what it should: nothing was written. -/
theorem attached_delivering (script : CompanionScript) (command : List String) (full : Bool)
    (r : Reception) :
    ∃ c p t, Delivering r [] (attached script command full r) c p t := by
  have htasks : Undisturbed (attached script command full r).tasks [] := undisturbed_freshTasks
  refine ⟨{ command, owner := .recorder full r.takes, process := some 0, tasks := [0, 1, 2]
            decoder := { nesting := r.nesting } }, { script },
    { stack := [.start (.readOutput 0)], result := 0 }, ?_⟩
  exact
    { channels := rfl
      owner := ⟨full, rfl⟩
      decoder := rfl
      processes := rfl
      fault := rfl
      code := rfl
      reader := rfl
      reads := .inr ⟨_, rfl, rfl⟩
      aside := fun i u hu hi point hpoint =>
        Point.isAside_of_isCalm (htasks.calm i u hu hi point hpoint)
      accounts := ⟨[], [], [], [], rfl, Rpc.drain_of_incomplete rfl, rfl, .inl ⟨rfl, rfl⟩⟩
      exits := Nat.zero_le 1
      reported := fun h => absurd rfl h
      work := by
        refine .inr ⟨⟨[], ⟨⟨_, full, r.takes, rfl, rfl, rfl, rfl⟩, ⟨{ script }, rfl, ?_⟩, htasks⟩⟩, ?_⟩
        · intro q hq
          exact absurd hq List.not_mem_nil
        · intro hempty
          cases hempty }

/-! ## Every run -/

/-- Whatever happens to a channel that has its process, the messages that it delivers are the first
ones in what the process writes; it reports at most one end; when it does, all messages were
delivered, unless the decoder fails on what was written; and once somebody has begun to close the
channel, or the end was reported, no end is reported any more and nothing is handed to the
process. -/
theorem attached_delivers (script : CompanionScript) (command : List String) (full : Bool)
    (r : Reception) (passages : List Passage) :
    let now := (attached script command full r).passAll passages
    let bytes := (attached script command full r).emitted passages
    (∃ messages, messages <+: Rpc.messagesIn r.nesting bytes ∧
        now.record.frames = messages.filter r.takes) ∧
      now.record.exits.length ≤ 1 ∧
      (now.record.exits ≠ [] → ¬ IsFatal r.nesting bytes →
        now.record.frames = (Rpc.messagesIn r.nesting bytes).filter r.takes) ∧
      ∀ passage more, now.beginsClosing passage ∨ now.record.exits ≠ [] →
        ((now.pass passage).passAll more).record.exits = now.record.exits ∧
          ((now.pass passage).passAll more).record.handed = now.record.handed := by
  intro now bytes
  obtain ⟨c₀, p₀, t₀, hstart⟩ := attached_delivering script command full r
  obtain ⟨c, p, t, h⟩ := hstart.passAll passages
  rw [List.nil_append] at h
  obtain ⟨heard, rest, messages, left, haccounts⟩ := h.accounts
  have hmessages : Rpc.messagesIn r.nesting bytes =
      messages ++ Rpc.messagesIn r.nesting (left ++ rest) := by
    rw [show bytes = heard ++ rest from haccounts.whole]
    exact Rpc.messagesIn_append_of_drain haccounts.drained rest
  refine ⟨⟨messages, hmessages ▸ List.prefix_append _ _, haccounts.delivered⟩, h.exits,
    fun hreported hsound => ?_, fun passage more hclosed => ?_⟩
  · -- All was read, so that nothing is left of what was written.
    obtain ⟨-, -, hexhausted⟩ := h.reported hreported
    obtain ⟨-, hempty⟩ := hexhausted.resolve_right hsound
    obtain ⟨hrest, -⟩ := haccounts.waits.resolve_right fun hover => hsound hover.2
    have hall : Rpc.messagesIn r.nesting bytes = messages := by
      have hwhole : bytes = heard := by
        rw [show bytes = heard ++ rest from haccounts.whole, hrest, hempty, List.append_nil]
      rw [hwhole]
      exact Rpc.messagesIn_of_drain haccounts.drained
    rw [hall]
    exact haccounts.delivered
  · rcases hclosed with hbegins | hreported
    · obtain ⟨⟨c', p', t', hnext, hclosing⟩, hexits, hhanded⟩ := h.beginsClosing hbegins
      obtain ⟨hexits', hhanded'⟩ := hnext.passAll_of_closing hclosing more
      exact ⟨hexits'.trans hexits, hhanded'.trans hhanded⟩
    · exact h.passAll_of_closing (h.reported hreported).1 (passage :: more)

/-! ## What a failing decoder costs -/

theorem passAll_append (w : World) (first more : List Passage) :
    w.passAll (first ++ more) = (w.passAll first).passAll more :=
  List.foldl_append

theorem emitted_append (w : World) (first more : List Passage) :
    w.emitted (first ++ more) = w.emitted first ++ (w.passAll first).emitted more := by
  induction first generalizing w with
  | nil => rfl
  | cons passage rest ih =>
    rw [List.cons_append, emitted, emitted, ih, List.append_assoc]
    rfl

/-- The tasks of a channel while the reader runs, which goes on with an outcome. -/
def readerTasks (reader : Tasks.Task Point) (outcome : Outcome) : Scheduler Point Answer Hook :=
  { freshTasks with
    tasks := freshTasks.tasks.set 0 reader
    ready := [.wake 1, .wake 2]
    turn := 2
    running := some (0, outcome) }

/-- A channel of a process that has ended, while its reader runs. -/
def endedChannel (script : CompanionScript) (command : List String) (r : Reception) (code : Int)
    (bytes left : List UInt8) (tasks : Scheduler Point Answer Hook) : World where
  processes :=
    [{ script
       code := some code
       stdout := { buffer := bytes, ended := true }
       stderr := { ended := true } }]
  channels :=
    [{ command
       owner := .recorder true r.takes
       process := some 0
       tasks := [0, 1, 2]
       decoder := { nesting := r.nesting, buffer := left } }]
  tasks := tasks

/-- The reader that has not read yet. -/
def freshReader : Tasks.Task Point :=
  { stack := [.start (.readOutput 0)], result := 0, begun := true }

/-- The channel when its reader begins, after the process has written something and ended. -/
def beginning (script : CompanionScript) (command : List String) (r : Reception) (code : Int)
    (bytes : List UInt8) : World :=
  endedChannel script command r code bytes [] (readerTasks freshReader (.ok .unit))

/-- The channel when the decoder of its reader has failed. -/
def failedChannel (script : CompanionScript) (command : List String) (r : Reception) (code : Int)
    (left : List UInt8) (failure : Failure) : World :=
  endedChannel script command r code [] left
    (readerTasks { freshReader with stack := [] } (.error failure))

section

variable (script : CompanionScript) (command : List String) (r : Reception) (code : Int)

theorem attached_begins (byte : UInt8) (rest : List UInt8) :
    (attached script command true r).passAll [.output (byte :: rest), .exit code, .step] =
      beginning script command r code (byte :: rest) := by
  cbv

theorem attached_emitted (byte : UInt8) (rest : List UInt8) :
    (attached script command true r).emitted [.output (byte :: rest), .exit code, .step] =
      byte :: rest := by
  -- Nothing is read before the reader goes on.
  have hnew : (byte :: rest).drop (byte :: rest).length = [] := List.drop_length
  have hwritten : (attached script command true r).emitted
      [.output (byte :: rest), .exit code, .step] =
        byte :: rest ++ ((byte :: rest).drop (byte :: rest).length ++
          ((byte :: rest).drop (byte :: rest).length ++ [])) := rfl
  rw [hwritten, hnew]
  exact List.append_nil _

theorem beginning_fails {byte : UInt8} {rest : List UInt8}
    (hshort : (byte :: rest).length ≤ readSize) {what : Json.Excess} {left : List UInt8}
    (hdrain : Rpc.drain r.nesting (byte :: rest) = (.error what, left)) :
    (beginning script command r code (byte :: rest)).step =
      failedChannel script command r code left (.ofExcess what) := by
  have hchunk : (byte :: rest).take readSize = byte :: rest := List.take_of_length_le hshort
  have hempty : (byte :: rest).drop readSize = [] := List.drop_of_length_le hshort
  let w := beginning script command r code (byte :: rest)
  let p : Process :=
    { script
      code := some code
      stdout := { buffer := byte :: rest, ended := true }
      stderr := { ended := true } }
  have hrun : ((Point.start (.readOutput 0)).resume (.ok .unit)).run (w.popped 0 freshReader []) =
      (.go (.error (.ofExcess what)) [],
        (w.popped 0 freshReader []).chunkRead p { nesting := r.nesting, buffer := left }) := by
    refine Eq.trans rfl (readOutput_error (w := w.popped 0 freshReader []) (p := p) rfl rfl rfl
      (List.cons_ne_nil _ _) ?_)
    rw [← hdrain, chunkOf, hchunk]
    rfl
  rw [step_of_running (u := freshReader) rfl rfl rfl, resumed, hrun, chunkRead, hempty]
  rfl

/-- The channel reports the end of the process although its reader has failed. -/
theorem failedChannel_reports (left : List UInt8) (failure : Failure) :
    let later := (failedChannel script command r code left failure).passAll (List.replicate 10 .step)
    later.record.exits = [some code] ∧ later.record.frames = [] ∧
      (failedChannel script command r code left failure).emitted (List.replicate 10 .step) = [] := by
  cbv

/-- The process writes something and ends, and the channel does what it does then. -/
def lastWords (bytes : List UInt8) : List Passage :=
  [.output bytes, .exit code, .step] ++ .step :: List.replicate 10 .step

/-- Where the decoder fails on what a process has written before it ended, the end is reported and
no message of it is delivered. -/
theorem reports_lost {bytes : List UInt8} (hshort : bytes.length ≤ readSize)
    (hfatal : IsFatal r.nesting bytes) :
    let later := (attached script command true r).passAll (lastWords code bytes)
    later.record.exits = [some code] ∧ later.record.frames = [] ∧
      (attached script command true r).emitted (lastWords code bytes) = bytes := by
  obtain ⟨what, hwhat⟩ := hfatal
  have hnonempty : bytes ≠ [] := by
    rintro rfl
    rw [Rpc.drain_of_incomplete rfl] at hwhat
    cases hwhat
  obtain ⟨byte, rest, rfl⟩ := List.exists_cons_of_ne_nil hnonempty
  obtain ⟨left, hdrain⟩ : ∃ left, Rpc.drain r.nesting (byte :: rest) = (.error what, left) :=
    ⟨_, Prod.ext hwhat rfl⟩
  -- After the first chunk the decoder has failed, and nothing is left to be read.
  have hfails := beginning_fails script command r code hshort hdrain
  obtain ⟨hexits, hframes, hsilent⟩ :=
    failedChannel_reports script command r code left (.ofExcess what)
  have hrun : (attached script command true r).passAll (lastWords code (byte :: rest)) =
      (failedChannel script command r code left (.ofExcess what)).passAll
        (List.replicate 10 .step) := by
    rw [← hfails, lastWords, passAll_append, attached_begins]
    rfl
  refine ⟨(congrArg (·.record.exits) hrun).trans hexits,
    (congrArg (·.record.frames) hrun).trans hframes, ?_⟩
  have hread : (failedChannel script command r code left (.ofExcess what)).unread = [] := rfl
  have hstep : (beginning script command r code (byte :: rest)).pass .step =
      failedChannel script command r code left (.ofExcess what) := hfails
  rw [lastWords, emitted_append, attached_emitted, attached_begins, emitted, emittedBy, hstep,
    hread, hsilent, List.drop_nil]
  exact List.append_nil _

end

/-- The frame of a message without fields. -/
def emptyMessage : List UInt8 :=
  Rpc.stream [.ofValue (.object [])]

/-- A header block that spells the length zero with one digit more than the decoder takes. -/
def longHeader : List UInt8 :=
  Rpc.lengthLine (List.replicate (Text.digitLimit + 1) 48) ++ Rpc.terminator

theorem drain_emptyMessage (nesting : Nat) :
    Rpc.drain (nesting + 1) emptyMessage = (.ok [[]], []) := by
  have hreadable : (Rpc.Segment.ofValue (.object [])).Readable (nesting + 1)
      (Rpc.Segment.ofValue (.object [])).bytes.length :=
    ⟨fun _ => by decide +kernel, fun _ => (Rpc.readableBody_frameBody (by simp)).2 rfl⟩
  have hdrain := Rpc.drain_stream (List.forall_mem_singleton.2 hreadable)
  rwa [List.filterMap_cons_some (Rpc.message?_ofValue_empty _)] at hdrain

theorem isFatal_longHeader (nesting : Nat) : IsFatal nesting longHeader := by
  have hdigits : ∀ b ∈ List.replicate (Text.digitLimit + 1) (48 : UInt8),
      Rpc.isDigitByte b = true := fun b hb => List.eq_of_mem_replicate hb ▸ rfl
  have hfront := Rpc.front_oversized (Rpc.headerEnds_lengthLine hdigits)
    (Rpc.firstLength_lengthLine (List.cons_ne_nil _ _) hdigits)
    (List.length_replicate ▸ Nat.lt_succ_self _) []
  rw [List.append_nil] at hfront
  exact ⟨_, congrArg Prod.fst (Rpc.drain_of_oversized hfront)⟩

/-- The end is reported although a message was not delivered that the process had written before:
where the decoder fails, the messages in front are lost with it. -/
theorem exit_before_message :
    let r : Reception := { nesting := 1000, takes := fun _ => true }
    let start := attached {} ["clangd"] true r
    let passages := lastWords 0 (emptyMessage ++ longHeader)
    (start.passAll passages).record.exits = [some 0] ∧
      (start.passAll passages).record.frames ≠
        (Rpc.messagesIn r.nesting (start.emitted passages)).filter r.takes := by
  intro r start passages
  have hfatal : IsFatal 1000 (emptyMessage ++ longHeader) :=
    (drain_heard (drain_emptyMessage 999) longHeader (List.prefix_refl _)).1
      (isFatal_longHeader 1000)
  have hshort : (emptyMessage ++ longHeader).length ≤ readSize := by
    have hempty : emptyMessage.length ≤ 100 := by decide +kernel
    simp only [longHeader, Rpc.lengthLine, List.length_append, List.length_replicate]
    have hrest : 100 + ((Text.Utf8.encode "Content-Length: ").length + (Text.digitLimit + 1) +
        Rpc.terminator.length) ≤ readSize := by decide +kernel
    omega
  obtain ⟨hexits, hframes, hwritten⟩ := reports_lost {} ["clangd"] r 0 hshort hfatal
  refine ⟨hexits, ?_⟩
  -- The message comes first in the stream.
  rw [hwritten, hframes, Rpc.messagesIn_append_of_drain (drain_emptyMessage 999) longHeader,
    List.singleton_append, List.filter_cons_of_pos rfl]
  exact (List.cons_ne_nil _ _).symm

end BasiliskServer.World
