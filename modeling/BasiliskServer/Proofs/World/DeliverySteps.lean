import BasiliskServer.Proofs.World.Delivery

/-!
# Steps of a channel that delivers

A task that goes on keeps the account of the bytes that were written (`Delivering`): most tasks leave
it alone, the reader moves bytes from those that wait to those that were heard
(`Delivering.resume_read`), and the task that reports the end of the process does so when nothing is
left to be read (`Delivering.resume_gone`).
-/

namespace BasiliskServer.World

open Json (Fields)
open Tasks (Notice Scheduler)

section

variable {r : Reception} {written : List UInt8} {w : World} {c : Channel} {p : Process}
  {t : Tasks.Task Point}

/-! ## A task goes on -/

/-- Where the tasks stand when the one that runs has gone on. -/
theorem getElem?_proceed {s : Scheduler Point Answer Hook} {i j : Nat} {u v : Tasks.Task Point}
    (hu : s.tasks[i]? = some u) {next : Next} (hv : (s.proceed i next).tasks[j]? = some v) :
    j = i ∧ v.stack = points next ++ u.stack ∨ j ≠ i ∧ s.tasks[j]? = some v := by
  -- Only the task that runs is moved.
  have hset (u' : Tasks.Task Point) (hstack : u'.stack = points next ++ u.stack)
      (hv : (s.tasks.set i u')[j]? = some v) :
      j = i ∧ v.stack = points next ++ u.stack ∨ j ≠ i ∧ s.tasks[j]? = some v := by
    rcases Tasks.getElem?_set_cases hv with ⟨rfl, rfl⟩ | ⟨hne, hv⟩
    · exact .inl ⟨rfl, hstack⟩
    · exact .inr ⟨Ne.symm hne, hv⟩
  rcases s.proceed_cases hu next with ⟨outcome, front, hnext, heq⟩ | ⟨q, front, rfl, -, heq⟩ <;>
    rw [heq] at hv
  · have hfront : points next = front := by
      rcases hnext with rfl | ⟨q, rfl, -⟩ <;> rfl
    exact hset { u with stack := front ++ u.stack } (hfront ▸ rfl) hv
  · rw [(Scheduler.observe_same _ _ _).2] at hv
    exact hset { u with stack := front ++ u.stack, waiting := some q } rfl hv

theorem exists_getElem?_proceed {s : Scheduler Point Answer Hook} {i j : Nat} {v : Tasks.Task Point}
    (hv : s.tasks[j]? = some v) (next : Next) : ∃ v', (s.proceed i next).tasks[j]? = some v' := by
  have hlt := (List.getElem?_eq_some_iff.1 hv).1
  have hlength : (s.proceed i next).tasks.length = s.tasks.length := by
    cases hu : s.tasks[i]? with
    | none => rw [Scheduler.proceed_of_none hu]
    | some u =>
      rcases s.proceed_cases hu next with ⟨_, _, -, heq⟩ | ⟨q, front, -, -, heq⟩ <;> rw [heq]
      · exact List.length_set
      · rw [(Scheduler.observe_same _ _ _).2]
        exact List.length_set
  exact ⟨_, List.getElem?_eq_getElem (hlength ▸ hlt)⟩

/-- A task that is over settles its result. -/
theorem Delivering.finish (h : Delivering r written w c p t) {i : Nat} {outcome : Outcome}
    {u : Tasks.Task Point} (hu : w.tasks.tasks[i]? = some u) (hover : u.stack = []) :
    Advances r written w c
      ((settle u.result outcome).run { w with tasks := { w.tasks with running := none } }).2 := by
  have hrest : Delivering r written { w with tasks := { w.tasks with running := none } } c p t :=
    h.setTasks rfl fun waiters hw => hw.rest
  refine hrest.beside ?_ fun hopen => ?_
  · exact (settle_beside u.result outcome _ (.refl hrest.channels hrest.processes hrest.code)).1
  · obtain ⟨waiters, hw⟩ := hrest.atWork hopen
    exact ⟨waiters, hw.setTasks (hw.tasks.settle_result hu hover outcome)⟩

/-- The world in which the task that runs has left the point at which it goes on. -/
def popped (w : World) (i : Nat) (u : Tasks.Task Point) (rest : List Point) : World :=
  { w with tasks := { w.tasks with tasks := w.tasks.tasks.set i { u with stack := rest } } }

/-- The world after a task has gone on at a point. -/
def resumed (w : World) (i : Nat) (point : Point) (outcome : Outcome) : World :=
  let after := (point.resume outcome).run w
  { after.2 with tasks := after.2.tasks.proceed i after.1 }

/-- A bystander has gone on. -/
theorem Delivering.resume_aside (h : Delivering r written w c p t) {i : Nat} {u : Tasks.Task Point}
    (hu : w.tasks.tasks[i]? = some u) (hi : i ≠ 0) {point : Point} {rest : List Point}
    (hstack : u.stack = point :: rest) {outcome : Outcome}
    (hbeside : Beside (w.popped i u rest) c p ((point.resume outcome).run (w.popped i u rest)).2)
    (haside : Aside ((point.resume outcome).run (w.popped i u rest)).1)
    (hwork : c.closing = false →
      (∃ next, ((point.resume outcome).run (w.popped i u rest)).2.channels = [next] ∧
          next.closing) ∨
        ∃ waiters, AtWork waiters ((w.popped i u rest).resumed i point outcome)) :
    Advances r written w c ((w.popped i u rest).resumed i point outcome) := by
  obtain ⟨c', hchannels, hc⟩ := hbeside.channel
  obtain ⟨p', hprocesses, hp⟩ := hbeside.process
  obtain ⟨added, hadded, hstacks⟩ := hbeside.positions
  have hpop : (w.tasks.tasks.set i { u with stack := rest })[i]? = some { u with stack := rest } :=
    List.getElem?_set_self (List.getElem?_eq_some_iff.1 hu).1
  have hother (j : Nat) (hj : j ≠ i) :
      (w.tasks.tasks.set i { u with stack := rest })[j]? = w.tasks.tasks[j]? :=
    List.getElem?_set_ne fun heq => hj heq.symm
  -- The task itself, and the reader, after the activity.
  obtain ⟨u', hu', hrest⟩ := exists_getElem?_of_stacks hstacks hpop
  obtain ⟨t₂, ht₂, ht⟩ := exists_getElem?_of_stacks hstacks ((hother 0 hi.symm).trans h.reader)
  obtain ⟨t', ht'⟩ := exists_getElem?_proceed (i := i) ht₂
    ((point.resume outcome).run (w.popped i u rest)).1
  obtain ⟨heq, -⟩ | ⟨-, hsame⟩ := getElem?_proceed hu' ht'
  · exact absurd heq.symm hi
  obtain rfl := Option.some.inj (hsame.symm.trans ht₂)
  refine ⟨⟨c', p', t', h.follow _ hchannels hc hprocesses hp ht' (ht ▸ ·) (ht ▸ h.reads)
    (fun hempty => .inl (ht ▸ hempty)) ?_ hbeside.frames hbeside.exits fun hopen => ?_, hc.closing⟩,
    fun hclosing => ⟨hbeside.exits, hbeside.handed hclosing⟩⟩
  · intro j v hv hj other hin
    rcases getElem?_proceed hu' hv with ⟨rfl, heq⟩ | ⟨hne, hv⟩
    · rw [heq, hrest] at hin
      rcases List.mem_append.1 hin with hnew | hold
      · exact haside other hnew
      · exact h.aside j u hu hj other (hstack ▸ List.mem_cons_of_mem _ hold)
    · rcases getElem?_of_stacks hstacks hv with ⟨v', hv', heq⟩ | ⟨-, start, hstart, heq⟩
      · rw [popped, hother j hne] at hv'
        exact h.aside j v' hv' hj other (heq ▸ hin)
      · rw [heq] at hin
        exact List.mem_singleton.1 hin ▸ hadded start hstart
  · rcases hwork hopen with ⟨next, hnext, hclosing⟩ | hatwork
    · obtain rfl := List.singleton_inj.1 (hchannels.symm.trans hnext)
      exact .inl hclosing
    · exact .inr hatwork

/-- The channel is at work when a task has gone on that disturbs nothing. -/
theorem atWork_resumed {i : Nat} {outcome : Outcome} {point : Point}
    (hcontinues : Continues i w (point.resume outcome))
    (hrunning : ((point.resume outcome).run w).2.tasks.running = some (i, outcome))
    (hreader : ∃ u, ((point.resume outcome).run w).2.tasks.tasks[i]? = some u ∧
      (i = 0 → u.stack = [])) :
    ∃ waiters, AtWork waiters (w.resumed i point outcome) := by
  obtain ⟨waiters, hatwork, hcomplies⟩ := hcontinues
  obtain ⟨u, hu, hzero⟩ := hreader
  exact ⟨waiters, hatwork.setTasks (hatwork.tasks.proceed hrunning hu hzero hcomplies)⟩

/-- Whoever begins to close a channel with a process does so at once, and hands nothing over. -/
theorem closeChannel_closes {number : Nat} (hchannels : w.channels = [c])
    (hprocesses : w.processes = [p]) (hcode : p.stdout.ended = p.code.isSome) (hprocess : c.process = some number) :
    (∃ next, ((closeChannel 0).run w).2.channels = [next] ∧ next.closing) ∧
      ((closeChannel 0).run w).2.record.exits = w.record.exits ∧
      ((closeChannel 0).run w).2.record.handed = w.record.handed := by
  have hsome : w.channels[0]?.bind (·.process) = some number := by
    rw [hchannels]
    exact hprocess
  have hbegin : (closeChannel 0).run w = (endProcess 0 number).run
      { w with channels := w.channels.modify 0 fun c => { c with closing := true } } := by
    simp only [closeChannel, withProcess, run_bind, run_get, hsome]
    rfl
  have hclosed : (w.channels.modify 0 fun c => { c with closing := true }) =
      [{ c with closing := true }] := by
    rw [hchannels]
    rfl
  rw [hbegin, hclosed]
  have hbase : Beside { w with channels := [{ c with closing := true }] }
      { c with closing := true } p { w with channels := [{ c with closing := true }] } :=
    .refl rfl hprocesses hcode
  have hbeside := (endProcess_beside 0 number _ hbase).1
  obtain ⟨next, hnext, hfollows⟩ := hbeside.channel
  exact ⟨⟨next, hnext, hfollows.closing rfl⟩, hbeside.exits, hbeside.handed rfl⟩

/-- A bystander goes on where the end of the process is not reported. -/
theorem Delivering.resume_calm (h : Delivering r written w c p t) {i : Nat} {outcome : Outcome}
    (hrunning : w.tasks.running = some (i, outcome)) {u : Tasks.Task Point}
    (hu : w.tasks.tasks[i]? = some u) (hi : i ≠ 0) {point : Point} {rest : List Point}
    (hstack : u.stack = point :: rest) (hgone : point.isGone = false) :
    Advances r written w c ((w.popped i u rest).resumed i point outcome) := by
  have hpoint : point.isAside := h.aside i u hu hi point (hstack ▸ List.mem_cons_self)
  have hbase : Beside (w.popped i u rest) c p (w.popped i u rest) :=
    .refl h.channels h.processes h.code
  obtain ⟨hbeside, haside⟩ := resume_beside hpoint hgone (h.owner.imp fun _ howner => ⟨_, howner⟩)
    outcome _ hbase
  refine h.resume_aside hu hi hstack hbeside haside fun hopen => ?_
  obtain ⟨waiters, hw⟩ := h.atWork hopen
  have hpopped : AtWork waiters (w.popped i u rest) :=
    hw.setTasks (hw.tasks.pop hrunning hu hstack fun hzero => absurd hzero hi)
  have hcalm := hw.tasks.calm i u hu hi point (hstack ▸ List.mem_cons_self)
  -- Where the task goes on in a way that disturbs nothing, the channel is still at work.
  have hmoves (hcontinues : Continues i (w.popped i u rest) (point.resume outcome)) :
      ∃ waiters, AtWork waiters ((w.popped i u rest).resumed i point outcome) := by
    obtain ⟨added, -, hstacks⟩ := hbeside.positions
    obtain ⟨u', hu', -⟩ := exists_getElem?_of_stacks hstacks
      (List.getElem?_set_self (List.getElem?_eq_some_iff.1 hu).1)
    exact atWork_resumed hcontinues (hbeside.running.trans hrunning)
      ⟨u', hu', fun hzero => absurd hzero hi⟩
  by_cases hclose : ∃ number answer, point = .start (.closeChannel number) ∧ outcome = .ok answer
  · obtain ⟨number, answer, rfl, rfl⟩ := hclose
    cases number with
    | zero =>
      obtain ⟨c', full, _, hc', hprocess, -⟩ := hpopped.channel
      obtain rfl := List.singleton_inj.1 (h.channels.symm.trans hc')
      have hchannels : (w.popped i u rest).channels = [c] := h.channels
      exact .inl (closeChannel_closes hchannels h.processes h.code hprocess).1
    | succ number =>
      refine .inr (hmoves (.get_bind ?_))
      have hnone : (w.popped i u rest).channels[number + 1]?.bind (·.process) = none := by
        rw [popped, h.channels]
        rfl
      rw [hnone]
      exact continues_give hpopped _
  · refine .inr (hmoves (resume_continues hpopped hi hcalm hgone ?_ ?_))
    · exact fun number answer hpoint houtcome => hclose ⟨number, answer, hpoint, houtcome⟩
    · intro hdrained
      obtain ⟨v, hv, hnone, -⟩ := hw.tasks.running i outcome hrunning
      obtain rfl := Option.some.inj (hu.symm.trans hv)
      rcases hw.tasks.drained u (List.mem_of_getElem? hu)
        ⟨point, hstack ▸ List.mem_cons_self, hdrained⟩ with hsettled | ⟨q, hq, -⟩
      · exact hsettled
      · rw [hnone] at hq
        cases hq

/-- A bystander is over with its point, and nothing else happens. -/
theorem Delivering.resume_give (h : Delivering r written w c p t) {i : Nat} {outcome : Outcome}
    (hrunning : w.tasks.running = some (i, outcome)) {u : Tasks.Task Point}
    (hu : w.tasks.tasks[i]? = some u) (hi : i ≠ 0) {point : Point} {rest : List Point}
    (hstack : u.stack = point :: rest) (news : Outcome)
    (hgive : (point.resume outcome).run (w.popped i u rest) = (give news).run (w.popped i u rest)) :
    Advances r written w c ((w.popped i u rest).resumed i point outcome) := by
  have hbase : Beside (w.popped i u rest) c p (w.popped i u rest) :=
    .refl h.channels h.processes h.code
  obtain ⟨hbeside, haside⟩ := give_beside news _ hbase
  rw [← hgive] at hbeside haside
  refine h.resume_aside hu hi hstack hbeside haside fun hopen => .inr ?_
  obtain ⟨waiters, hw⟩ := h.atWork hopen
  have hcontinues : Continues i (w.popped i u rest) (point.resume outcome) := by
    rw [Continues, hgive]
    exact continues_give
      (hw.setTasks (hw.tasks.pop hrunning hu hstack fun hzero => absurd hzero hi)) news
  obtain ⟨added, -, hstacks⟩ := hbeside.positions
  obtain ⟨u', hu', -⟩ := exists_getElem?_of_stacks hstacks
    (List.getElem?_set_self (List.getElem?_eq_some_iff.1 hu).1)
  exact atWork_resumed hcontinues (hbeside.running.trans hrunning)
    ⟨u', hu', fun hzero => absurd hzero hi⟩

/-- The end of the process is reported when the reader is over. -/
theorem Delivering.report (h : Delivering r written w c p t) (hopen : c.closing = false)
    (hempty : t.stack = []) {w' : World} {c' : Channel} (hchannels : w'.channels = [c'])
    (hclosing : c'.closing) (howner : c'.owner = c.owner) (hdecoder : c'.decoder = c.decoder)
    (hprocesses : w'.processes = w.processes) (hreader : w'.tasks.tasks[0]? = some t)
    (haside : ∀ (j : Nat) (v : Tasks.Task Point), w'.tasks.tasks[j]? = some v → j ≠ 0 →
      ∀ point ∈ v.stack, point.isAside)
    (hframes : w'.record.frames = w.record.frames)
    (hexits : ∃ told, w'.record.exits = w.record.exits ++ told ∧ told.length ≤ 1) :
    Delivering r written w' c' p t := by
  have hexhausted : IsExhausted r.nesting written p := by
    rcases h.work with hclosed | ⟨-, hread⟩
    · rw [hopen] at hclosed
      cases hclosed
    · exact hread hempty
  -- No end was reported before.
  have hnone : w.record.exits = [] := by
    cases hold : w.record.exits with
    | nil => rfl
    | cons code codes =>
      have hclosed := (h.reported (by rw [hold]; exact List.cons_ne_nil _ _)).1
      rw [hopen] at hclosed
      cases hclosed
  obtain ⟨told, htold, hone⟩ := hexits
  obtain ⟨heard, rest, messages, left, haccounts⟩ := h.accounts
  exact
    { channels := hchannels
      owner := howner ▸ h.owner
      decoder := hdecoder ▸ h.decoder
      processes := hprocesses.trans h.processes
      fault := h.fault
      code := h.code
      reader := hreader
      reads := h.reads
      aside := haside
      accounts := ⟨heard, rest, messages, left, haccounts.whole, haccounts.drained,
        hframes.trans haccounts.delivered, by rw [hdecoder]; exact haccounts.waits⟩
      exits := by rw [htold, hnone]; exact hone
      reported := fun _ => ⟨hclosing, hempty, hexhausted⟩
      work := .inl hclosing }

/-- The task that waits for the end of the process goes on. -/
theorem Delivering.resume_gone (h : Delivering r written w c p t) {i : Nat} {outcome : Outcome}
    (hrunning : w.tasks.running = some (i, outcome)) {u : Tasks.Task Point}
    (hu : w.tasks.tasks[i]? = some u) (hi : i ≠ 0) {number process : Nat} {rest : List Point}
    (hstack : u.stack = .channel (.gone number process) :: rest) :
    Advances r written w c
      ((w.popped i u rest).resumed i (.channel (.gone number process)) outcome) := by
  have hover := h.resume_give hrunning hu hi hstack
  have hchannels : (w.popped i u rest).channels = [c] := h.channels
  cases outcome with
  | error failure => exact hover _ rfl
  | ok answer =>
    cases answer with
    | code code =>
      have hresume : (Point.channel (.gone number process)).resume (.ok (.code code)) =
          loseProcess number code := rfl
      cases number with
      | succ number =>
        refine hover (.ok .unit) ?_
        have hnone : (w.popped i u rest).channels[number + 1]? = none := by
          rw [hchannels]
          rfl
        simp only [hresume, loseProcess, run_bind, run_get, hnone]
        rfl
      | zero =>
        have hsome : (w.popped i u rest).channels[0]? = some c := by
          rw [hchannels]
          rfl
        cases hclosing : c.closing with
        | true =>
          refine hover (.ok .unit) ?_
          simp only [hresume, loseProcess, run_bind, run_get, hsome, hclosing]
          rfl
        | false =>
          obtain ⟨waiters, hw⟩ := h.atWork hclosing
          have hsettled : w.tasks.isSettled 0 :=
            hw.tasks.gone u (List.mem_of_getElem? hu) ⟨_, hstack ▸ List.mem_cons_self, rfl⟩
          have hempty : t.stack = [] := hw.tasks.silent hsettled t h.reader
          obtain ⟨full, hfull⟩ := h.owner
          -- The channel is closed, and the end is reported if anybody wants to know.
          obtain ⟨told, hone, hrun⟩ : ∃ told : List (Option Int), told.length ≤ 1 ∧
              (loseProcess 0 code).run (w.popped i u rest) = (.go (.ok .unit) [],
                { w.popped i u rest with
                  channels := (w.popped i u rest).channels.modify 0 fun c =>
                    { c with closing := true, process := none }
                  record := { w.record with exits := w.record.exits ++ told } }) := by
            simp only [loseProcess, run_bind, run_get, hsome, hclosing, hfull]
            cases full with
            | false => exact ⟨[], by simp, by rw [List.append_nil]; rfl⟩
            | true => exact ⟨[code], by simp, rfl⟩
          have hpop : (w.popped i u rest).tasks.tasks[i]? = some { u with stack := rest } :=
            List.getElem?_set_self (List.getElem?_eq_some_iff.1 hu).1
          have hother (j : Nat) (hj : j ≠ i) :
              (w.popped i u rest).tasks.tasks[j]? = w.tasks.tasks[j]? :=
            List.getElem?_set_ne fun heq => hj heq.symm
          -- No other task is moved, and nobody reads.
          obtain ⟨t', ht'⟩ := exists_getElem?_proceed (i := i) ((hother 0 hi.symm).trans h.reader)
            (.go (.ok .unit) [])
          obtain ⟨heq, -⟩ | ⟨-, hsame⟩ := getElem?_proceed hpop ht'
          · exact absurd heq.symm hi
          obtain rfl := Option.some.inj (hsame.symm.trans ((hother 0 hi.symm).trans h.reader))
          rw [resumed, hresume, hrun]
          have hclosed : ((w.popped i u rest).channels.modify 0 fun c =>
              { c with closing := true, process := none }) =
              [{ c with closing := true, process := none }] := by
            rw [hchannels]
            rfl
          refine Delivering.advances (h.report hclosing hempty hclosed rfl rfl rfl rfl ht' ?_ rfl
            ⟨told, rfl, hone⟩) (Nat.le_refl _) (fun _ => rfl) fun hc => ?_
          · intro j v hv hj other hin
            rcases getElem?_proceed hpop hv with ⟨rfl, heq⟩ | ⟨hne, hv⟩
            · rw [heq] at hin
              exact h.aside j u hu hj other (hstack ▸ List.mem_cons_of_mem _ hin)
            · exact h.aside j v ((hother j hne).symm.trans hv) hj other hin
          · rw [hclosing] at hc
            cases hc
    | _ => exact hover _ rfl

/-! ## The reader -/

/-- The messages that a recorder does not fail at are recorded. -/
theorem frames_run (full : Bool) (takes : Fields → Bool) (messages : List Fields) (w : World) :
    ((messages.forM (Owner.recorder full takes).frame : Act Unit).run w).2 =
      { w with record :=
        { w.record with frames := w.record.frames ++ messages.filter takes } } := by
  induction messages generalizing w with
  | nil =>
    rw [List.filter_nil, List.append_nil]
    rfl
  | cons message rest ih =>
    have hcons : ((message :: rest).forM (Owner.recorder full takes).frame : Act Unit).run w =
        (rest.forM (Owner.recorder full takes).frame : Act Unit).run
          (((Owner.recorder full takes).frame message).run w).2 := rfl
    rw [hcons, ih]
    cases htakes : takes message with
    | false =>
      have hframe : ((Owner.recorder full takes).frame message).run w = ((), w) := by
        simp only [Owner.frame, htakes]
        rfl
      rw [hframe, List.filter_cons_of_neg (by simp [htakes])]
    | true =>
      have hframe : (((Owner.recorder full takes).frame message).run w).2 =
          { w with record := { w.record with frames := w.record.frames ++ [message] } } := by
        simp only [Owner.frame, htakes]
        rfl
      rw [hframe, List.filter_cons_of_pos htakes, List.append_assoc]
      rfl

/-- What is read at once. -/
def chunkOf (p : Process) : List UInt8 :=
  p.stdout.buffer.take readSize

/-- The channel when its decoder holds other bytes. -/
def holding (c : Channel) (left : List UInt8) : Channel :=
  { c with decoder := { c.decoder with buffer := left } }

/-- The world after something was read, with the decoder that is left. -/
def chunkRead (w : World) (p : Process) (decoder : Rpc.Decoder) : World :=
  { w with
    processes := w.processes.modify 0 fun q =>
      { q with stdout := { q.stdout with buffer := p.stdout.buffer.drop readSize } }
    channels := w.channels.modify 0 fun c => { c with decoder } }

/-- The decoder fails on what is read. -/
theorem readOutput_error (hchannels : w.channels = [c]) (hprocesses : w.processes = [p])
    (hfault : p.stdout.fault = none) (hbuffer : p.stdout.buffer ≠ []) {what : Json.Excess}
    {left : List UInt8}
    (hdrain : Rpc.drain c.decoder.nesting (c.decoder.buffer ++ chunkOf p) = (.error what, left)) :
    (readOutput 0 0).run w =
      (.go (.error (.ofExcess what)) [], w.chunkRead p { c.decoder with buffer := left }) := by
  have hp : w.processes[0]? = some p := by rw [hprocesses]; rfl
  have hc : w.channels[0]? = some c := by rw [hchannels]; rfl
  obtain ⟨script, code, ⟨buffer, ended, fault, waiter⟩, _⟩ := p
  obtain rfl : fault = none := hfault
  cases buffer with
  | nil => exact absurd rfl hbuffer
  | cons byte bytes =>
    rw [chunkOf] at hdrain
    simp only [readOutput, run_bind, run_get, hp, hc, Rpc.Decoder.feed, hdrain]
    rfl

/-- What becomes of reading: all is read, there is nothing to read yet, the decoder fails, or it
hands out messages. -/
theorem readOutput_cases (hchannels : w.channels = [c]) (hprocesses : w.processes = [p])
    {full : Bool} {takes : Fields → Bool} (howner : c.owner = .recorder full takes)
    (hfault : p.stdout.fault = none) :
    (p.stdout.buffer = [] ∧ p.stdout.ended ∧
        (readOutput 0 0).run w = (.go (.ok .unit) [], w)) ∨
      (∃ waiter, (readOutput 0 0).run w = (.wait waiter [.channel (.output 0 0)],
        { w with
          tasks := (w.tasks.addPromise 0).2
          processes := w.processes.modify 0 fun q =>
            { q with stdout := { q.stdout with waiter := some waiter } } })) ∨
      (∃ what left failure,
        Rpc.drain c.decoder.nesting (c.decoder.buffer ++ chunkOf p) = (.error what, left) ∧
        (readOutput 0 0).run w =
          (.go (.error failure) [], w.chunkRead p { c.decoder with buffer := left })) ∨
      ∃ messages left,
        Rpc.drain c.decoder.nesting (c.decoder.buffer ++ chunkOf p) = (.ok messages, left) ∧
        (readOutput 0 0).run w = (.go (.ok .unit) [.channel (.output 0 0)],
          { w.chunkRead p { c.decoder with buffer := left } with
            record :=
              { w.record with frames := w.record.frames ++ messages.filter takes } }) := by
  have hp : w.processes[0]? = some p := by rw [hprocesses]; rfl
  have hc : w.channels[0]? = some c := by rw [hchannels]; rfl
  -- With an empty buffer the reader ends or waits; otherwise the decoder has the word.
  by_cases hbuffer : p.stdout.buffer = []
  · obtain ⟨script, code, ⟨buffer, ended, fault, waiter⟩, _⟩ := p
    obtain rfl : fault = none := hfault
    obtain rfl : buffer = [] := hbuffer
    cases ended with
    | true =>
      refine .inl ⟨rfl, rfl, ?_⟩
      simp only [readOutput, run_bind, run_get, hp, hc]
      rfl
    | false =>
      refine .inr (.inl ⟨w.tasks.promises.length, ?_⟩)
      simp only [readOutput, run_bind, run_get, hp, hc]
      rfl
  · refine .inr (.inr ?_)
    cases hdrain : Rpc.drain c.decoder.nesting (c.decoder.buffer ++ chunkOf p) with
    | mk outcome left =>
      cases outcome with
      | error what =>
        exact .inl ⟨what, left, _, rfl, readOutput_error hchannels hprocesses hfault hbuffer hdrain⟩
      | ok messages =>
        refine .inr ⟨messages, left, rfl, ?_⟩
        obtain ⟨script, code, ⟨buffer, ended, fault, waiter⟩, _⟩ := p
        obtain rfl : fault = none := hfault
        obtain ⟨byte, bytes, rfl⟩ := List.exists_cons_of_ne_nil hbuffer
        rw [chunkOf] at hdrain
        simp only [readOutput, run_bind, run_get, hp, hc, Rpc.Decoder.feed, hdrain, howner,
          frames_run]
        rfl

/-- Where the tasks stand when the reader has gone on. -/
theorem Delivering.reader_moves (h : Delivering r written w c p t) {point : Point} {outcome : Outcome}
    (htasks : ((point.resume outcome).run (w.popped 0 t [])).2.tasks.tasks =
      (w.popped 0 t []).tasks.tasks) :
    (∃ u, ((point.resume outcome).run (w.popped 0 t [])).2.tasks.tasks[0]? = some u ∧
        u.stack = []) ∧
      (∃ t', ((w.popped 0 t []).resumed 0 point outcome).tasks.tasks[0]? = some t' ∧
        t'.stack = points ((point.resume outcome).run (w.popped 0 t [])).1) ∧
      ∀ (j : Nat) (v : Tasks.Task Point),
        ((w.popped 0 t []).resumed 0 point outcome).tasks.tasks[j]? = some v → j ≠ 0 →
          ∀ point ∈ v.stack, point.isAside := by
  have hpop : ((point.resume outcome).run (w.popped 0 t [])).2.tasks.tasks[0]? =
      some { t with stack := [] } := by
    rw [htasks]
    exact List.getElem?_set_self (List.getElem?_eq_some_iff.1 h.reader).1
  refine ⟨⟨_, hpop, rfl⟩, ?_, fun j v hv hj => ?_⟩
  · obtain ⟨t', ht'⟩ := exists_getElem?_proceed (i := 0) hpop
      ((point.resume outcome).run (w.popped 0 t [])).1
    obtain ⟨-, hstack⟩ | ⟨hne, -⟩ := getElem?_proceed hpop ht'
    · exact ⟨t', ht', hstack.trans (List.append_nil _)⟩
    · exact absurd rfl hne
  · obtain ⟨hzero, -⟩ | ⟨-, hsame⟩ := getElem?_proceed hpop hv
    · exact absurd hzero hj
    · rw [htasks, popped, List.getElem?_set_ne hj.symm] at hsame
      exact h.aside j v hsame hj

/-- The process when something was read. -/
def relieved (p : Process) : Process :=
  { p with stdout := { p.stdout with buffer := p.stdout.buffer.drop readSize } }

/-- Something was read, and what was delivered is accounted for. -/
theorem Delivering.chunk (h : Delivering r written w c p t) (hexits : w.record.exits = [])
    (w' : World) {left : List UInt8} {t' : Tasks.Task Point}
    (hchannels : w'.channels = [holding c left]) (hprocesses : w'.processes = [relieved p])
    (hreader : w'.tasks.tasks[0]? = some t')
    (hreads : t'.stack = [] ∨ ∃ point, t'.stack = [point] ∧ point.isReading)
    (haside : ∀ (i : Nat) (u : Tasks.Task Point), w'.tasks.tasks[i]? = some u → i ≠ 0 →
      ∀ point ∈ u.stack, point.isAside)
    (hsame : w'.record.exits = w.record.exits ∧ w'.record.handed = w.record.handed)
    (haccounts : ∃ heard rest messages left', Accounts r written w'.record.frames (holding c left)
      (relieved p) t' heard rest messages left')
    (hover : t'.stack = [] → IsFatal r.nesting written)
    (hwork : c.closing = false → ∃ waiters, AtWork waiters w') :
    Advances r written w c w' := by
  -- Nothing was reported before, and to read reports nothing.
  have hnone : w'.record.exits = [] := hsame.1.trans hexits
  have hnext : Delivering r written w' (holding c left) (relieved p) t' :=
    { channels := hchannels
      owner := h.owner
      decoder := h.decoder
      processes := hprocesses
      fault := h.fault
      code := h.code
      reader := hreader
      reads := hreads
      aside := haside
      accounts := haccounts
      exits := by
        rw [hnone]
        exact Nat.zero_le 1
      reported := fun hne => absurd hnone hne
      work := by
        cases hopen : c.closing with
        | true => exact .inl hopen
        | false => exact .inr ⟨hwork hopen, fun hempty => .inr (hover hempty)⟩ }
  refine hnext.advances ?_ id fun _ => hsame
  rw [unread_eq hprocesses, unread_eq h.processes]
  exact List.length_drop ▸ Nat.sub_le _ _

/-- What was heard so far and the next piece, when the decoder takes the piece. -/
theorem drain_heard {nesting : Nat} {heard rest : List UInt8} {messages : List Fields} {left : List UInt8}
    (hdrained : Rpc.drain nesting heard = (.ok messages, left)) (chunk : List UInt8)
    (hrest : chunk <+: rest) :
    ((∃ what, (Rpc.drain nesting (left ++ chunk)).1 = .error what) → IsFatal nesting (heard ++ rest)) ∧
      ∀ more left', Rpc.drain nesting (left ++ chunk) = (.ok more, left') →
        Rpc.drain nesting (heard ++ chunk) = (.ok (messages ++ more), left') := by
  have hdrain : Rpc.drain nesting (heard ++ chunk) = Rpc.resume nesting chunk (.ok messages, left) :=
    hdrained ▸ Rpc.drain_append heard chunk
  rw [Rpc.resume] at hdrain
  constructor
  · rintro ⟨what, hwhat⟩
    obtain ⟨after, rfl⟩ := hrest
    have hfatal : IsFatal nesting (heard ++ chunk) := ⟨what, by rw [hdrain, hwhat]; rfl⟩
    exact List.append_assoc heard chunk after ▸ hfatal.append after
  · intro more left' hmore
    rw [hdrain, hmore]
    rfl

/-- The reader goes on reading where it can. -/
theorem Delivering.resume_read (h : Delivering r written w c p t) {point : Point} {outcome : Outcome}
    (hrunning : w.tasks.running = some (0, outcome)) (hstack : t.stack = [point])
    (hread : (point.resume outcome).run (w.popped 0 t []) =
      (readOutput 0 0).run (w.popped 0 t [])) :
    Advances r written w c ((w.popped 0 t []).resumed 0 point outcome) := by
  obtain ⟨full, hfull⟩ := h.owner
  have hchannels : (w.popped 0 t []).channels = [c] := h.channels
  have hprocesses : (w.popped 0 t []).processes = [p] := h.processes
  have hreading : t.stack ≠ [] := by rw [hstack]; exact List.cons_ne_nil _ _
  -- The end was not reported, since the reader is not over.
  have hnone : w.record.exits = [] := by
    cases hold : w.record.exits with
    | nil => rfl
    | cons code codes =>
      exact absurd (h.reported (by rw [hold]; exact List.cons_ne_nil _ _)).2.1 hreading
  -- A channel that nobody closes is still at work.
  have hwork (hrest : ((point.resume outcome).run (w.popped 0 t [])).2.tasks.running =
        w.tasks.running)
      (htasks : ((point.resume outcome).run (w.popped 0 t [])).2.tasks.tasks =
        (w.popped 0 t []).tasks.tasks) (hopen : c.closing = false) :
      ∃ waiters, AtWork waiters ((w.popped 0 t []).resumed 0 point outcome) := by
    obtain ⟨waiters, hw⟩ := h.atWork hopen
    have hunsettled : w.tasks.isSettled 0 = false := by
      cases hsettled : w.tasks.isSettled 0 with
      | false => rfl
      | true => exact absurd (hw.tasks.silent hsettled t h.reader) hreading
    have hcontinues : Continues 0 (w.popped 0 t []) (point.resume outcome) := by
      rw [Continues, hread]
      exact readOutput_continues (hw.setTasks (hw.tasks.pop hrunning h.reader hstack fun _ => rfl))
        hunsettled 0 0
    exact atWork_resumed hcontinues (hrest.trans hrunning)
      ((h.reader_moves htasks).1.imp fun u hu => ⟨hu.1, fun _ => hu.2⟩)
  obtain ⟨heard, rest, messages, left, haccounts⟩ := h.accounts
  obtain ⟨hrest, hleft⟩ := haccounts.waits.resolve_right fun hover => hreading hover.1
  have hchunk : chunkOf p <+: rest := hrest ▸ List.take_prefix _ _
  obtain ⟨hfatal, htaken⟩ := drain_heard haccounts.drained (chunkOf p) hchunk
  have hholding (left' : List UInt8) :
      (w.popped 0 t []).channels.modify 0
        (fun d => { d with decoder := { c.decoder with buffer := left' } }) = [holding c left'] := by
    rw [hchannels]
    rfl
  have hrelieved : (w.popped 0 t []).processes.modify 0 (fun q =>
      { q with stdout := { q.stdout with buffer := p.stdout.buffer.drop readSize } }) =
        [relieved p] := by
    rw [hprocesses]
    rfl
  rcases readOutput_cases hchannels hprocesses hfull h.fault with
    ⟨hempty, hended, hrun⟩ | ⟨waiter, hrun⟩ | ⟨what, left', failure, hdrain, hrun⟩ |
    ⟨more, left', hdrain, hrun⟩ <;> rw [← hread] at hrun
  · -- All is read.
    obtain ⟨-, ⟨t', ht', hstack'⟩, haside⟩ := h.reader_moves (by rw [hrun])
    have hopen := hwork (by rw [hrun]; rfl) (by rw [hrun])
    rw [hrun] at hstack'
    rw [resumed, hrun] at ht' haside hopen ⊢
    exact ⟨⟨c, p, t', h.follow _ h.channels (.refl c) h.processes (.refl h.code) ht'
      (fun hempty => absurd hempty hreading) (.inl hstack')
      (fun _ => .inr (.inr (.inl ⟨hended, hempty⟩))) haside rfl rfl fun hc => .inr (hopen hc), id⟩,
      fun _ => ⟨rfl, rfl⟩⟩
  · -- There is nothing to read yet.
    obtain ⟨-, ⟨t', ht', hstack'⟩, haside⟩ := h.reader_moves (by rw [hrun]; rfl)
    have hopen := hwork (by rw [hrun]; rfl) (by rw [hrun]; rfl)
    rw [hrun] at hstack'
    rw [resumed, hrun] at ht' haside hopen ⊢
    have hwaiting : (w.popped 0 t []).processes.modify 0 (fun q =>
        { q with stdout := { q.stdout with waiter := some waiter } }) =
          [{ p with stdout := { p.stdout with waiter := some waiter } }] := by
      rw [hprocesses]
      rfl
    exact ⟨⟨c, _, t', h.follow _ h.channels (.refl c) hwaiting (.of_eq h.code rfl rfl rfl rfl) ht'
      (fun hempty => absurd hempty hreading) (.inr ⟨_, hstack', rfl⟩)
      (fun hempty => absurd (hstack'.symm.trans hempty) (List.cons_ne_nil _ _)) haside rfl rfl
      fun hc => .inr (hopen hc), id⟩, fun _ => ⟨rfl, rfl⟩⟩
  · -- The decoder fails, and the reader is over.
    obtain ⟨-, ⟨t', ht', hstack'⟩, haside⟩ := h.reader_moves (by rw [hrun]; rfl)
    have hopen := hwork (by rw [hrun]; rfl) (by rw [hrun]; rfl)
    have hlost : IsFatal r.nesting written :=
      haccounts.whole ▸ hfatal ⟨what, by rw [← hleft, ← h.decoder, hdrain]⟩
    rw [hrun] at hstack'
    rw [resumed, hrun] at ht' haside hopen ⊢
    exact h.chunk hnone _ (hholding left') hrelieved ht' (.inl hstack') haside ⟨rfl, rfl⟩
      ⟨heard, rest, messages, left, haccounts.whole, haccounts.drained, haccounts.delivered,
        .inr ⟨hstack', hlost⟩⟩ (fun _ => hlost) hopen
  · -- The messages are delivered.
    obtain ⟨-, ⟨t', ht', hstack'⟩, haside⟩ := h.reader_moves (by rw [hrun]; rfl)
    have hopen := hwork (by rw [hrun]; rfl) (by rw [hrun]; rfl)
    rw [hrun] at hstack'
    rw [resumed, hrun] at ht' haside hopen ⊢
    refine h.chunk hnone _ (hholding left') hrelieved ht' (.inr ⟨_, hstack', rfl⟩) haside
      ⟨rfl, rfl⟩ ⟨heard ++ chunkOf p, p.stdout.buffer.drop readSize, messages ++ more, left', ?_⟩
      (fun hempty => absurd (hstack'.symm.trans hempty) (List.cons_ne_nil _ _)) hopen
    refine ⟨?_, htaken more left' (hleft ▸ h.decoder ▸ hdrain), ?_, .inl ⟨rfl, rfl⟩⟩
    · rw [haccounts.whole, hrest, List.append_assoc, chunkOf, List.take_append_drop]
    · rw [List.filter_append, ← haccounts.delivered]
      rfl

end

end BasiliskServer.World
