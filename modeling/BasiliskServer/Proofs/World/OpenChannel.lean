import BasiliskServer.Proofs.World.Undisturbed

/-!
# A channel at work

A channel is at work while it has its process and nobody closes it. What a process does, what it is
handed, and what the tasks of the channel do then disturb nothing (`AtWork`): the tasks that read go
on reading, and the one that waits for all output to be read goes on when the reader is over. Only
two points end this: a task that closes the channel begins, or the end of the process is reported.
-/

namespace BasiliskServer.World

open Json (Value Fields)
open Tasks (Notice Scheduler)

/-- The channel has its process and is not being closed, and nothing disturbs its tasks; the
promises that the process settles are among the `waiters`. -/
structure AtWork (waiters : List Nat) (w : World) : Prop where
  /-- The channel has its process, and is not being closed. -/
  channel : ∃ c full takes, w.channels = [c] ∧ c.process = some 0 ∧ c.closing = false ∧
    c.owner = .recorder full takes
  /-- The process settles these promises. -/
  process : ∃ p, w.processes = [p] ∧ ∀ q ∈ p.waiters, q ∈ waiters
  /-- Nothing disturbs the tasks. -/
  tasks : Undisturbed w.tasks waiters

theorem Point.isAside_of_isCalm {point : Point} (h : point.isCalm) : point.isAside := by
  cases point with
  | start activity => cases activity <;> first | rfl | cases h
  | program point => cases point <;> first | rfl | cases h
  | channel point => cases point <;> first | rfl | cases h
  | _ => cases h

namespace AtWork

variable {waiters waiters' : List Nat} {w : World}

theorem setTasks (h : AtWork waiters w) {tasks : Scheduler Point Answer Hook}
    (htasks : Undisturbed tasks waiters) : AtWork waiters { w with tasks } :=
  ⟨h.channel, h.process, htasks⟩

/-- The process is changed, and it settles nothing else. -/
theorem setProcess (h : AtWork waiters w) (number : Nat) (change : Process → Process)
    (hchange : ∀ p : Process, w.processes = [p] → ∀ q ∈ (change p).waiters, q ∈ waiters) :
    AtWork waiters { w with processes := w.processes.modify number change } where
  channel := h.channel
  process := by
    obtain ⟨p, hp, hwaiters⟩ := h.process
    have hnew := hchange p hp
    rw [hp]
    cases number with
    | zero => exact ⟨change p, rfl, hnew⟩
    | succ number => exact ⟨p, by simp, hwaiters⟩
  tasks := h.tasks

/-- The process is changed, and it settles the same. -/
theorem setProcess_same (h : AtWork waiters w) (number : Nat) {change : Process → Process}
    (hsame : ∀ p, (change p).waiters = p.waiters) :
    AtWork waiters { w with processes := w.processes.modify number change } := by
  refine h.setProcess number change fun p hp q hq => ?_
  obtain ⟨p', hp', hwaiters⟩ := h.process
  obtain rfl := List.singleton_inj.1 (hp'.symm.trans hp)
  exact hwaiters q (hsame p' ▸ hq)

theorem setRecord (h : AtWork waiters w) (record : Record) : AtWork waiters { w with record } :=
  ⟨h.channel, h.process, h.tasks⟩

/-- The channel is changed, and is still at work. -/
theorem setChannel (h : AtWork waiters w) (number : Nat) (change : Channel → Channel)
    (hprocess : ∀ c, (change c).process = c.process) (hclosing : ∀ c, (change c).closing = c.closing)
    (howner : ∀ c, (change c).owner = c.owner) :
    AtWork waiters { w with channels := w.channels.modify number change } where
  channel := by
    obtain ⟨c, full, takes, hc, hopen⟩ := h.channel
    rw [hc]
    cases number with
    | zero => exact ⟨change c, full, takes, rfl, by rwa [hprocess, hclosing, howner]⟩
    | succ number => exact ⟨c, full, takes, by simp, hopen⟩
  process := h.process
  tasks := h.tasks

/-- The process settles other promises, which nobody waits for yet. -/
theorem serve (h : AtWork waiters w) (hprocess : ∀ p : Process, w.processes = [p] →
      ∀ q ∈ p.waiters, q ∈ waiters')
    (hserved : ∀ q ∈ waiters', q ∈ waiters ∨
      IsPlain w.tasks q ∧ ∀ t ∈ w.tasks.tasks, t.waiting ≠ some q) : AtWork waiters' w where
  channel := h.channel
  process := by
    obtain ⟨p, hp, -⟩ := h.process
    exact ⟨p, hp, hprocess p hp⟩
  tasks := h.tasks.serve hserved

end AtWork

/-! ## What a process does -/

section

variable {waiters : List Nat}

theorem settle_atWork {q : Nat} (h : q ∈ waiters) (answer : Answer) :
    Keeps (AtWork waiters) (settle q (.ok answer)) :=
  fun _ hw => ⟨hw.setTasks (hw.tasks.settle_waiter h answer), trivial⟩

theorem wakeReader_atWork {reader : Reader} (h : ∀ q, reader.waiter = some q → q ∈ waiters) :
    Keeps (AtWork waiters) (wakeReader reader) :=
  .forM_option fun q hq => settle_atWork (h q hq) _

theorem timer_atWork (delay : Nat) {notice : Notice Hook} (h : isLight notice) :
    Keeps (AtWork waiters) (timer delay notice) :=
  fun _ hw => ⟨hw.setTasks (hw.tasks.addTimer delay h), trivial⟩

theorem note_atWork (change : Record → Record) : Keeps (AtWork waiters) (note change) :=
  fun _ hw => ⟨hw.setRecord _, trivial⟩

theorem updateProcess_atWork (number : Nat) {change : Process → Process}
    (h : ∀ p, (change p).waiters = p.waiters) :
    Keeps (AtWork waiters) (updateProcess number change) :=
  fun _ hw => ⟨hw.setProcess_same number h, trivial⟩

/-- A process writes to one of its outputs, which wakes whoever waits for that. -/
theorem write_atWork {number : Nat} {p : Process} {change : Process → Process} {reader : Reader}
    (hreader : ∀ q ∈ reader.waiter, q ∈ p.waiters)
    (hchange : ∀ q ∈ (change p).waiters, q ∈ p.waiters) {w : World} (hw : AtWork waiters w)
    (hp : w.processes[number]? = some p) :
    AtWork waiters ((do updateProcess number change; wakeReader reader : Act Unit).run w).2 := by
  obtain ⟨p', hp', hwaiters⟩ := hw.process
  rw [hp'] at hp
  obtain rfl := eq_of_getElem?_singleton hp
  have hset := hw.setProcess number change fun q hq r hr => by
    obtain rfl := List.singleton_inj.1 (hp'.symm.trans hq)
    exact hwaiters r (hchange r hr)
  exact (wakeReader_atWork (fun q hq => hwaiters q (hreader q hq)) _ hset).1

theorem writeOutput_atWork (number : Nat) (bytes : List UInt8) :
    Keeps (AtWork waiters) (writeOutput number bytes) := by
  refine .of_get fun w hw => ?_
  split
  · exact ⟨hw, trivial⟩
  · rename_i p hp
    split
    · refine ⟨write_atWork ?_ ?_ hw hp, trivial⟩
      · exact fun q hq => by simp [Process.waiters, Option.mem_def.1 hq]
      · exact fun q hq => by simp only [Process.waiters] at hq ⊢; simp_all
    · exact ⟨hw, trivial⟩

theorem writeErrors_atWork (number : Nat) (bytes : List UInt8) :
    Keeps (AtWork waiters) (writeErrors number bytes) := by
  refine .of_get fun w hw => ?_
  split
  · exact ⟨hw, trivial⟩
  · rename_i p hp
    split
    · refine ⟨write_atWork ?_ ?_ hw hp, trivial⟩
      · exact fun q hq => by simp [Process.waiters, Option.mem_def.1 hq]
      · exact fun q hq => by
          simp only [Process.waiters, Option.toList_none, List.append_nil, List.mem_append] at hq ⊢
          exact hq.imp .inl id
    · exact ⟨hw, trivial⟩

theorem quit_atWork (number : Nat) (code : Int) :
    Keeps (AtWork waiters) (quit number code) := by
  refine .of_get fun w hw => ?_
  obtain ⟨p', hp', hwaiters⟩ := hw.process
  split
  · exact ⟨hw, trivial⟩
  · rename_i p hp
    rw [hp'] at hp
    obtain rfl := eq_of_getElem?_singleton hp
    split
    · -- The process settles nothing afterwards.
      have hset := hw.setProcess number (fun q => { q with
          code := some code
          stdout := { q.stdout with ended := true, waiter := none }
          stderr := { q.stderr with ended := true, waiter := none }
          exitWaiters := [] }) fun q _ r hr => by simp [Process.waiters] at hr
      have hout := @wakeReader_atWork waiters p.stdout
        (fun q hq => hwaiters q (by simp [Process.waiters, hq])) _ hset
      have herr := @wakeReader_atWork waiters p.stderr
        (fun q hq => hwaiters q (by simp [Process.waiters, hq])) _ hout.1
      have hexit : Keeps (AtWork waiters) (p.exitWaiters.forM fun q => settle q (.ok .unit)) :=
        .forM fun q hq => settle_atWork (hwaiters q (by simp [Process.waiters, hq])) _
      exact hexit _ herr.1
    · exact ⟨hw, trivial⟩

theorem afterDelay_atWork (delay : Nat) (hook : Hook) {now : Act Unit}
    (h : Keeps (AtWork waiters) now) : Keeps (AtWork waiters) (afterDelay delay hook now) := by
  unfold afterDelay
  split
  · exact h
  · exact .seq (timer_atWork delay rfl) fun _ => .pure trivial

theorem say_atWork (number : Nat) (message : Fields) (delay : Nat) :
    Keeps (AtWork waiters) (say number message delay) :=
  afterDelay_atWork delay _ (writeOutput_atWork number _)

theorem carryOut_atWork (number : Nat) (id : Value) (reply : Reply) :
    Keeps (AtWork waiters) (carryOut number id reply) := by
  cases reply with
  | result value delay => exact say_atWork number _ delay
  | refusal error delay => exact say_atWork number _ delay
  | quit code delay => exact afterDelay_atWork delay _ (quit_atWork number code)
  | silence => exact .pure trivial

theorem tellOnOpen_atWork (number : Nat) (script : CompanionScript) (method : String)
    (params : Value) : Keeps (AtWork waiters) (tellOnOpen number script method params) := by
  unfold tellOnOpen
  split
  · refine .seq (writeErrors_atWork number _) fun _ => ?_
    split
    · exact .pure trivial
    · exact say_atWork number _ 0
  · exact .pure trivial

theorem receive_atWork (number : Nat) (message : Fields) :
    Keeps (AtWork waiters) (receive number message) := by
  refine .get_bind fun w _ => ?_
  split
  · exact .pure trivial
  · refine .seq (note_atWork _) fun _ => .seq (updateProcess_atWork number fun _ => rfl) fun _ => ?_
    split
    · refine .seq (tellOnOpen_atWork number _ _ _) fun _ => ?_
      split
      · exact .pure trivial
      · exact carryOut_atWork number _ _
    · exact .pure trivial

theorem writeInput_atWork (number : Nat) (payload : Payload) :
    Keeps (AtWork waiters) (writeInput number payload) := by
  refine .get_bind fun w _ => ?_
  split
  · exact .pure trivial
  · refine .seq (note_atWork _) fun _ => ?_
    split
    · refine .seq (updateProcess_atWork number fun _ => rfl) fun _ =>
        .forM_option fun messages _ => .forM fun message _ => receive_atWork number message
    · exact .pure trivial

theorem send_atWork (number : Nat) (payload : Payload) :
    Keeps (AtWork waiters) (send number payload) := by
  refine .get_bind fun w _ => ?_
  split
  · exact writeInput_atWork _ payload
  · exact .pure trivial

/-! ## What else happens -/

theorem happenHook_atWork (hook : Hook) : Keeps (AtWork waiters) (happenHook hook) := by
  cases hook with
  | forget channel request =>
    exact fun w hw => ⟨hw.setChannel channel _ (fun _ => rfl) (fun _ => rfl) fun _ => rfl, trivial⟩
  | retire task => exact fun w hw => ⟨⟨hw.channel, hw.process, hw.tasks⟩, trivial⟩
  | write process bytes => exact writeOutput_atWork process bytes
  | quit process code => exact quit_atWork process code

/-- A notice that is in the queue happens. -/
theorem happen_atWork {w : World} (hw : AtWork waiters w) {notice : Notice Hook}
    (hnotice : isLight notice ∨ isTally notice ∧ w.tasks.isSettled 0) :
    AtWork waiters ((happen notice).run w).2 := by
  cases notice with
  | wake task => exact hw.setTasks (hw.tasks.resume task)
  | tally q =>
    rcases hnotice with hlight | ⟨-, hsettled⟩
    · cases hlight
    · exact hw.setTasks (hw.tasks.countDown hsettled q)
  | hook hook => exact (happenHook_atWork hook w hw).1
  | release q => rcases hnotice with h | ⟨h, -⟩ <;> cases h
  | relay source target => rcases hnotice with h | ⟨h, -⟩ <;> cases h

end

/-! ## How activities go on -/

/-- The activity of a task leaves the channel at work, and goes on in a way that disturbs nothing. -/
def Continues (i : Nat) (w : World) (act : Act Next) : Prop :=
  ∃ waiters, AtWork waiters (act.run w).2 ∧ Complies (act.run w).2.tasks waiters i (act.run w).1

section

variable {waiters : List Nat} {w : World} {i : Nat}

/-- The activity is over. -/
theorem continues_give (hw : AtWork waiters w) (outcome : Outcome) :
    Continues i w (give outcome) := by
  refine ⟨waiters, hw, ⟨fun _ _ h => (by cases h), ?_, ?_,
    fun _ point hpoint => absurd hpoint List.not_mem_nil, fun _ => ⟨fun _ _ h hne => ?_, fun _ => rfl⟩⟩⟩
  · exact fun hfront => absurd hfront.choose_spec.1 List.not_mem_nil
  · exact fun hfront => absurd hfront.choose_spec.1 List.not_mem_nil
  · obtain ⟨-, rfl⟩ := Tasks.Next.go.inj h
    exact absurd rfl hne

/-- After something that keeps what is known of the world. -/
theorem Continues.seq {α : Type} {I : World → Prop} {act : Act α} {rest : α → Act Next} (hw : I w)
    (hact : Keeps I act) (hrest : ∀ a w', I w' → Continues i w' (rest a)) :
    Continues i w (act >>= rest) :=
  hrest _ _ (hact w hw).1

/-- An activity that looks at the world first. -/
theorem Continues.get_bind {rest : World → Act Next} (h : Continues i w (rest w)) :
    Continues i w (get >>= rest) :=
  h

theorem Continues.under_get {point : Point} {rest : World → Act Next}
    (h : Continues i w (under point (rest w))) : Continues i w (under point (get >>= rest)) :=
  h

/-- A task waits for something that the process settles. -/
theorem continues_waitFor (hw : AtWork waiters w) (number : Nat) (change : Nat → Process → Process)
    (front : List Point)
    (hchange : ∀ waiter p, ∀ q ∈ (change waiter p).waiters, q ∈ p.waiters ∨ q = waiter)
    (hdrained : ∀ point ∈ front, point.isDrained = false)
    (hgone : ∀ point ∈ front, point.isGone → w.tasks.isSettled 0)
    (hcalm : i ≠ 0 → ∀ point ∈ front, point.isCalm) (hreader : i = 0 → w.tasks.isSettled 0 = false) :
    Continues i w (do
      let waiter ← promise
      updateProcess number (change waiter)
      return .wait waiter front) := by
  have hpromise := hw.setTasks (hw.tasks.addPromise 0)
  obtain ⟨hplain, hfresh⟩ := hw.tasks.addPromise_fresh 0
  -- The process has the waiters that it had, and possibly the new promise.
  have hset : AtWork (w.tasks.promises.length :: waiters)
      { w with
        tasks := (w.tasks.addPromise 0).2
        processes := w.processes.modify number (change w.tasks.promises.length) } := by
    refine ((hpromise.serve (fun p hp q hq => ?_) fun q hq => ?_).setProcess number _
      fun p hp q hq => ?_)
    · obtain ⟨p', hp', hwaiters⟩ := hpromise.process
      obtain rfl := List.singleton_inj.1 (hp'.symm.trans hp)
      exact List.mem_cons_of_mem _ (hwaiters q hq)
    · rcases List.mem_cons.1 hq with rfl | hq
      · exact .inr ⟨hplain, hfresh⟩
      · exact .inl hq
    · obtain ⟨p', hp', hwaiters⟩ := hpromise.process
      obtain rfl := List.singleton_inj.1 (hp'.symm.trans hp)
      rcases hchange _ p' q hq with hold | rfl
      · exact List.mem_cons_of_mem _ (hwaiters q hold)
      · exact List.mem_cons_self
  have hsame : (w.tasks.addPromise 0).2.isSettled 0 = w.tasks.isSettled 0 := by
    rw [Scheduler.isSettled, Scheduler.isSettled, Undisturbed.outcome?_added rfl (by simp)]
  refine ⟨_, hset, ⟨fun q _ h => ?_, fun hfront => ?_, fun hfront => ?_, hcalm,
    fun hzero => ⟨fun _ _ h => (by cases h), fun hsettled => ?_⟩⟩⟩
  · rw [← (Tasks.Next.wait.inj h).1]
    exact hplain
  · obtain ⟨point, hpoint, h⟩ := hfront
    rw [hdrained point hpoint] at h
    cases h
  · obtain ⟨point, hpoint, h⟩ := hfront
    exact hsame.trans (hgone point hpoint h)
  · -- The reader waits, so that its result is not known.
    have hsettled : (w.tasks.addPromise 0).2.isSettled 0 = true := hsettled
    rw [hsame, hreader hzero] at hsettled
    cases hsettled

/-- A task goes on at once. -/
theorem continues_go (hw : AtWork waiters w) (answer : Answer) {front : List Point}
    (hdrained : ∀ point ∈ front, point.isDrained = false)
    (hgone : ∀ point ∈ front, point.isGone → w.tasks.isSettled 0)
    (hcalm : i ≠ 0 → ∀ point ∈ front, point.isCalm) (hreader : i = 0 → w.tasks.isSettled 0 = false) :
    Continues i w (pure (.go (.ok answer) front)) := by
  refine ⟨waiters, hw, ⟨fun _ _ h => (by cases h), fun hfront => ?_, fun hfront => ?_, hcalm,
    fun hzero => ⟨fun _ _ h _ => ?_, fun hsettled => ?_⟩⟩⟩
  · obtain ⟨point, hpoint, h⟩ := hfront
    rw [hdrained point hpoint] at h
    cases h
  · obtain ⟨point, hpoint, h⟩ := hfront
    exact hgone point hpoint h
  · exact ⟨answer, (Tasks.Next.go.inj h).1.symm⟩
  · have hsettled : w.tasks.isSettled 0 = true := hsettled
    rw [hreader hzero] at hsettled
    cases hsettled

theorem readErrors_continues (hw : AtWork waiters w) (hi : i ≠ 0) (number process : Nat) :
    Continues i w (readErrors number process) := by
  have hagain (w' : World) (hw' : AtWork waiters w') :
      Continues i w' (pure (.go (.ok .unit) [.channel (.errors number process)])) :=
    continues_go hw' .unit (by simp [Point.isDrained]) (by simp [Point.isGone])
      (by simp [Point.isCalm]) fun hzero => absurd hzero hi
  have hprocess (change : Process → Process) (h : ∀ p, (change p).waiters = p.waiters) :
      Keeps (AtWork waiters) (updateProcess process change) := updateProcess_atWork process h
  refine .get_bind (.get_bind ?_)
  obtain ⟨c, full, takes, hc, -, -, howner⟩ := hw.channel
  have herrors (line : String) : Keeps (AtWork waiters) (c.owner.errors line) := by
    rw [howner]
    cases full with
    | false => exact .pure trivial
    | true => exact note_atWork fun r => { r with errors := r.errors ++ [line] }
  split
  -- a line, or what is left at the end, is passed on unless it is too long; else the task waits for more
  · rename_i p d hp hd
    rw [hc] at hd
    obtain rfl := eq_of_getElem?_singleton hd
    split
    · refine .seq hw (hprocess _ fun _ => rfl) fun _ w' hw' => ?_
      split
      · exact continues_give hw' _
      · exact .seq hw' (herrors _) fun _ => hagain
    · split
      · exact .seq hw (hprocess _ fun _ => rfl) fun _ w' hw' => continues_give hw' _
      · split
        · split
          · exact continues_give hw _
          · exact .seq hw (hprocess _ fun _ => rfl) fun _ w' hw' =>
              .seq hw' (herrors _) fun _ => hagain
        · refine continues_waitFor hw process _ [_] ?_ (by simp [Point.isDrained]) (by simp [Point.isGone])
            (by simp [Point.isCalm]) fun hzero => absurd hzero hi
          intro waiter p q hq
          simp only [Process.waiters, Option.toList_some, List.mem_append, List.mem_singleton] at hq ⊢
          rcases hq with (hq | hq) | hq
          · exact .inl (.inl (.inl hq))
          · exact .inr hq
          · exact .inl (.inr hq)
  · exact continues_give hw _

/-- The reader goes on reading, or is over. -/
theorem readOutput_continues (hw : AtWork waiters w) (hopen : w.tasks.isSettled 0 = false)
    (number process : Nat) : Continues 0 w (readOutput number process) := by
  refine .get_bind (.get_bind ?_)
  obtain ⟨c, full, takes, hc, -, -, howner⟩ := hw.channel
  split
  · rename_i p d hp hd
    rw [hc] at hd
    obtain rfl := eq_of_getElem?_singleton hd
    split
    · exact continues_give hw _
    · split
      · exact continues_give hw _
      · refine continues_waitFor hw process _ [_] ?_ (by simp [Point.isDrained])
          (by simp [Point.isGone]) (fun h => absurd rfl h) fun _ => hopen
        intro waiter p q hq
        simp only [Process.waiters, Option.toList_some, List.mem_append, List.mem_singleton] at hq ⊢
        rcases hq with (hq | hq) | hq
        · exact .inr hq
        · exact .inl (.inl (.inr hq))
        · exact .inl (.inr hq)
    · -- What is read is fed to the decoder, and the messages are recorded; no promise is settled.
      have hunsettled {change : World → World} (htasks : ∀ w, (change w).tasks = w.tasks)
          (hkeeps : ∀ w, AtWork waiters w → AtWork waiters (change w)) :
          Keeps (fun w => AtWork waiters w ∧ w.tasks.isSettled 0 = false) (modify change : Act Unit) :=
        fun w hw => ⟨⟨hkeeps w hw.1, by rw [← hw.2]; exact congrArg (·.isSettled 0) (htasks w)⟩, trivial⟩
      have hframe (message : Fields) : Keeps (fun w => AtWork waiters w ∧ w.tasks.isSettled 0 = false)
          (d.owner.frame message) := by
        rw [howner]
        unfold Owner.frame
        simp only
        split
        · exact .pure trivial
        · exact hunsettled (fun _ => rfl) fun w hw => hw.setRecord _
      refine .seq ⟨hw, hopen⟩ (hunsettled (fun _ => rfl) fun w hw =>
        hw.setProcess_same process fun _ => rfl) fun _ w' hw' => ?_
      refine .seq hw' (hunsettled (fun _ => rfl) fun w hw =>
        hw.setChannel number _ (fun _ => rfl) (fun _ => rfl) fun _ => rfl) fun _ w' hw' => ?_
      split
      · exact continues_give hw'.1 _
      · refine .seq hw' (.forM fun message _ => hframe message) fun _ w' hw' => ?_
        exact continues_go hw'.1 .unit (by simp [Point.isDrained]) (by simp [Point.isGone])
          (fun h => absurd rfl h) fun _ => hw'.2
  · exact continues_give hw _

/-- The task that waits for all output waits for a tally, which the result of the reader counts
down. -/
theorem waitReader_continues (hw : AtWork waiters w) (hi : i ≠ 0) (number process : Nat) :
    Continues i w (waitAll [0] (.channel (.drained number process))) := by
  have hpromise := hw.setTasks (hw.tasks.addPromise 1)
  obtain ⟨hplain, -⟩ := hw.tasks.addPromise_fresh 1
  have hobserved := hpromise.setTasks
    (hpromise.tasks.observe 0 (.inr ⟨rfl, rfl⟩ : isLight (.tally w.tasks.promises.length) ∨ _))
  -- Nobody else settles the tally, which has just been made.
  have hnot : w.tasks.promises.length ∉ waiters := fun hin => by
    obtain ⟨promise, hpromise, -⟩ := hw.tasks.served _ hin
    exact absurd (List.getElem?_eq_some_iff.1 hpromise).1 (Nat.lt_irrefl _)
  have hopen : (w.tasks.addPromise 1).2.isSettled w.tasks.promises.length = false := by
    rw [Scheduler.isSettled, Undisturbed.outcome?_added rfl (by simp), Scheduler.outcome?,
      List.getElem?_eq_none (Nat.le_refl _)]
    rfl
  refine ⟨waiters, hobserved, ⟨fun q front h => ?_, fun _ => ?_, fun hfront => ?_,
    fun _ other hother => ?_, fun hzero => absurd hzero hi⟩⟩
  · rw [← (Tasks.Next.wait.inj h).1]
    exact (Undisturbed.isPlain_observe 0 _ _).2 hplain
  · refine .inr ⟨_, _, rfl, hnot, ?_⟩
    rw [Scheduler.isSettled] at hopen ⊢
    rw [← hopen]
    exact congrArg Option.isSome (congrFun (Scheduler.outcome?_observe _ 0 _) _)
  · obtain ⟨other, hother, h⟩ := hfront
    rw [List.mem_singleton.1 hother] at h
    cases h
  · rw [List.mem_singleton.1 hother]
    rfl

/-- The task that waits for the end of the process does so when the reader is over. -/
theorem awaitExit_continues (hw : AtWork waiters w) (hi : i ≠ 0) (hover : w.tasks.isSettled 0)
    (number process : Nat) :
    Continues i w (under (.channel (.gone number process)) (awaitExit process)) := by
  refine .under_get ?_
  split
  · exact continues_go hw _ (by simp [Point.isDrained]) (fun _ _ _ => hover)
      (by simp [Point.isCalm]) fun hzero => absurd hzero hi
  · have hwait := continues_waitFor (i := i) hw process
      (fun waiter p => { p with exitWaiters := p.exitWaiters ++ [waiter] })
      [.program (.ending process), .channel (.gone number process)] ?_ (by simp [Point.isDrained])
      (fun _ _ _ => hover) (by simp [Point.isCalm]) fun hzero => absurd hzero hi
    · exact hwait
    · intro waiter p q hq
      simp only [Process.waiters, List.mem_append, List.mem_singleton] at hq ⊢
      exact or_assoc.2 hq

/-- A task that is not the reader goes on, neither closing the channel nor reporting its end. -/
theorem resume_continues (hw : AtWork waiters w) (hi : i ≠ 0) {point : Point} (hcalm : point.isCalm)
    (hgone : point.isGone = false) {outcome : Outcome}
    (hclose : ∀ channel answer, point = .start (.closeChannel channel) → outcome ≠ .ok answer)
    (hover : point.isDrained → w.tasks.isSettled 0) : Continues i w (point.resume outcome) := by
  have hprocess (number : Nat) {activity : Nat → Act Next}
      (h : ∀ process, Continues i w (activity process)) : Continues i w (withProcess number activity) := by
    refine .get_bind ?_
    split
    · exact continues_give hw _
    · exact h _
  -- At calm points somebody reads errors, watches the reader or waits for the end.
  cases point with
  | start activity =>
    cases outcome with
    | error failure => exact continues_give hw _
    | ok answer =>
      cases activity with
      | readErrors number =>
        exact hprocess number fun process => readErrors_continues hw hi number process
      | watch number reader =>
        obtain rfl : reader = 0 := by simpa [Point.isCalm] using hcalm
        exact hprocess number fun process => waitReader_continues hw hi number process
      | closeChannel number => exact absurd rfl (hclose number answer rfl)
      | _ => cases hcalm
  | program point =>
    cases point with
    | ending process =>
      cases outcome with
      | error failure => exact continues_give hw _
      | ok answer => exact .get_bind (continues_give hw _)
    | _ => cases hcalm
  | channel point =>
    cases point with
    | errors number process =>
      cases outcome with
      | error failure => exact continues_give hw _
      | ok answer => exact readErrors_continues hw hi number process
    | drained number process =>
      cases outcome with
      | error failure => exact continues_give hw _
      | ok answer => exact awaitExit_continues hw hi (hover rfl) number process
    | gone number process => cases hgone
    | _ => cases hcalm
  | _ => cases hcalm

end

end BasiliskServer.World
