import BasiliskServer.Proofs.Diagnostics.Store
import BasiliskServer.Proofs.World.Background

/-!
# Programs in the background

One lemma for each action that waits, for what programs do, and for running commands: all of this
changes things in the background only.
-/

namespace BasiliskServer.World

open Json (Value Fields)
open Wire (Diagnostic)
open Tasks (Notice Scheduler)

/-! ## Waiting -/

theorem settle_failure_quiet (promise : Nat) (failure : Failure) :
    Quiet (settle promise (.error failure)) :=
  fun w => ⟨(Background.refl w).settle promise _ (.inl ⟨failure, rfl⟩), trivial⟩

theorem observe_quiet (promise : Nat) {notice : Notice Hook} (hnotice : notice.target? = none) :
    Quiet (observe promise notice) :=
  fun w => ⟨(Background.refl w).observe promise notice (by simp [hnotice]), trivial⟩

theorem spawn_quiet {activity : Activity} (hactivity : activity.isOfSession) :
    Quiet (spawn activity) :=
  fun w => ⟨(Background.refl w).spawn activity hactivity, trivial⟩

theorem timer_quiet (delay : Nat) {notice : Notice Hook} (hnotice : notice.target? = none) :
    Quiet (timer delay notice) :=
  fun w => ⟨(Background.refl w).timer delay notice (by simp [hnotice]), trivial⟩

theorem stopTimer_quiet (number : Nat) : Quiet (stopTimer number) :=
  fun w => ⟨(Background.refl w).stopTimer number, trivial⟩

theorem interrupt_quiet (task : Nat) : Quiet (modifyTasks (·.interrupt task)) :=
  fun w => ⟨(Background.refl w).interrupt task, trivial⟩

theorem promise_quiet (missing : Nat) : Quiet (promise missing) :=
  fun w => ⟨(Background.refl w).promise missing, trivial⟩

theorem waitAt_modest (promise : Nat) {point : Point} (hpoint : point.isPlain) :
    Modest Plain (waitAt promise point) := by
  refine .pure fun other hother => ?_
  rw [List.mem_singleton.1 hother]
  exact hpoint

theorem sleep_modest (delay : Nat) : Modest Plain (sleep delay) := by
  intro w
  have hdone := (Background.refl w).promise 0
  -- the timer releases the promise that was just made
  have halarm := hdone.timer delay (.release w.tasks.promises.length)
    (by simp [Notice.target?, Scheduler.addPromise])
  exact ⟨halarm, (waitAt_modest _ rfl w).2⟩

theorem reap_modest (inner : Nat) (alarm : Option Nat) (interrupted : Bool) :
    Modest Plain (reap inner alarm interrupted) := by
  intro w
  have hdone := (Background.refl w).promise 0
  have hobserved := hdone.observe inner (.release w.tasks.promises.length)
    (by simp [Notice.target?, Scheduler.addPromise])
  exact ⟨hobserved.giveUp inner, (waitAt_modest _ rfl w).2⟩

theorem waitLimited_modest (inner limit : Nat) : Modest Plain (waitLimited inner limit) := by
  unfold waitLimited
  split
  · refine .get_bind fun w => ?_
    split
    · exact .give _
    · exact reap_modest inner none false
  · intro w
    have hdone := (Background.refl w).promise 0
    have halarm := hdone.timer limit (.release w.tasks.promises.length)
      (by simp [Notice.target?, Scheduler.addPromise])
    have hobserved := halarm.observe inner (.release w.tasks.promises.length)
      (by simp [Notice.target?, Scheduler.addPromise, Scheduler.addTimer])
    exact ⟨hobserved, (waitAt_modest _ rfl w).2⟩

theorem waitWithin_modest (inner : Nat) (limit : Option Nat) :
    Modest Plain (waitWithin inner limit) := by
  cases limit with
  | none => exact .pure fun _ h => absurd h List.not_mem_nil
  | some limit => exact waitLimited_modest inner limit

theorem waitShielded_modest (inner : Nat) : Modest Plain (waitShielded inner) := by
  refine .of_get fun w => ?_
  split
  · exact Modest.give _ w
  · have houter := (Background.refl w).promise 0
    have hobserved := houter.observe inner (.relay inner w.tasks.promises.length)
      (by simp [Notice.target?, Scheduler.addPromise])
    exact ⟨hobserved, fun _ h => absurd h List.not_mem_nil⟩

/-- Observing promises for one that was made on the way. -/
theorem observeAll_background {base w : World} (h : Background base w) {done : Nat}
    (hge : base.tasks.promises.length ≤ done) (hlt : done < w.tasks.promises.length)
    (promises : List Nat) :
    Background base ((promises.forM fun p => observe p (.tally done)).run w).2 := by
  induction promises generalizing w with
  | nil => exact h
  | cons p rest ih =>
    have hobserved := h.observe p (.tally done) (by simp [Notice.target?, hge, hlt])
    exact ih hobserved (by simpa using hlt)

theorem waitAll_points (promises : List Nat) (point : Point) :
    Modest (fun next => points next = [point]) (waitAll promises point) := by
  intro w
  have hdone := (Background.refl w).promise promises.length
  have hobserved := observeAll_background hdone (Nat.le_refl w.tasks.promises.length)
    (by simp [Scheduler.addPromise]) promises
  exact ⟨hobserved, rfl⟩

theorem waitAll_modest (promises : List Nat) {point : Point} (hpoint : point.isPlain) :
    Modest Plain (waitAll promises point) := by
  refine (waitAll_points promises point).imp fun next hnext other hother => ?_
  rw [hnext] at hother
  rw [List.mem_singleton.1 hother]
  exact hpoint

theorem WaitPoint.resume_modest (point : WaitPoint) (outcome : Outcome) :
    Modest Plain (point.resume outcome) := by
  cases point with
  | sleeping alarm => exact .seq (stopTimer_quiet alarm) fun _ => .give outcome
  | limited inner alarm =>
    refine .get_bind fun w => ?_
    split
    · exact .seq (stopTimer_quiet alarm) fun _ => .give _
    · split
      · exact reap_modest inner (some alarm) false
      · exact reap_modest inner (some alarm) true
  | reaping inner alarm interrupted =>
    refine .seq (.forM_option fun number _ => stopTimer_quiet number) fun _ => ?_
    cases outcome with
    | error failure => exact .fail failure
    | ok answer =>
      cases interrupted with
      | true => exact .fail .cancelled
      | false => exact .get_bind fun w => .give _

/-! ## Programs -/

/-- Something can be seen from outside that is not handed to a process. -/
theorem note_quiet {change : Record → Record} (hchange : ∀ r, (change r).handed = r.handed) :
    Quiet (note change) :=
  fun w => ⟨(Background.refl w).setRecord (by simp [syncs, hchange]), trivial⟩

/-- A process is changed that waits for no more than before. -/
theorem updateProcess_quiet (number : Nat) (change : Process → Process)
    (hwaiters : ∀ p, ∀ q ∈ (change p).waiters, q ∈ p.waiters) :
    Quiet (updateProcess number change) :=
  fun w => ⟨(Background.refl w).setProcess number change fun p _ q hq => .inl (hwaiters p q hq),
    trivial⟩

/-- Telling the task that waits for bytes is the process's business. -/
theorem wakeReader_background {base w : World} (h : Background base w) (reader : Reader)
    (hwaiter : ∀ q ∈ reader.waiter, q ∈ base.targets) :
    Background base ((wakeReader reader).run w).2 := by
  unfold wakeReader
  cases hreader : reader.waiter with
  | none => exact h
  | some waiter => exact h.settle waiter _ (.inr (.inl (hwaiter waiter hreader)))

theorem mem_waiters_stdout {p : Process} {q : Nat} (h : q ∈ p.stdout.waiter) : q ∈ p.waiters := by
  simp_all [Process.waiters]

theorem mem_waiters_stderr {p : Process} {q : Nat} (h : q ∈ p.stderr.waiter) : q ∈ p.waiters := by
  simp_all [Process.waiters]

/-- A process is changed so that a task stops waiting for its bytes, and the task is told. -/
theorem tellReader_background {w : World} {number : Nat} {p : Process}
    (hp : w.processes[number]? = some p) {change : Process → Process}
    (hwaiters : ∀ p, ∀ q ∈ (change p).waiters, q ∈ p.waiters) {reader : Reader}
    (hreader : ∀ q ∈ reader.waiter, q ∈ p.waiters) :
    Background w ((do updateProcess number change; wakeReader reader : Act Unit).run w).2 :=
  wakeReader_background (updateProcess_quiet number change hwaiters w).1 reader fun q hq =>
    Background.mem_targets_of_process hp (hreader q hq)

theorem writeOutput_quiet (number : Nat) (bytes : List UInt8) :
    Quiet (writeOutput number bytes) := by
  refine .of_get fun w => ⟨?_, trivial⟩
  split
  · exact .refl w
  · rename_i p hp
    split
    · exact tellReader_background hp (by simp +contextual [Process.waiters])
        fun _ => mem_waiters_stdout
    · exact .refl w

theorem writeErrors_quiet (number : Nat) (bytes : List UInt8) :
    Quiet (writeErrors number bytes) := by
  refine .of_get fun w => ⟨?_, trivial⟩
  split
  · exact .refl w
  · rename_i p hp
    split
    · refine tellReader_background hp (fun p q hq => ?_) fun _ => mem_waiters_stderr
      simp only [Process.waiters, Option.toList_none, List.append_nil, List.mem_append] at hq ⊢
      exact hq.imp .inl id
    · exact .refl w

theorem breakOutput_quiet (number : Nat) (text : String) : Quiet (breakOutput number text) := by
  refine .of_get fun w => ⟨?_, trivial⟩
  split
  · exact .refl w
  · rename_i p hp
    exact tellReader_background hp (by simp +contextual [Process.waiters])
      fun _ => mem_waiters_stdout

/-- Settling promises that are somebody's to settle. -/
theorem settleAll_background {base w : World} (h : Background base w) (outcome : Outcome)
    {promises : List Nat} (hown : ∀ q ∈ promises, q ∈ base.targets) :
    Background base ((promises.forM fun q => settle q outcome).run w).2 := by
  induction promises generalizing w with
  | nil => exact h
  | cons q rest ih =>
    have hsettled := h.settle q outcome (.inr (.inl (hown q List.mem_cons_self)))
    exact ih hsettled fun other hother => hown other (List.mem_cons_of_mem _ hother)

theorem quit_quiet (number : Nat) (code : Int) : Quiet (quit number code) := by
  refine .of_get fun w => ⟨?_, trivial⟩
  split
  · exact .refl w
  · rename_i p hp
    split
    · have hended := (updateProcess_quiet number (fun p =>
        { p with
          code := some code
          stdout := { p.stdout with ended := true, waiter := none }
          stderr := { p.stderr with ended := true, waiter := none }
          exitWaiters := [] }) (by simp [Process.waiters]) w).1
      have hstdout := wakeReader_background hended p.stdout fun q hq =>
        Background.mem_targets_of_process hp (mem_waiters_stdout hq)
      have hstderr := wakeReader_background hstdout p.stderr fun q hq =>
        Background.mem_targets_of_process hp (mem_waiters_stderr hq)
      exact settleAll_background hstderr (.ok .unit) fun q hq =>
        Background.mem_targets_of_process hp (by simp [Process.waiters, hq])
    · exact .refl w

theorem afterDelay_quiet (delay : Nat) (hook : Hook) {now : Act Unit} (h : Quiet now) :
    Quiet (afterDelay delay hook now) := by
  unfold afterDelay
  split
  · exact h
  · exact .seq (timer_quiet delay rfl) fun _ => .pure trivial

theorem say_quiet (number : Nat) (message : Fields) (delay : Nat) :
    Quiet (say number message delay) :=
  afterDelay_quiet delay _ (writeOutput_quiet number _)

theorem carryOut_quiet (number : Nat) (id : Value) (reply : Reply) :
    Quiet (carryOut number id reply) := by
  cases reply with
  | result value delay => exact say_quiet number _ delay
  | refusal error delay => exact say_quiet number _ delay
  | quit code delay => exact afterDelay_quiet delay _ (quit_quiet number code)
  | silence => exact .pure trivial

theorem tellOnOpen_quiet (number : Nat) (script : CompanionScript) (method : String)
    (params : Value) : Quiet (tellOnOpen number script method params) := by
  unfold tellOnOpen
  split
  · refine .seq (writeErrors_quiet number _) fun _ => ?_
    split
    · exact .pure trivial
    · exact say_quiet number _ 0
  · exact .pure trivial

theorem receive_quiet (number : Nat) (message : Fields) : Quiet (receive number message) := by
  refine .get_bind fun w => ?_
  split
  · exact .pure trivial
  · refine .seq (note_quiet fun _ => rfl) fun _ => ?_
    refine .seq (updateProcess_quiet number _ fun _ _ hq => hq) fun _ => ?_
    split
    · refine .seq (tellOnOpen_quiet number _ _ _) fun _ => ?_
      split
      · exact .pure trivial
      · exact carryOut_quiet number _ _
    · exact .pure trivial

/-- Handing a process something that is not about documents. -/
theorem writeInput_quiet (number : Nat) {payload : Payload} (hsync : payload.sync? = none) :
    Quiet (writeInput number payload) := by
  refine .get_bind fun w => ?_
  split
  · exact .pure trivial
  · refine .seq ?_ fun _ => ?_
    · exact fun w => ⟨(Background.refl w).setRecord (by simp [syncs, hsync]), trivial⟩
    · split
      · refine .seq (updateProcess_quiet number _ fun _ _ hq => hq) fun _ => ?_
        exact .forM_option fun messages _ => .forM fun message _ => receive_quiet number message
      · exact .pure trivial

theorem askToEnd_quiet (number : Nat) : Quiet (askToEnd number) := by
  refine .seq (note_quiet fun _ => rfl) fun _ => .get_bind fun w => ?_
  split
  · exact .pure trivial
  · split
    · exact .pure trivial
    · split
      · exact .seq (quit_quiet number _) fun _ => .pure trivial
      · exact .seq (.pure trivial) fun _ => .pure trivial

theorem kill_quiet (number : Nat) : Quiet (kill number) :=
  .seq (note_quiet fun _ => rfl) fun _ => quit_quiet number _

theorem awaitExit_modest (number : Nat) : Modest Plain (awaitExit number) := by
  refine .of_get fun w => ?_
  split
  · exact Modest.finish _ w
  · have hwaiter := (Background.refl w).promise 0
    -- the process will settle the promise that was just made
    have hwaits := hwaiter.setProcess number
      (fun p => { p with exitWaiters := p.exitWaiters ++ [w.tasks.promises.length] }) (by
        intro p _ q hq
        simp only [Process.waiters, List.mem_append, List.mem_singleton] at hq ⊢
        rcases hq with hq | hq | rfl
        · exact .inl (.inl hq)
        · exact .inl (.inr hq)
        · exact .inr ⟨Nat.le_refl _, by simp [Scheduler.addPromise]⟩)
    exact ⟨hwaits, (waitAt_modest _ rfl w).2⟩

/-! ### Commands -/

/-- Something of the world is changed that nobody waits for and no companion process knows of. -/
theorem modify_quiet {change : World → World} (hview : ∀ w, (change w).view = w.view)
    (htasks : ∀ w, (change w).tasks = w.tasks)
    (houter : ∀ w, (change w).outerTargets = w.outerTargets) : Quiet (modify change : Act Unit) :=
  fun w => by
    have hsame : ((modify change : Act Unit).run w).2 = change w := rfl
    refine ⟨⟨(Drift.refl w).of_tasks_eq (htasks w) fun q hq => .inl ?_, hview w⟩, trivial⟩
    rwa [hsame, houter w] at hq

theorem updateCommand_quiet (number : Nat) (change : Command → Command) :
    Quiet (updateCommand number change) :=
  modify_quiet (fun _ => rfl) (fun _ => rfl) (fun _ => rfl)

theorem runCommand_modest (launch : Launch) (limit : Int) :
    Modest Plain (runCommand launch limit) := by
  refine .get_bind fun w => ?_
  have hrun : ∀ script : CommandScript, Modest Plain (do
      note fun r => { r with launches := r.launches ++ [launch] }
      if script.isMissing then fail (.toolMissing (programOf launch.command))
      else
        let number := w.commands.length
        modify fun w => { w with commands := w.commands ++ [{ script }] }
        let spawned ← spawn (.communicate number)
        under (.program (.finished number launch.command limit))
          (waitLimited spawned.2 (Decimal.clockMilliseconds limit))) := by
    intro script
    refine .seq (note_quiet fun _ => rfl) fun _ => ?_
    split
    · exact .fail _
    · refine .seq (modify_quiet (fun _ => rfl) (fun _ => rfl) (fun _ => rfl)) fun _ => ?_
      exact .seq (spawn_quiet rfl) fun _ => .under rfl (waitLimited_modest _ _)
  split
  · exact .seq (.pure trivial) hrun
  · refine .seq (modify_quiet (fun _ => rfl) (fun _ => rfl) (fun _ => rfl)) fun _ => ?_
    exact .seq (.pure trivial) hrun

theorem communicate_modest (number : Nat) : Modest Plain (communicate number) := by
  refine .get_bind fun w => ?_
  split
  · exact .finish _
  · split
    · exact .seq (promise_quiet 0) fun _ => waitAt_modest _ rfl
    · refine .under rfl ?_
      split
      · exact .finish _
      · exact sleep_modest _

theorem killCommand_quiet (number : Nat) : Quiet (killCommand number) :=
  updateCommand_quiet number _

theorem compile_modest (uri text : String) (settings : Settings) (compiler : Option String)
    (limit : Option Int) : Modest Plain (compile uri text settings compiler limit) := by
  unfold compile
  split
  · exact .finish _
  · refine .get_bind fun w => ?_
    split
    · exact .fail _
    · exact .finish _
    · exact .under rfl (runCommand_modest _ _)

theorem askVersion_modest (compiler : String) : Modest Plain (askVersion compiler) := by
  refine .get_bind fun w => ?_
  split
  · exact .fail _
  · exact .finish _
  · exact .under rfl (runCommand_modest _ _)

theorem testCompiler_modest (compiler : String) : Modest Plain (testCompiler compiler) :=
  .under rfl (askVersion_modest compiler)

/-- In a program, the start of a companion program apart. -/
theorem ProgramPoint.resume_modest {point : ProgramPoint}
    (hpoint : ∀ script command, point ≠ .starting script command) (outcome : Outcome) :
    Modest Plain (point.resume outcome) := by
  unfold ProgramPoint.resume
  split
  · exact absurd rfl (hpoint _ _)
  · exact .get_bind fun w => .finish _
  · exact .seq (updateCommand_quiet _ _) fun _ => .finish _
  · exact .finish _
  · refine .get_bind fun w => ?_
    split
    · exact .finish _
    · exact .finish _
  · exact .seq (killCommand_quiet _) fun _ => .fail _
  · exact .give _
  · exact .finish _
  · exact .finish _
  · exact .finish _
  · exact .finish _
  · exact .finish _
  · exact .finish _
  · exact .give _

end BasiliskServer.World
