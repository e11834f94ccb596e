import BasiliskServer.Proofs.World.Check.LimitedStages

/-!
# What the limit for problems decides in a check

Under all limits a check comes to one verdict (`Alike.runUntilSettled`). The cut is made before the
exit code is decided. An error that is cut off does not count, whatever a greater limit would have
shown; but this is all that a limit can do (`exit_of_limited`).
-/

namespace BasiliskServer.World

open Json (Value Fields)
open Tasks (Notice Scheduler)
open Wire (Diagnostic)
open Source (quickCheck)

/-! ## Runs -/

theorem CheckStage.tail {most : Int} {point : Point} {rest : List Point}
    (h : CheckStage most (point :: rest)) : rest = [] ∨ CheckStage most rest := by
  cases h with
  | compiling call hsettings hbegun => exact .inr (.compiled hbegun)
  | connected check connection received uri => exact .inr (.consulted check)
  | received check connection => exact .inr (.consulted check)
  | disconnected check result => exact .inr (.consulted check)
  | _ => exact .inl rfl

section Runs

variable {most : Int} {origin w : World} {isOver : Bool} {limit : Int} {report : CheckReport}

/-- What holds of a world does not depend on the limit, or on the report. -/
theorem holds_limitedGuise (h : (limitedGuise most origin isOver limit report).Holds w) (limit' : Int)
    (report' : CheckReport) : (limitedGuise most origin isOver limit' report').Holds w :=
  ⟨h.begun, h.taskStacks, h.settled, h.running, h.listeners, h.commands, h.versionScript, h.runScripts⟩

/-- When the first task has nothing left to do, the check is over. -/
theorem holds_over (h : (limitedGuise most origin false limit report).Holds w)
    (hfirst : ∀ t, w.tasks.tasks[0]? = some t → t.stack = []) :
    (limitedGuise most origin true limit report).Holds w where
  begun := h.begun
  taskStacks n t ht := by
    obtain ⟨front, rest, hstack, hfront, hnil | ⟨rfl, -, hstage⟩⟩ := h.taskStacks n t ht
    · exact ⟨front, rest, hstack, hfront, .inl hnil⟩
    · rw [hfirst t ht] at hstack
      obtain ⟨-, rfl⟩ := List.append_eq_nil_iff.1 hstack.symm
      cases hstage
  settled := h.settled
  running := h.running
  listeners := h.listeners
  commands := h.commands
  versionScript := h.versionScript
  runScripts := h.runScripts

/-- The next thing is done in the guise, or the check itself goes on. -/
theorem step_or_stage (hw : (limitedGuise most origin isOver limit report).Holds w) :
    (((limitedGuise most origin isOver limit report).world w).step =
        (limitedGuise most origin isOver limit report).world w.step ∧
      (limitedGuise most origin isOver limit report).Holds w.step) ∨
    isOver = false ∧ ∃ outcome t point rest, w.tasks.running = some (0, outcome) ∧
      w.tasks.tasks[0]? = some t ∧ t.stack = point :: rest ∧ CheckStage most (point :: rest) := by
  cases hrunning : w.tasks.running with
  | none => exact .inl (Guise.step_of_idle hw hrunning)
  | some pair =>
    obtain ⟨n, outcome⟩ := pair
    cases ht : w.tasks.tasks[n]? with
    | none => exact .inl (Guise.step_of_none hw hrunning ht)
    | some t =>
      cases hstack : t.stack with
      | nil => exact .inl (Guise.step_of_nil hw hrunning ht hstack)
      | cons point rest =>
        -- Above the stage of the check stand only points that are the same in the guise.
        obtain ⟨front, tail, heq, hfront, htail⟩ := hw.taskStacks n t ht
        rw [hstack] at heq
        cases front with
        | nil =>
          obtain rfl : point :: rest = tail := heq
          obtain hnil | ⟨rfl, hover, hstage⟩ := htail
          · cases hnil
          · exact .inr ⟨hover, outcome, t, point, rest, rfl, ht, hstack, hstage⟩
        | cons first front =>
          obtain ⟨rfl, -⟩ := List.cons.inj heq
          exact .inl (Guise.step_of_menial hw hrunning ht hstack (hfront point List.mem_cons_self))

end Runs

/-- What is told is not all reports at once. -/
theorem not_all_reports (told : Option Outcome) :
    ¬∀ report : CheckReport, told = some (.ok (.check report)) := by
  intro h
  have hsame := (h { file := Files.Path.ofString "", exitCode := 0 }).symm.trans
    (h { file := Files.Path.ofString "", exitCode := 1 })
  cases hsame

/-- Where checks with all limits up to one stand: they are under way, each in its guise, or they are
all over. -/
inductive Alike (most : Int) (origin : World) (runs : Int → World) (w : World) : Prop
  | under (hw : ∀ limit report, (limitedGuise most origin false limit report).Holds w)
    (h : ∀ limit report, 1 ≤ limit → limit ≤ most →
      runs limit = (limitedGuise most origin false limit report).world w)
  | ended {report : Int → CheckReport} (hreport : AreReports report)
    (hw : ∀ limit, (limitedGuise most origin true limit (report limit)).Holds w)
    (h : ∀ limit, 1 ≤ limit → limit ≤ most →
      runs limit = (limitedGuise most origin true limit (report limit)).world w)

namespace Alike

variable {most : Int} {origin w : World} {runs runs' : Int → World}

theorem congr (h : Alike most origin runs w)
    (hsame : ∀ limit, 1 ≤ limit → limit ≤ most → runs' limit = runs limit) : Alike most origin runs' w := by
  cases h with
  | under hw h => exact .under hw fun limit report hpos hle => (hsame limit hpos hle).trans (h limit report hpos hle)
  | ended hreport hw h => exact .ended hreport hw fun limit hpos hle => (hsame limit hpos hle).trans (h limit hpos hle)

/-- Each is the one for the greatest limit in a guise. -/
theorem exists_world (h : Alike most origin runs w) {limit : Int} (hpos : 1 ≤ limit) (hle : limit ≤ most) :
    ∃ isOver report, runs limit = (limitedGuise most origin isOver limit report).world w := by
  cases h with
  | under hw h => exact ⟨false, { file := w.host.cwd }, h limit _ hpos hle⟩
  | ended hreport hw h => exact ⟨true, _, h limit hpos hle⟩

theorem isIdle_eq (h : Alike most origin runs w) {limit : Int} (hpos : 1 ≤ limit) (hle : limit ≤ most) :
    (runs limit).tasks.isIdle = w.tasks.isIdle := by
  obtain ⟨isOver, report, heq⟩ := h.exists_world hpos hle
  rw [heq]
  exact (limitedGuise most origin isOver limit report).isIdle_scheduler w.tasks

theorem isSome_outcome?_eq (h : Alike most origin runs w) (q : Nat) {limit : Int} (hpos : 1 ≤ limit)
    (hle : limit ≤ most) : ((runs limit).outcome? q).isSome = (w.outcome? q).isSome := by
  obtain ⟨isOver, report, heq⟩ := h.exists_world hpos hle
  rw [heq]
  exact (limitedGuise most origin isOver limit report).isSettled_scheduler w.tasks q

theorem nextDue?_eq (h : Alike most origin runs w) {limit : Int} (hpos : 1 ≤ limit) (hle : limit ≤ most) :
    (runs limit).tasks.nextDue? = w.tasks.nextDue? := by
  obtain ⟨isOver, report, heq⟩ := h.exists_world hpos hle
  rw [heq]
  exact (limitedGuise most origin isOver limit report).nextDue?_scheduler w.tasks

theorem moveTo (h : Alike most origin runs w) (moment : Nat) :
    Alike most origin (fun limit => (runs limit).moveTo moment) (w.moveTo moment) := by
  cases h with
  | under hw h =>
    refine .under (fun limit report => (Guise.moveTo_world (hw limit report) moment).2)
      fun limit report hpos hle => ?_
    rw [h limit report hpos hle]
    exact (Guise.moveTo_world (hw limit report) moment).1
  | ended hreport hw h =>
    refine .ended hreport (fun limit => (Guise.moveTo_world (hw limit) moment).2) fun limit hpos hle => ?_
    rw [h limit hpos hle]
    exact (Guise.moveTo_world (hw limit) moment).1

variable (hscripts : ∀ script ∈ {} :: origin.versionScript :: origin.runScripts,
  Command.IsReadable { script }) (hmost : 1 ≤ most)

include hscripts hmost

/-- The check itself goes on, under all limits. -/
theorem step_of_stage {outcome : Outcome} {t : Tasks.Task Point} {point : Point} {rest : List Point}
    (hw : ∀ limit report, (limitedGuise most origin false limit report).Holds w)
    (h : ∀ limit report, 1 ≤ limit → limit ≤ most →
      runs limit = (limitedGuise most origin false limit report).world w)
    (hrunning : w.tasks.running = some (0, outcome)) (ht : w.tasks.tasks[0]? = some t)
    (hstack : t.stack = point :: rest) (hstage : CheckStage most (point :: rest)) :
    Alike most origin (fun limit => (runs limit).step) w.step := by
  have hpopped : ∀ limit report, (limitedGuise most origin false limit report).Holds
      (w.moveTask 0 { t with stack := rest } (some outcome)) := fun limit report =>
    (hw limit report).popped hrunning
      ⟨[], rest, rfl, fun _ hp => absurd hp List.not_mem_nil, hstage.tail.imp id fun h => ⟨rfl, rfl, h⟩⟩
  -- nobody knows of a report yet, since the runs do not depend on what it would be
  have hcheck : ∀ report, outcome ≠ .ok (.check report) := by
    rintro report rfl
    refine not_all_reports ((runs most).tasks.running.map Prod.snd) fun other => ?_
    rw [h most other hmost le_rfl, Guise.running_world hrunning]
    rfl
  cases resume_concurs hscripts hpopped hcheck (fun limit report => (hw limit report).running 0 _ hrunning)
    hmost hstage with
  | on hacts =>
    have hstep : ∀ limit report, 1 ≤ limit → limit ≤ most →
        ((limitedGuise most origin false limit report).world w).step =
            (limitedGuise most origin false limit report).world w.step ∧
          (limitedGuise most origin false limit report).Holds w.step := fun limit report hpos hle => by
      refine Guise.step_of_acts hrunning ht hstack ?_
      rw [show (limitedGuise most origin false limit report).outcome outcome = limitedTold limit outcome from
        limitedOutcome_of_ne hcheck limit report]
      exact hacts limit report hpos hle
    refine .under (fun limit report => holds_limitedGuise (hstep most report hmost le_rfl).2 limit report)
      fun limit report hpos hle => ?_
    rw [h limit report hpos hle]
    exact (hstep limit report hpos hle).1
  | ends hrest first hreport hact hacts =>
    rename_i report
    subst hrest
    have hfirst : ∀ u, (w.moveTask 0 { t with stack := [] } (some outcome)).tasks.tasks[0]? = some u →
        u.stack = [] := fun u hu => by
      have hset : (w.tasks.tasks.set 0 { t with stack := [] })[0]? = some u := hu
      rw [List.getElem?_set_self (List.getElem?_eq_some_iff.1 ht).1] at hset
      exact Option.some.inj hset ▸ rfl
    have hstep : ∀ limit, 1 ≤ limit → limit ≤ most →
        ((limitedGuise most origin true limit (report limit)).world w).step =
            (limitedGuise most origin true limit (report limit)).world w.step ∧
          (limitedGuise most origin true limit (report limit)).Holds w.step := fun limit hpos hle => by
      refine Guise.step_of_acts hrunning ht hstack ?_
      rw [show (limitedGuise most origin true limit (report limit)).outcome outcome = limitedTold limit outcome
        from limitedOutcome_of_ne hcheck limit (report limit), Guise.CarriesAt, hact]
      refine ⟨hacts limit (report limit) hpos, holds_over (hpopped limit (report limit)) hfirst,
        ⟨⟨[], [], rfl, fun _ hp => absurd hp List.not_mem_nil, .inl rfl⟩, fun told front heq => ?_⟩,
        List.prefix_rfl⟩
      obtain ⟨rfl, -⟩ := Tasks.Next.go.inj heq
      exact Guise.sound_ok fun _ h => by cases h
    refine .ended hreport (fun limit => holds_limitedGuise (hstep most hmost le_rfl).2 limit _)
      fun limit hpos hle => ?_
    rw [h limit (report limit) hpos hle]
    exact (hstep limit hpos hle).1

theorem step (h : Alike most origin runs w) : Alike most origin (fun limit => (runs limit).step) w.step := by
  cases h with
  | under hw h =>
    by_cases hstage : ∃ outcome t point rest, w.tasks.running = some (0, outcome) ∧
        w.tasks.tasks[0]? = some t ∧ t.stack = point :: rest ∧ CheckStage most (point :: rest)
    · obtain ⟨outcome, t, point, rest, hrunning, ht, hstack, hstage⟩ := hstage
      exact step_of_stage hscripts hmost hw h hrunning ht hstack hstage
    · have hstep := fun limit report => (step_or_stage (hw limit report)).resolve_right fun h => hstage h.2
      refine .under (fun limit report => (hstep limit report).2) fun limit report hpos hle => ?_
      rw [h limit report hpos hle]
      exact (hstep limit report).1
  | ended hreport hw h =>
    have hstep := fun limit => (step_or_stage (hw limit)).resolve_right fun hstage => by cases hstage.1
    refine .ended hreport (fun limit => (hstep limit).2) fun limit hpos hle => ?_
    rw [h limit hpos hle]
    exact (hstep limit).1

theorem runSteps (h : Alike most origin runs w) (fuel : Nat) :
    Alike most origin (fun limit => (runs limit).runSteps fuel) (w.runSteps fuel) := by
  induction fuel generalizing runs w with
  | zero => exact h
  | succ fuel ih =>
    rw [World.runSteps]
    split
    · rename_i hidle
      refine h.congr fun limit hpos hle => ?_
      rw [World.runSteps, h.isIdle_eq hpos hle, if_pos hidle]
    · rename_i hidle
      refine (ih (h.step hscripts hmost)).congr fun limit hpos hle => ?_
      rw [World.runSteps, h.isIdle_eq hpos hle, if_neg hidle]

/-- Until a promise is settled, checks with all limits go on alike. -/
theorem runUntilSettled (h : Alike most origin runs w) (fuel q : Nat) :
    Alike most origin (fun limit => (runs limit).runUntilSettled fuel q) (w.runUntilSettled fuel q) := by
  induction fuel generalizing runs w with
  | zero => exact h
  | succ fuel ih =>
    have hran := h.runSteps hscripts hmost (fuel + 1)
    simp only [World.runUntilSettled]
    split
    · rename_i hsettled
      refine hran.congr fun limit hpos hle => ?_
      rw [hran.isSome_outcome?_eq q hpos hle, if_pos hsettled]
    · rename_i hsettled
      cases hdue : (w.runSteps (fuel + 1)).tasks.nextDue? with
      | none =>
        refine hran.congr fun limit hpos hle => ?_
        rw [hran.isSome_outcome?_eq q hpos hle, if_neg hsettled, hran.nextDue?_eq hpos hle, hdue]
      | some due =>
        refine (ih (hran.moveTo due)).congr fun limit hpos hle => ?_
        rw [hran.isSome_outcome?_eq q hpos hle, if_neg hsettled, hran.nextDue?_eq hpos hle, hdue]

end Alike

/-! ## Checks from the beginning to the end -/

/-- Nothing has been begun yet. -/
structure IsUntouched (w : World) : Prop where
  /-- No task. -/
  tasks : w.tasks = {}
  /-- No process. -/
  processes : w.processes = []
  /-- No command. -/
  commands : w.commands = []
  /-- No channel. -/
  channels : w.channels = []
  /-- No connection. -/
  connections : w.connections = []

/-- A command can be read if the problems that it reports have places. -/
theorem Command.isReadable_of_parse {c : Command} (messages : List Compiler.Message)
    (hparse : Compiler.parseOutput (c.output.stderr ++ c.output.stdout) = .ok messages)
    (h : ∀ message ∈ messages, ∃ d, message.diagnose = .ok d) : c.IsReadable := by
  have hall : ∀ some : List Compiler.Message, (∀ message ∈ some, ∃ d, message.diagnose = .ok d) →
      ∃ all, some.mapM Compiler.Message.diagnose = .ok all := by
    intro some hsome
    induction some with
    | nil => exact ⟨[], rfl⟩
    | cons message rest ih =>
      obtain ⟨⟨d, hd⟩, hrest⟩ := List.forall_mem_cons.mp hsome
      obtain ⟨all, hall⟩ := ih hrest
      exact ⟨d :: all, by rw [List.mapM_cons, hd, hall]; rfl⟩
  intro call
  obtain ⟨all, hmapped⟩ := hall (messages.filter call.concerns) fun message hmem =>
    h message (List.mem_of_mem_filter hmem)
  exact ⟨all, by rw [Compiler.Call.allFindings, hparse]; exact hmapped⟩

/-- The first task of a world stands at its start, and nothing is known yet. -/
theorem IsUntouched.begin_eq {w : World} (h : w.IsUntouched) (activity : Activity) :
    (w.begin activity).1 =
      { w with
        tasks :=
          { promises := [{ task := some 0 }]
            tasks := [{ stack := [.start activity], result := 0 }]
            ready := [.wake 0] } } := by
  have hbegin : (w.begin activity).1 =
      { w with tasks := (w.tasks.spawn (.start activity)).2 } := rfl
  rw [hbegin, h.tasks]
  rfl

/-- Checks with all limits begin alike. -/
theorem IsUntouched.begin_alike {w : World} (h : w.IsUntouched) (request : CheckRequest) (most : Int) :
    Alike most w (fun limit => (w.begin (.check (request.limited limit))).1)
      (w.begin (.check (request.limited most))).1 := by
  refine .under (fun limit report => ?_) fun limit report _ _ => ?_
  · rw [h.begin_eq]
    refine ⟨Nat.one_pos, fun n t ht => ?_, fun q outcome hq => ?_, fun n outcome hrunning => ?_,
      fun c hc => ?_, fun c hc => ?_, rfl, rfl⟩
    · have hfirst : n = 0 ∧ t.stack = [.start (.check (request.limited most))] := by
        cases n with
        | zero => exact ⟨rfl, Option.some.inj ht ▸ rfl⟩
        | succ n => cases ht
      obtain ⟨rfl, hstack⟩ := hfirst
      exact ⟨[], t.stack, rfl, fun _ hp => absurd hp List.not_mem_nil,
        .inr ⟨rfl, rfl, hstack ▸ .start rfl⟩⟩
    · have hnothing : ([{ task := some 0 }] : List (Tasks.Promise Answer Hook))[q]?.bind (·.outcome) = none := by
        cases q <;> rfl
      exact absurd (hnothing.symm.trans hq) (by simp)
    · cases hrunning
    · rw [show _ = w.connections from rfl, h.connections] at hc
      cases hc
    · rw [show _ = w.commands from rfl, h.commands] at hc
      cases hc
  · rw [h.begin_eq, h.begin_eq]
    rfl

/-- How a run of the tool ends: with an exit code, or with a failure. -/
def exitOf : Option Outcome → Option (Except Failure Nat)
  | some (.ok (.check report)) => some (.ok report.exitCode)
  | some (.error failure) => some (.error failure)
  | _ => none

/-- What is no report ends a run in the same way under all limits. -/
theorem exitOf_map_limitedOutcome {told : Option Outcome} (h : ∀ report, told ≠ some (.ok (.check report)))
    (limit : Int) (report : CheckReport) :
    exitOf (told.map (limitedOutcome limit report)) = exitOf told := by
  rcases told with - | failure | answer
  · rfl
  · rfl
  · cases answer with
    | check other => exact absurd rfl (h other)
    | _ => rfl

/-- Checks that go on alike end in the same way, or with the reports of one verdict. -/
theorem Alike.exitOf_outcome? {most : Int} {origin w : World} {runs : Int → World}
    (h : Alike most origin runs w) (hmost : 1 ≤ most) (q : Nat) :
    (∃ exit, ∀ limit, 1 ≤ limit → limit ≤ most → exitOf ((runs limit).outcome? q) = exit) ∨
    ∃ verdict : Verdict, ∀ limit, 1 ≤ limit → limit ≤ most →
      (runs limit).outcome? q = some (.ok (.check (verdict.report limit))) := by
  cases h with
  | under hw h =>
    have htold : ∀ limit report, 1 ≤ limit → limit ≤ most →
        (runs limit).outcome? q = (w.outcome? q).map (limitedOutcome limit report) := by
      intro limit report hpos hle
      rw [h limit report hpos hle]
      exact (limitedGuise most origin false limit report).outcome?_scheduler w.tasks q
    -- While the check goes on it has no report, for that would be every report at once.
    have hcheck : ∀ report, w.outcome? q ≠ some (.ok (.check report)) := fun report hreport =>
      not_all_reports ((runs most).outcome? q) fun other => by
        rw [htold most other hmost le_rfl, hreport]
        rfl
    refine .inl ⟨exitOf (w.outcome? q), fun limit hpos hle => ?_⟩
    rw [htold limit { file := w.host.cwd } hpos hle, exitOf_map_limitedOutcome hcheck]
  | @ended report hreport hw h =>
    have htold : ∀ limit, 1 ≤ limit → limit ≤ most →
        (runs limit).outcome? q = (w.outcome? q).map (limitedOutcome limit (report limit)) := by
      intro limit hpos hle
      rw [h limit hpos hle]
      exact (limitedGuise most origin true limit (report limit)).outcome?_scheduler w.tasks q
    by_cases hcheck : ∃ first, w.outcome? q = some (.ok (.check first))
    · obtain ⟨first, hfirst⟩ := hcheck
      have hends : ∀ limit, 1 ≤ limit → limit ≤ most →
          (runs limit).outcome? q = some (.ok (.check (report limit))) := fun limit hpos hle => by
        rw [htold limit hpos hle, hfirst]
        rfl
      rcases hreport with ⟨only, honly⟩ | ⟨verdict, hverdict⟩
      · refine .inl ⟨some (.ok only.exitCode), fun limit hpos hle => ?_⟩
        rw [hends limit hpos hle, honly]
        rfl
      · exact .inr ⟨verdict, fun limit hpos hle => by rw [hends limit hpos hle, hverdict]⟩
    · refine .inl ⟨exitOf (w.outcome? q), fun limit hpos hle => ?_⟩
      rw [htold limit hpos hle, exitOf_map_limitedOutcome fun first hfirst => hcheck ⟨first, hfirst⟩]

namespace Verdict

variable (verdict : Verdict) {few many : Int}

/-- An error that is reported under one limit is reported under every greater one. -/
theorem hasErrors_report_of_le (hle : few ≤ many)
    (h : Wire.hasErrors (verdict.report few).diagnostics = true) :
    Wire.hasErrors (verdict.report many).diagnostics = true := by
  have hparts : verdict.compiler.take many.toNat =
      verdict.compiler.take few.toNat ++ (verdict.compiler.take many.toNat).drop few.toNat := by
    have hfirst : (verdict.compiler.take many.toNat).take few.toNat = verdict.compiler.take few.toNat := by
      rw [List.take_take, Nat.min_eq_left (by omega)]
    rw [← hfirst, List.take_append_drop]
  have hroom : ((verdict.compiler.take many.toNat).drop few.toNat).length + few.toNat ≤ many.toNat := by
    rw [List.length_drop, List.length_take]
    omega
  have herrors : Wire.hasErrors (Tool.reported (verdict.own ++ verdict.compiler.take few.toNat ++
      (verdict.compiler.take many.toNat).drop few.toNat ++ verdict.companion) many) = true :=
    Tool.hasErrors_reported_of_le hroom h
  rwa [List.append_assoc verdict.own, ← hparts] at herrors

/-- A limit that cuts off nothing is as good as a greater one. -/
theorem diagnostics_report_of_room (hle : few ≤ many) (hcompiler : (verdict.compiler.length : Int) ≤ few)
    (hroom : (verdict.report few).diagnostics.length ≠ few) :
    (verdict.report few).diagnostics = (verdict.report many).diagnostics := by
  have hproblems : verdict.problems few = verdict.problems many := by
    rw [problems, problems, List.take_of_length_le (by omega), List.take_of_length_le (by omega)]
  have hlength : (verdict.report few).diagnostics.length =
      min few.toNat (Diagnostics.dedupe (verdict.problems few)).length := List.length_take
  change Tool.reported (verdict.problems few) few = Tool.reported (verdict.problems many) many
  rw [Tool.reported, Tool.reported, ← hproblems, List.take_of_length_le (by omega),
    List.take_of_length_le (by omega)]

/-- A smaller limit changes the exit code of a check only by cutting off all errors, which is silent; then
the compiler has found more problems than the limit lets through, or the report has reached it. -/
theorem exitCode_eq_or (hle : few ≤ many) :
    (verdict.report few).exitCode = (verdict.report many).exitCode ∨
      (verdict.report few).exitCode = 0 ∧ (verdict.report many).exitCode = 1 ∧
        (few < verdict.compiler.length ∨ (verdict.report few).diagnostics.length = few) := by
  have hcode : ∀ limit, (verdict.report limit).exitCode =
      if verdict.hasFailed then 2
      else if Wire.hasErrors (verdict.report limit).diagnostics then 1 else 0 := fun _ => rfl
  rw [hcode, hcode]
  cases verdict.hasFailed with
  | true => exact .inl rfl
  | false =>
    cases hfew : Wire.hasErrors (verdict.report few).diagnostics with
    | true =>
      rw [verdict.hasErrors_report_of_le hle hfew]
      exact .inl rfl
    | false =>
      cases hmany : Wire.hasErrors (verdict.report many).diagnostics with
      | false => exact .inl rfl
      | true =>
        refine .inr ⟨rfl, rfl, ?_⟩
        by_contra hcut
        rw [not_or, not_lt] at hcut
        rw [verdict.diagnostics_report_of_room hle hcut.1 hcut.2, hmany] at hfew
        cases hfew

end Verdict

/-- **What a limit does to the exit code.** Take a check that is begun while nothing else is under way, and
let the output of every command be readable. Under two limits it ends with the same exit code or the
same failure, or both runs end with reports of one verdict, and the smaller limit has cut off all
errors: it says 0 where the greater one says 1. The latter can only be where the compiler has found more
problems than the smaller limit lets through or the report has reached it. -/
theorem exit_of_limited {w : World} (huntouched : w.IsUntouched)
    (hscripts : ∀ script ∈ {} :: w.versionScript :: w.runScripts, Command.IsReadable { script })
    (request : CheckRequest) (fuel : Nat) {few many : Int} (hfew : 1 ≤ few) (hle : few ≤ many) :
    exitOf (runToEnd fuel w (.check (request.limited few))).2 =
        exitOf (runToEnd fuel w (.check (request.limited many))).2 ∨
      ∃ verdict : Verdict,
        (runToEnd fuel w (.check (request.limited few))).2 = some (.ok (.check (verdict.report few))) ∧
        (runToEnd fuel w (.check (request.limited many))).2 = some (.ok (.check (verdict.report many))) ∧
        (verdict.report few).exitCode = 0 ∧ (verdict.report many).exitCode = 1 ∧
        (few < verdict.compiler.length ∨ (verdict.report few).diagnostics.length = few) := by
  have hmany : 1 ≤ many := hfew.trans hle
  -- the runs under all limits are alike up to what is cut, so they end alike or with one verdict
  have halike := ((huntouched.begin_alike request many).runUntilSettled hscripts hmany fuel
    0).exitOf_outcome? hmany 0
  have hrun : ∀ activity, (runToEnd fuel w activity).2 =
      ((w.begin activity).1.runUntilSettled fuel 0).outcome? 0 := fun activity => by
    have hresult : (w.begin activity).2 = 0 := by
      rw [show (w.begin activity).2 = w.tasks.promises.length from rfl, huntouched.tasks]
      rfl
    rw [← hresult]
    rfl
  rw [hrun, hrun]
  rcases halike with ⟨exit, hexit⟩ | ⟨verdict, hverdict⟩
  · exact .inl ((hexit few hfew hle).trans (hexit many hmany le_rfl).symm)
  · rw [hverdict few hfew hle, hverdict many hmany le_rfl]
    rcases verdict.exitCode_eq_or hle with hsame | hcut
    · exact .inl (congrArg (fun code => some (Except.ok code)) hsame)
    · exact .inr ⟨verdict, rfl, rfl, hcut⟩

/-- A machine with a file in which the quick checks find a problem that is no error, and a compiler that
finds an error. -/
def lateError : World where
  host := (({} : Files.Host).place ["case.c"] (.file "scalar f;".toUTF8.toList false)).place ["qcc"]
    (.file [] true)
  runScripts := [{ stderr := "case.c:1:1: error: e\n".toUTF8.toList }]

/-- A check of the file. -/
def lateErrorCheck : CheckRequest where
  file := "/case.c"
  options := { qccPath := some "/qcc" }

theorem isReadable_lateError :
    ∀ script ∈ {} :: lateError.versionScript :: lateError.runScripts, Command.IsReadable { script } := by
  have hsilent : Command.IsReadable { script := {} } :=
    Command.isReadable_of_parse [] (by cbv) nofun
  have hsays : Command.IsReadable { script := { stderr := "case.c:1:1: error: e\n".toUTF8.toList } } := by
    refine Command.isReadable_of_parse [⟨"case.c", 1, 1, .error, "e"⟩] (by cbv) ?_
    simpa using ⟨_, rfl⟩
  rintro script (_ | ⟨_, _ | ⟨_, _ | ⟨_, h⟩⟩⟩)
  · exact hsilent
  · exact hsilent
  · exact hsays
  · cases h

theorem exit_of_limited_lateError :
    exitOf (runToEnd 100 lateError (.check (lateErrorCheck.limited 1))).2 =
        exitOf (runToEnd 100 lateError (.check (lateErrorCheck.limited 2))).2 ∨
      ∃ verdict : Verdict,
        (runToEnd 100 lateError (.check (lateErrorCheck.limited 1))).2 =
          some (.ok (.check (verdict.report 1))) ∧
        (runToEnd 100 lateError (.check (lateErrorCheck.limited 2))).2 =
          some (.ok (.check (verdict.report 2))) ∧
        (verdict.report 1).exitCode = 0 ∧ (verdict.report 2).exitCode = 1 ∧
        ((1 : Int) < verdict.compiler.length ∨ ((verdict.report 1).diagnostics.length : Int) = 1) :=
  exit_of_limited ⟨rfl, rfl, rfl, rfl, rfl⟩ isReadable_lateError lateErrorCheck 100 (by decide) (by decide)

/-- An error that is cut off does not count: under a limit of one the check ends with 0, under a limit of
two with 1. -/
theorem error_cut_off :
    lateError.IsUntouched ∧
      (exitOf (runToEnd 100 lateError (.check (lateErrorCheck.limited 1))).2).bind Except.toOption = some 0 ∧
      (exitOf (runToEnd 100 lateError (.check (lateErrorCheck.limited 2))).2).bind Except.toOption = some 1 :=
  ⟨⟨rfl, rfl, rfl, rfl, rfl⟩, by decide +kernel, by decide +kernel⟩

end BasiliskServer.World
