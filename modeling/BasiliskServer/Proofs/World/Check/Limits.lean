import BasiliskServer.Proofs.Tool.Limits
import BasiliskServer.Proofs.World.Noninterference.Steps

/-!
# Checks that differ in their limits for problems

Checks of one file that differ in their limits for problems go on in the same way: they start the same
programs, say the same to them and wait for the same. What they know differs in the limit and in the
problems of the compiler that are left under it, and this is looked at only where problems are
reported. So a check with a limit is a check with a greater one in the guise of the smaller
(`limitedGuise`), and there is one `Verdict` from which the reports under all limits follow
(`Concurs`).
-/

namespace BasiliskServer.World

open Json (Value Fields)
open Tasks (Notice Scheduler)
open Wire (Diagnostic)
open Source (quickCheck)

/-! ## Limits -/

/-- A request for a check with a limit for problems. -/
def CheckRequest.limited (limit : Int) (request : CheckRequest) : CheckRequest :=
  { request with options := request.options.limited limit }

/-- A check that is under way, with a limit for problems: of those that the compiler has found the first
ones are left. -/
def Check.limited (limit : Int) (check : Check) : Check :=
  { check with
    settings := check.settings.limited limit
    diagnostics := quickCheck check.text ++
      (check.diagnostics.drop (quickCheck check.text).length).take limit.toNat }

/-- A point of a check with a limit for problems. -/
def ToolPoint.limited (limit : Int) : ToolPoint → ToolPoint
  | .tested check => .tested (check.limited limit)
  | .compiled check => .compiled (check.limited limit)
  | .consulted check => .consulted (check.limited limit)
  | .connected check connection report uri => .connected (check.limited limit) connection report uri
  | .received check connection => .received (check.limited limit) connection
  | .disconnected check result => .disconnected (check.limited limit) result
  | point => point

/-- A point with a limit for problems. -/
def Point.limited (limit : Int) : Point → Point
  | .start (.check request) => .start (.check (request.limited limit))
  | .program (.compiled call settings) => .program (.compiled call (settings.limited limit))
  | .tool point => .tool (point.limited limit)
  | point => point

/-- What is told under a limit for problems, where the report of the check is known. -/
def limitedOutcome (limit : Int) (report : CheckReport) : Outcome → Outcome
  | .ok (.findings findings) => .ok (.findings (findings.limited limit))
  | .ok (.check _) => .ok (.check report)
  | outcome => outcome

/-- What is told under a limit for problems as long as the check is not over. -/
def limitedTold (limit : Int) : Outcome → Outcome
  | .ok (.findings findings) => .ok (.findings (findings.limited limit))
  | outcome => outcome

theorem limitedOutcome_of_ne {outcome : Outcome} (h : ∀ report, outcome ≠ .ok (.check report)) (limit : Int)
    (report : CheckReport) : limitedOutcome limit report outcome = limitedTold limit outcome := by
  cases outcome with
  | error failure => rfl
  | ok answer =>
    cases answer with
    | check other => exact absurd rfl (h other)
    | _ => rfl

/-! ## Stages of a check -/

/-- The compiler has not been asked yet. -/
structure Check.Begun (most : Int) (check : Check) : Prop where
  /-- The limit. -/
  limit : check.settings.limited most = check.settings
  /-- Only the quick checks have found problems. -/
  diagnostics : check.diagnostics = quickCheck check.text

/-- Before the compiler is asked, the limit is known of and nothing else depends on it. -/
theorem Check.Begun.limited {most : Int} {check : Check} (h : check.Begun most) (limit : Int) :
    check.limited limit = { check with settings := check.settings.limited limit } := by
  simp [Check.limited, h.diagnostics]

theorem Check.Begun.limited_self {most : Int} {check : Check} (h : check.Begun most) :
    check.limited most = check := by
  rw [h.limited, h.limit]

/-- How far a check with a limit can be, seen from the points that know of it. -/
inductive CheckStage (most : Int) : List Point → Prop
  | start {request : CheckRequest} (h : request.limited most = request) :
    CheckStage most [.start (.check request)]
  | tested {check : Check} (h : check.Begun most) : CheckStage most [.tool (.tested check)]
  | compiling (call : Compiler.Call) {settings : Settings} {check : Check}
    (hsettings : settings.limited most = settings) (h : check.Begun most) :
    CheckStage most [.program (.compiled call settings), .tool (.compiled check)]
  | compiled {check : Check} (h : check.Begun most) : CheckStage most [.tool (.compiled check)]
  | connected (check : Check) (connection received : Nat) (uri : String) :
    CheckStage most [.tool (.connected check connection received uri), .tool (.consulted check)]
  | received (check : Check) (connection : Nat) :
    CheckStage most [.tool (.received check connection), .tool (.consulted check)]
  | disconnected (check : Check) (result : Except Failure (List Value)) :
    CheckStage most [.tool (.disconnected check result), .tool (.consulted check)]
  | consulted (check : Check) : CheckStage most [.tool (.consulted check)]

/-- A command whose output can be read, whatever call it belongs to. -/
def Command.IsReadable (c : Command) : Prop :=
  ∀ call : Compiler.Call, ∃ all, call.allFindings c.output = .ok all

theorem Command.IsReadable.withCode {c : Command} (h : c.IsReadable) (code : Option Int) :
    Command.IsReadable { c with code } :=
  h

/-- A check with a limit in the guise of one with a smaller limit. As long as it is not over, the first
task goes through the stages of the check; all others deal with processes. -/
def limitedGuise (most : Int) (w : World) (isOver : Bool) (limit : Int) (report : CheckReport) : Guise where
  point := Point.limited limit
  outcome := limitedOutcome limit report
  outcome_cancelled := rfl
  outcome_default := rfl
  allowed n stack := ∃ front rest, stack = front ++ rest ∧ (∀ p ∈ front, p.isMenial = true) ∧
    (rest = [] ∨ n = 0 ∧ isOver = false ∧ CheckStage most rest)
  command := Command.IsReadable
  versionScript := w.versionScript
  runScripts := w.runScripts
  point_menial p h := by
    cases p with
    | start activity => cases activity <;> first | rfl | cases h
    | program point => cases point <;> first | rfl | cases h
    | tool point => cases h
    | _ => rfl
  outcome_error _ := rfl
  outcome_ok answer h := by cases answer <;> first | rfl | cases h
  outcome_findings findings := ⟨_, rfl⟩
  outcome_check _ := ⟨_, rfl⟩
  allowed_nil n := ⟨[], [], rfl, fun _ h => absurd h List.not_mem_nil, .inl rfl⟩
  allowed_start n activity _ h :=
    ⟨[.start activity], [], rfl, fun p hp => List.mem_singleton.1 hp ▸ h, .inl rfl⟩
  allowed_tail n p rest hp h := by
    obtain ⟨front, tail, heq, hfront, htail⟩ := h
    cases front with
    | nil =>
      obtain rfl : p :: rest = tail := heq
      rcases htail with hnil | ⟨-, -, hstage⟩
      · cases hnil
      · cases hstage <;> cases hp
    | cons p' front =>
      obtain ⟨-, rfl⟩ := List.cons.inj heq
      exact ⟨front, tail, rfl, fun q hq => hfront q (List.mem_cons_of_mem _ hq), htail⟩
  allowed_append n front rest hfront h := by
    obtain ⟨front', tail, rfl, hfront', htail⟩ := h
    refine ⟨front ++ front', tail, (List.append_assoc ..).symm, fun q hq => ?_, htail⟩
    exact (List.mem_append.1 hq).elim (hfront q) (hfront' q)
  command_code c code h := h.withCode _

/-! ## Verdicts -/

/-- What there is to say at the end of a check, whatever the limit for problems is. -/
structure Verdict where
  /-- The file. -/
  file : Files.Path
  /-- What there is to say about the check itself. -/
  messages : List String
  /-- The problems that the quick checks have found. -/
  own : List Diagnostic
  /-- The problems that the compiler has found. -/
  compiler : List Diagnostic
  /-- The problems that the companion process has reported. -/
  companion : List Diagnostic
  /-- Whether the tools have failed. -/
  hasFailed : Bool

namespace Verdict

variable (verdict : Verdict)

/-- The problems that are collected under a limit. -/
def problems (limit : Int) : List Diagnostic :=
  verdict.own ++ verdict.compiler.take limit.toNat ++ verdict.companion

/-- The report under a limit. -/
def report (limit : Int) : CheckReport :=
  let diagnostics := Tool.reported (verdict.problems limit) limit
  { file := verdict.file
    diagnostics
    messages := verdict.messages
    exitCode := if verdict.hasFailed then 2 else if Wire.hasErrors diagnostics then 1 else 0 }

end Verdict

/-- Reports under all limits: one and the same, or those of one verdict. -/
def AreReports (report : Int → CheckReport) : Prop :=
  (∃ first, ∀ limit, report limit = first) ∨ ∃ verdict : Verdict, ∀ limit, report limit = verdict.report limit

/-- How checks with all limits up to one go on: in the same way, each in its guise, or they all end with
reports. -/
inductive Concurs (most : Int) (origin : World) (rest : List Point) (w : World) (act' : Int → Act Next)
    (act : Act Next) : Prop
  | on (h : ∀ limit report, 1 ≤ limit → limit ≤ most →
      (limitedGuise most origin false limit report).CarriesAt
        (limitedGuise most origin false limit report).next
        ((limitedGuise most origin false limit report).Fits 0 rest) (act' limit) act w)
  | ends (hrest : rest = []) (first : CheckReport) {report : Int → CheckReport} (hreport : AreReports report)
    (hact : act.run w = (.go (.ok (.check first)) [], w))
    (h : ∀ limit other, 1 ≤ limit → (act' limit).run ((limitedGuise most origin false limit other).world w) =
      (.go (.ok (.check (report limit))) [], (limitedGuise most origin false limit other).world w))

namespace Concurs

variable {most : Int} {origin w : World} {rest : List Point}

/-- What is looked at first is the same for all. -/
theorem of_get {act' : Int → World → Act Next} {act : World → Act Next}
    (hsame : ∀ limit report,
      act' limit ((limitedGuise most origin false limit report).world w) = act' limit w)
    (h : Concurs most origin rest w (fun limit => act' limit w) (act w)) :
    Concurs most origin rest w (fun limit => get >>= act' limit) (get >>= act) := by
  cases h with
  | on h =>
    refine .on fun limit report hpos hle => ?_
    have hacts := h limit report hpos hle
    rw [Guise.CarriesAt, run_bind, run_bind, run_get, run_get, hsame]
    exact hacts
  | ends hrest first hreport hact h =>
    refine .ends hrest first hreport ?_ fun limit other hpos => ?_
    · rw [run_bind, run_get]
      exact hact
    · rw [run_bind, run_get, hsame]
      exact h limit other hpos

/-- It counts what limits that are positive do. -/
theorem congr {act' act₂' : Int → Act Next} {act : Act Next} (h : Concurs most origin rest w act' act)
    (hsame : ∀ limit, 1 ≤ limit → act₂' limit = act' limit) : Concurs most origin rest w act₂' act := by
  cases h with
  | on h => exact .on fun limit report hpos hle => by rw [hsame limit hpos]; exact h limit report hpos hle
  | ends hrest first hreport hact h =>
    exact .ends hrest first hreport hact fun limit other hpos => by rw [hsame limit hpos]; exact h limit other hpos

/-- All end with reports. -/
theorem finish (first : CheckReport) {report : Int → CheckReport} (hreport : AreReports report) :
    Concurs most origin [] w (fun limit => World.finish (.check (report limit)))
      (World.finish (.check first)) :=
  .ends rfl first hreport rfl fun _ _ _ => rfl

variable (hw : ∀ limit report, (limitedGuise most origin false limit report).Holds w)

include hw

/-- All do the same, and go on at points that deal with processes. -/
theorem of_goes {act : Act Next} (hrest : rest = [] ∨ CheckStage most rest)
    (h : ∀ limit report, (limitedGuise most origin false limit report).Goes act) :
    Concurs most origin rest w (fun _ => act) act :=
  .on fun limit report _ _ => (h limit report).mono (fun _ hsuits => hsuits.fits
    ⟨[], rest, rfl, fun _ hp => absurd hp List.not_mem_nil, hrest.imp id fun h => ⟨rfl, rfl, h⟩⟩) w (hw _ _)

theorem fail (hrest : rest = [] ∨ CheckStage most rest) (failure : Failure) :
    Concurs most origin rest w (fun _ => World.fail failure) (World.fail failure) :=
  of_goes hw hrest fun _ _ => .fail failure

end Concurs

/-- What checks with all limits start with: they fail alike, end alike, or their settings are known and
differ in the limit only. -/
inductive Starts (most : Int) (start : Int → Except Failure CheckStart) : Prop
  | failed (failure : Failure) (h : ∀ limit, 1 ≤ limit → start limit = .error failure)
  | ended (report : CheckReport) (h : ∀ limit, 1 ≤ limit → start limit = .ok (.ended report))
  | ready (check : Check) (hbegun : check.Begun most)
    (h : ∀ limit, 1 ≤ limit → start limit = .ok (.ready (check.limited limit)))

/-- What is found out first is the same for all. -/
theorem Starts.bind {α : Type} {most : Int} {first : Except Failure α}
    {rest : α → Int → Except Failure CheckStart} (h : ∀ a, Starts most (rest a)) :
    Starts most fun limit => first >>= fun a => rest a limit := by
  cases first with
  | error failure => exact .failed failure fun _ _ => rfl
  | ok a => exact h a

/-! ## What is the same under all limits -/

section Stages

variable {most : Int} {origin w : World} {limit : Int} {report : CheckReport} {check : Check}
  {rest : List Point}

/-- An activity that deals with processes, above a stage. -/
theorem goes_fits {act : Act Next} (hstage : CheckStage most rest)
    (h : (limitedGuise most origin false limit report).Goes act) :
    (limitedGuise most origin false limit report).Carries
      (limitedGuise most origin false limit report).next
      ((limitedGuise most origin false limit report).Fits 0 rest) act act :=
  h.mono fun _ hsuits => hsuits.fits
    ⟨[], rest, rfl, fun _ hp => absurd hp List.not_mem_nil, .inr ⟨rfl, rfl, hstage⟩⟩

/-- The companion process is asked. -/
theorem consult_carries :
    (limitedGuise most origin false limit report).Carries
      (limitedGuise most origin false limit report).next
      ((limitedGuise most origin false limit report).Fits 0 [.tool (.consulted check)])
      (consult (check.limited limit)) (consult check) := by
  intro w hw
  have hsame : consultation w.host (check.limited limit) = consultation w.host check := rfl
  refine Guise.Carries.at_get ?_
  rw [show ((limitedGuise most origin false limit report).world w).host = w.host from rfl, hsame]
  cases consultation w.host check with
  | error failure => exact goes_fits (.consulted check) (.fail failure) w hw
  | ok found =>
    obtain ⟨uri, config⟩ := found
    refine Guise.Does.seq (Guise.promise_does 0) (fun received => ?_) w hw
    refine Guise.Does.seq (Guise.newConnection_does ⟨uri, received, rfl⟩) fun number => ?_
    exact (goes_fits (.connected check number received uri) (Guise.connect_goes number)).fits_under

/-- The connection of the check is stopped. -/
theorem partWith_carries (number : Nat) (result : Except Failure (List Value)) :
    (limitedGuise most origin false limit report).Carries
      (limitedGuise most origin false limit report).next
      ((limitedGuise most origin false limit report).Fits 0 [.tool (.consulted check)])
      (partWith (check.limited limit) number result) (partWith check number result) :=
  (goes_fits (.disconnected check result) (Guise.disconnect_goes number)).fits_under

/-- The file is opened in the companion process, and its report is waited for. -/
theorem awaitReport_carries (number received : Nat) (uri : String) :
    (limitedGuise most origin false limit report).Carries
      (limitedGuise most origin false limit report).next
      ((limitedGuise most origin false limit report).Fits 0 [.tool (.consulted check)])
      (awaitReport (check.limited limit) number received uri) (awaitReport check number received uri) := by
  refine Guise.Does.seq (Guise.notify_does _ _ _) fun _ w hw => ?_
  refine Guise.Carries.at_get ?_
  rw [show ((limitedGuise most origin false limit report).world w).host = w.host from rfl,
    show (check.limited limit).wait = check.wait from rfl]
  cases check.wait.map Except.ok |>.getD w.host.companionWait with
  | error failure => exact partWith_carries number (.error failure) w hw
  | ok milliseconds =>
    exact (goes_fits (.received check number) (Guise.waitLimited_goes _ _)).fits_under w hw

/-- A problem that is found alone is left under every limit. -/
theorem few_goes (hpos : 1 ≤ limit) {findings : Compiler.Findings} (hlength : findings.diagnostics.length ≤ 1) :
    (limitedGuise most origin false limit report).Goes (finish (.findings findings)) := by
  have hsame : findings.limited limit = findings := by
    rw [Compiler.Findings.limited, List.take_of_length_le (by omega)]
  exact .give (congrArg (fun f => Except.ok (Answer.findings f)) hsame) (Guise.sound_ok fun _ h => by cases h)

end Stages

end BasiliskServer.World
