import BasiliskServer.Proofs.World.Check.Limits

/-!
# Checks with different limits go from stage to stage together

Where the first task of a check looks at what was found, it starts the same programs under all limits,
or it reports what the verdict says under each of them (`resume_concurs`).
-/

namespace BasiliskServer.World

open Json (Value Fields)
open Tasks (Notice Scheduler)
open Wire (Diagnostic)
open Source (quickCheck)

section Stages

variable {most : Int} {origin w : World} {limit : Int} {report : CheckReport} {check : Check}
  {rest : List Point}

/-! ## Where checks with different limits stand -/

/-- A check ends, and with all limits it does so with the reports of one verdict. -/
theorem conclude_concurs (check : Check) (companion : List Diagnostic) (consulted : Bool) :
    Concurs most origin [] w
      (fun limit => conclude
        { check.limited limit with diagnostics := (check.limited limit).diagnostics ++ companion } consulted)
      (conclude { check with diagnostics := check.diagnostics ++ companion } consulted) := by
  let verdict (messages : List String) (hasFailed : Bool) : Verdict :=
    { file := check.file
      messages := check.messages ++ messages
      own := quickCheck check.text
      compiler := check.diagnostics.drop (quickCheck check.text).length
      companion
      hasFailed }
  have hworks : ∀ limit, (check.limited limit).compilerWorks = check.compilerWorks := fun _ => rfl
  unfold conclude
  simp only [hworks]
  split
  · exact .finish _ (.inr ⟨verdict ["qcc not available and clangd fallback disabled."] true, fun _ => rfl⟩)
  · exact .finish _ (.inr ⟨verdict [] false, fun _ => rfl⟩)

/-- The companion process is asked, if it is wanted and there is one. -/
theorem continueCheck_concurs (check : Check) (hw : ∀ limit report, (limitedGuise most origin false limit report).Holds w)
    :
    Concurs most origin [] w (fun limit => continueCheck (check.limited limit)) (continueCheck check) := by
  have hconclude : Concurs most origin [] w (fun limit => conclude (check.limited limit) false)
      (conclude check false) := by
    simpa using @conclude_concurs most origin w check [] false
  have hwanted : ∀ limit, Companion.isWanted (check.limited limit).settings (check.limited limit).compilerWorks =
      Companion.isWanted check.settings check.compilerWorks := fun _ => rfl
  unfold continueCheck
  simp only [hwanted]
  split
  · exact hconclude
  · refine .of_get (fun _ _ => rfl) ?_
    have hpath : ∀ limit, (check.limited limit).settings.clangd.path = check.settings.clangd.path :=
      fun _ => rfl
    simp only [hpath]
    cases w.host.executable check.settings.clangd.path with
    | error failure => exact .fail hw (.inl rfl) failure
    | ok found =>
      cases found with
      | none => exact hconclude
      | some program =>
        exact .on fun limit report _ _ => consult_carries.fits_under w (hw limit report)

variable (hscripts : ∀ script ∈ {} :: origin.versionScript :: origin.runScripts,
  Command.IsReadable { script })

include hscripts

/-- The compiler runs. What is known without it is left under every limit. -/
theorem compile_carries (hpos : 1 ≤ limit) (hbegun : check.Begun most) (uri : String) :
    (limitedGuise most origin false limit report).Carries
      (limitedGuise most origin false limit report).next
      ((limitedGuise most origin false limit report).Fits 0 [.tool (.compiled check)])
      (compile uri check.source (check.settings.limited limit) none none)
      (compile uri check.source check.settings none none) := by
  have henabled : (check.settings.limited limit).enableDiagnostics = check.settings.enableDiagnostics := rfl
  have hprepare : ∀ host, prepareCall host uri check.source (check.settings.limited limit) none none =
      prepareCall host uri check.source check.settings none none := fun _ => rfl
  unfold compile
  rw [henabled]
  split
  · exact goes_fits (.compiled hbegun) (few_goes hpos (Nat.zero_le 1))
  · intro w hw
    refine Guise.Carries.at_get ?_
    rw [show ((limitedGuise most origin false limit report).world w).host = w.host from rfl, hprepare]
    cases prepareCall w.host uri check.source check.settings none none with
    | error failure => exact goes_fits (.compiled hbegun) (.fail failure) w hw
    | ok prepared =>
      cases prepared with
      | none => exact goes_fits (.compiled hbegun) (few_goes hpos (by rfl)) w hw
      | some prepared =>
        exact (goes_fits (.compiling prepared.1 hbegun.limit hbegun)
          (Guise.runCommand_goes hscripts _ _)).fits_under w hw

theorem testCompiler_goes (compiler : String) :
    (limitedGuise most origin false limit report).Goes (testCompiler compiler) := by
  refine Guise.Carries.under (.of_get (fun _ => rfl) fun w _ => ?_) rfl
  split
  · exact .fail _
  · exact .finish rfl fun _ h => by cases h
  · exact Guise.Carries.under (Guise.runCommand_goes hscripts _ _) rfl

variable (hw : ∀ limit report, (limitedGuise most origin false limit report).Holds w)

include hw

theorem compileFor_concurs (hbegun : check.Begun most) :
    Concurs most origin [] w (fun limit => compileFor (check.limited limit)) (compileFor check) := by
  have hfile : ∀ limit, (check.limited limit).file = check.file := fun _ => rfl
  refine .of_get (fun _ _ => rfl) ?_
  simp only [hfile]
  cases w.host.uriOf check.file with
  | error failure => exact .fail hw (.inl rfl) failure
  | ok uri =>
    exact .on fun limit report hpos _ => (compile_carries hscripts hpos hbegun uri).fits_under w (hw limit report)

theorem beginCheck_concurs (hbegun : check.Begun most) :
    Concurs most origin [] w (fun limit => beginCheck (check.limited limit)) (beginCheck check) := by
  have henabled : ∀ limit, (check.limited limit).settings.enableDiagnostics =
      check.settings.enableDiagnostics := fun _ => rfl
  have hfind : ∀ limit host, Compiler.find host (check.limited limit).settings =
      Compiler.find host check.settings := fun _ _ => rfl
  unfold beginCheck
  simp only [henabled, hfind]
  split
  · refine .of_get (fun _ _ => rfl) ?_
    cases Compiler.find w.host check.settings with
    | error failure => exact .fail hw (.inl rfl) failure
    | ok found =>
      cases found with
      | none => exact compileFor_concurs hscripts hw hbegun
      | some compiler =>
        exact .on fun limit report _ _ => (goes_fits (.tested hbegun)
          (testCompiler_goes hscripts compiler)).fits_under w (hw limit report)
  · exact continueCheck_concurs check hw

omit hscripts hw in
/-- What a check starts with depends on the limit in its settings only. -/
theorem prepareCheck_limited (host : Files.Host) (request : CheckRequest) (hmost : 1 ≤ most) :
    Starts most fun limit => prepareCheck host (request.limited limit) := by
  have hloaded : ∀ (file : Files.Path) (text source : String), Starts most fun limit => (do
      let loaded ← Tool.loadSettings host (request.limited limit).options file.parent host.cwd
      if loaded.fatal then return .ended { file, messages := loaded.messages, exitCode := 2 }
      return .ready {
        file
        text
        source
        settings := loaded.settings
        diagnostics := quickCheck text
        messages := loaded.messages
        wait := request.wait }) := by
    intro file text source
    have hload : ∀ limit, 1 ≤ limit →
        Tool.loadSettings host (request.limited limit).options file.parent host.cwd =
          (Tool.loadSettings host (request.limited most).options file.parent host.cwd).map
            (Tool.Loaded.limited limit) :=
      fun limit hpos => Tool.loadSettings_limited hpos hmost request.options
    -- Whether loading is fatal does not depend on the limit, so one case serves for all limits.
    have hself := hload most hmost
    cases hmore : Tool.loadSettings host (request.limited most).options file.parent host.cwd with
    | error failure =>
      refine .failed failure fun limit hpos => ?_
      rw [hload limit hpos, hmore]
      rfl
    | ok loaded =>
      rw [hmore] at hself
      have hself : loaded = loaded.limited most := Except.ok.inj hself
      cases hfatal : loaded.fatal with
      | true =>
        refine .ended { file, messages := loaded.messages, exitCode := 2 } fun limit hpos => ?_
        have hsame : loaded.limited limit = loaded := if_pos hfatal
        simp [hload limit hpos, hmore, Except.map, hsame, hfatal, bind, Except.bind, pure, Except.pure]
      | false =>
        have hlimited : ∀ limit, loaded.limited limit =
            { loaded with settings := loaded.settings.limited limit } :=
          fun limit => if_neg (by simp [hfatal])
        refine .ready
          { file
            text
            source
            settings := loaded.settings
            diagnostics := quickCheck text
            messages := loaded.messages
            wait := request.wait } ⟨?_, rfl⟩ fun limit hpos => ?_
        · rw [hlimited] at hself
          exact (congrArg Tool.Loaded.settings hself).symm
        · simp [hload limit hpos, hmore, Except.map, hlimited, hfatal, bind, Except.bind, pure, Except.pure,
            Check.limited]
  have hfile : ∀ limit, (request.limited limit).file = request.file := fun _ => rfl
  have hheader : ∀ limit, (request.limited limit).wrapHeader = request.wrapHeader := fun _ => rfl
  have hincludes : ∀ limit, (request.limited limit).wrapIncludes = request.wrapIncludes := fun _ => rfl
  have hwait : ∀ limit, (request.limited limit).wait = request.wait := fun _ => rfl
  unfold prepareCheck
  simp only [hfile, hheader, hincludes, hwait]
  refine .bind fun path => .bind fun isFile => ?_
  split
  · exact .ended _ fun _ _ => rfl
  · refine .bind fun text => ?_
    split
    · exact .bind fun source => hloaded _ text source
    · exact hloaded _ text text

theorem checkFile_concurs (hmost : 1 ≤ most) {request : CheckRequest}
    (hrequest : request.limited most = request) :
    Concurs most origin [] w (fun limit => checkFile (request.limited limit)) (checkFile request) := by
  refine .of_get (fun _ _ => rfl) ?_
  have hself : prepareCheck w.host request = prepareCheck w.host (request.limited most) := by rw [hrequest]
  rw [hself]
  cases prepareCheck_limited w.host request hmost with
  | failed failure h =>
    rw [h most hmost]
    exact (Concurs.fail hw (.inl rfl) failure).congr fun limit hpos => by rw [h limit hpos]
  | ended report h =>
    rw [h most hmost]
    exact (Concurs.finish report (.inl ⟨report, fun _ => rfl⟩)).congr fun limit hpos => by rw [h limit hpos]
  | ready check hbegun h =>
    rw [h most hmost, hbegun.limited_self]
    exact (beginCheck_concurs hscripts hw hbegun).congr fun limit hpos => by rw [h limit hpos]

/-! ## Any stage -/

section Told

omit hscripts in
/-- The connection of the check is left, whatever is known by then. -/
theorem partWith_concurs (check : Check) (connection : Nat) (result : Except Failure (List Value)) :
    Concurs most origin [.tool (.consulted check)] w
      (fun limit => partWith (check.limited limit) connection result) (partWith check connection result) :=
  .on fun limit report _ _ => partWith_carries connection result w (hw limit report)

variable {outcome : Outcome} (hcheck : ∀ report, outcome ≠ .ok (.check report))
  (hsound : ∀ limit report, (limitedGuise most origin false limit report).Sound outcome)

include hcheck hsound

omit hscripts in
/-- What was told is passed on. -/
theorem give_concurs (hrest : rest = [] ∨ CheckStage most rest) :
    Concurs most origin rest w (fun limit => give (limitedTold limit outcome)) (give outcome) := by
  refine .on fun limit report _ _ => ?_
  rw [← limitedOutcome_of_ne hcheck limit report]
  refine ((Guise.give_carries (g := limitedGuise most origin false limit report)
    (hsound limit report)).mono fun _ hsuits => ?_) w (hw limit report)
  exact hsuits.fits ⟨[], rest, rfl, fun _ hp => absurd hp List.not_mem_nil, hrest.imp id fun h => ⟨rfl, rfl, h⟩⟩

omit hscripts in
/-- The output of the compiler is read: under a limit the first of its problems are left. -/
theorem compiling_concurs (hbegun : check.Begun most) (call : Compiler.Call) {settings : Settings}
    (hsettings : settings.limited most = settings) :
    Concurs most origin [.tool (.compiled check)] w
      (fun limit => ProgramPoint.resume (.compiled call (settings.limited limit)) (limitedTold limit outcome))
      (ProgramPoint.resume (.compiled call settings) outcome) := by
  have hgive : Concurs most origin [.tool (.compiled check)] w (fun limit => give (limitedTold limit outcome))
      (give outcome) := give_concurs hw hcheck hsound (.inr (.compiled hbegun))
  cases outcome with
  | error failure =>
    cases failure with
    | toolMissing _ =>
      exact .on fun limit report hpos _ => goes_fits (.compiled hbegun) (few_goes hpos (by rfl)) w (hw limit report)
    | _ => exact hgive
  | ok answer =>
    cases answer with
    | output output =>
      obtain ⟨c, hreadable, rfl⟩ := hsound 0 { file := check.file } output rfl
      obtain ⟨all, hall⟩ := hreadable call
      refine .on fun limit report hpos hle => ?_
      -- To read the output under a limit is to read all of it and to cut what was found.
      have hfindings : call.findings (settings.limited limit) c.output =
          (call.findings settings c.output).map (Compiler.Findings.limited limit) := by
        conv_rhs => rw [← hsettings]
        exact Compiler.Call.findings_limited hall hpos hle settings
      have htold : ((call.findings (settings.limited limit) c.output).map .findings : Outcome) =
          limitedOutcome limit report ((call.findings settings c.output).map .findings) := by
        rw [hfindings]
        cases call.findings settings c.output <;> rfl
      show (limitedGuise most origin false limit report).CarriesAt _ _
        (give ((call.findings (settings.limited limit) c.output).map .findings))
        (give ((call.findings settings c.output).map .findings)) w
      rw [htold]
      refine ((Guise.give_carries (g := limitedGuise most origin false limit report) ?_).mono
        fun _ hsuits => ?_) w (hw limit report)
      · cases call.findings settings c.output with
        | error failure => exact Guise.sound_error failure
        | ok findings => exact Guise.sound_ok fun _ h => by cases h
      · exact hsuits.fits ⟨[], _, rfl, fun _ hp => absurd hp List.not_mem_nil, .inr ⟨rfl, rfl, .compiled hbegun⟩⟩
    | _ => exact hgive

omit hscripts in
/-- What the compiler has found joins what the quick checks have found. -/
theorem compiled_concurs (hbegun : check.Begun most) :
    Concurs most origin [] w
      (fun limit => ToolPoint.resume (.compiled (check.limited limit)) (limitedTold limit outcome))
      (ToolPoint.resume (.compiled check) outcome) := by
  have hgive : Concurs most origin [] w (fun limit => give (limitedTold limit outcome)) (give outcome) :=
    give_concurs hw hcheck hsound (.inl rfl)
  cases outcome with
  | error failure =>
    show Concurs most origin [] w (fun limit => if failure.isExpected then _ else _)
      (if failure.isExpected then _ else _)
    split
    · exact continueCheck_concurs
        { check with messages := check.messages ++ ["qcc diagnostics failed: " ++ failure.message] } hw
    · exact hgive
  | ok answer =>
    cases answer with
    | findings findings =>
      -- Findings are cut alike before and after they join the check.
      have hjoined : ∀ limit,
          { check.limited limit with
            diagnostics := (check.limited limit).diagnostics ++ (findings.limited limit).diagnostics } =
          Check.limited limit { check with diagnostics := check.diagnostics ++ findings.diagnostics } := by
        intro limit
        rw [hbegun.limited]
        simp [Check.limited, hbegun.diagnostics, Compiler.Findings.limited]
      refine (continueCheck_concurs _ hw).congr fun limit _ => ?_
      exact congrArg continueCheck (hjoined limit)
    | _ => exact hgive

/-- It is known whether the compiler works. -/
theorem tested_concurs (hbegun : check.Begun most) :
    Concurs most origin [] w
      (fun limit => ToolPoint.resume (.tested (check.limited limit)) (limitedTold limit outcome))
      (ToolPoint.resume (.tested check) outcome) := by
  have hgive : Concurs most origin [] w (fun limit => give (limitedTold limit outcome)) (give outcome) :=
    give_concurs hw hcheck hsound (.inl rfl)
  cases outcome with
  | error failure => exact hgive
  | ok answer =>
    cases answer with
    | bool works =>
      have hworks : Check.Begun most { check with compilerWorks := works } :=
        ⟨hbegun.limit, hbegun.diagnostics⟩
      exact compileFor_concurs hscripts hw hworks
    | _ => exact hgive

omit hscripts in
/-- The connection of the check has started, or not. -/
theorem connected_concurs (connection received : Nat) (uri : String) :
    Concurs most origin [.tool (.consulted check)] w
      (fun limit => ToolPoint.resume (.connected (check.limited limit) connection received uri)
        (limitedTold limit outcome))
      (ToolPoint.resume (.connected check connection received uri) outcome) := by
  have hpart := partWith_concurs hw check connection
  cases outcome with
  | error failure => exact hpart _
  | ok answer =>
    cases answer with
    | bool started =>
      cases started with
      | true => exact .on fun limit report _ _ => awaitReport_carries connection received uri w (hw limit report)
      | false => exact hpart (.error (.startFailed check.settings.clangd.path))
    | _ => exact hpart (.error (.startFailed check.settings.clangd.path))

omit hscripts in
/-- The companion process has reported, or not. -/
theorem received_concurs (connection : Nat) :
    Concurs most origin [.tool (.consulted check)] w
      (fun limit => ToolPoint.resume (.received (check.limited limit) connection) (limitedTold limit outcome))
      (ToolPoint.resume (.received check connection) outcome) := by
  have hpart := partWith_concurs hw check connection
  cases outcome with
  | error failure => cases failure <;> exact hpart _
  | ok answer =>
    cases answer with
    | json value => cases value <;> exact hpart _
    | _ => exact hpart _

omit hscripts in
/-- The connection of the check is stopped. -/
theorem disconnected_concurs (result : Except Failure (List Value)) :
    Concurs most origin [.tool (.consulted check)] w
      (fun limit => ToolPoint.resume (.disconnected (check.limited limit) result) (limitedTold limit outcome))
      (ToolPoint.resume (.disconnected check result) outcome) := by
  have hrest : [Point.tool (.consulted check)] = [] ∨ CheckStage most [.tool (.consulted check)] :=
    .inr (.consulted check)
  cases outcome with
  | error failure => exact give_concurs hw hcheck hsound hrest
  | ok answer =>
    have hresult : Concurs most origin [.tool (.consulted check)] w
        (fun limit => ToolPoint.resume (.disconnected (check.limited limit) result) (.ok .unit))
        (ToolPoint.resume (.disconnected check result) (.ok .unit)) := by
      refine (Concurs.of_goes hw hrest fun limit report => ?_).congr fun _ _ => rfl
      cases result with
      | error failure => exact .fail failure
      | ok problems => exact .finish rfl fun _ h => by cases h
    cases answer <;> exact hresult

omit hscripts in
/-- The companion process was asked. -/
theorem consulted_concurs :
    Concurs most origin [] w
      (fun limit => ToolPoint.resume (.consulted (check.limited limit)) (limitedTold limit outcome))
      (ToolPoint.resume (.consulted check) outcome) := by
  have hgive : Concurs most origin [] w (fun limit => give (limitedTold limit outcome)) (give outcome) :=
    give_concurs hw hcheck hsound (.inl rfl)
  cases outcome with
  | error failure =>
    show Concurs most origin [] w (fun limit => if failure.isExpected then _ else _)
      (if failure.isExpected then _ else _)
    split
    · refine .finish _ (.inr ⟨
        { file := check.file
          messages := check.messages ++ ["clangd error: " ++ failure.message]
          own := quickCheck check.text
          compiler := check.diagnostics.drop (quickCheck check.text).length
          companion := []
          hasFailed := true }, fun limit => ?_⟩)
      simp [Check.report, Check.limited, Verdict.report, Verdict.problems, Settings.limited]
    · exact hgive
  | ok answer =>
    cases answer with
    | diagnostics found => exact conclude_concurs check found true
    | _ => exact hgive

/-- Whatever the first task does at a stage of the check. -/
theorem resume_concurs (hmost : 1 ≤ most) {point : Point} (hstage : CheckStage most (point :: rest)) :
    Concurs most origin rest w
      (fun limit => (point.limited limit).resume (limitedTold limit outcome)) (point.resume outcome) := by
  cases hstage with
  | start hrequest =>
    cases outcome with
    | error failure => exact .fail hw (.inl rfl) failure
    | ok answer => exact (checkFile_concurs hscripts hw hmost hrequest).congr fun _ _ => by cases answer <;> rfl
  | tested hbegun => exact tested_concurs hscripts hw hcheck hsound hbegun
  | compiling call hsettings hbegun => exact compiling_concurs hw hcheck hsound hbegun call hsettings
  | compiled hbegun => exact compiled_concurs hw hcheck hsound hbegun
  | connected check connection received uri => exact connected_concurs hw hcheck hsound connection received uri
  | received check connection => exact received_concurs hw hcheck hsound connection
  | disconnected check result => exact disconnected_concurs hw hcheck hsound result
  | consulted check => exact consulted_concurs hw hcheck hsound

end Told

end Stages

end BasiliskServer.World
