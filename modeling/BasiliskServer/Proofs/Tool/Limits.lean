import BasiliskServer.Proofs.Tool.Options
import BasiliskServer.Proofs.Diagnostics.Capping
import BasiliskServer.Tool.Report

/-!
# What a limit for problems changes

A limit that is given decides nothing about the settings but itself (`loadSettings_limited`). What
the compiler finds under a limit is the first part of what it finds under a greater one
(`Call.findings_limited`). What is reported grows with the limit: problems that are lost under a
greater limit have made room for problems with the same keys only (`mem_reported_of_le`), so that an
error that is reported under one limit is reported under every greater one
(`hasErrors_reported_of_le`).
-/

namespace BasiliskServer

/-- Settings with another limit for problems. -/
def Settings.limited (limit : Int) (s : Settings) : Settings :=
  { s with maxProblems := limit }

/-! ## The compiler -/

namespace Compiler

/-- What is left of findings under a limit. -/
def Findings.limited (limit : Int) (f : Findings) : Findings :=
  { f with diagnostics := f.diagnostics.take limit.toNat }

variable {call : Call} {output : CommandOutput} {all : List Wire.Diagnostic}

/-- All that the compiler wrote is kept, whatever the limit is. -/
theorem Call.output_of_findings {settings : Settings} {found : Findings}
    (h : call.findings settings output = .ok found) : found.output = output.stderr ++ output.stdout := by
  rw [Call.findings] at h
  obtain ⟨messages, -, h⟩ := Json.exists_ok_of_bind h
  obtain ⟨diagnostics, -, h⟩ := Json.exists_ok_of_bind h
  cases h
  rfl

/-- Under a limit the compiler finds the first part of what it finds under a greater one. -/
theorem Call.findings_limited (hall : call.allFindings output = .ok all) {least most : Int}
    (hleast : 1 ≤ least) (hle : least ≤ most) (settings : Settings) :
    call.findings (settings.limited least) output =
      (call.findings (settings.limited most) output).map (Findings.limited least) := by
  have hpos : 1 ≤ (settings.limited least).maxProblems := hleast
  have hpos' : 1 ≤ (settings.limited most).maxProblems := hleast.trans hle
  obtain ⟨few, hfew, hfirst⟩ := findings_of_allFindings hall hpos
  obtain ⟨many, hmany, hmore⟩ := findings_of_allFindings hall hpos'
  rw [hfew, hmany]
  have houtput := (output_of_findings hfew).trans (output_of_findings hmany).symm
  obtain ⟨fewDiagnostics, fewOutput⟩ := few
  obtain ⟨manyDiagnostics, manyOutput⟩ := many
  obtain rfl : fewOutput = manyOutput := houtput
  have hcut : min least.toNat most.toNat = least.toNat := by omega
  simp only [Settings.limited] at hfirst hmore
  simp [Except.map, Findings.limited, hfirst, hmore, List.take_take, hcut]

end Compiler

/-! ## Settings -/

namespace Settings

open Files (Host Path)

theorem anchorIncludes_limited (host : Host) (base : Option Path) (s : Settings) (limit : Int) :
    (s.limited limit).anchorIncludes host base = (s.anchorIncludes host base).map (limited limit) := by
  unfold anchorIncludes
  cases h : s.includePaths.mapM (host.anchor · base) with
  | error failure => simp [limited, h, Except.map]
  | ok paths => simp [limited, h, Except.map]

end Settings

namespace Tool

open Files (Host Path)
open Json (Value Fields)

/-- Options with a limit for problems. -/
def Options.limited (limit : Int) (options : Options) : Options :=
  { options with maxProblems := some limit }

/-- Settings of a run, with another limit for problems if it does not end at once. -/
def Loaded.limited (limit : Int) (loaded : Loaded) : Loaded :=
  if loaded.fatal then loaded else { loaded with settings := loaded.settings.limited limit }

variable {least most : Int}

/-- Over any settings, options with a limit make the settings with what was given in its place. -/
theorem Options.merge_layer_limited (options : Options) {limit : Int} (hlimit : 1 ≤ limit)
    (includePaths : List String) (s : Settings) :
    s.merge .lenient (.object ((options.limited limit).layer includePaths)) =
      { options.applied includePaths s with
        maxProblems := limit
        includePaths := Settings.mergeStrings s.includePaths includePaths } := by
  have hgiven : (options.limited limit).maxProblems.filter (0 < ·) = some limit := by
    rw [Options.limited, Option.filter_some, if_pos (by simpa using Int.lt_iff_add_one_le.2 hlimit)]
  have hne : (options.limited limit).layer includePaths ≠ [] := by
    intro h
    have hget := congrArg (Fields.get? · "maxNumberOfProblems") h
    simp [layer, Fields.get?_append, get?_given, hgiven] at hget
  -- The limit comes from the layer, so the lemma on layers may assume any in the base.
  have htakes := takes_layer (options.limited limit) includePaths
    (s := { s with maxProblems := 100 }) rfl
  have hmax : Settings.laid Settings.Readers.lenient.int?
      (Fields.get? ((options.limited limit).layer includePaths) "maxNumberOfProblems") s.maxProblems =
        some limit := by
    simp [layer, Fields.get?_append, get?_given, hgiven]
  have hmerge := (Settings.merge?_object_iff hne (unambiguous_layer _ includePaths) s
    { options.applied includePaths s with
      maxProblems := limit
      includePaths := Settings.mergeStrings s.includePaths includePaths }).2
    ⟨⟨htakes.qccPath, htakes.basiliskPath, htakes.enableDiagnostics, htakes.diagnosticsOnSave,
      htakes.diagnosticsOnType, hmax, htakes.clangd⟩, by rw [includeEntries_layer]⟩
  rw [Settings.merge, hmerge, Option.getD_some]

variable {host : Host} {start cwd : Path}

theorem resolve_limited (hleast : 1 ≤ least) (hmost : 1 ≤ most) (options : Options)
    (includePaths : List String) (project : ProjectConfig) :
    Settings.resolve host
        { start := some start
          root := some start
          overrides := .object ((options.limited least).layer includePaths)
          project := some project } =
      (Settings.resolve host
        { start := some start
          root := some start
          overrides := .object ((options.limited most).layer includePaths)
          project := some project }).map fun r => { r with settings := r.settings.limited least } := by
  have hmerge :=
    (options.merge_layer_limited hleast includePaths (Settings.applyProject .lenient {} project)).trans
    (congrArg (Settings.limited least)
      (options.merge_layer_limited hmost includePaths (Settings.applyProject .lenient {} project))).symm
  have hanchor := (congrArg (Settings.anchorIncludes host (some start)) hmerge).trans
    (Settings.anchorIncludes_limited host (some start) _ least)
  have hsettings : ∀ limit : Int, Settings.Request.settingsOver host
      { start := some start
        root := some start
        overrides := .object ((options.limited limit).layer includePaths)
        project := some project } (some project) =
      ((Settings.applyProject .lenient {} project).merge .lenient
        (.object ((options.limited limit).layer includePaths))).anchorIncludes host (some start) :=
    fun _ => rfl
  simp only [Settings.resolve, Settings.Request.findProject, hsettings, bind, Except.bind]
  rw [hanchor]
  cases ((Settings.applyProject .lenient {} project).merge .lenient
      (.object ((options.limited most).layer includePaths))).anchorIncludes host (some start) <;> rfl

/-- The settings of a run over the configuration of a project. -/
def loadOver (host : Host) (options : Options) (start cwd : Path) (project : ProjectConfig) :
    Except Failure Loaded := do
  let explicit := options.projectConfig.isSome
  let messages :=
    match Settings.complaintOf (some project) with
    | some (path, problem) =>
      if explicit || options.verbose then [configComplaint path problem] else []
    | none => []
  if explicit && project.problem.isSome then
    return { messages, fatal := true }
  let resolved ← Settings.resolve host
    { start := some start
      root := some start
      overrides := .object (← options.toLayer host cwd)
      project := some project }
  return { settings := resolved.settings, messages }

theorem loadSettings_eq (options : Options) :
    loadSettings host options start cwd =
      (match options.projectConfig with
      | some file => do
        loadOver host options start cwd
          (← ProjectConfig.ofFile host (← host.anchorAt (Path.ofString file).toString cwd))
      | none => do loadOver host options start cwd (← ProjectConfig.find host start)) := by
  unfold loadSettings loadOver
  cases options.projectConfig <;> rfl

theorem loadOver_limited (hleast : 1 ≤ least) (hmost : 1 ≤ most) (options : Options)
    (project : ProjectConfig) :
    loadOver host (options.limited least) start cwd project =
      (loadOver host (options.limited most) start cwd project).map (Loaded.limited least) := by
  have hlayer : ∀ limit : Int, (options.limited limit).toLayer host cwd =
      (options.qccIncludes.mapM (host.anchorAt · cwd)).map (options.limited limit).layer :=
    fun limit => Options.toLayer_eq host (options.limited limit) cwd
  have hconfig : ∀ limit : Int, (options.limited limit).projectConfig = options.projectConfig :=
    fun _ => rfl
  have hverbose : ∀ limit : Int, (options.limited limit).verbose = options.verbose := fun _ => rfl
  unfold loadOver
  simp only [hlayer, hconfig, hverbose]
  split
  · rfl
  · cases options.qccIncludes.mapM (host.anchorAt · cwd) with
    | error failure => rfl
    | ok includePaths =>
      simp only [bind, Except.bind, Except.map, resolve_limited hleast hmost options includePaths project]
      cases Settings.resolve host
        { start := some start
          root := some start
          overrides := .object ((options.limited most).layer includePaths)
          project := some project } <;> rfl

/-- **A limit decides nothing else.** The settings of a run with a limit for problems are those of a
run with another limit, but for the limit. -/
theorem loadSettings_limited (hleast : 1 ≤ least) (hmost : 1 ≤ most) (options : Options) :
    loadSettings host (options.limited least) start cwd =
      (loadSettings host (options.limited most) start cwd).map (Loaded.limited least) := by
  have hconfig : ∀ limit : Int, (options.limited limit).projectConfig = options.projectConfig :=
    fun _ => rfl
  rw [loadSettings_eq, loadSettings_eq, hconfig, hconfig]
  cases options.projectConfig with
  | none =>
    cases ProjectConfig.find host start with
    | error failure => rfl
    | ok project => exact loadOver_limited hleast hmost options project
  | some file =>
    cases hanchor : host.anchorAt (Path.ofString file).toString cwd with
    | error failure => simp [hanchor, bind, Except.bind, Except.map]
    | ok path =>
      cases hread : ProjectConfig.ofFile host path with
      | error failure => simp [hanchor, hread, bind, Except.bind, Except.map]
      | ok project =>
        simpa [hanchor, hread, bind, Except.bind] using
          @loadOver_limited least most host start cwd hleast hmost options project

/-! ## Reports -/

open Diagnostics (Key dedupe dedupeFrom dedupeFrom_sublist dedupe_append keyOf not_mem_of_mem_dedupeFrom)
open Wire (Diagnostic)

/-- Keys that were seen besides take away the problems that have them, and nothing else. -/
theorem dedupeFrom_append_seen (seen more : List Key) (diagnostics : List Diagnostic) :
    dedupeFrom (seen ++ more) diagnostics =
      (dedupeFrom seen diagnostics).filter fun d => !more.contains (keyOf d) := by
  induction diagnostics generalizing seen with
  | nil => rfl
  | cons d rest ih =>
    rw [dedupeFrom, dedupeFrom]
    by_cases hseen : keyOf d ∈ seen
    · simp [hseen, ih]
    · by_cases hmore : keyOf d ∈ more
      · -- the problem is dropped, and so are those with its key
        have hcongr : dedupeFrom (seen ++ more) rest = dedupeFrom (keyOf d :: seen ++ more) rest :=
          Diagnostics.dedupeFrom_congr (by simp [hmore]) rest
        simpa [hseen, hmore, hcongr] using ih (keyOf d :: seen)
      · simpa [hseen, hmore] using ih (keyOf d :: seen)

theorem exists_mem_dedupeFrom {seen : List Key} {diagnostics : List Diagnostic} {key : Key}
    (h : key ∈ diagnostics.map keyOf) (hnew : key ∉ seen) :
    ∃ d ∈ dedupeFrom seen diagnostics, keyOf d = key := by
  induction diagnostics generalizing seen with
  | nil => cases h
  | cons first rest ih =>
    rw [dedupeFrom]
    rcases List.mem_cons.1 h with rfl | h
    · exact ⟨first, by simp [hnew], rfl⟩
    · split
      · exact ih h hnew
      · by_cases heq : key = keyOf first
        · exact ⟨first, List.mem_cons_self, heq.symm⟩
        · have hnew' : key ∉ keyOf first :: seen := by simp [heq, hnew]
          obtain ⟨d, hd, hkey⟩ := ih h hnew'
          exact ⟨d, List.mem_cons_of_mem _ hd, hkey⟩

/-- What is among the first elements is among as many of those that are kept. -/
theorem mem_take_filter {α : Type} {p : α → Bool} {items : List α} {n : Nat} {a : α}
    (h : a ∈ items.take n) (ha : p a) : a ∈ (items.filter p).take n := by
  induction items generalizing n with
  | nil => simp at h
  | cons first rest ih =>
    cases n with
    | zero => simp at h
    | succ n =>
      rw [List.take_succ_cons] at h
      rw [List.filter_cons]
      rcases List.mem_cons.1 h with rfl | h
      · simp [ha]
      · split
        · exact List.mem_cons_of_mem _ (ih h)
        · exact List.take_subset_take_left _ (Nat.le_succ n) (ih h)

/-- Problems that are reported are reported under a greater limit, or others with the same keys are,
when there is room for what comes in between. -/
theorem mem_reported_of_le {least most : Int}
    {before between after : List Diagnostic} (hbetween : between.length + least.toNat ≤ most.toNat)
    {d : Diagnostic} (h : d ∈ reported (before ++ after) least) :
    ∃ d' ∈ reported (before ++ between ++ after) most, keyOf d' = keyOf d := by
  have hroom := (dedupeFrom_sublist (before.map keyOf) between).length_le
  rw [reported, dedupe_append, List.take_append, List.mem_append] at h
  rw [reported, dedupe_append, dedupe_append, List.map_append, dedupeFrom_append_seen]
  -- the three parts of what is reported under the greater limit
  have hparts : ∀ d', d' ∈ (dedupe before).take least.toNat ∨
      d' ∈ dedupeFrom (before.map keyOf) between ∧ (dedupe before).length < least.toNat ∨
      d' ∈ ((dedupeFrom (before.map keyOf) after).filter fun d => !(between.map keyOf).contains (keyOf d)).take
        (least.toNat - (dedupe before).length) →
      d' ∈ (dedupe before ++ dedupeFrom (before.map keyOf) between ++
        (dedupeFrom (before.map keyOf) after).filter
          fun d => !(between.map keyOf).contains (keyOf d)).take most.toNat := by
    intro d' hd'
    rw [List.take_append, List.take_append, List.mem_append, List.mem_append]
    rcases hd' with hd' | ⟨hd', hlt⟩ | hd'
    · exact .inl (.inl (List.take_subset_take_left _ (by omega) hd'))
    · refine .inl (.inr ?_)
      rwa [List.take_of_length_le (by omega)]
    · refine .inr (List.take_subset_take_left _ ?_ hd')
      rw [List.length_append]
      omega
  rcases h with h | h
  · exact ⟨d, hparts d (.inl h), rfl⟩
  · have hnew := not_mem_of_mem_dedupeFrom (List.mem_of_mem_take h)
    by_cases hkey : keyOf d ∈ between.map keyOf
    · -- the key comes in between
      obtain ⟨d', hd', heq⟩ := exists_mem_dedupeFrom hkey hnew
      refine ⟨d', hparts d' (.inr (.inl ⟨hd', ?_⟩)), heq⟩
      by_contra hge
      rw [Nat.sub_eq_zero_of_le (by omega)] at h
      simp at h
    · exact ⟨d, hparts d (.inr (.inr (mem_take_filter h (by simpa using hkey)))), rfl⟩

theorem hasErrors_reported_of_le {least most : Int} {before between after : List Diagnostic}
    (hbetween : between.length + least.toNat ≤ most.toNat)
    (h : Wire.hasErrors (reported (before ++ after) least) = true) :
    Wire.hasErrors (reported (before ++ between ++ after) most) = true := by
  rw [Wire.hasErrors, List.any_eq_true] at h ⊢
  obtain ⟨d, hd, herror⟩ := h
  obtain ⟨d', hd', hkey⟩ := mem_reported_of_le hbetween hd
  have hseverity : d'.severity = d.severity := congrArg Key.severity hkey
  exact ⟨d', hd', hseverity ▸ herror⟩

end Tool

end BasiliskServer
