import BasiliskServer.Proofs.Settings.Projects
import BasiliskServer.Tool.Options

/-!
# Options are never lost

The layer that options make always validates and names exactly what was given
(`Options.takes_layer`). So whatever a project configures, the settings of a run are those of the
project with the given options in their place (`loadSettings_of_find`). Only an include path below
a home directory that is not known stands against it.
-/

namespace BasiliskServer.Tool

open Files (Host Path isAbsoluteText)
open Json (Value Fields)
open Settings (laid)

namespace Options

/-! ## The layer of options -/

/-- The layer of settings that options make with include paths that are anchored. -/
def layer (options : Options) (includePaths : List String) : Fields :=
  given "qccPath" .string options.qccPath ++
    given "basiliskPath" .string options.basiliskPath ++
    given "enableDiagnostics" .bool options.enableQcc ++
    given "maxNumberOfProblems" .int (options.maxProblems.filter (0 < ·)) ++
    given "qcc" (fun paths => .object [("includePaths", .strings paths)])
      (if includePaths = [] then none else some includePaths) ++
    given "clangd" .object
      (if options.companionLayer = [] then none else some options.companionLayer)

theorem toLayer_eq (host : Host) (options : Options) (cwd : Path) :
    options.toLayer host cwd =
      (options.qccIncludes.mapM (host.anchorAt · cwd)).map options.layer := by
  rw [toLayer]
  cases options.qccIncludes.mapM (host.anchorAt · cwd) with
  | error failure => rfl
  | ok includePaths =>
    cases hcompanion : options.companionLayer <;> cases includePaths <;>
      simp [layer, given, hcompanion, bind, Except.bind, Except.map, pure, Except.pure]

theorem get?_given {α : Type} (name other : String) (write : α → Value) (value : Option α) :
    (given name write value).get? other = if other = name then value.map write else none := by
  cases value <;> simp [given]

theorem get?_givenList (name other : String) (entries : List String) :
    (givenList name entries).get? other =
      if other = name ∧ entries ≠ [] then some (.strings entries) else none := by
  cases entries <;> simp [givenList]

theorem given_atMost {α : Type} (name : String) {write : α → Value} (value : Option α)
    (h : ∀ a, (write a).Unambiguous) : Fields.AtMost name (given name write value) := by
  cases value with
  | none => exact .inl rfl
  | some a => exact .inr ⟨write a, h a, rfl⟩

theorem givenList_atMost (name : String) (entries : List String) :
    Fields.AtMost name (givenList name entries) := by
  rw [givenList]
  split
  next => exact .inl rfl
  next => exact .inr ⟨.strings entries, by simp, rfl⟩

theorem unambiguous_companionLayer (options : Options) :
    (Value.object options.companionLayer).Unambiguous := by
  have hflat := Value.unambiguous_flatMap
    [("enabled", given "enabled" .bool options.clangdEnabled),
      ("path", given "path" .string options.clangdPath),
      ("args", givenList "args" options.clangdArgs),
      ("compileCommandsDir", given "compileCommandsDir" .string options.compileCommandsDir),
      ("fallbackFlags", givenList "fallbackFlags" options.fallbackFlags),
      ("diagnosticsMode",
        given "diagnosticsMode" (fun mode => .string mode.name) options.clangdDiagnostics)]
    (by simp) (by simp [given_atMost, givenList_atMost])
  simpa [companionLayer] using hflat

theorem unambiguous_layer (options : Options) (includePaths : List String) :
    (Value.object (options.layer includePaths)).Unambiguous := by
  have hcompanion : Fields.AtMost "clangd" (given "clangd" .object
      (if options.companionLayer = [] then none else some options.companionLayer)) := by
    split
    next => exact .inl rfl
    next => exact .inr ⟨_, unambiguous_companionLayer options, rfl⟩
  have hflat := Value.unambiguous_flatMap
    [("qccPath", given "qccPath" .string options.qccPath),
      ("basiliskPath", given "basiliskPath" .string options.basiliskPath),
      ("enableDiagnostics", given "enableDiagnostics" .bool options.enableQcc),
      ("maxNumberOfProblems",
        given "maxNumberOfProblems" .int (options.maxProblems.filter (0 < ·))),
      ("qcc", given "qcc" (fun paths => .object [("includePaths", .strings paths)])
        (if includePaths = [] then none else some includePaths)),
      ("clangd", given "clangd" .object
        (if options.companionLayer = [] then none else some options.companionLayer))]
    (by simp) (by simp [given_atMost, hcompanion])
  simpa [layer] using hflat

/-! ## What the layer makes of settings -/

/-- Settings with what was given in its place; the include paths come after those of the settings. -/
def applied (options : Options) (includePaths : List String) (s : Settings) : Settings where
  qccPath := options.qccPath.getD s.qccPath
  basiliskPath := options.basiliskPath.getD s.basiliskPath
  enableDiagnostics := options.enableQcc.getD s.enableDiagnostics
  diagnosticsOnSave := s.diagnosticsOnSave
  diagnosticsOnType := s.diagnosticsOnType
  maxProblems := (options.maxProblems.filter (0 < ·)).getD 100
  includePaths := (s.includePaths ++ includePaths).eraseDups
  clangd :=
    { enabled := options.clangdEnabled.getD s.clangd.enabled
      mode := s.clangd.mode
      path := options.clangdPath.getD s.clangd.path
      args := if options.clangdArgs = [] then s.clangd.args else options.clangdArgs
      compileCommandsDir := options.compileCommandsDir.getD s.clangd.compileCommandsDir
      fallbackFlags :=
        if options.fallbackFlags = [] then s.clangd.fallbackFlags else options.fallbackFlags
      diagnosticsMode := options.clangdDiagnostics.getD s.clangd.diagnosticsMode }

theorem laid_given {α : Type} {read : Value → Option α} {write : α → Value}
    (hread : ∀ a, read (write a) = some a) (value : Option α) (before : α) :
    laid read (value.map write) before = some (value.getD before) := by
  cases value <;> simp [hread]

theorem laid_givenList (entries before : List String) :
    laid Settings.Readers.lenient.strings?
        (if entries ≠ [] then some (.strings entries) else none) before =
      some (if entries = [] then before else entries) := by
  cases entries <;> simp

theorem takes_companionLayer (options : Options) (includePaths : List String) (s : Settings) :
    CompanionSettings.Takes .lenient options.companionLayer.get? s.clangd
      (options.applied includePaths s).clangd where
  enabled := by
    simpa [companionLayer, Fields.get?_append, get?_given, get?_givenList, applied] using
      laid_given Settings.Readers.lenient.bool?_bool options.clangdEnabled s.clangd.enabled
  mode := by simp [companionLayer, Fields.get?_append, get?_given, get?_givenList, applied]
  path := by
    simpa [companionLayer, Fields.get?_append, get?_given, get?_givenList, applied] using
      laid_given Settings.Readers.lenient.string?_string options.clangdPath s.clangd.path
  args := by
    simpa [companionLayer, Fields.get?_append, get?_given, get?_givenList, applied] using
      laid_givenList options.clangdArgs s.clangd.args
  compileCommandsDir := by
    simpa [companionLayer, Fields.get?_append, get?_given, get?_givenList, applied] using
      laid_given Settings.Readers.lenient.string?_string options.compileCommandsDir
        s.clangd.compileCommandsDir
  fallbackFlags := by
    simpa [companionLayer, Fields.get?_append, get?_given, get?_givenList, applied] using
      laid_givenList options.fallbackFlags s.clangd.fallbackFlags
  diagnosticsMode := by
    simpa [companionLayer, Fields.get?_append, get?_given, get?_givenList, applied] using
      laid_given (fun mode => by simp) options.clangdDiagnostics s.clangd.diagnosticsMode

/-- The layer can be read over any settings and names just what was given. -/
theorem takes_layer (options : Options) (includePaths : List String) {s : Settings}
    (hmax : s.maxProblems = 100) :
    Settings.Takes .lenient (options.layer includePaths).get?
      (Settings.companionField (.object (options.layer includePaths))) s
      (options.applied includePaths s) where
  qccPath := by
    simpa [layer, Fields.get?_append, get?_given, applied] using
      laid_given Settings.Readers.lenient.string?_string options.qccPath s.qccPath
  basiliskPath := by
    simpa [layer, Fields.get?_append, get?_given, applied] using
      laid_given Settings.Readers.lenient.string?_string options.basiliskPath s.basiliskPath
  enableDiagnostics := by
    simpa [layer, Fields.get?_append, get?_given, applied] using
      laid_given Settings.Readers.lenient.bool?_bool options.enableQcc s.enableDiagnostics
  diagnosticsOnSave := by simp [layer, Fields.get?_append, get?_given, applied]
  diagnosticsOnType := by simp [layer, Fields.get?_append, get?_given, applied]
  maxProblems := by
    simpa [layer, Fields.get?_append, get?_given, applied, hmax] using
      laid_given Settings.Readers.lenient.int?_int (options.maxProblems.filter (0 < ·)) s.maxProblems
  clangd := by
    have hsection : Settings.companionField (.object (options.layer includePaths)) =
        options.companionLayer.get? := by
      funext name
      rw [Settings.companionField, Value.getD, Value.get?]
      cases hcompanion : options.companionLayer <;>
        simp [layer, Fields.get?_append, get?_given, hcompanion, Value.get?]
    rw [hsection]
    exact takes_companionLayer options includePaths s

theorem includeEntries_layer (options : Options) (includePaths : List String) :
    Settings.includeEntries (.object (options.layer includePaths)) = includePaths := by
  rw [Settings.includeEntries, Value.getD, Value.get?]
  cases includePaths with
  | nil => simp [layer, Fields.get?_append, get?_given, Value.get?]; rfl
  | cons entry rest => simp [layer, Fields.get?_append, get?_given, Value.get?]

/-- Over settings of a project, options make the settings with what was given in its place. -/
theorem merge_layer (options : Options) {includePaths : List String}
    (habsolute : ∀ entry ∈ includePaths, isAbsoluteText entry) {s : Settings}
    (hs : s.AsProject) :
    s.merge .lenient (.object (options.layer includePaths)) = options.applied includePaths s := by
  refine Settings.merge_eq_of_takes (unambiguous_layer options includePaths) hs.distinct
    (takes_layer options includePaths hs.maxProblems) ?_
  have hkept : (s.includePaths ++ includePaths).filter (· ≠ "") = s.includePaths ++ includePaths :=
    List.filter_eq_self.2 fun entry hmem => by
      have hentry : isAbsoluteText entry :=
        (List.mem_append.1 hmem).elim (hs.absolute entry) (habsolute entry)
      simpa using Files.ne_empty_of_isAbsoluteText hentry
  rw [includeEntries_layer, Settings.mergeStrings_eq_eraseDups, hkept, applied]

end Options

/-! ## Loading settings -/

variable {host : Host} {options : Options} {start cwd : Path} {project : ProjectConfig}

theorem asProject_of_find (hstart : start.isAbsolute)
    (hfind : ProjectConfig.find host start = .ok project) :
    (Settings.applyProject .lenient {} project).AsProject :=
  Settings.asProject_applyProject .lenient fun _ => ProjectConfig.anchored_of_find hstart hfind

/-- The settings of a project as they are resolved without any options. -/
theorem resolve_of_find (hstart : start.isAbsolute)
    (hfind : ProjectConfig.find host start = .ok project) :
    Settings.resolve host { start := some start, root := some start } =
      .ok { settings := Settings.applyProject .lenient {} project
            complaint := Settings.complaintOf (some project) } := by
  have hanchored : (((Settings.applyProject .lenient {} project).merge .lenient
      .null).merge .lenient .null).anchorIncludes host
      (some start) = .ok (Settings.applyProject .lenient {} project) :=
    Settings.anchorIncludes_of_absolute host (some start) (asProject_of_find hstart hfind).absolute
  exact (Settings.resolve_of_find_ok hfind).trans (congrArg (Except.map _) hanchored)

/-- The settings with a layer over those of a project whose include paths are all absolute. -/
theorem resolve_overrides {layer : Value} (hmerged : ∀ entry ∈
      ((Settings.applyProject .lenient {} project).merge .lenient layer).includePaths,
      isAbsoluteText entry) :
    Settings.resolve host
        { start := some start, root := some start, overrides := layer, project := some project } =
      .ok { settings := (Settings.applyProject .lenient {} project).merge .lenient layer
            complaint := Settings.complaintOf (some project) } := by
  have hsettings : Settings.Request.settingsOver host
      { start := some start, root := some start, overrides := layer, project := some project }
        (some project) = .ok ((Settings.applyProject .lenient {} project).merge .lenient layer) :=
    Settings.anchorIncludes_of_absolute host (some start) hmerged
  rw [Settings.resolve, Settings.Request.findProject]
  simp only [bind, Except.bind, hsettings]
  rfl

/-- If a configuration is searched for and found, the layer of the options decides what comes of
it. -/
theorem loadSettings_of_layer (hexplicit : options.projectConfig = none)
    (hfind : ProjectConfig.find host start = .ok project) {layer : Fields}
    (hlayer : options.toLayer host cwd = .ok layer) {resolved : Settings.Resolved}
    (hresolve : Settings.resolve host
      { start := some start, root := some start, overrides := .object layer
        project := some project } = .ok resolved) :
    ∃ messages, loadSettings host options start cwd =
      .ok { settings := resolved.settings, messages } := by
  unfold loadSettings
  simp only [hexplicit, hfind, hlayer, bind, Except.bind, hresolve, Option.isSome_none,
    Bool.false_and, Bool.false_eq_true, if_false]
  exact ⟨_, rfl⟩

theorem loadSettings_of_layer_error (hexplicit : options.projectConfig = none)
    (hfind : ProjectConfig.find host start = .ok project) {failure : Failure}
    (hlayer : options.toLayer host cwd = .error failure) :
    loadSettings host options start cwd = .error failure := by
  unfold loadSettings
  simp only [hexplicit, hfind, hlayer, bind, Except.bind, Option.isSome_none, Bool.false_and,
    Bool.false_eq_true, if_false]

theorem one_le_maxProblems_applied (options : Options) (includePaths : List String)
    (s : Settings) : 1 ≤ (options.applied includePaths s).maxProblems := by
  rw [Options.applied]
  cases hgiven : options.maxProblems.filter (0 < ·) with
  | none => exact (by decide : (1 : Int) ≤ 100)
  | some n =>
    have hpositive := (Option.filter_eq_some_iff.1 hgiven).2
    exact Int.add_one_le_of_lt (of_decide_eq_true hpositive)

/-- If no configuration is named and the one that is found can be read, then the run goes on with the
settings of the project in which every option that was given has its place: include paths are
anchored at the working directory and come last, and the limit for problems is that of the options
if it is positive, otherwise 100. An include path below a home directory that is not known ends the
run instead. -/
theorem loadSettings_of_find (hexplicit : options.projectConfig = none)
    (hstart : start.isAbsolute) (hcwd : cwd.isAbsolute)
    (hfind : ProjectConfig.find host start = .ok project) :
    ((∃ s ∈ options.qccIncludes, host.LacksHome s) ∧
        loadSettings host options start cwd = .error .noHome) ∨
      (∀ s ∈ options.qccIncludes, ¬host.LacksHome s) ∧
        ∃ loaded alone includePaths,
          loadSettings host options start cwd = .ok loaded ∧ loaded.fatal = false ∧
          Settings.resolve host { start := some start, root := some start } = .ok alone ∧
          options.qccIncludes.mapM (host.anchorAt · cwd) = .ok includePaths ∧
          loaded.settings = options.applied includePaths alone.settings ∧
          1 ≤ loaded.settings.maxProblems := by
  -- The options fail only where one of their include paths needs a home directory.
  by_cases hhome : ∃ s ∈ options.qccIncludes, host.LacksHome s
  · obtain ⟨s, hmem, hlacks⟩ := hhome
    have hlayer : options.toLayer host cwd = .error .noHome := by
      rw [Options.toLayer_eq, Host.mapM_anchorAt_of_lacksHome hmem hlacks]
      rfl
    exact .inl ⟨⟨s, hmem, hlacks⟩, loadSettings_of_layer_error hexplicit hfind hlayer⟩
  · have hknown : ∀ s ∈ options.qccIncludes, ¬host.LacksHome s :=
      fun s hmem hlacks => hhome ⟨s, hmem, hlacks⟩
    obtain ⟨includePaths, hincludes⟩ := Host.exists_mapM_anchorAt hknown cwd
    have hlayer : options.toLayer host cwd = .ok (options.layer includePaths) := by
      rw [Options.toLayer_eq, hincludes]
      rfl
    have habsolute := Host.isAbsoluteText_of_mapM_anchorAt hcwd hincludes
    have hbase := asProject_of_find hstart hfind
    have hmerge := options.merge_layer habsolute hbase
    have hmerged : ∀ entry ∈ ((Settings.applyProject .lenient {} project).merge .lenient
        (.object (options.layer includePaths))).includePaths, isAbsoluteText entry := by
      intro entry hmem
      rw [hmerge, Options.applied, List.mem_eraseDups, List.mem_append] at hmem
      exact hmem.elim (hbase.absolute entry) (habsolute entry)
    obtain ⟨messages, hload⟩ :=
      loadSettings_of_layer hexplicit hfind hlayer (resolve_overrides hmerged)
    refine .inr ⟨hknown, _, _, includePaths, hload, rfl, resolve_of_find hstart hfind, hincludes,
      hmerge, ?_⟩
    dsimp only
    rw [hmerge]
    exact one_le_maxProblems_applied options includePaths _

/-- A host with a project whose configuration names the compiler and an include path. -/
def configuredHost : Host :=
  Host.place {} ["work", configName]
    (.file "\x7b\"qccPath\":\"cc\",\"qccIncludePaths\":[\"a\"]\x7d".toUTF8.toList false)

/-- The directory of the project. -/
def projectDirectory : Path := ⟨.absolute, ["work"]⟩

/-- Options with a compiler, two include paths and no limit for problems. -/
def someOptions : Options :=
  { maxProblems := some 0, qccPath := some "qcc", qccIncludes := ["b", "/work/a"] }

theorem loadSettings_of_find_configuredHost :
    ∃ loaded alone, loadSettings configuredHost someOptions projectDirectory projectDirectory =
        .ok loaded ∧
      Settings.resolve configuredHost
        { start := some projectDirectory, root := some projectDirectory } = .ok alone ∧
      loaded.fatal = false ∧
      alone.settings = { qccPath := "/work/cc", includePaths := ["/work/a"] } ∧
      loaded.settings = { qccPath := "qcc", includePaths := ["/work/a", "/work/b"] } := by
  have hfound : (ProjectConfig.find configuredHost projectDirectory).isOk := by decide +kernel
  cases hfind : ProjectConfig.find configuredHost projectDirectory with
  | error failure => rw [hfind] at hfound; cases hfound
  | ok project =>
    have halone : ((Settings.resolve configuredHost
        { start := some projectDirectory, root := some projectDirectory }).toOption.map
          (·.settings)) = some { qccPath := "/work/cc", includePaths := ["/work/a"] } := by
      decide +kernel
    have hpaths : (someOptions.qccIncludes.mapM
        (configuredHost.anchorAt · projectDirectory)).toOption = some ["/work/b", "/work/a"] := by
      decide +kernel
    -- no include path begins with a tilde, so the first case does not arise
    rcases @loadSettings_of_find configuredHost someOptions projectDirectory projectDirectory
      project rfl rfl rfl hfind with
      ⟨⟨s, hmem, htilde, -⟩, -⟩ |
        ⟨-, loaded, alone, paths, hload, hfatal, hresolve, hincludes, hset, -⟩
    · rcases List.mem_cons.1 hmem with rfl | hmem
      · exact absurd htilde (by decide)
      · rw [List.mem_singleton.1 hmem] at htilde
        exact absurd htilde (by decide)
    · rw [hresolve] at halone
      rw [hincludes] at hpaths
      have hsettings : alone.settings = { qccPath := "/work/cc", includePaths := ["/work/a"] } :=
        Option.some.inj halone
      obtain rfl : paths = ["/work/b", "/work/a"] := Option.some.inj hpaths
      refine ⟨loaded, alone, hload, hresolve, hfatal, hsettings, ?_⟩
      rw [hset, hsettings]
      decide +kernel

/-- A host whose home directory is not known. -/
def homelessHost : Host :=
  { environment := [("HOME", "~home")] }

/-- An include path with a tilde ends the run of a homeless host, although no configuration is named
and none is there. -/
theorem loadSettings_homelessHost :
    ProjectConfig.find homelessHost projectDirectory = .ok {} ∧
      loadSettings homelessHost { qccIncludes := ["~/x"] } projectDirectory projectDirectory =
        .error .noHome := by
  have hfind : ProjectConfig.find homelessHost projectDirectory = .ok {} := rfl
  have hlacks : homelessHost.LacksHome "~/x" := by
    refine ⟨by decide, ?_⟩
    have hfails : homelessHost.home.isOk = false := by decide +kernel
    cases hhome : homelessHost.home with
    | ok home => rw [hhome] at hfails; cases hfails
    | error failure => rw [Host.home_eq_error hhome]
  have hlayer : Options.toLayer homelessHost { qccIncludes := ["~/x"] } projectDirectory =
      .error .noHome := by
    rw [Options.toLayer_eq, Host.mapM_anchorAt_of_lacksHome (List.mem_singleton.2 rfl) hlacks]
    rfl
  exact ⟨hfind, loadSettings_of_layer_error rfl hfind hlayer⟩

end BasiliskServer.Tool
