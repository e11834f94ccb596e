import BasiliskServer.Proofs.Files.Anchoring
import BasiliskServer.Proofs.Settings.Layering
import BasiliskServer.Settings.Resolve

/-!
# Settings of a project

Anchoring puts the include paths of both lists of a configuration together
(`ProjectConfig.mapM_configuredIncludes`). The configuration that is found for an absolute directory
has each name once in every object, and every include path in it is absolute or empty
(`ProjectConfig.anchored_of_find`). So the settings over it have absolute include paths, which no
later anchoring changes (`Settings.anchorIncludes_of_absolute`), and the default limit for problems,
which a project cannot set (`Settings.asProject_applyProject`).
-/

namespace BasiliskServer

open Files (Host Path isAbsoluteText)
open Json (Value Fields)

namespace ProjectConfig

/-- The include paths of a configuration. -/
def includePathsOf (config : Fields) : List String :=
  Settings.stringsIn ((Settings.sectionFields (config.get? "qcc")).get? "includePaths")

/-- A configuration with each name once whose include paths are absolute or empty. -/
structure Anchored (config : Fields) : Prop where
  unambiguous : (Value.object config).Unambiguous
  includePaths : ∀ entry ∈ includePathsOf config, entry ≠ "" → isAbsoluteText entry

/-! ## Anchoring the paths of a configuration -/

theorem anchorField_cases {host : Host} {base : Path} {config result anchored : Fields}
    {name : String} (h : anchorField host base config name result = .ok anchored) :
    anchored = result ∨ ∃ s, anchored = result.put name (.string s) := by
  rw [anchorField] at h
  split at h
  next s _ =>
    split at h
    next => cases h; exact .inl rfl
    next =>
      cases hanchor : host.anchorAt s base with
      | error failure => simp [hanchor, Except.map] at h
      | ok expanded =>
        rw [hanchor] at h
        cases h
        exact .inr ⟨expanded, rfl⟩
  next => cases h; exact .inl rfl

theorem anchorField_unambiguous {host : Host} {base : Path} {config result anchored : Fields}
    {name : String} (h : anchorField host base config name result = .ok anchored)
    (hresult : (Value.object result).Unambiguous) : (Value.object anchored).Unambiguous := by
  rcases anchorField_cases h with rfl | ⟨s, rfl⟩
  · exact hresult
  · exact hresult.put name (.string s)

theorem get?_anchorField {host : Host} {base : Path} {config result anchored : Fields}
    {name other : String} (h : anchorField host base config name result = .ok anchored)
    (hne : other ≠ name) : anchored.get? other = result.get? other := by
  rcases anchorField_cases h with rfl | ⟨s, rfl⟩
  · rfl
  · exact Fields.get?_put_of_ne hne

theorem unambiguous_sectionFields {fields : Fields} (h : (Value.object fields).Unambiguous)
    (name : String) : (Value.object (Settings.sectionFields (fields.get? name))).Unambiguous := by
  have hnone : (Value.object []).Unambiguous := by simp
  cases hget : fields.get? name with
  | none => exact hnone
  | some value =>
    cases value with
    | object part => exact h.get? hget
    | _ => exact hnone

@[simp] theorem stringsIn_strings (texts : List String) :
    Settings.stringsIn (some (.strings texts)) = texts := by
  simp [Settings.stringsIn, Value.strings, Value.items?, Value.string?, List.filterMap_map,
    Function.comp_def]

/-- The include paths that a configuration has under its two names, before they are anchored. -/
def configuredIncludes (config : Fields) : List String :=
  nonEmptyStrings ((Settings.sectionFields (config.get? "qcc")).get? "includePaths") ++
    nonEmptyStrings (config.get? "qccIncludePaths")

/-- A configuration with include paths in place of its own, if there are any. -/
def withIncludes (config : Fields) (paths : List String) (result : Fields) : Fields :=
  if (configuredIncludes config).isEmpty then result
  else result.put "qcc"
    (.object ((Settings.sectionFields (config.get? "qcc")).put "includePaths" (.strings paths)))

/-- What anchoring does to a configuration. -/
theorem exists_of_anchorPaths {host : Host} {base : Path} {config anchored : Fields}
    (h : anchorPaths host base config = .ok anchored) :
    ∃ withRoot withCompiler paths, anchorField host base config "basiliskPath" config = .ok withRoot ∧
      anchorField host base config "qccPath" withRoot = .ok withCompiler ∧
      (configuredIncludes config).mapM (host.anchorAt · base) = .ok paths ∧
      (anchored = withIncludes config paths withCompiler ∨
        ∃ fields companion, config.get? "clangd" = some (.object fields) ∧
          anchorField host base fields "compileCommandsDir" fields = .ok companion ∧
          anchored = (withIncludes config paths withCompiler).put "clangd" (.object companion)) := by
  unfold anchorPaths at h
  obtain ⟨withRoot, hroot, h⟩ := Json.exists_ok_of_bind h
  obtain ⟨withCompiler, hcompiler, h⟩ := Json.exists_ok_of_bind h
  obtain ⟨paths, hpaths, h⟩ := Json.exists_ok_of_bind h
  refine ⟨withRoot, withCompiler, paths, hroot, hcompiler, hpaths, ?_⟩
  dsimp only at h
  split at h
  next fields hclangd =>
    obtain ⟨companion, hcompanion, h⟩ := Json.exists_ok_of_bind h
    cases h
    exact .inr ⟨fields, companion, hclangd, hcompanion, rfl⟩
  next =>
    cases h
    exact .inl rfl

theorem unambiguous_of_anchorPaths {host : Host} {base : Path} {config anchored : Fields}
    (hconfig : (Value.object config).Unambiguous) (h : anchorPaths host base config = .ok anchored) :
    (Value.object anchored).Unambiguous := by
  obtain ⟨withRoot, withCompiler, paths, hroot, hcompiler, -, h⟩ := exists_of_anchorPaths h
  have hresult := anchorField_unambiguous hcompiler (anchorField_unambiguous hroot hconfig)
  have hincludes : (Value.object (withIncludes config paths withCompiler)).Unambiguous := by
    rw [withIncludes]
    split
    · exact hresult
    · exact hresult.put "qcc" ((unambiguous_sectionFields hconfig "qcc").put "includePaths" (by simp))
  rcases h with rfl | ⟨fields, companion, hclangd, hcompanion, rfl⟩
  · exact hincludes
  · exact hincludes.put "clangd" (anchorField_unambiguous hcompanion (hconfig.get? hclangd))

/-- The include paths of an anchored configuration that are not empty are those of both lists, anchored. -/
theorem mapM_configuredIncludes {host : Host} {base : Path} (hbase : base.isAbsolute)
    {config anchored : Fields} (h : anchorPaths host base config = .ok anchored) :
    (configuredIncludes config).mapM (host.anchorAt · base) =
      .ok ((includePathsOf anchored).filter (· ≠ "")) := by
  obtain ⟨withRoot, withCompiler, paths, hroot, hcompiler, hpaths, h⟩ := exists_of_anchorPaths h
  have hqcc : withCompiler.get? "qcc" = config.get? "qcc" :=
    (get?_anchorField hcompiler (by decide)).trans (get?_anchorField hroot (by decide))
  -- The section of the companion process is put in last, and has no include paths.
  have hself : includePathsOf anchored = includePathsOf (withIncludes config paths withCompiler) := by
    rcases h with rfl | ⟨fields, companion, -, -, rfl⟩
    · rfl
    · rw [includePathsOf, Fields.get?_put_of_ne (by decide), includePathsOf]
  rw [hpaths, hself, withIncludes]
  congr 1
  split
  next hempty =>
    -- Nothing is put in, so that the list stays; but all its entries are empty.
    have hnone := List.isEmpty_iff.1 hempty
    rw [hnone] at hpaths
    cases hpaths
    rw [includePathsOf, hqcc]
    exact (List.append_eq_nil_iff.1 hnone).1.symm
  next =>
    have hput : includePathsOf (withCompiler.put "qcc"
        (.object ((Settings.sectionFields (config.get? "qcc")).put "includePaths" (.strings paths)))) =
          paths := by
      simp [includePathsOf, Settings.sectionFields, Value.fields?]
    rw [hput]
    refine (List.filter_eq_self.2 fun entry hmem => ?_).symm
    have habsolute := Host.isAbsoluteText_of_mapM_anchorAt hbase hpaths entry hmem
    simpa using Files.ne_empty_of_isAbsoluteText habsolute

theorem anchored_of_anchorPaths {host : Host} {base : Path} (hbase : base.isAbsolute)
    {config anchored : Fields} (hconfig : (Value.object config).Unambiguous)
    (h : anchorPaths host base config = .ok anchored) : Anchored anchored where
  unambiguous := unambiguous_of_anchorPaths hconfig h
  includePaths entry hmem hne := by
    refine Host.isAbsoluteText_of_mapM_anchorAt hbase (mapM_configuredIncludes hbase h) entry ?_
    exact List.mem_filter.2 ⟨hmem, by simpa using hne⟩

/-! ## Finding a configuration -/

theorem isAbsolute_of_mem_upTo {last : Option Path} {directories : List Path} {directory : Path}
    (h : ∀ other ∈ directories, other.isAbsolute) (hmem : directory ∈ upTo last directories) :
    directory.isAbsolute := by
  induction directories with
  | nil => simp [upTo] at hmem
  | cons first rest ih =>
    rw [upTo] at hmem
    split at hmem
    next => exact h directory (by simpa using Or.inl (List.mem_singleton.1 hmem))
    next =>
      rcases List.mem_cons.1 hmem with rfl | hmem
      · exact h directory (by simp)
      · exact ih (fun other hother => h other (by simp [hother])) hmem

theorem mem_of_findM?_eq_some {ε α : Type} {test : α → Except ε Bool} {entries : List α} {a : α}
    (h : entries.findM? test = .ok (some a)) : a ∈ entries := by
  induction entries with
  | nil => cases h
  | cons entry rest ih =>
    rw [List.findM?] at h
    obtain ⟨found, -, h⟩ := Json.exists_ok_of_bind h
    cases found with
    | true => cases h; simp
    | false => exact List.mem_cons_of_mem _ (ih h)

theorem isAbsolute_of_configPath {host : Host} {start : Path} (hstart : start.isAbsolute)
    {path : Path} (h : configPath host start = .ok (some path)) : path.isAbsolute := by
  unfold configPath at h
  obtain ⟨directories, hsearched, h⟩ := Json.exists_ok_of_bind h
  obtain ⟨directory, hmem, rfl⟩ := List.mem_map.1 (mem_of_findM?_eq_some h)
  refine Path.isAbsolute_child ?_ configName
  rw [searched] at hsearched
  cases hroot : repositoryRoot host start with
  | error failure => simp [hroot, Except.map] at hsearched
  | ok root =>
    rw [hroot] at hsearched
    cases hsearched
    exact isAbsolute_of_mem_upTo (fun other => Path.isAbsolute_of_mem_andAbove hstart) hmem

theorem anchored_of_read {host : Host} {path : Path} (hpath : path.isAbsolute)
    {project : ProjectConfig} (h : read host path = .ok project) {config : Fields}
    (hconfig : project.config = some config) : Anchored config := by
  -- There is a configuration only where an object was read, and then its paths were anchored.
  unfold read at h
  split at h
  next => cases h
  next => cases h; cases hconfig
  next => cases h; cases hconfig
  next =>
    split at h
    next => cases h; cases hconfig
    next =>
      split at h
      next => cases h; cases hconfig
      next => cases h
      next fields hparse =>
        cases hanchor : anchorPaths host path.parent fields with
        | error failure => simp [hanchor, Except.map] at h
        | ok anchored =>
          rw [hanchor] at h
          cases h
          cases hconfig
          exact anchored_of_anchorPaths (Path.isAbsolute_parent hpath)
            (Json.parse_unambiguous hparse) hanchor
      next => cases h; cases hconfig

/-- The configuration found for an absolute directory is anchored. -/
theorem anchored_of_find {host : Host} {start : Path} (hstart : start.isAbsolute)
    {project : ProjectConfig} (h : find host start = .ok project) {config : Fields}
    (hconfig : project.config = some config) : Anchored config := by
  unfold find at h
  obtain ⟨found, hfound, h⟩ := Json.exists_ok_of_bind h
  cases found with
  | none => cases h; cases hconfig
  | some path =>
    exact anchored_of_read (isAbsolute_of_configPath hstart hfound) h hconfig

/-! ## The layer of a project -/

theorem textField_atMost (config : Fields) (name : String) :
    Fields.AtMost name (textField config name) := by
  rw [textField]
  split
  next s _ =>
    split
    next => exact .inl rfl
    next => exact .inr ⟨.string s, by simp, rfl⟩
  next => exact .inl rfl

theorem get?_toLayer_maxProblems (config : Fields) :
    (toLayer config).get? "maxNumberOfProblems" = none := by
  simp only [toLayer, Fields.get?_append, Option.none_or,
    (textField_atMost config "qccPath").get?_of_ne (show "maxNumberOfProblems" ≠ _ by decide),
    (textField_atMost config "basiliskPath").get?_of_ne (show "maxNumberOfProblems" ≠ _ by decide)]
  split <;> split <;> simp

/-- The layer of a project has the include paths of its configuration. -/
theorem includeEntries_toLayer (config : Fields) :
    Settings.includeEntries (.object (toLayer config)) = includePathsOf config := by
  have hget : (toLayer config).get? "qcc" =
      (((Settings.sectionFields (config.get? "qcc")).get? "includePaths").bind Value.items?).map
        fun items => .object [("includePaths", .array items)] := by
    simp only [toLayer, Fields.get?_append, Option.none_or,
      (textField_atMost config "qccPath").get?_of_ne (show "qcc" ≠ _ by decide),
      (textField_atMost config "basiliskPath").get?_of_ne (show "qcc" ≠ _ by decide)]
    cases hpaths : (Settings.sectionFields (config.get? "qcc")).get? "includePaths" with
    | none =>
      simp only [Fields.get?_nil, Option.none_or]
      split <;> simp
    | some value =>
      cases value with
      | array items => simp [Value.items?]
      | _ =>
        simp only [Fields.get?_nil, Option.none_or]
        split <;> simp [Value.items?]
  rw [Settings.includeEntries, Value.getD, Value.get?, hget, includePathsOf, Settings.stringsIn,
    Settings.stringsIn]
  cases ((Settings.sectionFields (config.get? "qcc")).get? "includePaths").bind Value.items? with
  | none => rfl
  | some items => simp [Value.get?, Value.items?]

/-- The layer of an unambiguous configuration is unambiguous. -/
theorem unambiguous_toLayer {config : Fields} (h : (Value.object config).Unambiguous) :
    (Value.object (toLayer config)).Unambiguous := by
  suffices hparts : ∀ {includes companion : Fields}, Fields.AtMost "qcc" includes →
      Fields.AtMost "clangd" companion → (Value.object (textField config "qccPath" ++
        textField config "basiliskPath" ++ includes ++ companion)).Unambiguous by
    refine hparts ?_ ?_
    · split
      next items hpaths =>
        have hitems := (unambiguous_sectionFields h "qcc").get? hpaths
        exact .inr ⟨_, by simpa using hitems, rfl⟩
      next => exact .inl rfl
    · split
      next fields hclangd => exact .inr ⟨_, h.get? hclangd, rfl⟩
      next => exact .inl rfl
  intro includes companion hincludes hcompanion
  have hflat := Value.unambiguous_flatMap [("qccPath", textField config "qccPath"),
      ("basiliskPath", textField config "basiliskPath"), ("qcc", includes), ("clangd", companion)]
    (by simp) (by simp [textField_atMost, hincludes, hcompanion])
  simpa using hflat

end ProjectConfig

namespace Settings

/-- Include paths that are all absolute stay as they are wherever they are anchored. -/
theorem anchorIncludes_of_absolute (host : Host) (root : Option Path) {s : Settings}
    (h : ∀ entry ∈ s.includePaths, isAbsoluteText entry) : s.anchorIncludes host root = .ok s := by
  rw [anchorIncludes, Host.mapM_anchor_of_isAbsoluteText host h]
  rfl

/-- Settings whose include paths are absolute and without repetitions and that have the default limit
for problems. -/
structure AsProject (s : Settings) : Prop where
  absolute : ∀ entry ∈ s.includePaths, isAbsoluteText entry
  distinct : mergeStrings s.includePaths [] = s.includePaths
  maxProblems : s.maxProblems = ({} : Settings).maxProblems

theorem asProject_default : AsProject {} := ⟨by simp, rfl, rfl⟩

theorem asProject_applyProject (readers : Readers) {project : ProjectConfig}
    (h : ∀ config, project.config = some config → ProjectConfig.Anchored config) :
    AsProject (applyProject readers {} project) := by
  rw [applyProject]
  split
  next => exact asProject_default
  next config hconfig =>
    have hanchored := h config hconfig
    have hlayer := ProjectConfig.unambiguous_toLayer hanchored.unambiguous
    cases heffective : isEffective readers (.object (ProjectConfig.toLayer config)) with
    | false =>
      rw [merge_of_not_isEffective hlayer heffective]
      exact asProject_default
    | true =>
      obtain ⟨htakes, hincludes⟩ := takes_merge hlayer heffective {}
      rw [ProjectConfig.includeEntries_toLayer, mergeStrings_eq_eraseDups] at hincludes
      refine ⟨fun entry hmem => ?_, ?_, ?_⟩
      · rw [hincludes, List.mem_eraseDups, List.mem_filter] at hmem
        exact hanchored.includePaths entry hmem.1 (by simpa using hmem.2)
      · have hmerge := mergeStrings_eraseDups (ProjectConfig.includePathsOf config) []
        rw [List.append_nil] at hmerge
        rw [hincludes]
        exact hmerge
      · have hmax := htakes.maxProblems
        rw [Value.get?, ProjectConfig.get?_toLayer_maxProblems] at hmax
        exact (Option.some.inj hmax).symm

/-! ## Resolving settings -/

section

variable {host : Host} {start : Path} {root : Option Path} {editor overrides : Value}
variable {readers : Readers}

theorem resolve_of_find_error {failure : Failure} (h : ProjectConfig.find host start = .error failure) :
    resolve host { start := some start, root, editor, overrides, readers } = .error failure := by
  simp only [resolve, Request.findProject, h]
  rfl

/-- If a configuration is found, the layers of a request are laid over its settings. -/
theorem resolve_of_find_ok {project : ProjectConfig} (h : ProjectConfig.find host start = .ok project) :
    resolve host { start := some start, root, editor, overrides, readers } =
      (((applyProject readers {} project).merge readers editor).merge readers overrides
        |>.anchorIncludes host (root <|> some start)).map fun settings =>
          { settings, complaint := complaintOf (some project) } := by
  simp only [resolve, Request.findProject, h]
  rfl

end

end Settings

end BasiliskServer
