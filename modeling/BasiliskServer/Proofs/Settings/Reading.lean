import BasiliskServer.Proofs.Settings.Projects

/-!
# What a configuration file can hold

A configuration file may hold any bytes. Most of what can be wrong with them is reported as a problem of
the file, and the settings are then those of the other layers. But bytes that are no text, a number with
too many digits, nesting that is too deep and a path below a home directory that is not known end the
reading with a failure (`Breaks`), which nothing handles on the way to the settings
(`find_resolve_of_file`).
-/

namespace BasiliskServer

open Files (Host Path)
open Json (Value Fields)

namespace ProjectConfig

variable {host : Host} {base path start : Path} {config fields : Fields} {bytes : List UInt8}
variable {executable : Bool} {project : ProjectConfig} {failure : Failure}

/-! ## The paths of a configuration -/

/-- The path in a field: a text that is not empty. -/
def pathIn (config : Fields) (name : String) : List String :=
  match config.get? name with
  | some (.string s) => if s.isEmpty then [] else [s]
  | _ => []

/-- All paths of a configuration, before they are anchored. -/
def configuredPaths (config : Fields) : List String :=
  pathIn config "basiliskPath" ++ (pathIn config "qccPath" ++ (configuredIncludes config ++
    pathIn (Settings.sectionFields (config.get? "clangd")) "compileCommandsDir"))

theorem needsHomeFor_anchorField (host : Host) (base : Path) (config result : Fields) (name : String) :
    host.NeedsHomeFor (pathIn config name) (anchorField host base config name result) := by
  rw [pathIn, anchorField]
  cases config.get? name with
  | none => exact .pure host result
  | some value =>
    cases value with
    | string s =>
      dsimp only
      split
      · exact .pure host result
      · exact (Host.needsHomeFor_anchorAt host s base).map fun anchored => result.put name (.string anchored)
    | _ => exact .pure host result

/-- The paths of a configuration are all anchored unless one of them lacks a home directory. -/
theorem needsHomeFor_anchorPaths (host : Host) (base : Path) (config : Fields) :
    host.NeedsHomeFor (configuredPaths config) (anchorPaths host base config) := by
  refine .bind (needsHomeFor_anchorField host base config config "basiliskPath") fun withRoot _ => ?_
  refine .bind (needsHomeFor_anchorField host base config withRoot "qccPath") fun withCompiler _ => ?_
  refine .bind (.mapM (host.needsHomeFor_anchorAt · base) (configuredIncludes config)) fun anchored _ => ?_
  cases hcompanion : config.get? "clangd" with
  | none => exact .pure host _
  | some value =>
    cases value with
    | object companion =>
      exact (needsHomeFor_anchorField host base companion companion "compileCommandsDir").map _
    | _ => exact .pure host _

/-! ## Reading a file -/

/-- The text of a configuration file without the space around it, if its bytes are a text. -/
def contents? (bytes : List UInt8) : Option String :=
  (Text.Utf8.decode? bytes).map fun text =>
    String.ofList (Text.strip (Host.unifyLineEnds text.toList))

/-- The bytes spell an object with the fields, which a host can read. -/
def Holds (host : Host) (bytes : List UInt8) (fields : Fields) : Prop :=
  ∃ text, contents? bytes = some text ∧ Json.parse host.nesting text = .ok (.object fields)

/-- What in the bytes of a configuration file ends the reading with a failure. -/
inductive Breaks (host : Host) (bytes : List UInt8) : Failure → Prop
  /-- They are not UTF-8. -/
  | undecodable (h : contents? bytes = none) : Breaks host bytes .undecodable
  /-- There is too much of something in their text. -/
  | excess {text : String} {excess : Json.Excess} (htext : contents? bytes = some text)
      (h : Json.parse host.nesting text = .error (.excess excess)) : Breaks host bytes (.ofExcess excess)
  /-- One of the paths lacks a home directory. -/
  | noHome {fields : Fields} (hholds : Holds host bytes fields)
      (h : ∃ s ∈ configuredPaths fields, host.LacksHome s) : Breaks host bytes .noHome

/-- What is read from a configuration file with such bytes. -/
inductive ReadsAs (host : Host) (path : Path) (bytes : List UInt8) : ProjectConfig → Prop
  /-- There is nothing in it. -/
  | blank (htext : contents? bytes = some "") : ReadsAs host path bytes { path := some path }
  /-- Its text is no JSON. -/
  | malformed {text : String} {error : Json.SyntaxError} (htext : contents? bytes = some text)
      (hne : text ≠ "") (h : Json.parse host.nesting text = .error (.malformed error)) :
      ReadsAs host path bytes { path := some path, problem := some error.message }
  /-- Its text is JSON, but no object. -/
  | noObject {text : String} {value : Value} (htext : contents? bytes = some text)
      (h : Json.parse host.nesting text = .ok value) (hvalue : value.fields? = none) :
      ReadsAs host path bytes
        { path := some path, problem := some "project config must be a JSON object" }
  /-- It is an object, whose paths are anchored at the directory of the file. -/
  | object {fields config : Fields} (hholds : Holds host bytes fields)
      (h : anchorPaths host path.parent fields = .ok config) :
      ReadsAs host path bytes { path := some path, config := some config }

/-- Bytes that break the reading break it in one way. -/
theorem Breaks.unique {other : Failure} (h : Breaks host bytes failure) (hother : Breaks host bytes other) :
    failure = other := by
  cases h <;> cases hother <;> grind [Holds]

theorem exists_parse_empty (nesting : Nat) :
    ∃ error, Json.parse nesting "" = .error (.malformed error) :=
  ⟨_, rfl⟩

/-- Nothing is read from bytes that break the reading. -/
theorem ReadsAs.not_breaks (h : ReadsAs host path bytes project) : ¬Breaks host bytes failure := by
  intro hbreaks
  obtain ⟨error, hempty⟩ := exists_parse_empty host.nesting
  cases hbreaks with
  | undecodable hnone => cases h <;> grind [Holds]
  | excess htext hexcess => cases h <;> grind [Holds]
  | noHome hholds hlacks =>
    cases h with
    | object hholds' hanchor =>
      -- Both are about the same object, and its paths are either all anchored or not.
      obtain ⟨text, htext, hparse⟩ := hholds
      obtain ⟨text', htext', hparse'⟩ := hholds'
      have hfails := (needsHomeFor_anchorPaths host path.parent _).fails hlacks
      grind
    | _ => grind [Holds, Value.fields?]

theorem read_spec (hfile : host.find? path.toString = some (.file bytes executable)) :
    (∃ failure, read host path = .error failure ∧ Breaks host bytes failure) ∨
      ∃ project, read host path = .ok project ∧ ReadsAs host path bytes project := by
  rw [read, Host.readText, hfile]
  dsimp only
  cases hdecode : Text.Utf8.decode? bytes with
  | none => exact .inl ⟨_, rfl, .undecodable (by rw [contents?, hdecode]; rfl)⟩
  | some text =>
    have htext : contents? bytes = some (String.ofList (Text.strip (Host.unifyLineEnds text.toList))) := by
      rw [contents?, hdecode]
      rfl
    dsimp only
    rw [String.toList_ofList]
    -- Only an object goes on to its paths; every other text is reported, or has too much of something.
    split
    next hblank =>
      rw [hblank] at htext
      exact .inr ⟨_, rfl, .blank htext⟩
    next hne =>
      have hne : String.ofList (Text.strip (Host.unifyLineEnds text.toList)) ≠ "" := by simpa using hne
      split
      next hparse => exact .inr ⟨_, rfl, .malformed htext hne hparse⟩
      next hparse => exact .inl ⟨_, rfl, .excess htext hparse⟩
      next fields hparse =>
        have hholds : Holds host bytes fields := ⟨_, htext, hparse⟩
        cases hanchor : anchorPaths host path.parent fields with
        | ok config => exact .inr ⟨_, rfl, .object hholds hanchor⟩
        | error failure =>
          obtain ⟨rfl, hlacks⟩ := (needsHomeFor_anchorPaths host path.parent fields).eq_error_iff.1 hanchor
          exact .inl ⟨_, rfl, .noHome hholds hlacks⟩
      next value hobject hparse =>
        refine .inr ⟨_, rfl, .noObject htext hparse ?_⟩
        cases value with
        | object fields => exact absurd rfl (hobject fields)
        | _ => rfl

/-- Bytes are read in one way. -/
theorem ReadsAs.unique {other : ProjectConfig} (h : ReadsAs host path bytes project)
    (hother : ReadsAs host path bytes other) : project = other := by
  obtain ⟨error, hempty⟩ := exists_parse_empty host.nesting
  cases h <;> cases hother <;> grind [Holds, Value.fields?]

theorem read_eq_error_iff (hfile : host.find? path.toString = some (.file bytes executable)) :
    read host path = .error failure ↔ Breaks host bytes failure := by
  rcases read_spec hfile with ⟨other, hread, hbreaks⟩ | ⟨project, hread, hreads⟩
  · rw [hread, Except.error.injEq]
    exact ⟨fun heq => heq ▸ hbreaks, hbreaks.unique⟩
  · rw [hread]
    exact ⟨fun heq => (nomatch heq), fun hbreaks => absurd hbreaks hreads.not_breaks⟩

theorem read_eq_ok_iff (hfile : host.find? path.toString = some (.file bytes executable)) :
    read host path = .ok project ↔ ReadsAs host path bytes project := by
  rcases read_spec hfile with ⟨failure, hread, hbreaks⟩ | ⟨other, hread, hreads⟩
  · rw [hread]
    exact ⟨fun heq => (nomatch heq), fun hreads => absurd hbreaks hreads.not_breaks⟩
  · rw [hread, Except.ok.injEq]
    exact ⟨fun heq => heq ▸ hreads, hreads.unique⟩

theorem find_of_configPath (hpath : configPath host start = .ok (some path)) :
    find host start = read host path := by
  rw [find, hpath]
  rfl

theorem ReadsAs.path_eq (h : ReadsAs host path bytes project) : project.path = some path := by
  cases h <;> rfl

theorem ReadsAs.unambiguous (h : ReadsAs host path bytes project) (hconfig : project.config = some config) :
    (Value.object config).Unambiguous := by
  cases h with
  | object hholds hanchor =>
    obtain ⟨text, -, hparse⟩ := hholds
    cases hconfig
    exact unambiguous_of_anchorPaths (Json.parse_unambiguous hparse) hanchor
  | _ => cases hconfig

end ProjectConfig

/-! ## Settings over what is read -/

namespace Settings

open ProjectConfig (find configPath toLayer Breaks ReadsAs)

variable {host : Host} {start path : Path} {root : Option Path} {editor overrides : Value}
variable {readers : Readers} {project : ProjectConfig} {failure : Failure} {bytes : List UInt8}
  {executable : Bool}

theorem needsHomeFor_anchorIncludes (host : Host) (base : Option Path) (s : Settings) :
    host.NeedsHomeFor s.includePaths (s.anchorIncludes host base) :=
  (Host.NeedsHomeFor.mapM (host.needsHomeFor_anchor · base) s.includePaths).map _

theorem resolve_without_project :
    resolve host { root, editor, overrides, readers } =
      ((merge readers {} editor).merge readers overrides |>.anchorIncludes host root).map fun settings =>
        { settings } := by
  cases root <;> rfl

theorem complaintOf_of_path (h : project.path = some path) :
    complaintOf (some project) = project.problem.map (path, ·) := by
  cases hproblem : project.problem <;> simp [complaintOf, h, hproblem]

/-- A configuration that could not be read, or whose layer does not validate, changes no settings. -/
theorem applyProject_of_passed_over (h : ReadsAs host path bytes project)
    (hpassed : ∀ config, project.config = some config →
      isEffective readers (.object (toLayer config)) = false) :
    applyProject readers {} project = {} := by
  rw [applyProject]
  split
  next => rfl
  next config hconfig =>
    have hlayer := ProjectConfig.unambiguous_toLayer (h.unambiguous hconfig)
    exact merge_of_not_isEffective hlayer (hpassed config hconfig) {}

/-- A host with a project whose configuration file holds the bytes. -/
def hostWith (bytes : List UInt8) : Host :=
  Host.place {} ["work", configName] (.file bytes false)

/-- The directory of that project. -/
def workDirectory : Path := ⟨.absolute, ["work"]⟩

/-- The configuration file of that project. -/
def configFile : Path := workDirectory.child configName

theorem eq_ok_of_toOption {ε α : Type} {a : α} {result : Except ε α} (h : result.toOption = some a) :
    result = .ok a := by
  cases result with
  | error e => cases h
  | ok b => exact congrArg Except.ok (Option.some.inj h)

end Settings

end BasiliskServer
