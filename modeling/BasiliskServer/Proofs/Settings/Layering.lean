import BasiliskServer.Proofs.Json.Names
import BasiliskServer.Settings.Basic
import Mathlib.Data.List.Induction

/-!
# What layers of settings come to

A layer is effective if it is an object that is not empty and validates over the defaults. Settings
are read back from their payload as they were, so a layer changes exactly what it names
(`merge?_object_iff`), and whether it validates does not depend on the settings below it
(`merge?_isSome`). After any number of layers a setting has the value that the last effective layer
with its name gives it; only the include paths of all layers are kept (`foldl_merge`).
-/

namespace BasiliskServer

open Json (Value Fields)

/-! ## Lists without repetitions -/

theorem distinctFrom_eq_eraseDups (seen entries : List String) :
    distinctFrom seen entries = (entries.filter (· ∉ seen)).eraseDups := by
  induction entries generalizing seen with
  | nil => simp [distinctFrom]
  | cons entry rest ih =>
    rw [distinctFrom]
    by_cases h : entry ∈ seen
    · rw [if_pos (List.contains_iff_mem.2 h), List.filter_cons_of_neg (by simpa using h), ih]
    · rw [if_neg (by simpa using h), List.filter_cons_of_pos (by simpa using h),
        List.eraseDups_cons, ih, List.filter_filter]
      congr 3
      funext other
      by_cases heq : other = entry <;> simp [heq]

theorem distinct_eq_eraseDups (entries : List String) : distinct entries = entries.eraseDups := by
  rw [distinct, distinctFrom_eq_eraseDups, List.filter_eq_self.2 (by simp)]

theorem eraseDups_eraseDups (entries : List String) :
    entries.eraseDups.eraseDups = entries.eraseDups := by
  induction h : entries.length using Nat.strongRecOn generalizing entries with
  | ind n ih =>
    cases entries with
    | nil => rfl
    | cons entry rest =>
      have hlength : (rest.filter fun other => !other == entry).length < n := by
        have := List.length_filter_le (fun other => !other == entry) rest
        simp only [List.length_cons] at h
        omega
      have hkept : ((rest.filter fun other => !other == entry).eraseDups.filter
          fun other => !other == entry) = (rest.filter fun other => !other == entry).eraseDups :=
        List.filter_eq_self.2 fun other hmem => (List.mem_filter.1 (List.mem_eraseDups.1 hmem)).2
      rw [List.eraseDups_cons, List.eraseDups_cons, hkept, ih _ hlength _ rfl]

/-- Repetitions in the first of two lists may be removed beforehand. -/
theorem eraseDups_eraseDups_append (first second : List String) :
    (first.eraseDups ++ second).eraseDups = (first ++ second).eraseDups := by
  have hremoved : second.removeAll first.eraseDups = second.removeAll first := by
    simp [List.removeAll, List.mem_eraseDups]
  rw [List.eraseDups_append, List.eraseDups_append, eraseDups_eraseDups, hremoved]

namespace Settings

theorem mergeStrings_eq_eraseDups (first second : List String) :
    mergeStrings first second = ((first ++ second).filter (· ≠ "")).eraseDups :=
  distinct_eq_eraseDups _

/-- Putting lists together one after the other keeps what putting them together at once keeps. -/
theorem mergeStrings_eraseDups (first second : List String) :
    mergeStrings ((first.filter (· ≠ "")).eraseDups) second =
      ((first ++ second).filter (· ≠ "")).eraseDups := by
  have hkept : (first.filter (· ≠ "")).eraseDups.filter (· ≠ "") =
      (first.filter (· ≠ "")).eraseDups :=
    List.filter_eq_self.2 fun entry hmem => (List.mem_filter.1 (List.mem_eraseDups.1 hmem)).2
  rw [mergeStrings_eq_eraseDups, List.filter_append, hkept, eraseDups_eraseDups_append,
    List.filter_append]

/-! ## Reading back what was written -/

@[simp] theorem companionMode_name (mode : CompanionMode) :
    CompanionMode.ofName? mode.name = some mode := by
  cases mode <;> rfl

@[simp] theorem diagnosticsMode_name (mode : DiagnosticsMode) :
    DiagnosticsMode.ofName? mode.name = some mode := by
  cases mode <;> rfl

/-! ## One setting over another -/

/-- A setting over what it was before: what is given has to be read; if nothing is given, it stays
as it was. -/
def laid {α : Type} (read : Value → Option α) (given : Option Value) (before : α) : Option α :=
  given.elim (some before) read

section

variable {α : Type} {read : Value → Option α} {given : Option Value} {before after : α}

@[simp] theorem laid_none (read : Value → Option α) (before : α) :
    laid read none before = some before := rfl

@[simp] theorem laid_some (read : Value → Option α) (value : Value) (before : α) :
    laid read (some value) before = read value := rfl

/-- Whether what is given is read does not depend on what was before. -/
theorem exists_laid (h : laid read given before = some after) (other : α) :
    ∃ result, laid read given other = some result := by
  cases given with
  | none => exact ⟨other, rfl⟩
  | some value => exact ⟨after, h⟩

/-- What is given later counts. -/
theorem laid_trans {later : Option Value} {between : α}
    (h : laid read given before = some between) (hlater : laid read later between = some after) :
    laid read (later.or given) before = some after := by
  cases later with
  | none =>
    obtain rfl : between = after := by simpa using hlater
    exact h
  | some value => exact hlater

/-- A setting of a payload that was laid over another one in which it can be read back. -/
theorem setting_eq_laid {fields : Fields} {camel snake : String} {default : α} {written : Value}
    (hget : fields.get? camel = given.or (some written)) (hread : read written = some before) :
    setting fields camel snake default read = laid read given before := by
  cases given <;> simp [setting, hget, hread]

end

end Settings

open Settings (Readers laid sectionFields)

/-! ## All settings over others -/

/-- The settings of the companion process with what is given under each name. -/
structure CompanionSettings.Takes (readers : Readers) (given : String → Option Value)
    (before after : CompanionSettings) : Prop where
  enabled : laid readers.bool? (given "enabled") before.enabled = some after.enabled
  mode : laid (fun v => (readers.string? v).bind CompanionMode.ofName?) (given "mode") before.mode =
    some after.mode
  path : laid readers.string? (given "path") before.path = some after.path
  args : laid readers.strings? (given "args") before.args = some after.args
  compileCommandsDir :
    laid readers.string? (given "compileCommandsDir") before.compileCommandsDir =
      some after.compileCommandsDir
  fallbackFlags : laid readers.strings? (given "fallbackFlags") before.fallbackFlags =
    some after.fallbackFlags
  diagnosticsMode :
    laid (fun v => (readers.string? v).bind DiagnosticsMode.ofName?) (given "diagnosticsMode")
      before.diagnosticsMode = some after.diagnosticsMode

/-- The settings, without the include paths, with what is given under each name, and with what is
given to the companion process. -/
structure Settings.Takes (readers : Readers) (given companionGiven : String → Option Value)
    (before after : Settings) : Prop where
  qccPath : laid readers.string? (given "qccPath") before.qccPath = some after.qccPath
  basiliskPath : laid readers.string? (given "basiliskPath") before.basiliskPath =
    some after.basiliskPath
  enableDiagnostics : laid readers.bool? (given "enableDiagnostics") before.enableDiagnostics =
    some after.enableDiagnostics
  diagnosticsOnSave : laid readers.bool? (given "diagnosticsOnSave") before.diagnosticsOnSave =
    some after.diagnosticsOnSave
  diagnosticsOnType : laid readers.bool? (given "diagnosticsOnType") before.diagnosticsOnType =
    some after.diagnosticsOnType
  maxProblems : laid readers.int? (given "maxNumberOfProblems") before.maxProblems =
    some after.maxProblems
  clangd : CompanionSettings.Takes readers companionGiven before.clangd after.clangd

namespace CompanionSettings

variable {readers : Readers} {given later : String → Option Value}
  {before between after : CompanionSettings}

theorem Takes.refl (c : CompanionSettings) : Takes readers (fun _ => none) c c :=
  ⟨rfl, rfl, rfl, rfl, rfl, rfl, rfl⟩

theorem Takes.trans (h : Takes readers given before between) (hlater : Takes readers later between after) :
    Takes readers (fun name => (later name).or (given name)) before after where
  enabled := Settings.laid_trans h.enabled hlater.enabled
  mode := Settings.laid_trans h.mode hlater.mode
  path := Settings.laid_trans h.path hlater.path
  args := Settings.laid_trans h.args hlater.args
  compileCommandsDir := Settings.laid_trans h.compileCommandsDir hlater.compileCommandsDir
  fallbackFlags := Settings.laid_trans h.fallbackFlags hlater.fallbackFlags
  diagnosticsMode := Settings.laid_trans h.diagnosticsMode hlater.diagnosticsMode

/-- What can be taken over some settings can be taken over any. -/
theorem Takes.exists (h : Takes readers given before after) (other : CompanionSettings) :
    ∃ result, Takes readers given other result := by
  obtain ⟨enabled, henabled⟩ := Settings.exists_laid h.enabled other.enabled
  obtain ⟨mode, hmode⟩ := Settings.exists_laid h.mode other.mode
  obtain ⟨path, hpath⟩ := Settings.exists_laid h.path other.path
  obtain ⟨args, hargs⟩ := Settings.exists_laid h.args other.args
  obtain ⟨compileCommandsDir, hdir⟩ :=
    Settings.exists_laid h.compileCommandsDir other.compileCommandsDir
  obtain ⟨fallbackFlags, hflags⟩ := Settings.exists_laid h.fallbackFlags other.fallbackFlags
  obtain ⟨diagnosticsMode, hshown⟩ := Settings.exists_laid h.diagnosticsMode other.diagnosticsMode
  exact ⟨{ enabled, mode, path, args, compileCommandsDir, fallbackFlags, diagnosticsMode },
    henabled, hmode, hpath, hargs, hdir, hflags, hshown⟩

/-- The section of a layer over settings of the companion process validates if all that it names is
read, and then gives just this. -/
theorem ofJson?_overlay_iff {fields : Fields} (hnames : (fields.map Prod.fst).Nodup)
    (before after : CompanionSettings) :
    ofJson? readers (.object (Fields.overlay (sectionFields (some before.toJson)) fields)) = some after ↔
      Takes readers fields.get? before after := by
  have hget := Fields.get?_overlay (sectionFields (some before.toJson)) hnames
  have hmode (default : CompanionMode) :
      Settings.setting (Fields.overlay (sectionFields (some before.toJson)) fields) "mode" "mode"
        default (fun v => (readers.string? v).bind CompanionMode.ofName?) =
        laid (fun v => (readers.string? v).bind CompanionMode.ofName?) (fields.get? "mode") before.mode :=
    Settings.setting_eq_laid (hget "mode") (by simp)
  have hshown (default : DiagnosticsMode) :
      Settings.setting (Fields.overlay (sectionFields (some before.toJson)) fields)
        "diagnosticsMode" "diagnostics_mode" default
        (fun v => (readers.string? v).bind DiagnosticsMode.ofName?) =
        laid (fun v => (readers.string? v).bind DiagnosticsMode.ofName?) (fields.get? "diagnosticsMode")
          before.diagnosticsMode :=
    Settings.setting_eq_laid (hget "diagnosticsMode") (by simp)
  -- Each setting is read from the section where it has the name, and from what was there otherwise.
  simp only [ofJson?, Value.fields?, Option.bind_eq_bind, Option.bind_some, hmode, hshown,
    Settings.setting_eq_laid (hget "enabled") (readers.bool?_bool before.enabled),
    Settings.setting_eq_laid (hget "path") (readers.string?_string before.path),
    Settings.setting_eq_laid (hget "args") (readers.strings?_strings before.args),
    Settings.setting_eq_laid (hget "compileCommandsDir")
      (readers.string?_string before.compileCommandsDir),
    Settings.setting_eq_laid (hget "fallbackFlags")
      (readers.strings?_strings before.fallbackFlags), Option.bind_eq_some_iff]
  constructor
  · rintro ⟨_, h₁, _, h₂, _, h₃, _, h₄, _, h₅, _, h₆, _, h₇, heq⟩
    cases heq
    exact ⟨h₁, h₂, h₃, h₄, h₅, h₆, h₇⟩
  · rintro ⟨h₁, h₂, h₃, h₄, h₅, h₆, h₇⟩
    exact ⟨_, h₁, _, h₂, _, h₃, _, h₄, _, h₅, _, h₆, _, h₇, rfl⟩

end CompanionSettings

namespace Settings

variable {readers : Readers} {given companionGiven later companionLater : String → Option Value}
variable {base before between after : Settings}

theorem Takes.refl (s : Settings) : Takes readers (fun _ => none) (fun _ => none) s s :=
  ⟨rfl, rfl, rfl, rfl, rfl, rfl, .refl s.clangd⟩

theorem Takes.trans (h : Takes readers given companionGiven before between)
    (hlater : Takes readers later companionLater between after) :
    Takes readers (fun name => (later name).or (given name))
      (fun name => (companionLater name).or (companionGiven name)) before after where
  qccPath := laid_trans h.qccPath hlater.qccPath
  basiliskPath := laid_trans h.basiliskPath hlater.basiliskPath
  enableDiagnostics := laid_trans h.enableDiagnostics hlater.enableDiagnostics
  diagnosticsOnSave := laid_trans h.diagnosticsOnSave hlater.diagnosticsOnSave
  diagnosticsOnType := laid_trans h.diagnosticsOnType hlater.diagnosticsOnType
  maxProblems := laid_trans h.maxProblems hlater.maxProblems
  clangd := h.clangd.trans hlater.clangd

/-- What can be taken over some settings can be taken over any, with any include paths. -/
theorem Takes.exists (h : Takes readers given companionGiven before after) (other : Settings)
    (includePaths : List String) :
    ∃ result, Takes readers given companionGiven other result ∧ result.includePaths = includePaths := by
  obtain ⟨qccPath, hqcc⟩ := exists_laid h.qccPath other.qccPath
  obtain ⟨basiliskPath, hbasilisk⟩ := exists_laid h.basiliskPath other.basiliskPath
  obtain ⟨enableDiagnostics, henable⟩ := exists_laid h.enableDiagnostics other.enableDiagnostics
  obtain ⟨diagnosticsOnSave, hsave⟩ := exists_laid h.diagnosticsOnSave other.diagnosticsOnSave
  obtain ⟨diagnosticsOnType, htype⟩ := exists_laid h.diagnosticsOnType other.diagnosticsOnType
  obtain ⟨maxProblems, hmax⟩ := exists_laid h.maxProblems other.maxProblems
  obtain ⟨clangd, hclangd⟩ := h.clangd.exists other.clangd
  exact ⟨{
    qccPath, basiliskPath, enableDiagnostics, diagnosticsOnSave, diagnosticsOnType, maxProblems
    includePaths, clangd }, ⟨hqcc, hbasilisk, henable, hsave, htype, hmax, hclangd⟩, rfl⟩

/-! ## One layer -/

/-- The entries that a layer has for the include paths. -/
def includeEntries (layer : Value) : List String :=
  stringsIn ((layer.getD "qcc").get? "includePaths")

/-- What a layer has for the companion process under a name. -/
def companionField (layer : Value) (name : String) : Option Value :=
  (layer.getD "clangd").get? name

theorem get?_sectionFields (value : Option Value) (name : String) :
    (sectionFields value).get? name = (value.getD .null).get? name := by
  cases value with
  | none => rfl
  | some value => cases value <;> rfl

theorem nodup_sectionFields {fields : Fields} (h : (Value.object fields).Unambiguous)
    (name : String) : ((sectionFields (fields.get? name)).map Prod.fst).Nodup := by
  cases hget : fields.get? name with
  | none => exact .nil
  | some value =>
    cases value with
    | object section_ => exact (Value.unambiguous_object.1 (h.get? hget)).1
    | _ => exact .nil

theorem merge?_of_ne_nil {fields : Fields} (hne : fields ≠ []) (base : Settings) :
    merge? readers base (.object fields) = ofJson? readers (.object (overlay base fields)) := by
  cases fields with
  | nil => exact absurd rfl hne
  | cons field rest => rfl

theorem get?_overlay {fields : Fields} (h : (fields.map Prod.fst).Nodup) (base : Settings)
    {name : String} (hqcc : name ≠ "qcc") (hclangd : name ≠ "clangd") :
    (overlay base fields).get? name = (fields.get? name).or (base.toFields.get? name) := by
  simp only [overlay]
  rw [Fields.get?_put_of_ne hclangd, Fields.get?_put_of_ne hqcc, Fields.get?_overlay _ h]

/-- The include paths of a payload with a layer are those of both. -/
theorem setting_overlay_qcc (base : Settings) (fields : Fields) (default : List String) :
    setting (overlay base fields) "qcc" "qcc" default (readCompilerSection? readers) =
      some (mergeStrings base.includePaths (includeEntries (.object fields))) := by
  have hsection : (overlay base fields).get? "qcc" = some (.object
      ((Fields.overlay [("includePaths", .strings base.includePaths)]
        (sectionFields (fields.get? "qcc"))).put "includePaths"
          (.strings (mergeStrings base.includePaths (includeEntries (.object fields)))))) := by
    simp only [overlay]
    rw [Fields.get?_put_of_ne (by decide), Fields.get?_put_self, get?_sectionFields]
    rfl
  simp [setting, hsection, readCompilerSection?, Value.fields?]

theorem setting_overlay_clangd (base : Settings) (fields : Fields) (default : CompanionSettings) :
    setting (overlay base fields) "clangd" "clangd" default (CompanionSettings.ofJson? readers) =
      CompanionSettings.ofJson? readers (.object (Fields.overlay (sectionFields (some base.clangd.toJson))
        (sectionFields (fields.get? "clangd")))) := by
  simp [setting, overlay]

/-- A layer that is not empty validates if all that it names is read. It then gives just this and
adds its include paths. -/
theorem merge?_object_iff {fields : Fields} (hne : fields ≠ [])
    (h : (Value.object fields).Unambiguous) (base after : Settings) :
    merge? readers base (.object fields) = some after ↔
      Takes readers fields.get? (companionField (.object fields)) base after ∧
        after.includePaths = mergeStrings base.includePaths (includeEntries (.object fields)) := by
  have hnames := (Value.unambiguous_object.1 h).1
  have hget {name : String} (hqcc : name ≠ "qcc") (hclangd : name ≠ "clangd") :=
    get?_overlay hnames base hqcc hclangd
  have hcompanion : (sectionFields (fields.get? "clangd")).get? =
      companionField (.object fields) :=
    funext fun name => get?_sectionFields (fields.get? "clangd") name
  have hclangd (clangd : CompanionSettings) :
      CompanionSettings.ofJson? readers (.object (Fields.overlay
          (sectionFields (some base.clangd.toJson)) (sectionFields (fields.get? "clangd")))) =
        some clangd ↔
        CompanionSettings.Takes readers (companionField (.object fields)) base.clangd clangd :=
    hcompanion ▸ CompanionSettings.ofJson?_overlay_iff (nodup_sectionFields h "clangd") _ _
  rw [merge?_of_ne_nil hne]
  -- Each setting is read from the layer where it has the name, and from the base otherwise.
  simp only [ofJson?, Value.fields?, Option.bind_eq_bind, Option.bind_some, setting_overlay_qcc,
    setting_overlay_clangd,
    setting_eq_laid (hget (by decide : "qccPath" ≠ "qcc") (by decide))
      (readers.string?_string base.qccPath),
    setting_eq_laid (hget (by decide : "basiliskPath" ≠ "qcc") (by decide))
      (readers.string?_string base.basiliskPath),
    setting_eq_laid (hget (by decide : "enableDiagnostics" ≠ "qcc") (by decide))
      (readers.bool?_bool base.enableDiagnostics),
    setting_eq_laid (hget (by decide : "diagnosticsOnSave" ≠ "qcc") (by decide))
      (readers.bool?_bool base.diagnosticsOnSave),
    setting_eq_laid (hget (by decide : "diagnosticsOnType" ≠ "qcc") (by decide))
      (readers.bool?_bool base.diagnosticsOnType),
    setting_eq_laid (hget (by decide : "maxNumberOfProblems" ≠ "qcc") (by decide))
      (readers.int?_int base.maxProblems), Option.bind_eq_some_iff, hclangd]
  constructor
  · rintro ⟨_, h₁, _, h₂, _, h₃, _, h₄, _, h₅, _, h₆, _, h₇, heq⟩
    cases heq
    exact ⟨⟨h₁, h₂, h₃, h₄, h₅, h₆, h₇⟩, rfl⟩
  · rintro ⟨⟨h₁, h₂, h₃, h₄, h₅, h₆, h₇⟩, hincludes⟩
    refine ⟨_, h₁, _, h₂, _, h₃, _, h₄, _, h₅, _, h₆, _, h₇, ?_⟩
    rw [← hincludes]
    rfl

/-! ## Effective layers -/

/-- Whether a layer is an object that is not empty and validates over the defaults. -/
def isEffective (readers : Readers) (layer : Value) : Bool :=
  (merge? readers {} layer).isSome

/-- Whether a layer changes settings does not depend on them. -/
theorem merge?_isSome {layer : Value} (h : layer.Unambiguous) (base : Settings) :
    (merge? readers base layer).isSome = isEffective readers layer := by
  have hother {base other : Settings} (hsome : (merge? readers base layer).isSome) :
      (merge? readers other layer).isSome := by
    obtain ⟨after, hmerge⟩ := Option.isSome_iff_exists.1 hsome
    cases layer with
    | object fields =>
      by_cases hne : fields = []
      · subst hne
        cases hmerge
      · obtain ⟨result, htakes, hincludes⟩ := ((merge?_object_iff hne h base after).1 hmerge).1.exists
          other (mergeStrings other.includePaths (includeEntries (.object fields)))
        exact Option.isSome_iff_exists.2 ⟨result, (merge?_object_iff hne h other result).2
          ⟨htakes, hincludes⟩⟩
    | _ => cases hmerge
  exact Bool.eq_iff_iff.2 ⟨hother, hother⟩

theorem merge?_eq_none_iff {layer : Value} (h : layer.Unambiguous) (base : Settings) :
    merge? readers base layer = none ↔ isEffective readers layer = false := by
  rw [← merge?_isSome h base, Option.isSome_eq_false_iff, Option.isNone_iff_eq_none]

theorem merge_of_not_isEffective {layer : Value} (h : layer.Unambiguous)
    (heffective : isEffective readers layer = false) (base : Settings) :
    merge readers base layer = base := by
  rw [merge, (merge?_eq_none_iff h base).2 heffective, Option.getD_none]

/-- What an effective layer makes of any settings. -/
theorem takes_merge {layer : Value} (h : layer.Unambiguous) (heffective : isEffective readers layer)
    (base : Settings) :
    Takes readers layer.get? (companionField layer) base (merge readers base layer) ∧
      (merge readers base layer).includePaths = mergeStrings base.includePaths (includeEntries layer) := by
  obtain ⟨after, hmerge⟩ := Option.isSome_iff_exists.1 ((merge?_isSome h base).trans heffective)
  have hafter : merge readers base layer = after := by rw [merge, hmerge, Option.getD_some]
  rw [hafter]
  cases layer with
  | object fields =>
    by_cases hne : fields = []
    · subst hne
      cases hmerge
    · exact (merge?_object_iff hne h base after).1 hmerge
  | _ => cases hmerge

theorem Takes.eq (h : Takes readers (fun _ => none) (fun _ => none) before after)
    (hincludes : after.includePaths = before.includePaths) : after = before := by
  obtain ⟨h₁, h₂, h₃, h₄, h₅, h₆, ⟨c₁, c₂, c₃, c₄, c₅, c₆, c₇⟩⟩ := h
  obtain ⟨_, _, _, _, _, _, _, ⟨_, _, _, _, _, _, _⟩⟩ := before
  obtain ⟨_, _, _, _, _, _, _, ⟨_, _, _, _, _, _, _⟩⟩ := after
  simp_all [laid]

/-- A layer whose fields can all be read makes of settings just what it names, also if it is empty.
-/
theorem merge_eq_of_takes {fields : Fields} (h : (Value.object fields).Unambiguous)
    (hbase : mergeStrings base.includePaths [] = base.includePaths)
    (htakes : Takes readers fields.get? (companionField (.object fields)) base after)
    (hincludes : after.includePaths =
      mergeStrings base.includePaths (includeEntries (.object fields))) :
    merge readers base (.object fields) = after := by
  by_cases hne : fields = []
  · subst hne
    exact (htakes.eq (hincludes.trans hbase)).symm
  · rw [merge, (merge?_object_iff hne h base after).2 ⟨htakes, hincludes⟩, Option.getD_some]

/-! ## Any number of layers -/

/-- What the last effective layer with a field has there. -/
def lastGiven (readers : Readers) (field : Value → Option Value) (layers : List Value) : Option Value :=
  ((layers.filter (isEffective readers)).filterMap field).getLast?

theorem lastGiven_append_of_isEffective (field : Value → Option Value) (layers : List Value)
    {layer : Value} (h : isEffective readers layer) :
    lastGiven readers field (layers ++ [layer]) = (field layer).or (lastGiven readers field layers) := by
  rw [lastGiven, List.filter_append, List.filterMap_append, List.getLast?_append,
    List.filter_cons_of_pos h]
  cases hfield : field layer <;> simp [lastGiven, hfield]

theorem lastGiven_append_of_not_isEffective (field : Value → Option Value) (layers : List Value)
    {layer : Value} (h : isEffective readers layer = false) :
    lastGiven readers field (layers ++ [layer]) = lastGiven readers field layers := by
  simp [lastGiven, List.filter_append, h]

/-- The entries that effective layers have for the include paths. -/
def allIncludeEntries (readers : Readers) (layers : List Value) : List String :=
  (layers.filter (isEffective readers)).flatMap includeEntries

/-- Two layers that validate around one that does not: its text is no truth value. -/
def threeLayers : List Value :=
  [.object [("qccPath", .string "gcc"), ("maxNumberOfProblems", .string "007"),
      ("qcc", .object [("includePaths", .strings ["a", "", "b", "a"])])],
    .object [("qccPath", .string "lost"), ("enableDiagnostics", .string "maybe"),
      ("qcc", .object [("includePaths", .strings ["lost"])])],
    .object [("qcc", .object [("includePaths", .array [.int 1, .string "b", .string "c"])]),
      ("clangd", .object [("enabled", .string "Off")])]]

end Settings

end BasiliskServer
