import BasiliskServer.Settings.Coerce

/-!
# Settings

What can be set: where the tools are, when diagnostics are computed, and how the companion process
is run. A payload is an object with camel-case names; a name in snake case counts where the
camel-case name is absent, and names that are not known are ignored.
-/

namespace BasiliskServer

open Json (Value Fields)

/-- Which diagnostics of the companion process are shown. -/
inductive DiagnosticsMode where
  /-- All of them. -/
  | all
  /-- All but noise. -/
  | filtered
  /-- None. -/
  | none
  deriving DecidableEq, Repr

/-- The name of a way of treating diagnostics. -/
def DiagnosticsMode.name : DiagnosticsMode → String
  | .all => "all"
  | .filtered => "filtered"
  | .none => "none"

/-- Reads a way of treating diagnostics. -/
def DiagnosticsMode.ofName? : String → Option DiagnosticsMode
  | "all" => some .all
  | "filtered" => some .filtered
  | "none" => some .none
  | _ => Option.none

/-- What the companion process is used for. -/
inductive CompanionMode where
  /-- Requests of the editor are passed on to it. -/
  | proxy
  /-- It is not asked. -/
  | augment
  deriving DecidableEq, Repr

/-- The name of a use of the companion process. -/
def CompanionMode.name : CompanionMode → String
  | .proxy => "proxy"
  | .augment => "augment"

/-- Reads a use of the companion process. -/
def CompanionMode.ofName? : String → Option CompanionMode
  | "proxy" => some .proxy
  | "augment" => some .augment
  | _ => none

/-- How the companion process is run. -/
structure CompanionSettings where
  /-- Whether it is run at all. -/
  enabled : Bool := true
  /-- What it is used for. -/
  mode : CompanionMode := .proxy
  /-- The program. -/
  path : String := "clangd"
  /-- Its arguments. -/
  args : List String := []
  /-- Where it finds compile commands. -/
  compileCommandsDir : String := ""
  /-- Flags for files without compile commands. -/
  fallbackFlags : List String := []
  /-- Which of its diagnostics are shown. -/
  diagnosticsMode : DiagnosticsMode := .filtered
  deriving DecidableEq, Repr

/-- All settings. -/
structure Settings where
  /-- The compiler. -/
  qccPath : String := "qcc"
  /-- The root of the solver library. -/
  basiliskPath : String := ""
  /-- Whether the compiler is used for diagnostics. -/
  enableDiagnostics : Bool := true
  /-- Whether documents are checked when saved. -/
  diagnosticsOnSave : Bool := true
  /-- Whether documents are checked while typing. -/
  diagnosticsOnType : Bool := false
  /-- How many problems are shown for a document. -/
  maxProblems : Int := 100
  /-- Where the compiler looks for headers. -/
  includePaths : List String := []
  /-- How the companion process is run. -/
  clangd : CompanionSettings := {}
  deriving DecidableEq, Repr

namespace Settings

/-- A field by its camel-case name, or by its snake-case name where that is absent. A field that
is absent has its default; one that is not understood makes the payload invalid. -/
def setting {α : Type} (fields : Fields) (camel snake : String) (default : α)
    (read : Value → Option α) : Option α :=
  match fields.get? camel with
  | some value => read value
  | none =>
    match fields.get? snake with
    | some value => read value
    | none => some default

end Settings

/-- Reads the settings of the companion process. -/
def CompanionSettings.ofJson? (readers : Settings.Readers) (value : Value) :
    Option CompanionSettings := do
  let fields ← value.fields?
  let d : CompanionSettings := {}
  let enabled ← Settings.setting fields "enabled" "enabled" d.enabled readers.bool?
  let mode ← Settings.setting fields "mode" "mode" d.mode
    fun v => (readers.string? v).bind CompanionMode.ofName?
  let path ← Settings.setting fields "path" "path" d.path readers.string?
  let args ← Settings.setting fields "args" "args" d.args readers.strings?
  let compileCommandsDir ← Settings.setting fields "compileCommandsDir" "compile_commands_dir"
    d.compileCommandsDir readers.string?
  let fallbackFlags ← Settings.setting fields "fallbackFlags" "fallback_flags" d.fallbackFlags
    readers.strings?
  let diagnosticsMode ← Settings.setting fields "diagnosticsMode" "diagnostics_mode"
    d.diagnosticsMode fun v => (readers.string? v).bind DiagnosticsMode.ofName?
  return { enabled, mode, path, args, compileCommandsDir, fallbackFlags, diagnosticsMode }

/-- Writes the settings of the companion process. -/
def CompanionSettings.toJson (c : CompanionSettings) : Value :=
  .object [("enabled", .bool c.enabled), ("mode", .string c.mode.name), ("path", .string c.path),
    ("args", .strings c.args), ("compileCommandsDir", .string c.compileCommandsDir),
    ("fallbackFlags", .strings c.fallbackFlags),
    ("diagnosticsMode", .string c.diagnosticsMode.name)]

namespace Settings

/-- Reads where the compiler looks for headers. -/
def readCompilerSection? (readers : Readers) (value : Value) : Option (List String) := do
  setting (← value.fields?) "includePaths" "include_paths" [] readers.strings?

/-- Reads settings. -/
def ofJson? (readers : Readers) (value : Value) : Option Settings := do
  let fields ← value.fields?
  let d : Settings := {}
  let qccPath ← setting fields "qccPath" "qcc_path" d.qccPath readers.string?
  let basiliskPath ← setting fields "basiliskPath" "basilisk_path" d.basiliskPath readers.string?
  let enableDiagnostics ← setting fields "enableDiagnostics" "enable_diagnostics"
    d.enableDiagnostics readers.bool?
  let diagnosticsOnSave ← setting fields "diagnosticsOnSave" "diagnostics_on_save"
    d.diagnosticsOnSave readers.bool?
  let diagnosticsOnType ← setting fields "diagnosticsOnType" "diagnostics_on_type"
    d.diagnosticsOnType readers.bool?
  let maxProblems ← setting fields "maxNumberOfProblems" "max_number_of_problems" d.maxProblems
    readers.int?
  let includePaths ← setting fields "qcc" "qcc" d.includePaths (readCompilerSection? readers)
  let clangd ← setting fields "clangd" "clangd" d.clangd (CompanionSettings.ofJson? readers)
  return {
    qccPath, basiliskPath, enableDiagnostics, diagnosticsOnSave, diagnosticsOnType, maxProblems
    includePaths, clangd }

/-- The fields of a payload with all settings. -/
def toFields (s : Settings) : Fields :=
  [("qccPath", .string s.qccPath), ("basiliskPath", .string s.basiliskPath),
   ("enableDiagnostics", .bool s.enableDiagnostics),
   ("diagnosticsOnSave", .bool s.diagnosticsOnSave),
   ("diagnosticsOnType", .bool s.diagnosticsOnType),
   ("maxNumberOfProblems", .int s.maxProblems),
   ("qcc", .object [("includePaths", .strings s.includePaths)]),
   ("clangd", s.clangd.toJson)]

/-- Writes settings. -/
def toJson (s : Settings) : Value :=
  .object s.toFields

end Settings

/-!
## Layers of settings

Settings are put together from layers: defaults, the project, the editor, the command line. A layer
replaces the settings that it names, adds to the include paths, and changes single settings of the
companion process. A layer that does not validate changes nothing.
-/

/-- A list without repetitions, every entry where it first stands; `seen` holds entries to leave
out. -/
def distinctFrom (seen : List String) : List String → List String
  | [] => []
  | entry :: rest =>
    if seen.contains entry then distinctFrom seen rest
    else entry :: distinctFrom (entry :: seen) rest

/-- A list without repetitions, every entry where it first stands. -/
def distinct (entries : List String) : List String :=
  distinctFrom [] entries

namespace Settings

/-- Two lists one after the other, without empty entries and repetitions. -/
def mergeStrings (first second : List String) : List String :=
  distinct ((first ++ second).filter (· ≠ ""))

/-- The fields of an object; anything else has none. -/
def sectionFields (value : Option Value) : Fields :=
  (value.bind Value.fields?).getD []

/-- The texts in a list; anything else has none. -/
def stringsIn (value : Option Value) : List String :=
  ((value.bind Value.items?).getD []).filterMap Value.string?

/-- The payload of settings with a layer laid over it. -/
def overlay (base : Settings) (layer : Fields) : Fields :=
  let compiler := sectionFields (layer.get? "qcc")
  let includePaths := mergeStrings base.includePaths (stringsIn (compiler.get? "includePaths"))
  let compilerSection :=
    ((Fields.overlay [("includePaths", .strings base.includePaths)] compiler).put "includePaths"
      (.strings includePaths))
  let companion := Fields.overlay (sectionFields (some base.clangd.toJson))
    (sectionFields (layer.get? "clangd"))
  ((Fields.overlay base.toFields layer).put "qcc" (.object compilerSection)).put "clangd"
    (.object companion)

/-- Lays a layer over settings; the answer is none if the layer changes nothing because it is not
an object, is empty or does not validate. -/
def merge? (readers : Readers) (base : Settings) (layer : Value) : Option Settings :=
  match layer with
  | .object [] => none
  | .object fields => ofJson? readers (.object (overlay base fields))
  | _ => none

/-- Lays a layer over settings. -/
def merge (readers : Readers) (base : Settings) (layer : Value) : Settings :=
  (merge? readers base layer).getD base

end Settings

end BasiliskServer
