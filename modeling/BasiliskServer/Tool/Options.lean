import BasiliskServer.Settings.Resolve

/-!
# Options of the command line

What can be set on the command line, and the settings that result from it together with the
project configuration. A configuration that is named explicitly and cannot be used ends the run;
one that was found is reported only on request.
-/

namespace BasiliskServer.Tool

open Files (Host Path)
open Json (Value Fields)

/-- What was given on the command line. -/
structure Options where
  /-- How many problems are reported. -/
  maxProblems : Option Int := none
  /-- The compiler. -/
  qccPath : Option String := none
  /-- The root of the solver library. -/
  basiliskPath : Option String := none
  /-- The configuration file. -/
  projectConfig : Option String := none
  /-- Whether the compiler is used. -/
  enableQcc : Option Bool := none
  /-- Further include paths of the compiler. -/
  qccIncludes : List String := []
  /-- Whether the companion process is used. -/
  clangdEnabled : Option Bool := none
  /-- The companion program. -/
  clangdPath : Option String := none
  /-- Its arguments. -/
  clangdArgs : List String := []
  /-- Where it finds compile commands. -/
  compileCommandsDir : Option String := none
  /-- Its flags for files without compile commands. -/
  fallbackFlags : List String := []
  /-- Which of its diagnostics are reported. -/
  clangdDiagnostics : Option DiagnosticsMode := none
  /-- Whether configuration problems are reported. -/
  verbose : Bool := false
  deriving DecidableEq, Repr

namespace Options

/-- A field that is present if its value was given. -/
def given {α : Type} (name : String) (write : α → Value) (value : Option α) : Fields :=
  match value with
  | none => []
  | some a => [(name, write a)]

/-- A field that is present if its list is not empty. -/
def givenList (name : String) (entries : List String) : Fields :=
  if entries.isEmpty then [] else [(name, .strings entries)]

/-- The layer of settings for the companion process. -/
def companionLayer (options : Options) : Fields :=
  given "enabled" .bool options.clangdEnabled ++
    given "path" .string options.clangdPath ++
    givenList "args" options.clangdArgs ++
    given "compileCommandsDir" .string options.compileCommandsDir ++
    givenList "fallbackFlags" options.fallbackFlags ++
    given "diagnosticsMode" (fun mode => .string mode.name) options.clangdDiagnostics

/-- The layer of settings that the options make; paths are anchored at the working directory. -/
def toLayer (host : Host) (options : Options) (cwd : Path) : Except Failure Fields := do
  let includePaths ← options.qccIncludes.mapM (host.anchorAt · cwd)
  return given "qccPath" .string options.qccPath ++
    given "basiliskPath" .string options.basiliskPath ++
    given "enableDiagnostics" .bool options.enableQcc ++
    given "maxNumberOfProblems" .int (options.maxProblems.filter (0 < ·)) ++
    (if includePaths.isEmpty then []
      else [("qcc", .object [("includePaths", .strings includePaths)])]) ++
    (if options.companionLayer.isEmpty then [] else [("clangd", .object options.companionLayer)])

end Options

/-- Settings for a run of the tool. -/
structure Loaded where
  /-- The settings. -/
  settings : Settings := {}
  /-- What is reported about the configuration. -/
  messages : List String := []
  /-- Whether the run ends here. -/
  fatal : Bool := false

/-- What is reported about a configuration file. -/
def configComplaint (path : Path) (problem : String) : String :=
  "Failed to parse " ++ path.toString ++ ": " ++ problem

/-- The settings for a run of the tool that starts at a directory. -/
def loadSettings (host : Host) (options : Options) (start cwd : Path) : Except Failure Loaded := do
  let project ← match options.projectConfig with
    | some file =>
      ProjectConfig.ofFile host (← host.anchorAt (Path.ofString file).toString cwd)
    | none => ProjectConfig.find host start
  let explicit := options.projectConfig.isSome
  let messages :=
    match Settings.complaintOf (some project) with
    | some (path, problem) =>
      if explicit || options.verbose then [configComplaint path problem] else []
    | none => []
  if explicit && project.problem.isSome then
    return { messages, fatal := true }
  let resolved ← Settings.resolve host
    { start := some start
      root := some start
      overrides := .object (← options.toLayer host cwd)
      project := some project }
  return { settings := resolved.settings, messages }

end BasiliskServer.Tool
