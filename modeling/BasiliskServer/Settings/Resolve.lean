import BasiliskServer.Settings.Project

/-!
# Resolving settings

The settings for a directory: defaults, project configuration, editor and command line, in this
order. Include paths that are still relative are anchored at the end.
-/

namespace BasiliskServer

open Files (Host Path)
open Json (Value Fields)

namespace Settings

/-- Anchors the include paths at a directory. -/
def anchorIncludes (host : Host) (base : Option Path) (s : Settings) : Except Failure Settings :=
  (s.includePaths.mapM (host.anchor · base)).map fun includePaths => { s with includePaths }

/-- Lays a project configuration over settings. -/
def applyProject (readers : Readers) (base : Settings) (project : ProjectConfig) : Settings :=
  match project.config with
  | none => base
  | some config => base.merge readers (.object (ProjectConfig.toLayer config))

/-- What settings are resolved from. -/
structure Request where
  /-- Where the project configuration is looked for. -/
  start : Option Path := none
  /-- Where relative include paths are anchored; if absent, where the search starts. -/
  root : Option Path := none
  /-- The layer of the editor. -/
  editor : Value := .null
  /-- The layer of the command line. -/
  overrides : Value := .null
  /-- A project configuration that is used without a search. -/
  project : Option ProjectConfig := none
  /-- How the values of layers are read. -/
  readers : Readers := .lenient

/-- Resolved settings, and a configuration file with what is wrong with it. -/
structure Resolved where
  /-- The settings. -/
  settings : Settings
  /-- The file that could not be understood. -/
  complaint : Option (Path × String) := none

/-- The project configuration that a request finds. -/
def Request.findProject (host : Host) (request : Request) :
    Except Failure (Option ProjectConfig) :=
  match request.project, request.start with
  | some project, _ => .ok (some project)
  | none, some start => (ProjectConfig.find host start).map some
  | none, none => .ok none

/-- What is wrong with a configuration file. -/
def complaintOf (project : Option ProjectConfig) : Option (Path × String) := do
  let project ← project
  let problem ← project.problem
  let path ← project.path
  return (path, problem)

/-- The settings over a project configuration, if there is one. -/
def Request.settingsOver (host : Host) (request : Request) (project : Option ProjectConfig) :
    Except Failure Settings :=
  let base : Settings := match project with
    | none => {}
    | some project => applyProject request.readers {} project
  let settings :=
    (base.merge request.readers request.editor).merge request.readers request.overrides
  settings.anchorIncludes host (request.root <|> request.start)

/-- Resolves settings. -/
def resolve (host : Host) (request : Request) : Except Failure Resolved := do
  let project ← request.findProject host
  return { settings := ← request.settingsOver host project, complaint := complaintOf project }

/-- The root of the solver library: from the settings, from the environment, or where the compiler
is. -/
def basiliskRoot (host : Host) (s : Settings) (root : Option Path) :
    Except Failure (Option String) :=
  let fromEnvironment := (host.env? "BASILISK").getD ""
  if s.basiliskPath ≠ "" then (host.anchor s.basiliskPath root).map some
  else if fromEnvironment ≠ "" then (host.anchor fromEnvironment root).map some
  else do
    let compiler ← [s.qccPath, "qcc"].findSomeM? host.executable
    return compiler.map fun compiler => (Path.ofString compiler).parent.toString

/-- What happened to a document. -/
inductive Trigger where
  /-- It was opened. -/
  | opened
  /-- It was changed. -/
  | changed
  /-- It was saved. -/
  | saved
  deriving DecidableEq, Repr

/-- Whether the quick checks run. -/
def runsQuickCheck (s : Settings) : Trigger → Bool
  | .opened => true
  | .changed => s.diagnosticsOnType
  | .saved => s.diagnosticsOnSave

/-- Whether the compiler runs. -/
def runsCompiler (s : Settings) (trigger : Trigger) : Bool :=
  s.enableDiagnostics &&
    match trigger with
    | .changed => s.diagnosticsOnType
    | _ => s.diagnosticsOnSave

end Settings

end BasiliskServer
