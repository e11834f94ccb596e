import BasiliskServer.Files.Host
import BasiliskServer.Settings.Basic

/-!
# Project configuration

A project keeps its settings in a file that is looked for in the directory of a document and the
directories above it, up to the root of the repository. Paths in the file are anchored at its
directory. A file that cannot be understood is reported and otherwise ignored, unless it holds too
much of something.
-/

namespace BasiliskServer

open Files (Host Path)
open Json (Value Fields)

/-- The name of configuration files. -/
def configName : String := ".comphy-basilisk"

/-- A project configuration as far as it could be read. -/
structure ProjectConfig where
  /-- The file, if there is one. -/
  path : Option Path := none
  /-- Its contents with anchored paths, if it could be read and is not empty. -/
  config : Option Fields := none
  /-- What is wrong with it. -/
  problem : Option String := none

namespace ProjectConfig

/-- The nearest directory, from a directory upwards, that is the root of a repository. -/
def repositoryRoot (host : Host) (start : Path) : Except Failure (Option Path) :=
  start.andAbove.findM? fun directory => host.present (directory.child ".git")

/-- The entries of a list up to and including one; all of them if there is no last one. -/
def upTo (last : Option Path) : List Path → List Path
  | [] => []
  | directory :: rest =>
    if some directory = last then [directory] else directory :: upTo last rest

/-- The directories that are searched: from a directory upwards, up to the root of its
repository. -/
def searched (host : Host) (start : Path) : Except Failure (List Path) :=
  (repositoryRoot host start).map fun root => upTo root start.andAbove

/-- The nearest directory of local sources. -/
def localSources (host : Host) (start : Path) : Except Failure (Option Path) := do
  ((← searched host start).map (·.child "src-local")).findM? host.isDirectory

/-- The nearest configuration file. -/
def configPath (host : Host) (start : Path) (name : String := configName) :
    Except Failure (Option Path) := do
  ((← searched host start).map (·.child name)).findM? host.present

/-- The texts in a list that are not empty. -/
def nonEmptyStrings (value : Option Value) : List String :=
  (Settings.stringsIn value).filter (· ≠ "")

/-- Anchors a field at a directory if it is a text that is not empty. -/
def anchorField (host : Host) (base : Path) (config : Fields) (name : String) (result : Fields) :
    Except Failure Fields :=
  match config.get? name with
  | some (.string s) =>
    if s.isEmpty then .ok result
    else (host.anchorAt s base).map fun anchored => result.put name (.string anchored)
  | _ => .ok result

/-- Anchors every path of a configuration at a directory. Both lists of include paths are put
together. -/
def anchorPaths (host : Host) (base : Path) (config : Fields) : Except Failure Fields := do
  let result ← anchorField host base config "basiliskPath" config
  let result ← anchorField host base config "qccPath" result
  let compiler := Settings.sectionFields (config.get? "qcc")
  let includePaths := nonEmptyStrings (compiler.get? "includePaths") ++
    nonEmptyStrings (config.get? "qccIncludePaths")
  let anchored ← includePaths.mapM (host.anchorAt · base)
  let result :=
    if includePaths.isEmpty then result
    else result.put "qcc" (.object (compiler.put "includePaths" (.strings anchored)))
  match config.get? "clangd" with
  | some (.object companion) =>
    let companion ← anchorField host base companion "compileCommandsDir" companion
    return result.put "clangd" (.object companion)
  | _ => return result

/-- Reads a configuration file. A file that is not UTF-8 cannot be read at all. -/
def read (host : Host) (path : Path) : Except Failure ProjectConfig :=
  match host.readText path with
  | .error .malformed => .error .undecodable
  | .error .directory =>
    .ok
      { path := some path
        problem := some (Host.openFaultText 21 "Is a directory" path) }
  | .error .missing =>
    .ok
      { path := some path
        problem := some (Host.openFaultText 2 "No such file or directory" path) }
  | .ok text =>
    match Text.strip text.toList with
    | [] => .ok { path := some path }
    | raw =>
      match Json.parse host.nesting (String.ofList raw) with
      | .error (.malformed error) => .ok { path := some path, problem := some error.message }
      | .error (.excess excess) => .error (.ofExcess excess)
      | .ok (.object fields) =>
        (anchorPaths host path.parent fields).map fun config =>
          { path := some path, config := some config }
      | .ok _ =>
        .ok { path := some path, problem := some "project config must be a JSON object" }

/-- Reads the nearest configuration file. -/
def find (host : Host) (start : Path) (name : String := configName) :
    Except Failure ProjectConfig := do
  match ← configPath host start name with
  | none => return {}
  | some path => read host path

/-- Reads a configuration file that is named explicitly. -/
def ofFile (host : Host) (file : String) : Except Failure ProjectConfig := do
  let path := host.cwd.child (← host.expandTilde file)
  if ← host.present path then read host path
  else return { path := some path, problem := some "file not found" }

/-- A field that is a text and not empty. -/
def textField (config : Fields) (name : String) : Fields :=
  match config.get? name with
  | some (.string s) => if s.isEmpty then [] else [(name, .string s)]
  | _ => []

/-- The settings that a configuration makes. -/
def toLayer (config : Fields) : Fields :=
  let includePaths : Fields :=
    match (Settings.sectionFields (config.get? "qcc")).get? "includePaths" with
    | some (.array items) => [("qcc", .object [("includePaths", .array items)])]
    | _ => []
  let companion : Fields :=
    match config.get? "clangd" with
    | some (.object fields) => [("clangd", .object fields)]
    | _ => []
  textField config "qccPath" ++ textField config "basiliskPath" ++ includePaths ++ companion

end ProjectConfig

end BasiliskServer
