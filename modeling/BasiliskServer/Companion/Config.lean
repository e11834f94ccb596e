import BasiliskServer.Json.Printer
import BasiliskServer.Settings.Resolve

/-!
# Configuration of the companion process

How the companion process is started, derived from the settings. Two configurations need the same
process when their fingerprints agree; where the editor's root and folders are does not count.
-/

namespace BasiliskServer.Companion

open Files (Host Path)
open Json (Value Fields)

/-- How the companion process is started. -/
structure Config where
  /-- The program. -/
  path : String
  /-- Its arguments. -/
  args : List String := []
  /-- Where it finds compile commands. -/
  compileCommandsDir : String := ""
  /-- Flags for files without compile commands. -/
  fallbackFlags : List String := []
  /-- The root that the editor works in. -/
  rootUri : Option String := none
  /-- The folders that the editor works in, with their names. -/
  folders : List (String × String) := []
  deriving DecidableEq, Repr

/-- The program and its arguments. -/
def Config.command (config : Config) : List String :=
  config.path :: config.args

/-- A text that tells configurations that need different processes apart. -/
def Config.fingerprint (config : Config) : String :=
  Json.renderAscii (.object
    [("args", .strings config.args),
     ("compileCommandsDir", .string config.compileCommandsDir),
     ("fallbackFlags", .strings config.fallbackFlags),
     ("path", .string config.path)])

/-- Directories of the solver library with headers. -/
def headerDirectories : List String := ["grid", "navier-stokes", "ast"]

/-- The include flags for a root of the solver library. -/
def libraryFlags (root : Option String) : List String :=
  match root with
  | none => []
  | some "" => []
  | some root =>
    let root := Path.ofString root
    ("-I" ++ root.toString) ::
      headerDirectories.map fun name => "-I" ++ (root.child name).toString

/-- Two lists of flags one after the other, without repetitions. -/
def mergeFlags (first second : List String) : List String :=
  distinct (first ++ second)

/-- Whether the companion process is used: not where the compiler works. -/
def isWanted (settings : Settings) (compilerWorks : Bool) : Bool :=
  settings.clangd.enabled && settings.clangd.mode = .proxy && !compilerWorks

/-- The configuration that settings ask for. -/
def Config.ofSettings (host : Host) (settings : Settings) (root : Option Path)
    (rootUri : Option String := none) (folders : List (String × String) := []) :
    Except Failure Config := do
  let companion := settings.clangd
  let library ← settings.basiliskRoot host root
  let named ← host.anchor companion.compileCommandsDir root
  let compileCommandsDir := if named.isEmpty then library.getD "" else named
  return {
    path := companion.path
    args := companion.args ++
      (if compileCommandsDir.isEmpty then [] else ["--compile-commands-dir=" ++ compileCommandsDir])
    compileCommandsDir
    fallbackFlags := mergeFlags companion.fallbackFlags (libraryFlags library)
    rootUri
    folders }

/-- What the server can do for the companion process. -/
def defaultCapabilities : Value :=
  .object
    [("textDocument", .object
      [("synchronization", .object
        [("didSave", .bool true), ("dynamicRegistration", .bool false)]),
       ("publishDiagnostics", .object
        [("relatedInformation", .bool true), ("versionSupport", .bool true)]),
       ("completion", .object
        [("completionItem", .object
          [("snippetSupport", .bool false),
           ("documentationFormat", .strings ["markdown", "plaintext"])])]),
       ("hover", .object [("contentFormat", .strings ["markdown", "plaintext"])]),
       ("definition", .object [("linkSupport", .bool false)]),
       ("documentSymbol", .object [("hierarchicalDocumentSymbolSupport", .bool true)])]),
     ("workspace", .object [("configuration", .bool true), ("workspaceFolders", .bool true)])]

/-- The parameters of the first request to the companion process. -/
def Config.greeting (config : Config) (processId : Nat) (capabilities : Value) : Value :=
  let folders : Fields :=
    if config.folders.isEmpty then []
    else [("workspaceFolders", .array (config.folders.map fun (uri, name) =>
      .object [("uri", .string uri), ("name", .string name)]))]
  .object
    ([("processId", .nat processId),
      ("rootUri", Value.ofOption .string config.rootUri),
      ("capabilities", capabilities),
      ("initializationOptions", .object [("fallbackFlags", .strings config.fallbackFlags)])]
      ++ folders)

end BasiliskServer.Companion
