import BasiliskServer.World.Tool

/-!
# The command line program

The outer layer of the tool: it looks at the files and the environment that a run can need, runs
the tool on that picture of the machine, and prints what it says. Programs are not started from
here, so a run tells what the text of a file alone shows.
-/

namespace BasiliskServer.Main

open Files (Host Node Path)

/-- How the tool is used. -/
def usageText : String :=
  "Usage: qcc-lsp check [OPTIONS] FILE\n       qcc-lsp doctor [OPTIONS]\n"

/-- The environment variables that a run can need. -/
def variableNames : List String :=
  ["HOME", "PATH", "BASILISK", "BASILISK_LSP_QCC_TIMEOUT_MS", "BASILISK_LSP_CLANGD_WAIT_MS"]

/-- What is looked for in a directory and in the directories above it. -/
def namesAbove : List String := [configName, ".git", "src-local"]

/-- The places that a run with the given words can look at. -/
def places (cwd : Path) (words : List String) (searchPath : String) : List Path :=
  let named := words.map fun word => (Path.ofString word).resolve cwd
  let directories := (cwd :: named).flatMap Path.andAbove
  let programs := (searchPath.splitOn ":").flatMap fun directory =>
    ["qcc", "clangd"].map (Path.ofString directory).child
  named ++ programs ++ directories.flatMap fun directory => namesAbove.map directory.child

/-- What stands at a path. Whatever can be read counts as a program, too. -/
def look (path : Path) : IO (Option Node) := do
  try
    let bytes ← IO.FS.readBinFile path.toString
    return some (.file bytes.toList true)
  catch failure =>
    match failure with
    | .inappropriateType .. => return some .directory
    | _ => return none

/-- A picture of the machine, with what can be found at the given places. -/
def picture (cwd : Path) (environment : List (String × String)) (places : List Path) : IO Host :=
  places.foldlM (fun host path => do
      match ← look path with
      | some node => return host.place path.names node
      | none => return host)
    (({ cwd, environment } : Host).place cwd.names .directory)

/-- Prints to a stream. -/
def print (output : IO.FS.Stream) (stream : World.Stream) : IO Unit :=
  match stream with
  | .usage => output.putStr usageText
  | .lines lines => lines.forM fun line => output.putStrLn line

/-- More steps than a run can take. -/
def fuel : Nat := 1000000

end BasiliskServer.Main

open BasiliskServer in
/-- Runs the tool. -/
def main (words : List String) : IO UInt32 := do
  let cwd := Files.Path.ofString ((← IO.getEnv "PWD").getD "/")
  let environment ← Main.variableNames.filterMapM fun name => do
    return (← IO.getEnv name).map (name, ·)
  let host ← Main.picture cwd environment
    (Main.places cwd words
      ((environment.lookup "PATH").getD ({ environment } : Files.Host).defaultSearchPath))
  let world : World :=
    { host
      companions := [{ isMissing := true }]
      versionScript := { isMissing := true }
      runScripts := [{ isMissing := true }] }
  let (_, printed) := World.runTool Main.fuel world (Tool.Invocation.ofWords words)
  Main.print (← IO.getStdout) printed.out
  Main.print (← IO.getStderr) printed.err
  return printed.exitCode.toUInt32
