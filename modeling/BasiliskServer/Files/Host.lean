import BasiliskServer.Failure
import BasiliskServer.Files.Path
import BasiliskServer.Text.Utf8

/-!
# The host

What the server sees of the machine it runs on: files, the working directory, the environment, what
the system answers where the environment is silent, and how deep JSON text may be read. It is a plain
value, so everything that depends on the machine is a function of it. Names and paths that are too
long for the file system make a look-up fail, but not a search for programs.
-/

namespace BasiliskServer.Files

/-- A file or a directory. -/
inductive Node where
  /-- A directory. -/
  | directory
  /-- A file with its bytes; the flag says whether it may be executed. -/
  | file (bytes : List UInt8) (executable : Bool)
  deriving DecidableEq, Repr

/-- What the server sees of the machine it runs on. -/
structure Host where
  /-- Files and directories by the names on the way from the root. -/
  nodes : List (List String × Node) := []
  /-- The working directory. -/
  cwd : Path := ⟨.absolute, []⟩
  /-- Environment variables with their values. -/
  environment : List (String × String) := []
  /-- The home directory that the system knows of the user, if it knows the user. -/
  userHome : Option String := none
  /-- Where the system looks for programs if the environment does not say it. -/
  defaultSearchPath : String := "/bin:/usr/bin"
  /-- How many lists and objects may stand inside each other in a JSON text that is read. -/
  nesting : Nat := 1000

namespace Host

/-- Puts a file or a directory in its place, with the directories on the way to it. -/
def place (host : Host) (names : List String) (node : Node) : Host :=
  let parents := (List.range names.length).tail.map fun n => (names.take n, Node.directory)
  { host with nodes := (names, node) :: (host.nodes ++ parents) }

/-- The value of an environment variable. -/
def env? (host : Host) (name : String) : Option String :=
  host.environment.lookup name

/-- The file or directory at the names on the way from the root; the root always is one. -/
def nodeAt? (host : Host) (names : List String) : Option Node :=
  if names.isEmpty then some .directory else host.nodes.lookup names

/-- The greatest number of bytes of a name. -/
def nameLimit : Nat := 255

/-- Spelled paths have fewer bytes than this. -/
def pathLimit : Nat := 4096

/-- Whether a text holds the character that ends texts of the file system. -/
def holdsNull (s : String) : Bool :=
  s.toList.contains (Char.ofNat 0)

/-- Follows names from a directory; all but the last have to be directories. A name that is too
long is noticed when it is looked for. -/
def follow (host : Host) (here : List String) : List String → Except Failure (Option (List String))
  | [] => .ok (some here)
  | name :: rest =>
    if host.nodeAt? here = some .directory then
      if nameLimit < name.utf8ByteSize then .error .nameTooLong
      else if name = ".." then follow host here.dropLast rest
      else follow host (here ++ [name]) rest
    else .ok none

/-- What is found under a spelled path. A slash at the end asks for a directory. -/
def entry? (host : Host) (spelled : String) (names : List String) : Option Node := do
  let node ← host.nodeAt? names
  let asksDirectory := spelled.endsWith "/" || spelled.endsWith "/."
  match node with
  | .directory => some node
  | .file _ _ => if asksDirectory then none else some node

/-- What a spelled path leads to. -/
def find (host : Host) (spelled : String) : Except Failure (Option Node) := do
  if spelled.isEmpty || holdsNull spelled then return none
  if pathLimit ≤ spelled.utf8ByteSize then throw .nameTooLong
  let names ← host.follow [] (host.cwd.join (.ofString spelled)).names
  return names.bind (host.entry? spelled)

/-- What a spelled path leads to; a path that is too long leads to nothing. -/
def find? (host : Host) (spelled : String) : Option Node :=
  match host.find spelled with
  | .ok node => node
  | .error _ => none

/-- Whether a path leads to a file or directory. -/
def present (host : Host) (path : Path) : Except Failure Bool :=
  (host.find path.toString).map Option.isSome

/-- Whether a path leads to a directory. -/
def isDirectory (host : Host) (path : Path) : Except Failure Bool :=
  (host.find path.toString).map (· = some .directory)

/-- Whether a path leads to a file. -/
def isFile (host : Host) (path : Path) : Except Failure Bool :=
  (host.find path.toString).map (· matches some (.file _ _))

/-- The absolute path without double-dot names that a path denotes. -/
def resolve (host : Host) (path : Path) : Except Failure Path :=
  if path.names.any holdsNull then .error .nullByte else .ok (path.resolve host.cwd)

/-- Whether a spelled path leads to a file that may be executed. -/
def isExecutable (host : Host) (spelled : String) : Bool :=
  match host.find? spelled with
  | some (.file _ executable) => executable
  | _ => false

/-- The home directory: the one in the environment, or the one that the system knows. It is not
known if neither says anything, and if it is itself given from a home directory. -/
def home (host : Host) : Except Failure Path :=
  match (host.env? "HOME").or host.userHome with
  | none => .error .noHome
  | some spelled =>
    let trimmed := String.ofList (spelled.toList.reverse.dropWhile (· = '/')).reverse
    if trimmed.startsWith "~" then .error .noHome
    else .ok (.ofString (if trimmed.isEmpty then "/" else trimmed))

/-- A text whose leading tilde stands for the home directory. -/
def expandTilde (host : Host) (s : String) : Except Failure String :=
  match s.toList with
  | '~' :: rest => host.home.map fun home => home.toString ++ String.ofList rest
  | _ => .ok s

/-- A path from the settings: its tilde expanded and anchored at a directory if there is one. An
empty text stays empty. -/
def anchor (host : Host) (s : String) (root : Option Path) : Except Failure String :=
  if s.isEmpty then .ok ""
  else (host.expandTilde s).map fun expanded =>
    if isAbsoluteText expanded then expanded
    else match root with
      | none => expanded
      | some root => (root.child expanded).toString

/-- A path from a configuration file or the command line: its tilde expanded and anchored at a
directory. -/
def anchorAt (host : Host) (s : String) (base : Path) : Except Failure String :=
  (host.expandTilde s).map fun expanded => (base.child expanded).toString

/-- Joins a directory and a name as search paths do. -/
def joinText (directory name : String) : String :=
  if isAbsoluteText name then name
  else if directory.isEmpty || directory.endsWith "/" then directory ++ name
  else directory ++ "/" ++ name

/-- Looks a command up in the search path. A command with a slash is taken as it is. An empty search
path is not the same as none. -/
def searchPath? (host : Host) (command : String) : Option String :=
  if command.toList.contains '/' then
    if host.isExecutable command then some command else none
  else
    let path := (host.env? "PATH").getD host.defaultSearchPath
    if path.isEmpty then none
    else
      let entries := (Text.splitBy (· = ':') path.toList).map String.ofList
      (entries.map (joinText · command)).find? host.isExecutable

/-- The program that a command names. -/
def executable (host : Host) (command : String) : Except Failure (Option String) :=
  if command.isEmpty then .ok none
  else (host.expandTilde command).map fun expanded =>
    if isAbsoluteText expanded then
      if host.isExecutable expanded then some expanded else none
    else host.searchPath? expanded

/-- Why a file cannot be read as text. -/
inductive ReadFault where
  /-- There is nothing there. -/
  | missing
  /-- It is a directory. -/
  | directory
  /-- It is not UTF-8. -/
  | malformed
  deriving DecidableEq, Repr

/-- The wording for a file that the system cannot open. -/
def openFaultText (number : Nat) (wording : String) (path : Path) : String :=
  "[Errno " ++ toString number ++ "] " ++ wording ++ ": " ++ Json.quoted path.toString

/-- A text whose line ends of all kinds are line feeds. -/
def unifyLineEnds : List Char → List Char
  | '\r' :: '\n' :: rest => '\n' :: unifyLineEnds rest
  | '\r' :: rest => '\n' :: unifyLineEnds rest
  | c :: rest => c :: unifyLineEnds rest
  | [] => []

/-- Reads a file as text. -/
def readText (host : Host) (path : Path) : Except ReadFault String :=
  match host.find? path.toString with
  | none => .error .missing
  | some .directory => .error .directory
  | some (.file bytes _) =>
    match Text.Utf8.decode? bytes with
    | none => .error .malformed
    | some text => .ok (String.ofList (unifyLineEnds text.toList))

end Host

end BasiliskServer.Files
