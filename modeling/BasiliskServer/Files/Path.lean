import BasiliskServer.Text.Line

/-!
# Paths

File paths as a root and a list of names. Reading a path drops empty and single-dot names and
keeps double-dot names, so two spellings of one path that differ only in such names are equal. A
path that starts with exactly two slashes keeps both.
-/

namespace BasiliskServer.Files

/-- Where a path starts. -/
inductive PathRoot where
  /-- At the working directory. -/
  | relative
  /-- At the root of the file system. -/
  | absolute
  /-- At a root written with exactly two slashes. -/
  | doubled
  deriving DecidableEq, Repr

/-- The spelling of a root. -/
def PathRoot.spelled : PathRoot → String
  | .relative => ""
  | .absolute => "/"
  | .doubled => "//"

/-- A path: where it starts, and the names on the way. -/
structure Path where
  /-- Where it starts. -/
  root : PathRoot
  /-- The names on the way; none is empty or a single dot, none holds a slash. -/
  names : List String
  deriving DecidableEq, Repr

namespace Path

/-- The root of a spelled path. -/
def rootOf : List Char → PathRoot
  | '/' :: '/' :: '/' :: _ => .absolute
  | '/' :: '/' :: _ => .doubled
  | '/' :: _ => .absolute
  | _ => .relative

/-- The names of a spelled path. -/
def namesOf (cs : List Char) : List String :=
  ((Text.splitBy (· = '/') cs).map String.ofList).filter fun name => name ≠ "" && name ≠ "."

/-- Reads a path. -/
def ofString (s : String) : Path :=
  ⟨rootOf s.toList, namesOf s.toList⟩

/-- Spells a path; the empty relative path is a single dot. -/
def toString (p : Path) : String :=
  if p.root = .relative && p.names.isEmpty then "."
  else p.root.spelled ++ Text.joinWith "/" p.names

/-- Whether a path starts at a root. -/
def isAbsolute (p : Path) : Bool :=
  p.root ≠ .relative

/-- The path reached from a directory; an absolute path is reached from anywhere. -/
def join (base p : Path) : Path :=
  if p.isAbsolute then p else ⟨base.root, base.names ++ p.names⟩

/-- The path of an entry of a directory. -/
def child (base : Path) (name : String) : Path :=
  base.join (ofString name)

/-- The directory that holds a path; a path without names is its own. -/
def parent (p : Path) : Path :=
  ⟨p.root, p.names.dropLast⟩

/-- The last name of a path, empty if it has none. -/
def name (p : Path) : String :=
  p.names.getLast?.getD ""

/-- The path and all directories above it, nearest first. -/
def andAbove (p : Path) : List Path :=
  (inits p.names).reverse.map fun names => ⟨p.root, names⟩
where
  /-- The initial segments of a list, shortest first. -/
  inits : List String → List (List String)
    | [] => [[]]
    | a :: rest => [] :: (inits rest).map (a :: ·)

/-- Removes double-dot names together with the names before them. -/
def collapse : List String → List String → List String
  | kept, [] => kept.reverse
  | kept, name :: rest =>
    if name = ".." then collapse (kept.drop 1) rest else collapse (name :: kept) rest

/-- The absolute path without double-dot names that a path denotes from a working directory. -/
def resolve (p cwd : Path) : Path :=
  ⟨.absolute, collapse [] (cwd.join p).names⟩

end Path

/-- Whether a spelled path starts at a root. -/
def isAbsoluteText (s : String) : Bool :=
  s.startsWith "/"

end BasiliskServer.Files
