import BasiliskServer.Source.Vocabulary
import BasiliskServer.Source.Word

/-!
# Semantic tokens

The words of a text that the editor colours by meaning. Every class of words proposes tokens for a
line; of two proposals that overlap the one that starts first is taken, and of two that start
together the one of the earlier class. On the wire a token is five numbers, its place being given
relative to the token before it.
-/

namespace BasiliskServer.Source

open Text (Line isWord isAsciiLetter dropBlanks allBlank)

/-- What a token is. -/
inductive TokenType where
  /-- A word that steers control. -/
  | keyword
  /-- A type. -/
  | type
  /-- A function. -/
  | function
  /-- A variable. -/
  | variableName
  /-- A parameter. -/
  | parameter
  /-- A property. -/
  | property
  /-- A number. -/
  | number
  /-- A text. -/
  | string
  /-- A comment. -/
  | comment
  /-- An operator. -/
  | operator
  /-- A directive. -/
  | directive
  /-- A name space. -/
  | nameSpace
  /-- An event. -/
  | event
  deriving DecidableEq, Repr

/-- The types of tokens in the order of their codes. -/
def TokenType.all : List TokenType :=
  [.keyword, .type, .function, .variableName, .parameter, .property, .number, .string, .comment,
   .operator, .directive, .nameSpace, .event]

/-- The name of a type of tokens. -/
def TokenType.name : TokenType → String
  | .keyword => "keyword"
  | .type => "type"
  | .function => "function"
  | .variableName => "variable"
  | .parameter => "parameter"
  | .property => "property"
  | .number => "number"
  | .string => "string"
  | .comment => "comment"
  | .operator => "operator"
  | .directive => "macro"
  | .nameSpace => "namespace"
  | .event => "event"

/-- The code of a type of tokens: its place in the list of types. -/
def TokenType.code : TokenType → Nat
  | .keyword => 0
  | .type => 1
  | .function => 2
  | .variableName => 3
  | .parameter => 4
  | .property => 5
  | .number => 6
  | .string => 7
  | .comment => 8
  | .operator => 9
  | .directive => 10
  | .nameSpace => 11
  | .event => 12

/-- The names of the properties of tokens; each is one bit, the first the lowest. -/
def tokenModifiers : List String :=
  ["declaration", "definition", "readonly", "static", "deprecated", "modification",
   "documentation"]

/-- The bit of tokens that cannot be changed. -/
def readOnly : Nat := 4

/-- A token of a text. -/
structure Token where
  /-- Its line. -/
  line : Nat
  /-- Its first column. -/
  start : Nat
  /-- Its length. -/
  length : Nat
  /-- What it is. -/
  type : TokenType
  /-- The bits of its properties. -/
  modifiers : Nat := 0
  deriving DecidableEq, Repr

/-- Words that steer control. -/
def keywordTokens : List String :=
  ["foreach", "foreach_face", "foreach_vertex", "foreach_boundary", "foreach_dimension",
   "foreach_neighbor", "foreach_level", "foreach_leaf", "foreach_cell", "foreach_child",
   "foreach_block", "event", "reduction"]

/-- Types of fields and coordinates. -/
def typeTokens : List String :=
  ["scalar", "vector", "tensor", "face", "vertex", "coord", "point", "symmetric"]

/-- Constants and global parameters. -/
def constantTokens : List String :=
  ["PI", "M_PI", "HUGE", "nodata", "true", "false", "NULL", "N", "L0", "X0", "Y0", "Z0", "DT",
   "TOLERANCE"]

/-- Variables that a loop brings into scope. -/
def loopVariableTokens : List String :=
  ["Delta", "level", "depth", "point", "child", "neighbor", "left", "right", "top", "bottom",
   "front", "back"]

/-- Whether a word belongs to the message-passing interface: it has one of the two beginnings and
goes on after it, or is one of two short names. -/
def isParallelName (word : List Char) : Bool :=
  let longer (beginning : String) : Bool :=
    match Text.literal? beginning word with
    | some (_ :: _) => true
    | _ => false
  longer "MPI_" || longer "mpi_" || word = "pid".toList || word = "npe".toList

/-- Whether a word is a call of a function that the solver library provides. -/
def isBuiltinCall (run : WordRun) : Bool :=
  builtinFunctions.contains (String.ofList run.word) &&
    (run.word.head?.map fun c => isAsciiLetter c || c = '_').getD false &&
    (dropBlanks run.rest).head? = some '('

/-- The directive at the start of a line: its column and length. -/
def directive? (line : Line) : Option (Nat × Nat) :=
  match dropBlanks line with
  | '#' :: rest =>
    match rest.takeWhile isWord with
    | [] => none
    | word => some (line.length - (rest.length + 1), word.length + 1)
  | _ => none

/-- The tokens that the classes propose for a line, class by class. -/
def proposals (number : Nat) (line : Line) : List Token :=
  let runs := wordRuns 0 line
  let propose (belongs : WordRun → Bool) (kind : TokenType) (modifiers : Nat) : List Token :=
    (runs.filter belongs).map fun run => ⟨number, run.start, run.word.length, kind, modifiers⟩
  let among (words : List String) (run : WordRun) : Bool := words.contains (String.ofList run.word)
  propose (among keywordTokens) .keyword 0 ++ propose (among typeTokens) .type 0 ++
    propose isBuiltinCall .function 0 ++ propose (among constantTokens) .variableName readOnly ++
    propose (among loopVariableTokens) .parameter 0 ++
    propose (fun run => isParallelName run.word) .nameSpace 0 ++
    ((directive? line).map fun (start, length) => ⟨number, start, length, .directive, 0⟩).toList

/-- The proposals for the lines from a line number on; blank lines have none. -/
def allProposals (number : Nat) : List Line → List Token
  | [] => []
  | line :: rest =>
    (if allBlank line then [] else proposals number line) ++ allProposals (number + 1) rest

/-- The order of tokens in a text. -/
def Token.notAfter (a b : Token) : Bool :=
  a.line < b.line || (a.line = b.line && a.start ≤ b.start)

/-- Takes sorted tokens from the front, leaving out those that start inside the one taken last. -/
def takeDisjoint : Option Token → List Token → List Token
  | _, [] => []
  | last, token :: rest =>
    let overlaps := match last with
      | none => false
      | some last => last.line = token.line && token.start < last.start + last.length
    if overlaps then takeDisjoint last rest else token :: takeDisjoint (some token) rest

/-- The tokens of a text. -/
def tokens (text : String) : List Token :=
  takeDisjoint none ((allProposals 0 (Text.lines text)).mergeSort Token.notAfter)

/-- Five numbers for every token, its place being relative to a place before it. -/
def encodeTokens (line start : Nat) : List Token → List Int
  | [] => []
  | token :: rest =>
    let deltaLine : Int := token.line - line
    let deltaStart : Int := if deltaLine = 0 then token.start - start else token.start
    [deltaLine, deltaStart, token.length, token.type.code, token.modifiers] ++
      encodeTokens token.line token.start rest

/-- The tokens of a text as numbers. -/
def tokenData (text : String) : List Int :=
  encodeTokens 0 0 (tokens text)

end BasiliskServer.Source
