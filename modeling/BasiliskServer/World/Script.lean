import BasiliskServer.Json.Value

/-!
# Scripts

Programs and the editor are described, not run: a script says what a program does when it is
started, asked and stopped. Whatever holds for all scripts holds for all programs that behave as
some script says.
-/

namespace BasiliskServer.World

open Json (Value Fields)

/-- What the companion program does with a request. -/
inductive Reply where
  /-- It answers. -/
  | result (value : Value) (delay : Nat)
  /-- It refuses. -/
  | refusal (error : Value) (delay : Nat)
  /-- It ends. -/
  | quit (code : Int) (delay : Nat)
  /-- It says nothing. -/
  | silence

/-- How the companion program behaves. -/
structure CompanionScript where
  /-- How long it takes to start. -/
  startDelay : Nat := 0
  /-- Whether it cannot be started. -/
  isMissing : Bool := false
  /-- What it does with the requests of a method, one after the other, the last repeating. -/
  replies : List (String × List Reply) := []
  /-- The problems that it reports for a document when it is opened. -/
  problemsOnOpen : Option (List Value) := none
  /-- What it writes to its error output before that. -/
  errorsOnOpen : List UInt8 := []
  /-- Whether it goes on when it is asked to end. -/
  ignoresEnd : Bool := false
  /-- Whether it cannot be asked to end. -/
  isUnreachable : Bool := false
  /-- Whether nothing can be written to it. -/
  refusesInput : Bool := false
  /-- How many lists and objects may stand inside each other in a message that it understands. -/
  nesting : Nat := 1000

/-- What the companion program answers to the first request if its script does not say. -/
def defaultGreeting : Value :=
  .object [("capabilities", .object []),
    ("serverInfo", .object [("name", .string "clangd"), ("version", .string "17.0.0")])]

/-- The entry of a list that counts for the n-th time, the last one repeating. -/
def repeating {α : Type} : List α → Nat → Option α
  | [], _ => none
  | [last], _ => some last
  | first :: _, 0 => some first
  | _ :: rest, n + 1 => repeating rest n

/-- What the companion program does with the n-th request of a method. -/
def CompanionScript.reply (script : CompanionScript) (method : String) (n : Nat) : Reply :=
  match script.replies.lookup method with
  | some replies => (repeating replies n).getD .silence
  | none =>
    if method = "initialize" then .result defaultGreeting 0
    else if method = "shutdown" then .result .null 0
    else .silence

/-- How the compiler or another command behaves. -/
structure CommandScript where
  /-- What it writes to its output. -/
  stdout : List UInt8 := []
  /-- What it writes to its error output. -/
  stderr : List UInt8 := []
  /-- Its return code. -/
  code : Int := 0
  /-- How long it takes. -/
  delay : Nat := 0
  /-- Whether it never ends. -/
  hangs : Bool := false
  /-- Whether it cannot be started. -/
  isMissing : Bool := false
  /-- Whether it cannot be killed. -/
  isUnreachable : Bool := false

/-- How the editor behaves: how it answers questions for settings, and what it shows. -/
structure EditorScript where
  /-- The settings. -/
  config : Value := .null
  /-- The settings of single documents. -/
  perDocument : Fields := []
  /-- How long it takes to answer. -/
  delay : Nat := 0
  /-- Whether it does not answer. -/
  refuses : Bool := false
  /-- Whether its answer is a list of settings of which the first counts. -/
  answersList : Bool := false
  /-- The texts of the documents as it shows them. -/
  texts : List (String × String) := []

/-- The settings for a document, or for the whole workspace. -/
def EditorScript.settingsFor (script : EditorScript) (scope : Option String) : Value :=
  match scope.bind script.perDocument.get? with
  | some value => value
  | none => script.config

/-- What the server makes of an answer of the editor. -/
def EditorScript.answer (script : EditorScript) (scope : Option String) : Value :=
  let value := script.settingsFor scope
  if script.answersList then
    match value with
    | .array (first :: _) => first
    | _ => .null
  else value

end BasiliskServer.World
