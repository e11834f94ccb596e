import BasiliskServer.Settings.Coerce
import BasiliskServer.Tool.Options

/-!
# The command line

What the words of the command line ask for. Words that begin with a dash are switches: flags stand
alone, options take a value, which follows as the next word or after an equals sign. Switches and
the file may come in any order, and a double dash makes all words after it plain. Of an option that
is given twice the last value counts, but lists collect all values. Numbers are spelled as in the
settings.
-/

namespace BasiliskServer.Tool

/-- The commands. -/
inductive Verb where
  /-- Checks a file. -/
  | check
  /-- Examines the tools. -/
  | doctor
  deriving DecidableEq, Repr

/-- The command of a word. -/
def Verb.ofName? : String → Option Verb
  | "check" => some .check
  | "doctor" => some .doctor
  | _ => none

/-- Switches that stand alone. -/
inductive Flag where
  /-- Asks how the tool is used. -/
  | help
  /-- Writes problems as JSON. -/
  | json
  /-- Does without the compiler. -/
  | noCompiler
  /-- Uses the companion process, or does without it. -/
  | companion (on : Bool)
  /-- Checks a header through a file that includes it. -/
  | wrapHeader
  /-- Says more. -/
  | verbose
  deriving DecidableEq, Repr

/-- Switches that take a value. -/
inductive ValueOption where
  /-- How many problems are reported. -/
  | maxProblems
  /-- The compiler. -/
  | compilerPath
  /-- The root of the solver library. -/
  | libraryPath
  /-- The configuration file. -/
  | projectConfig
  /-- A further include path of the compiler. -/
  | compilerInclude
  /-- The companion program. -/
  | companionPath
  /-- An argument of the companion program. -/
  | companionArgument
  /-- Where the companion program finds compile commands. -/
  | compileCommands
  /-- A flag for files without compile commands. -/
  | fallbackFlag
  /-- Which problems of the companion process are reported. -/
  | companionMode
  /-- What is included before a header. -/
  | wrapInclude
  deriving DecidableEq, Repr

/-- A switch. -/
inductive Switch where
  /-- One that stands alone. -/
  | flag (flag : Flag)
  /-- One that takes a value. -/
  | option (option : ValueOption)
  deriving DecidableEq, Repr

/-- The switches that both commands know. -/
def commonSwitch? : String → Option Switch
  | "--help" => some (.flag .help)
  | "--no-qcc" => some (.flag .noCompiler)
  | "--clangd" => some (.flag (.companion true))
  | "--no-clangd" => some (.flag (.companion false))
  | "--verbose" => some (.flag .verbose)
  | "--qcc-path" => some (.option .compilerPath)
  | "--basilisk-path" => some (.option .libraryPath)
  | "--project-config" => some (.option .projectConfig)
  | "--clangd-path" => some (.option .companionPath)
  | _ => none

/-- The switches that only a check knows. -/
def checkSwitch? : String → Option Switch
  | "--json" => some (.flag .json)
  | "--wrap-header" => some (.flag .wrapHeader)
  | "--max-problems" => some (.option .maxProblems)
  | "--qcc-include" => some (.option .compilerInclude)
  | "--clangd-arg" => some (.option .companionArgument)
  | "--compile-commands-dir" => some (.option .compileCommands)
  | "--fallback-flag" => some (.option .fallbackFlag)
  | "--clangd-diagnostics" => some (.option .companionMode)
  | "--wrap-include" => some (.option .wrapInclude)
  | _ => none

/-- The switch of a word. -/
def Verb.switch? (verb : Verb) (name : String) : Option Switch :=
  match verb with
  | .check => commonSwitch? name <|> checkSwitch? name
  | .doctor => commonSwitch? name

/-- Something given on the command line. -/
inductive Given where
  /-- A switch that stands alone. -/
  | flag (flag : Flag)
  /-- A switch with its value. -/
  | value (option : ValueOption) (text : String)
  /-- A plain word. -/
  | word (text : String)
  deriving DecidableEq, Repr

/-- Whether a word is a switch. A dash alone is not. -/
def isSwitch (word : String) : Bool :=
  match word.toList with
  | '-' :: _ :: _ => true
  | _ => false

/-- The name of a switch, and the value that is attached to it after an equals sign. -/
def splitAttached (word : String) : String × Option String :=
  let name := word.toList.takeWhile (· ≠ '=')
  match word.toList.dropWhile (· ≠ '=') with
  | [] => (word, none)
  | _ :: value => (String.ofList name, some (String.ofList value))

/-- Reads the words after a command; none where a switch is unknown, lacks its value, or has a
value that it does not take. -/
def readWords (verb : Verb) : List String → Option (List Given)
  | [] => some []
  | word :: rest =>
    if word = "--" then some (rest.map .word)
    else if isSwitch word then
      let (name, attached) := splitAttached word
      match verb.switch? name, attached, rest with
      | some (.flag flag), none, rest => (readWords verb rest).map (.flag flag :: ·)
      | some (.option option), some value, rest =>
        (readWords verb rest).map (.value option value :: ·)
      | some (.option option), none, value :: rest =>
        (readWords verb rest).map (.value option value :: ·)
      | _, _, _ => none
    else (readWords verb rest).map (.word word :: ·)

/-- What is asked for. -/
inductive Invocation where
  /-- Nothing was asked for. -/
  | nothing
  /-- How the tool is used. -/
  | help
  /-- Something that cannot be asked for. -/
  | misuse
  /-- A check of a file. -/
  | check (file : String) (options : Options) (wrapHeader : Bool) (wrapIncludes : List String)
      (json : Bool)
  /-- An examination of the tools. -/
  | doctor (options : Options)
  deriving DecidableEq, Repr

/-- The plain words. -/
def plainWords (given : List Given) : List String :=
  given.filterMap fun
    | .word text => some text
    | _ => none

/-- All values of an option. -/
def valuesOf (given : List Given) (option : ValueOption) : List String :=
  given.filterMap fun
    | .value other text => if other = option then some text else none
    | _ => none

/-- The value of an option that counts. -/
def valueOf? (given : List Given) (option : ValueOption) : Option String :=
  (valuesOf given option).getLast?

/-- Whether a flag is given. -/
def hasFlag (given : List Given) (flag : Flag) : Bool :=
  given.contains (.flag flag)

/-- Whether the companion process is used, as the last flag about it says. -/
def companionFlag? (given : List Given) : Option Bool :=
  (given.filterMap fun
    | .flag (.companion on) => some on
    | _ => none).getLast?

/-- Reads the value of an option that counts, if it is given: none where it cannot be read. -/
def readValue? {α : Type} (read : String → Option α) (given : List Given)
    (option : ValueOption) : Option (Option α) :=
  match valueOf? given option with
  | none => some none
  | some text => (read text).map some

/-- The options that are given; none where a value cannot be read. -/
def readOptions? (given : List Given) : Option Options := do
  let maxProblems ← readValue? Settings.spelledInt? given .maxProblems
  let clangdDiagnostics ← readValue? DiagnosticsMode.ofName? given .companionMode
  return {
    maxProblems
    clangdDiagnostics
    qccPath := valueOf? given .compilerPath
    basiliskPath := valueOf? given .libraryPath
    projectConfig := valueOf? given .projectConfig
    enableQcc := if hasFlag given .noCompiler then some false else none
    qccIncludes := valuesOf given .compilerInclude
    clangdEnabled := companionFlag? given
    clangdPath := valueOf? given .companionPath
    clangdArgs := valuesOf given .companionArgument
    compileCommandsDir := valueOf? given .compileCommands
    fallbackFlags := valuesOf given .fallbackFlag
    verbose := hasFlag given .verbose }

/-- What the words after a command ask for. -/
def Verb.invocation (verb : Verb) (words : List String) : Invocation :=
  match readWords verb words with
  | none => .misuse
  | some given =>
    if hasFlag given .help then .help
    else
      match readOptions? given, verb, plainWords given with
      | some options, .check, [file] =>
        .check file options (hasFlag given .wrapHeader) (valuesOf given .wrapInclude)
          (hasFlag given .json)
      | some options, .doctor, [] => .doctor options
      | _, _, _ => .misuse

/-- What a command and the words after it ask for. -/
def commandInvocation : List String → Invocation
  | [] => .misuse
  | name :: words =>
    match Verb.ofName? name with
    | some verb => verb.invocation words
    | none => .misuse

/-- What words ask for of which the first ones may ask for help. -/
def readInvocation (helpAsked : Bool) : List String → Invocation
  | [] => if helpAsked then .help else .misuse
  | word :: rest =>
    if word = "--help" then readInvocation true rest
    else if word = "--" then if helpAsked then .help else commandInvocation rest
    else if isSwitch word then .misuse
    else if helpAsked then .help
    else commandInvocation (word :: rest)

/-- What the words of the command line ask for. -/
def Invocation.ofWords : List String → Invocation
  | [] => .nothing
  | words => readInvocation false words

end BasiliskServer.Tool
