import BasiliskServer.Decimal.Double
import BasiliskServer.Files.Host
import BasiliskServer.Text.Case
import BasiliskServer.Text.Integer

/-!
# Settings from the environment

Time limits and the level of logging can be set by environment variables. A time limit has to be a
positive integer of milliseconds whose seconds are a finite number.
-/

namespace BasiliskServer.Files

/-- The variable with the time limit of the compiler. -/
def compilerLimitVariable : String := "BASILISK_LSP_QCC_TIMEOUT_MS"

/-- The variable with the time to wait for diagnostics of the companion process. -/
def companionWaitVariable : String := "BASILISK_LSP_CLANGD_WAIT_MS"

/-- The variable with the level of logging. -/
def logLevelVariable : String := "BASILISK_LSP_LOG_LEVEL"

namespace Host

/-- The value of a variable without blanks at its ends; a variable that is not set has the
default. -/
def variableText (host : Host) (name : String) (default : String) : String :=
  String.ofList (Text.strip ((host.env? name).getD default).toList)

/-- A time limit in milliseconds. -/
def timeLimit (host : Host) (name : String) (default : Nat) : Except Failure Nat :=
  let raw := host.variableText name ""
  let context := [("name", Json.Value.string name), ("value", .string raw)]
  if raw.isEmpty then .ok default
  else match Text.integer? raw with
    | none => .error (.impossible "invalid timeout override" context)
    | some value =>
      if value ≤ 0 then .error (.impossible "timeout override must be positive" context)
      else if (Decimal.seconds value).isFinite then .ok value.toNat
      else .error .limitTooLarge

/-- The time limit of the compiler. -/
def compilerLimit (host : Host) : Except Failure Nat :=
  host.timeLimit compilerLimitVariable 30000

/-- The time to wait for diagnostics of the companion process. -/
def companionWait (host : Host) : Except Failure Nat :=
  host.timeLimit companionWaitVariable 4000

/-- The name of the level of logging. -/
def logLevel (host : Host) : String :=
  let name := Text.upper (host.variableText logLevelVariable "INFO")
  if name.isEmpty then "INFO" else name

end Host

/-- The names of the levels of logging and the levels they stand for. -/
def logLevels : List (String × String) :=
  [("CRITICAL", "CRITICAL"), ("FATAL", "CRITICAL"), ("ERROR", "ERROR"), ("WARN", "WARNING"),
   ("WARNING", "WARNING"), ("INFO", "INFO"), ("DEBUG", "DEBUG"), ("NOTSET", "NOTSET")]

/-- The level of logging that the server starts with. -/
def Host.startingLevel (host : Host) : Except Failure String :=
  match logLevels.lookup host.logLevel with
  | some level => .ok level
  | none => .error (.unknownLevel host.logLevel)

end BasiliskServer.Files
