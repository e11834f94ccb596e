import BasiliskServer.Files.Authority
import BasiliskServer.Json.Parser
import BasiliskServer.Json.Spelled
import BasiliskServer.Wire.Position

/-!
# Failures

Everything that can go wrong on the way, by cause. The wording of each cause stands in one place.
-/

namespace BasiliskServer

open Json (Value)

/-- What the companion process answered instead of a result. -/
structure PeerFault where
  /-- Its message. -/
  message : String
  /-- Its code, if it is an integer or a truth value; otherwise null. -/
  code : Value := .null
  /-- Anything it sent along. -/
  data : Value := .null
  /-- The request that it refused. -/
  method : String

/-- What can go wrong. -/
inductive Failure where
  /-- A position outside the range that positions allow. -/
  | position (fault : Wire.OutOfRange)
  /-- A value that does not name a way of treating diagnostics. -/
  | unknownMode (given : Value)
  /-- A name that is not a level of logging. -/
  | unknownLevel (name : String)
  /-- A state that must not arise, with the values that show it. -/
  | impossible (reason : String) (context : List (String × Value))
  /-- A process that could not be started. -/
  | spawn (command text : String)
  /-- The companion process has ended, with a code if it is known. -/
  | exited (code : Option Int)
  /-- The companion process refused a request. -/
  | peer (fault : PeerFault)
  /-- The companion process could not be started for a request. -/
  | neverStarted (method : String)
  /-- The companion process is in no state to take a request. -/
  | notReady (state method : String)
  /-- The companion process could not be brought up. -/
  | startFailed (path : String)
  /-- A program that does not exist. -/
  | toolMissing (command : String)
  /-- A command that took longer than the given number of milliseconds. -/
  | commandTimeout (command : String) (timeout : Int) (shown : Int)
  /-- A limit of time that is too large for a clock. -/
  | limitTooLarge
  /-- Settings that do not validate. -/
  | invalidSettings
  /-- A value that is not a wire object of the kind that is asked for. -/
  | misfit (misfit : Wire.Misfit)
  /-- A file that is not UTF-8. -/
  | undecodable
  /-- A text that has no UTF-8. -/
  | unencodable
  /-- A number that is spelled with too many digits. -/
  | tooManyDigits (count : Nat)
  /-- Lists and objects that are nested too deeply. -/
  | tooNested
  /-- An address with a malformed authority. -/
  | address (fault : Files.AddressFault)
  /-- The home directory is asked for, and it is not known. -/
  | noHome
  /-- A path or one of its names is too long for the file system. -/
  | nameTooLong
  /-- A path with the character that ends texts of the file system. -/
  | nullByte
  /-- An answer that did not come in time. -/
  | timedOut
  /-- An activity that was given up. -/
  | cancelled
  /-- Reading from a process failed. -/
  | readFailed (text : String)
  /-- A signal for a process that is not there any more. -/
  | noSuchProcess
  /-- A failure of the other side, with its wording. -/
  | remote (text : String)

/-- What has too much of something fails. -/
def Failure.ofExcess : Json.Excess → Failure
  | .digits count => .tooManyDigits count
  | .nesting => .tooNested
  | .halves => .unencodable

/-- The values that show a state that must not arise. -/
def contextText (context : List (String × Value)) : String :=
  Text.joinWith ", " (context.map fun (name, value) => name ++ "=" ++ value.spelled)

/-- The wording of a failure; those that are never reported have none. -/
def Failure.message : Failure → String
  | .position fault => fault.message
  | .unknownMode given => given.spelled ++ " is not a valid DiagnosticsMode"
  | .unknownLevel name => "Unknown level: " ++ Json.quoted name
  | .impossible reason context =>
    let reason := if reason.isEmpty then "never() reached" else reason
    if context.isEmpty then reason else reason ++ " (" ++ contextText context ++ ")"
  | .spawn command text => "Failed to start " ++ command ++ ": " ++ text
  | .exited _ => "clangd exited"
  | .peer fault => fault.message
  | .neverStarted method => "clangd failed to start; cannot send " ++ method
  | .notReady state method => "clangd is not running (" ++ state ++ "); cannot send " ++ method
  | .startFailed path => "clangd failed to initialize (" ++ path ++ ")"
  | .toolMissing command => "executable not found: " ++ command
  | .commandTimeout command _ shown =>
    "Command timed out after " ++ toString shown ++ "ms: " ++ command
  | .tooManyDigits count =>
    "Exceeds the limit (" ++ toString Text.digitLimit ++
      " digits) for integer string conversion: value has " ++ toString count ++
      " digits; use sys.set_int_max_str_digits() to increase the limit"
  | .address fault => fault.message
  | .noHome => "Could not determine home directory."
  | .nullByte => "embedded null byte"
  | .remote text => text
  | .readFailed text => text
  | .limitTooLarge => ""
  | .invalidSettings => ""
  | .misfit _ => ""
  | .undecodable => ""
  | .unencodable => ""
  | .tooNested => ""
  | .nameTooLong => ""
  | .timedOut => ""
  | .cancelled => ""
  | .noSuchProcess => ""

/-- Whether the server is prepared for a failure of the tools it works with. -/
def Failure.isExpected : Failure → Bool
  | .impossible _ _ => true
  | .spawn _ _ => true
  | .exited _ => true
  | .peer _ => true
  | .neverStarted _ => true
  | .notReady _ _ => true
  | .startFailed _ => true
  | .toolMissing _ => true
  | .commandTimeout _ _ _ => true
  | _ => false

end BasiliskServer
