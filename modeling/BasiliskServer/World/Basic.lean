import BasiliskServer.Companion.Config
import BasiliskServer.Compiler.Call
import BasiliskServer.Diagnostics.Merge
import BasiliskServer.Diagnostics.Store
import BasiliskServer.Rpc.Frame
import BasiliskServer.Rpc.Requests
import BasiliskServer.Source.SymbolIndex
import BasiliskServer.Tasks.Scheduler
import BasiliskServer.Tool.Options
import BasiliskServer.Wire.Symbol
import BasiliskServer.World.Script

/-!
# The world

Everything that changes while the server is at work: the programs it has started, its connections
to them, the editor session, and the tasks that are under way. All of it is one plain value, and
what the server does is a function on it.

A task is described by the activity it was started with and by the points at which it waits. Every
point belongs to one activity and says what the activity still knows when it goes on.
-/

namespace BasiliskServer.World

open Files (Host Path)
open Json (Value Fields)
open Wire (CompletionItem CompletionList Diagnostic FoundSymbol Hover Location Outline Position
  Target)

/-- How far the connection to a companion process is. -/
inductive Phase where
  /-- There is no process. -/
  | stopped
  /-- The process has not answered the first request yet. -/
  | starting
  /-- The process takes requests. -/
  | ready
  /-- The process is being stopped. -/
  | stopping
  deriving DecidableEq, Repr

/-- The word for a phase. -/
def Phase.name : Phase → String
  | .stopped => "stopped"
  | .starting => "starting"
  | .ready => "ready"
  | .stopping => "stopping"

/-- What a check of a file is asked to do. -/
structure CheckRequest where
  /-- The file. -/
  file : String
  /-- The options of the command line. -/
  options : Tool.Options := {}
  /-- Whether the compiler sees the file as a header included by another one. -/
  wrapHeader : Bool := false
  /-- What is included before the header. -/
  wrapIncludes : List String := []
  /-- How long to wait for the companion process, if not as the environment says. -/
  wait : Option Nat := none

/-- What a check of a file has found. -/
structure CheckReport where
  /-- The file. -/
  file : Path
  /-- The problems. -/
  diagnostics : List Diagnostic := []
  /-- What there is to say about the check itself. -/
  messages : List String := []
  /-- The exit code. -/
  exitCode : Nat := 0

/-- A check of a file under way. -/
structure Check where
  /-- The file. -/
  file : Path
  /-- Its text. -/
  text : String
  /-- What the compiler sees. -/
  source : String
  /-- The settings. -/
  settings : Settings
  /-- The problems found so far. -/
  diagnostics : List Diagnostic
  /-- What there is to say so far. -/
  messages : List String
  /-- Whether the compiler works. -/
  compilerWorks : Bool := false
  /-- How long to wait for the companion process, if not as the environment says. -/
  wait : Option Nat

/-- What an examination of the tools has found. -/
structure DoctorReport where
  /-- One label for each thing examined. -/
  labels : List String := []
  /-- What there is to say about the examination itself. -/
  messages : List String := []
  /-- The exit code. -/
  exitCode : Nat := 0

/-- Completion items as they are offered to the editor. -/
inductive Offer where
  /-- Items of the server alone. -/
  | own (items : List CompletionItem)
  /-- Items of both sides. -/
  | merged (list : CompletionList)

/-- Where a name is defined. -/
inductive Definition where
  /-- Nowhere. -/
  | unknown
  /-- Where the companion process says. -/
  | targets (targets : List Target)
  /-- Where the server has seen it. -/
  | place (location : Location)

/-- What an activity comes to. -/
inductive Answer where
  /-- Nothing to tell. -/
  | unit
  /-- A truth value. -/
  | bool (b : Bool)
  /-- A value of the companion process or the editor. -/
  | json (value : Value)
  /-- A process that was started. -/
  | process (number : Nat)
  /-- The code with which a process ended. -/
  | code (code : Option Int)
  /-- What a command wrote. -/
  | output (output : Compiler.CommandOutput)
  /-- What a command wrote, if it could be run. -/
  | probe (output : Option Compiler.CommandOutput)
  /-- A version, if there is one. -/
  | version (version : Option String)
  /-- What the compiler found. -/
  | findings (findings : Compiler.Findings)
  /-- Settings. -/
  | settings (settings : Settings)
  /-- Problems. -/
  | diagnostics (diagnostics : List Diagnostic)
  /-- What the companion process answered, if it did. -/
  | proxied (value : Option Value)
  /-- Completion items. -/
  | offer (offer : Offer)
  /-- A completion item. -/
  | item (item : CompletionItem)
  /-- A hover. -/
  | hover (hover : Option Hover)
  /-- A definition. -/
  | definition (definition : Definition)
  /-- Places. -/
  | places (locations : List Location)
  /-- An outline. -/
  | outline (outline : Outline)
  /-- Symbols. -/
  | symbols (symbols : List FoundSymbol)
  /-- The tokens of a document, as numbers. -/
  | tokens (data : List Int)
  /-- What a check has found. -/
  | check (report : CheckReport)
  /-- What an examination of the tools has found. -/
  | doctor (report : DoctorReport)

instance : Inhabited Answer := ⟨.unit⟩

/-- The value of the companion process or the editor that an answer brings. -/
def Answer.value : Answer → Value
  | .json value => value
  | _ => .null

/-- Where the editor asks for something. -/
structure Cursor where
  /-- The document. -/
  uri : String
  /-- The position in it. -/
  position : Position
  /-- The parameters of the request as they are passed on. -/
  params : Value

/-- What a task can be started with. -/
inductive Activity where
  /-- Starts the process of a channel. -/
  | openChannel (channel : Nat)
  /-- Ends the process of a channel. -/
  | closeChannel (channel : Nat)
  /-- Reads the output of the process of a channel. -/
  | readOutput (channel : Nat)
  /-- Reads the error output of the process of a channel. -/
  | readErrors (channel : Nat)
  /-- Waits for the end of the process of a channel, after a reader. -/
  | watch (channel reader : Nat)
  /-- Waits for the end of a process. -/
  | awaitExit (process : Nat)
  /-- Waits for the output of a command. -/
  | communicate (command : Nat)
  /-- Starts a connection. -/
  | connect (connection : Nat)
  /-- Stops a connection. -/
  | disconnect (connection : Nat)
  /-- Sends a request over a connection and waits for its answer. -/
  | ask (connection : Nat) (method : String) (params : Value) (limit : Option Nat)
  /-- Sees to it that the right companion process runs. -/
  | ensure (config : Option Companion.Config)
  /-- Stops the companion process. -/
  | release
  /-- Runs a command. -/
  | run (command : List String) (limit : Int)
  /-- Runs the compiler on a document. -/
  | compile (uri text : String) (settings : Settings) (compiler : Option String)
      (limit : Option Int)
  /-- Finds out whether a compiler works. -/
  | probe (compiler : String)
  /-- Finds out the version of a compiler. -/
  | version (compiler : String)
  /-- Checks a file. -/
  | check (request : CheckRequest)
  /-- Examines the tools. -/
  | doctor (options : Tool.Options) (cwd : Path)
  /-- Prepares the session: settings, compiler, companion process. -/
  | startup
  /-- Prepares the session after registering for changes of the settings. -/
  | registerAndStart
  /-- Prepares the session again after a change of the settings. -/
  | reconfigure (payload : Value)
  /-- Ends the session. -/
  | shutdown
  /-- Waits until nothing is under way in the background. -/
  | settleDown
  /-- Looks up the settings for a document. -/
  | lookUp (uri : String)
  /-- Opens a document. -/
  | openDocument (uri text : String) (language : Value) (version : Int)
  /-- Changes a document. -/
  | changeDocument (uri text : String) (version : Option Int)
  /-- Saves a document. -/
  | saveDocument (uri : String)
  /-- Checks a document. -/
  | validate (uri : String) (trigger : Settings.Trigger)
  /-- Takes a report of the companion process. -/
  | commitPush (uri : String) (generation : Nat) (diagnostics : List Diagnostic)
  /-- Shows the problems of a document again. -/
  | republish (uri : String)
  /-- Offers completions. -/
  | complete (cursor : Cursor)
  /-- Completes a completion item. -/
  | resolveItem (item : CompletionItem)
  /-- Explains what is under the cursor. -/
  | hover (cursor : Cursor)
  /-- Finds a definition. -/
  | define (cursor : Cursor)
  /-- Finds references. -/
  | refer (cursor : Cursor)
  /-- Outlines a document. -/
  | outline (uri : String) (params : Value)
  /-- Searches for symbols. -/
  | search (query : String) (params : Value)

/-- Points of waiting as such. -/
inductive WaitPoint where
  /-- Waits for a promise as long as a timer runs. -/
  | limited (inner timer : Nat)
  /-- Waits for a promise that was given up; the flag says that the task itself is given up. -/
  | reaping (inner : Nat) (timer : Option Nat) (interrupted : Bool)
  /-- Waits for a timer. -/
  | sleeping (timer : Nat)

/-- Points of programs. -/
inductive ProgramPoint where
  /-- A companion program takes its time to start. -/
  | starting (script : CompanionScript) (command : List String)
  /-- A process ends. -/
  | ending (process : Nat)
  /-- A command takes its time. -/
  | working (command : Nat)
  /-- A command that never ends is killed. -/
  | hanging
  /-- A command is finished, or takes too long. -/
  | finished (number : Nat) (command : List String) (limit : Int)
  /-- The compiler has run on a document. -/
  | compiled (call : Compiler.Call) (settings : Settings)
  /-- A compiler was asked for its version. -/
  | probed
  /-- A compiler was asked whether it works. -/
  | tested
  /-- A compiler was asked for the version that it shows. -/
  | versioned

/-- Points of a channel. -/
inductive ChannelPoint where
  /-- The process is started. -/
  | opened (channel : Nat)
  /-- There is output. -/
  | output (channel process : Nat)
  /-- There is error output. -/
  | errors (channel process : Nat)
  /-- All output is read. -/
  | drained (channel process : Nat)
  /-- The process has ended. -/
  | gone (channel process : Nat)
  /-- The process was asked to end. -/
  | asked (channel process : Nat)
  /-- The process was killed. -/
  | killed (channel : Nat)
  /-- The tasks of the channel have ended. -/
  | quiet (channel : Nat)

/-- Points of a connection. -/
inductive ConnectionPoint where
  /-- The process is started. -/
  | opened (connection channel : Nat)
  /-- A process that is not wanted any more has ended. -/
  | abandoned
  /-- The first request is answered. -/
  | greeted (connection channel answer : Nat)
  /-- A process that failed the first request has ended. -/
  | refused (connection : Nat)
  /-- The last request is answered. -/
  | parted (connection channel : Nat)
  /-- The process has ended. -/
  | closed (connection : Nat) (channel : Option Nat)
  /-- The process is ready for a request, or not. -/
  | awaited (connection : Nat) (method : String) (params : Value) (limit : Option Nat)

/-- Points of the keeper. -/
inductive KeeperPoint where
  /-- It is our turn to see to the companion process. -/
  | admitted (config : Option Companion.Config) (ticket : Option Nat)
  /-- It is our turn to stop the companion process. -/
  | admittedToStop (ticket : Option Nat)
  /-- The connection is stopped. -/
  | disconnected
  /-- No companion process is wanted, and none runs. -/
  | cleared
  /-- The old companion process is gone. -/
  | vacated (config : Companion.Config)
  /-- The new connection has started, or not. -/
  | connected (config : Companion.Config)
  /-- A connection that did not start is gone. -/
  | failed (config : Companion.Config)
  /-- The companion process is stopped. -/
  | released

/-- Points of the command line. -/
inductive ToolPoint where
  /-- It is known whether the compiler works. -/
  | tested (check : Check)
  /-- The compiler has run. -/
  | compiled (check : Check)
  /-- The companion process has reported. -/
  | consulted (check : Check)
  /-- The connection for one report has started, or not. -/
  | connected (check : Check) (connection received : Nat) (uri : String)
  /-- The report has come, or not. -/
  | received (check : Check) (connection : Nat)
  /-- The connection for one report is stopped. -/
  | disconnected (check : Check) (result : Except Failure (List Value))
  /-- It is known whether the compiler works. -/
  | examined (settings : Settings) (compiler : Option String) (cwd : Path)
      (messages : List String)

/-- Points of a session. -/
inductive SessionPoint where
  /-- The editor has answered. -/
  | fetched (payload : Value)
  /-- The settings of the workspace have come. -/
  | refreshed (revalidate : Bool)
  /-- It is known whether the compiler works. -/
  | tested (settings : Settings) (compiler : String) (revalidate : Bool)
  /-- The companion process runs, or not. -/
  | ensured (revalidate : Bool)
  /-- The settings of a document have come. -/
  | lookedUp (uri : String)
  /-- The settings for a check have come. -/
  | checking (uri : String) (trigger : Settings.Trigger)
  /-- The compiler has run for a check. -/
  | compiled (uri : String) (version : Nat) (settings : Settings) (found : List Diagnostic)
  /-- The settings for a report have come. -/
  | committing (uri : String) (generation : Nat) (diagnostics : List Diagnostic)
  /-- The settings for showing problems again have come. -/
  | republishing (uri : String)
  /-- What was under way has ended. -/
  | settled
  /-- The companion process has answered, or not. -/
  | proxied
  /-- The settings for completions have come. -/
  | completing (cursor : Cursor) (items : List CompletionItem)
  /-- The companion process has offered completions, or not. -/
  | offered (items : List CompletionItem)
  /-- The companion process has completed an item, or not. -/
  | resolved (item : CompletionItem)
  /-- The settings for a hover have come. -/
  | hovering (cursor : Cursor)
  /-- The companion process has explained, or not. -/
  | explained (own : Option Hover)
  /-- The settings for a definition have come. -/
  | defining (cursor : Cursor)
  /-- The companion process has found a definition, or not. -/
  | defined (cursor : Cursor)
  /-- The settings for references have come. -/
  | referring (cursor : Cursor) (document : Nat)
  /-- The companion process has found references, or not. -/
  | referred (cursor : Cursor) (document : Nat)
  /-- The settings for an outline have come. -/
  | outlining (uri : String) (params : Value)
  /-- The companion process has made an outline, or not. -/
  | outlined (uri : String)
  /-- The companion process has found symbols, or not. -/
  | searched (query : String)

/-- Where a task goes on. -/
inductive Point where
  /-- At the start of an activity. -/
  | start (activity : Activity)
  /-- After waiting as such. -/
  | wait (point : WaitPoint)
  /-- In a program. -/
  | program (point : ProgramPoint)
  /-- In a channel. -/
  | channel (point : ChannelPoint)
  /-- In a connection. -/
  | connection (point : ConnectionPoint)
  /-- In the keeper. -/
  | keeper (point : KeeperPoint)
  /-- In the command line. -/
  | tool (point : ToolPoint)
  /-- In a session. -/
  | session (point : SessionPoint)

/-- Further things that promises and timers cause. -/
inductive Hook where
  /-- A request is taken off its list. -/
  | forget (channel request : Nat)
  /-- A task of the session is over. -/
  | retire (task : Nat)
  /-- A process writes to its output. -/
  | write (process : Nat) (bytes : List UInt8)
  /-- A process ends. -/
  | quit (process : Nat) (code : Int)

/-- A stream of bytes that a task reads from. -/
structure Reader where
  /-- Bytes that have come and were not read yet. -/
  buffer : List UInt8 := []
  /-- Whether no more bytes will come. -/
  ended : Bool := false
  /-- Why it cannot be read. -/
  fault : Option String := none
  /-- The promise of the task that waits for bytes. -/
  waiter : Option Nat := none

/-- A companion process. -/
structure Process where
  /-- How it behaves. -/
  script : CompanionScript
  /-- The code with which it has ended. -/
  code : Option Int := none
  /-- Its output. -/
  stdout : Reader := {}
  /-- Its error output. -/
  stderr : Reader := {}
  /-- Promises of those who wait for its end. -/
  exitWaiters : List Nat := []
  /-- Its input, as far as it is not a complete message yet. -/
  decoder : Rpc.Decoder := { nesting := script.nesting }
  /-- The messages that it has received. -/
  received : List Fields := []
  /-- How often it has asked something. -/
  asks : Nat := 0

/-- A command that was started. -/
structure Command where
  /-- How it behaves. -/
  script : CommandScript
  /-- The code with which it has ended. -/
  code : Option Int := none

/-- Who takes the messages of a process. -/
inductive Owner where
  /-- They are recorded, but for those that the recorder fails at; the flag says whether ends and error
  output are recorded, too. -/
  | recorder (full : Bool) (takes : Fields → Bool)
  /-- A connection takes them. -/
  | connection (number : Nat)

/-- A channel to a companion process, with the requests sent through it. -/
structure Channel where
  /-- The program and its arguments. -/
  command : List String
  /-- Who takes the messages of the process. -/
  owner : Owner
  /-- The process. -/
  process : Option Nat := none
  /-- Whether it is being closed. -/
  closing : Bool := false
  /-- Its tasks. -/
  tasks : List Nat := []
  /-- The output of the process, as far as it is not a complete message yet. -/
  decoder : Rpc.Decoder
  /-- The requests sent through it. -/
  requests : Rpc.Requests := {}
  /-- The promises of their answers, in the same order. -/
  answers : List Nat := []

/-- Who is told what the companion process says. -/
inductive Listener where
  /-- Nobody. -/
  | nobody
  /-- It is recorded. -/
  | recorder
  /-- The session. -/
  | session
  /-- A check that waits for the first report on a document. -/
  | check (uri : String) (received : Nat)

/-- A connection to a companion process. -/
structure Connection where
  /-- How the process is started. -/
  config : Companion.Config
  /-- What the process is told that the server can do. -/
  capabilities : Value := Companion.defaultCapabilities
  /-- Who is told what the process says. -/
  listener : Listener := .nobody
  /-- How long to wait for the answer to the first request. -/
  greetingLimit : Option Nat := some 30000
  /-- How long to wait for the answer to the last request. -/
  partingLimit : Option Nat := some 2000
  /-- How many levels of lists and objects are left when a message is written. Without a number
  nothing is refused. -/
  room : Option Nat := none
  /-- How far it is. -/
  phase : Phase := .stopped
  /-- The channel to the process. -/
  channel : Option Nat := none
  /-- Notifications that wait until the process is ready. -/
  queue : List (String × Value) := []
  /-- The promise that says whether the process became ready. -/
  started : Option Nat := none
  /-- What the process says about itself. -/
  serverInfo : Option Fields := none

/-- The keeper of the one connection. -/
structure Keeper where
  /-- Whether someone sees to the connection. -/
  busy : Bool := false
  /-- Those who wait for their turn. -/
  tickets : List Nat := []
  /-- The connection. -/
  connection : Option Nat := none
  /-- The fingerprint of its configuration. -/
  fingerprint : Option String := none
  /-- Whether anyone wants to know when the connection is stopped. -/
  observed : Bool := true
  /-- Who is told what the companion process says. -/
  listener : Listener := .session

/-- How important a message to the user is. -/
inductive Importance where
  /-- An error. -/
  | error
  /-- A warning. -/
  | warning
  /-- For information. -/
  | information
  /-- For the log. -/
  | log
  deriving DecidableEq, Repr

/-- The number for an importance. -/
def Importance.code : Importance → Nat
  | .error => 1
  | .warning => 2
  | .information => 3
  | .log => 4

/-- An editor session. -/
structure Session where
  /-- The open documents with their problems. -/
  store : Diagnostics.Store := {}
  /-- The symbols of the open documents. -/
  symbols : Source.SymbolIndex := {}
  /-- The number of each document that was opened, with its last text. -/
  texts : List String := []
  /-- The number of each open document. -/
  numbers : List (String × Nat) := []
  /-- The settings of the workspace. -/
  settings : Settings := {}
  /-- The root of the workspace. -/
  root : Option Path := none
  /-- The address of the root. -/
  rootUri : Option String := none
  /-- The folders of the workspace, with their names. -/
  folders : List (String × String) := []
  /-- Whether the editor can be asked for settings. -/
  asksSettings : Bool := false
  /-- Whether the compiler works. -/
  compilerWorks : Bool := false
  /-- How long to wait for answers of the companion process. -/
  featureLimit : Nat := 10000
  /-- The settings that the editor has sent. -/
  payload : Value := .null
  /-- Configuration files that were complained about. -/
  complaints : List Path := []
  /-- Tasks in the background. -/
  tasks : List Nat := []

/-- A program that was started, with what it found. -/
structure Launch where
  /-- The program and its arguments. -/
  command : List String
  /-- The source that it compiles. -/
  source : Option String := none
  /-- The root of the solver library in its environment. -/
  library : Option String := none

/-- Problems shown to the editor. -/
structure Shown where
  /-- The document. -/
  uri : String
  /-- The problems. -/
  diagnostics : List Diagnostic
  /-- The version of the document that they belong to. -/
  version : Option Int

/-- What a connection has told. -/
inductive Event where
  /-- Problems. -/
  | diagnostics (uri : String) (problems : List Value) (version : Option Value)
  /-- A message. -/
  | log (text : String)
  /-- A line of error output. -/
  | errors (line : String)
  /-- The process has ended. -/
  | exit (code : Option Int)

/-- What is handed to a companion process at once. -/
inductive Payload where
  /-- A message. -/
  | message (fields : Fields)
  /-- Bytes that need not be a message. -/
  | raw (text : List UInt8)

/-- The bytes of what is handed over. -/
def Payload.bytes : Payload → List UInt8
  | .message fields => Rpc.frame fields
  | .raw text => text

/-- What can be seen from outside. -/
structure Record where
  /-- Programs that were started. -/
  launches : List Launch := []
  /-- Messages that companion processes have received. -/
  sent : List Fields := []
  /-- What was handed to companion processes, whether or not they can be written to. -/
  handed : List (Nat × Payload) := []
  /-- Signals to companion processes. -/
  signals : List String := []
  /-- Messages of companion processes. -/
  frames : List Fields := []
  /-- Codes with which companion processes have ended. -/
  exits : List (Option Int) := []
  /-- Lines of error output of companion processes. -/
  errors : List String := []
  /-- What connections have told. -/
  events : List Event := []
  /-- How often the keeper has stopped a connection. -/
  stops : Nat := 0
  /-- Problems shown to the editor. -/
  shown : List Shown := []
  /-- Messages for the log of the editor. -/
  logs : List (Importance × String) := []
  /-- Messages to the user. -/
  popups : List (Importance × String) := []
  /-- The documents for which the editor was asked for settings. -/
  fetches : List (Option String) := []
  /-- Capabilities registered with the editor. -/
  registrations : List (String × String) := []

end BasiliskServer.World

namespace BasiliskServer

open World

/-- Everything that changes while the server is at work. -/
structure World where
  /-- The machine. -/
  host : Files.Host := {}
  /-- How companion programs behave, one after the other, the last repeating. -/
  companions : List CompanionScript := [{}]
  /-- How the compiler behaves when it is asked for its version. -/
  versionScript : CommandScript := {}
  /-- How the compiler behaves otherwise, one run after the other, the last repeating. -/
  runScripts : List CommandScript := [{}]
  /-- How the editor behaves. -/
  editor : EditorScript := {}
  /-- The tasks. -/
  tasks : Tasks.Scheduler Point Answer Hook := {}
  /-- How many companion programs were started. -/
  companionCount : Nat := 0
  /-- How many runs of the compiler were started. -/
  runCount : Nat := 0
  /-- The companion processes. -/
  processes : List Process := []
  /-- The commands. -/
  commands : List Command := []
  /-- The channels. -/
  channels : List Channel := []
  /-- The connections. -/
  connections : List Connection := []
  /-- The keeper. -/
  keeper : Keeper := {}
  /-- The session. -/
  session : Session := {}
  /-- What can be seen from outside. -/
  record : Record := {}

end BasiliskServer
