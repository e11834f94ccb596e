import BasiliskServer.Json.Value
import BasiliskServer.World.Basic
import BasiliskServer.World.Run

/-!
# Runs of an editor session

What can happen to a world in which an editor session is at work: the world takes a step of its
own, the editor calls for something, a companion process does something that its script does not
say, time passes, or something outside changes. While a task runs nothing else happens, so that
everything from outside waits until the task does.

A run is a list of such stimuli, in any order. The world `World.fresh` begins with nothing under
way; everything about the machine, the programs and the editor is free.
-/

/-!
## What a companion process knows of the documents

A companion process learns of the documents of the editor from three notifications: that a document
is open, that it has changed, and that it is closed. This is how they are read off what is handed to
a process, and what they say one after the other about one document.
-/

namespace BasiliskServer.World

open Json (Value Fields)

/-- What a companion process is told about a document. -/
inductive Sync where
  /-- It is open, with this text in this version. -/
  | opened (text : String) (version : Int)
  /-- It has this text now, in this version. -/
  | changed (text : String) (version : Int)
  /-- It is closed. -/
  | closed
  deriving DecidableEq, Repr

namespace Sync

/-- The text and the version that a document has afterwards; nothing if it is not open. -/
def content? : Sync → Option (String × Int)
  | .opened text version => some (text, version)
  | .changed text version => some (text, version)
  | .closed => none

/-- The text that the only change of a document brings, if it is a change of the whole text. -/
def changedText? (params : Value) : Option String :=
  match params.itemsAt "contentChanges" with
  | [change] => if (change.get? "range").isSome then none else change.textAt? "text"
  | _ => none

/-- What a notification says about which document, if it says anything about one. -/
def ofNotification? (method : String) (params : Value) : Option (String × Sync) := do
  let document := params.getD "textDocument"
  let uri ← document.textAt? "uri"
  if method = "textDocument/didOpen" then
    return (uri, .opened (← document.textAt? "text") (← document.intAt? "version"))
  else if method = "textDocument/didChange" then
    return (uri, .changed (← changedText? params) (← document.intAt? "version"))
  else if method = "textDocument/didClose" then return (uri, .closed)
  else none

/-- What a message says about which document. Only notifications say anything. -/
def ofMessage? (message : Fields) : Option (String × Sync) :=
  if message.has "id" then none
  else
    match message.get? "method" with
    | some (.string method) => ofNotification? method ((message.get? "params").getD .null)
    | _ => none

/-- Whether it makes sense for a document that is open or not. -/
def Fits (isOpen : Bool) : Sync → Prop
  | .opened _ _ => isOpen = false
  | .changed _ _ => isOpen = true
  | .closed => isOpen = true

instance decidableFits (isOpen : Bool) : ∀ sync : Sync, Decidable (sync.Fits isOpen)
  | .opened _ _ => inferInstanceAs (Decidable (isOpen = false))
  | .changed _ _ => inferInstanceAs (Decidable (isOpen = true))
  | .closed => inferInstanceAs (Decidable (isOpen = true))

/-- Whether one after the other makes sense for a document that is open or not at first. -/
def Follows : Bool → List Sync → Prop
  | _, [] => True
  | isOpen, sync :: rest => sync.Fits isOpen ∧ Follows sync.content?.isSome rest

instance decidableFollows : ∀ (isOpen : Bool) (said : List Sync), Decidable (Follows isOpen said)
  | _, [] => isTrue trivial
  | isOpen, sync :: rest =>
    have := decidableFollows sync.content?.isSome rest
    inferInstanceAs (Decidable (sync.Fits isOpen ∧ Follows sync.content?.isSome rest))

end Sync

/-- What is handed to a process, as far as it is about documents. -/
def Payload.sync? : Payload → Option (String × Sync)
  | .message fields => Sync.ofMessage? fields
  | .raw _ => none

/-- What all processes were told about documents, in order: the process, the document, and what was
said about it. -/
def syncs (w : World) : List (Nat × String × Sync) :=
  w.record.handed.filterMap fun (process, payload) => payload.sync?.map (process, ·)

/-- What one process was told about one document, in order. -/
def told (w : World) (process : Nat) (uri : String) : List Sync :=
  w.syncs.filterMap fun (p, u, sync) => if p = process ∧ u = uri then some sync else none

/-- The process that a connection writes to. -/
def processOf? (w : World) (connection : Nat) : Option Nat := do
  let channel ← (← w.connections[connection]?).channel
  (← w.channels[channel]?).process

/-! ## Runs -/

/-- What an editor can call for in a session. -/
def Activity.isCall : Activity → Bool
  | .startup | .registerAndStart | .reconfigure _ | .shutdown | .settleDown
  | .openDocument _ _ _ _ | .changeDocument _ _ _ | .saveDocument _
  | .complete _ | .resolveItem _ | .hover _ | .define _ | .refer _ | .outline _ _ | .search _ _ =>
    true
  | _ => false

/-- What can happen to a world. -/
inductive Stimulus where
  /-- The world takes a step. -/
  | step
  /-- The editor introduces itself. -/
  | introduction (rootUri : Option String) (folders : List (String × String))
      (asksSettings : Bool)
  /-- The editor calls for something that takes its time. -/
  | call (activity : Activity)
  /-- The editor closes a document. -/
  | close (uri : String)
  /-- A process writes to its output. -/
  | output (process : Nat) (bytes : List UInt8)
  /-- A process writes to its error output. -/
  | errors (process : Nat) (bytes : List UInt8)
  /-- The output of a process cannot be read any more. -/
  | fault (process : Nat) (text : String)
  /-- A process ends. -/
  | exit (process : Nat) (code : Int)
  /-- Time moves on to a moment. -/
  | time (moment : Nat)
  /-- The machine changes. -/
  | machine (host : Files.Host)
  /-- The editor behaves differently. -/
  | editor (script : EditorScript)
  /-- The settings in force change, and with them whether the compiler counts as working. -/
  | settings (chosen : Settings) (compilerWorks : Bool)

/-- What a stimulus from outside does. -/
def Stimulus.act : Stimulus → Act Unit
  | .step => stepAct
  | .introduction rootUri folders asksSettings =>
    discard (introduce rootUri folders asksSettings)
  | .call activity => if activity.isCall then discard (spawn activity) else return
  | .close uri => closeDocument uri
  | .output process bytes => writeOutput process bytes
  | .errors process bytes => writeErrors process bytes
  | .fault process text => breakOutput process text
  | .exit process code => quit process code
  | .time moment => modifyTasks (·.moveTo moment)
  | .machine host => modify fun w => { w with host }
  | .editor script => modify fun w => { w with editor := script }
  | .settings chosen compilerWorks =>
    updateSession fun s => { s with settings := chosen, compilerWorks }

/-- A stimulus happens. While a task runs, only steps do. -/
def meet (w : World) (stimulus : Stimulus) : World :=
  match stimulus, w.tasks.running with
  | .step, _ => w.step
  | _, some _ => w
  | stimulus, none => w.perform stimulus.act

/-! ## What the editor does to documents -/

/-- What the editor does to a document when a task goes on at a point. -/
def Point.edit? (w : World) : Point → Outcome → Option (String × Sync)
  | .start (.openDocument uri text _ version), .ok _ => some (uri, .opened text version)
  | .start (.changeDocument uri text version), .ok _ =>
    (w.session.store.get? uri).map fun document =>
      (uri, .changed text (version.getD document.clientVersion))
  | _, _ => none

/-- What the editor does to a document when a stimulus happens, if it does anything to one. A task
that opens or changes a document does so when it begins to run. -/
def edit? (w : World) : Stimulus → Option (String × Sync)
  | .step =>
    match w.tasks.running with
    | none => none
    | some (task, outcome) =>
      ((w.tasks.tasks[task]?).bind (·.stack.head?)).bind (Point.edit? w · outcome)
  | .close uri => if w.tasks.running.isSome then none else some (uri, .closed)
  | _ => none

/-- Stimuli happen one after the other. -/
def meetAll (w : World) (stimuli : List Stimulus) : World :=
  stimuli.foldl meet w

/-- A world in which nothing has happened yet. -/
def fresh (host : Files.Host) (companions : List CompanionScript) (versionScript : CommandScript)
    (runScripts : List CommandScript) (editor : EditorScript) : World :=
  { host, companions, versionScript, runScripts, editor }

end BasiliskServer.World
