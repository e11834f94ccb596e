import BasiliskServer.World.Channel

/-!
# What the companion process tells

The companion process reports problems, writes messages and error output, and may end on its own.
Who is told depends on what the connection is for. In a session a report is taken in two steps: a
marker is taken at once, and the report is stored by a task of its own.
-/

namespace BasiliskServer.World

open Json (Value Fields)
open Wire (Diagnostic)

/-- Changes the session. -/
def updateSession (change : Session → Session) : Act Unit :=
  modify fun w => { w with session := change w.session }

/-- Writes a message to the log of the editor. -/
def log (importance : Importance) (text : String) : Act Unit :=
  note fun r => { r with logs := r.logs ++ [(importance, text)] }

/-- Shows a message to the user. -/
def popUp (importance : Importance) (text : String) : Act Unit :=
  note fun r => { r with popups := r.popups ++ [(importance, text)] }

/-- Shows problems to the editor, with the version of the document if it is open. -/
def display (publications : List Diagnostics.Publication) : Act Unit := do
  let store := (← get).session.store
  note fun r =>
    { r with
      shown := r.shown ++ publications.map fun p =>
        { uri := p.uri
          diagnostics := p.diagnostics
          version := (store.get? p.uri).map (·.clientVersion) } }

/-- Starts a task in the background. -/
def schedule (activity : Activity) : Act Unit := do
  let (task, result) ← spawn activity
  updateSession fun s => { s with tasks := s.tasks ++ [task] }
  observe result (.hook (.retire task))

/-- A task in the background is over. -/
def retire (task : Nat) : Act Unit :=
  updateSession fun s => { s with tasks := s.tasks.filter (· ≠ task) }

/-- The problems in a report, with their reporter; entries that are no problems are dropped. -/
def readReport (problems : List Value) : List Diagnostic :=
  (problems.filterMap Diagnostic.ofJson?).map Diagnostics.nameSource

/-- The session takes a report of the companion process. -/
def takeReport (uri : String) (problems : List Value) (version : Option Int) : Act Unit := do
  let (store, generation) := (← get).session.store.beginPush uri version
  updateSession fun s => { s with store }
  match generation with
  | none => return
  | some generation => schedule (.commitPush uri generation (readReport problems))

/-- A code as it is written in messages. -/
def codeText : Option Int → String
  | none => "None"
  | some code => toString code

/-- The session is told that the companion process has ended on its own. -/
def takeExit (code : Option Int) : Act Unit := do
  log .warning ("clangd exited unexpectedly (code " ++ codeText code ++ ")")
  updateSession fun s => { s with store := s.store.clearCompanion }
  (← get).session.store.documents.forM fun document => schedule (.republish document.uri)

/-- Tells of a report. -/
def Listener.report (listener : Listener) (uri : String) (problems : List Value)
    (version : Option Value) : Act Unit :=
  match listener with
  | .nobody => return
  | .recorder =>
    note fun r => { r with events := r.events ++ [.diagnostics uri problems version] }
  | .session => takeReport uri problems (version.bind Value.integer?)
  | .check expected received =>
    if uri = expected then settle received (.ok (.json (.array problems))) else return

/-- Tells of a message. -/
def Listener.message (listener : Listener) (text : String) : Act Unit :=
  match listener with
  | .recorder => note fun r => { r with events := r.events ++ [.log text] }
  | .session => log .log (String.ofList (Text.strip text.toList))
  | _ => return

/-- Tells of a line of error output. -/
def Listener.errors (listener : Listener) (line : String) : Act Unit :=
  match listener with
  | .recorder => note fun r => { r with events := r.events ++ [.errors line] }
  | .check _ _ => note fun r => { r with errors := r.errors ++ [line] }
  | _ => return

/-- Tells that the process has ended on its own. -/
def Listener.exit (listener : Listener) (code : Option Int) : Act Unit :=
  match listener with
  | .recorder => note fun r => { r with events := r.events ++ [.exit code] }
  | .session => takeExit code
  | _ => return

/-- Changes a connection. -/
def updateConnection (number : Nat) (change : Connection → Connection) : Act Unit :=
  modify fun w => { w with connections := w.connections.modify number change }

/-- Settles whether a connection became ready, if that is open. -/
def settleStarted (number : Nat) (ready : Bool) : Act Unit := do
  match (← get).connections[number]? with
  | some { started := some started, .. } => settle started (.ok (.bool ready))
  | _ => return

/-- A connection is stopped: it has no channel and no queue. -/
def reset (number : Nat) : Act Unit := do
  updateConnection number fun c => { c with channel := none, queue := [], phase := .stopped }
  settleStarted number false

/-- A connection takes a notification of its process. -/
def takeNotification (c : Connection) (method : String) (params : Value) : Act Unit :=
  match method with
  | "textDocument/publishDiagnostics" =>
    match params.get? "uri" with
    | some (.string uri) =>
      let problems := ((params.get? "diagnostics").bind Value.items?).getD []
      let version := (params.get? "version").filter (·.integer?.isSome)
      c.listener.report uri problems version
    | _ => return
  | "window/logMessage" => takeText
  | "window/showMessage" => takeText
  | _ => return
where
  /-- A message that is not empty is passed on. -/
  takeText : Act Unit :=
    match params.get? "message" with
    | some (.string text) => if text.isEmpty then return else c.listener.message text
    | _ => return

/-- A connection takes a message of a process. -/
def takeFrame (number : Nat) (message : Fields) : Act Unit := do
  match (← get).connections[number]? with
  | some c =>
    match c.channel with
    | some channel =>
      match ← takeMessage c.room channel message with
      | some (method, params) => takeNotification c method params
      | none => return
    | none => return
  | none => return

/-- A connection is told that a process has ended on its own. -/
def takeLoss (number : Nat) (code : Option Int) : Act Unit := do
  match (← get).connections[number]? with
  | none => return
  | some c =>
    c.channel.forM fun channel => rejectAll channel (.exited code)
    updateConnection number fun c => { c with queue := [] }
    if c.phase ≠ .stopping then
      reset number
      c.listener.exit code

/-- The owner of a channel is told of a message. That a recorder fails at one is passed over. -/
def Owner.frame (owner : Owner) (message : Fields) : Act Unit :=
  match owner with
  | .recorder _ takes =>
    if !takes message then return
    else note fun r => { r with frames := r.frames ++ [message] }
  | .connection number => takeFrame number message

/-- The owner of a channel is told of a line of error output. -/
def Owner.errors (owner : Owner) (line : String) : Act Unit := do
  match owner with
  | .recorder full _ => if full then note fun r => { r with errors := r.errors ++ [line] }
  | .connection number =>
    match (← get).connections[number]? with
    | some c => c.listener.errors line
    | none => return

/-- The owner of a channel is told that the process has ended on its own. -/
def Owner.exit (owner : Owner) (code : Option Int) : Act Unit :=
  match owner with
  | .recorder full _ => if full then note fun r => { r with exits := r.exits ++ [code] } else return
  | .connection number => takeLoss number code

end BasiliskServer.World
