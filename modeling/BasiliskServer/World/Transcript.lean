import BasiliskServer.World.Editor
import BasiliskServer.World.Run

/-!
# Transcripts

What can be seen of a scene, written as JSON: programs and messages, what a connection has told,
what the editor was shown, and the state of a session. Lists are left out when they are empty.
-/

/-!
## Scenes

A scene is a world to which one thing happens after the other: time passes, something is done at
once, or an operation begins. After every move everything runs that can run. Operations that are
not finished stay under way, and a later report tells how they ended.
-/

namespace BasiliskServer.World

open Json (Value Fields)
open Wire (CompletionItem Diagnostic)

/-- What happens next in a scene. -/
inductive Move where
  /-- Time passes. -/
  | pass (time : Nat)
  /-- Something is done at once. -/
  | perform (action : Act Unit)
  /-- An operation begins. One in the background is not waited for; for any other, time passes
  until it is finished or nothing more will happen. -/
  | begin (activity : Activity) (background : Bool)

/-- A world to which one thing happens after the other. -/
structure Scene where
  /-- The world. -/
  world : World
  /-- The operations under way: the move with which each began, and the promise of its result. -/
  underWay : List (Nat × Nat) := []
  /-- How many moves there were. -/
  moves : Nat := 0
  /-- How many of the processes come before the last one that was ever written to, or that one. -/
  writtenTo : Nat := 0

/-- What can be told after a move. -/
structure Report where
  /-- The operations that have ended, by the moves with which they began. -/
  ended : List (Nat × Outcome)
  /-- The time. -/
  clock : Nat
  /-- What could be seen from outside. -/
  seen : Record
  /-- What was written to the last process that was ever written to. -/
  written : List UInt8

/-- Makes a move and lets everything run that can run, with a bound on the number of steps. -/
def Scene.play (fuel : Nat) (scene : Scene) : Move → Scene
  | .pass time =>
    { scene with world := runUntil fuel (scene.world.tasks.now + time) scene.world }
  | .perform action => { scene with world := runSteps fuel (scene.world.perform action) }
  | .begin activity background =>
    let (world, result) := scene.world.begin activity
    let world := runSteps fuel world
    { scene with
      world := if background then world else runUntilSettled fuel result world
      underWay := scene.underWay ++ [(scene.moves, result)] }

/-- The operations under way that have ended. -/
def Scene.ended (scene : Scene) : List (Nat × Outcome) :=
  scene.underWay.filterMap fun (move, result) =>
    (scene.world.outcome? result).map fun outcome => (move, outcome)

/-- What has reached companion processes: what was handed to those that can be written to. -/
def written (w : World) : List (Nat × List UInt8) :=
  w.record.handed.filterMap fun (process, payload) =>
    match w.processes[process]? with
    | some p => if p.script.refusesInput then none else some (process, payload.bytes)
    | none => none

/-- Tells what has happened; it is told once. The number of stops goes on. -/
def Scene.report (scene : Scene) : Report × Scene :=
  let record := scene.world.record
  let written := scene.world.written
  let writtenTo := written.foldl (fun n (process, _) => max n (process + 1)) scene.writtenTo
  ({ ended := scene.ended
     clock := scene.world.tasks.now
     seen := record
     written := (written.filter fun (process, _) => process + 1 = writtenTo).flatMap (·.2) },
   { scene with
     world := { scene.world with record := { stops := record.stops } }
     underWay := scene.underWay.filter fun (_, result) => (scene.world.outcome? result).isNone
     moves := scene.moves + 1
     writtenTo })

/-! ## What is written down -/

/-- A list that is left out when it is empty. -/
def listField (name : String) (items : List Value) : Fields :=
  if items.isEmpty then [] else [(name, .array items)]

/-- Writes a program that was started. -/
def Launch.toJson (launch : Launch) : Value :=
  .object ([("argv", .strings launch.command)] ++
    Wire.optionalField "source" .string launch.source ++
    Wire.optionalField "BASILISK" .string launch.library)

/-- A greeting without the capabilities that it tells; other messages as they are. -/
def shortGreeting (message : Fields) : Fields :=
  if (Json.Fields.get? message "method").bind Value.string? = some "initialize" then
    message.map fun (name, value) =>
      match name, value with
      | "params", .object params => (name, .object (params.filter (·.1 ≠ "capabilities")))
      | _, _ => (name, value)
  else message

/-- Writes what programs were started and what they were sent. -/
def Record.traffic (record : Record) (full : Bool) : Fields :=
  listField "spawned" (record.launches.map Launch.toJson) ++
    listField "sent"
      (record.sent.map fun message => .object (if full then message else shortGreeting message)) ++
    listField "signals" (record.signals.map .string)

/-- Writes what a channel has passed on. -/
def Record.frameFields (record : Record) : Fields :=
  listField "frames" (record.frames.map .object) ++
    listField "exits" (record.exits.map (Value.ofOption .int)) ++
    listField "stderr" (record.errors.map .string)

/-- Writes what a connection has told. -/
def Event.toJson : Event → Value
  | .diagnostics uri problems version =>
    .array [.string "diagnostics", .string uri, .array problems, version.getD .null]
  | .log text => .array [.string "log", .string text]
  | .errors line => .array [.string "stderr", .string line]
  | .exit code => .array [.string "exit", Value.ofOption .int code]

/-- Writes a message with its importance. -/
def messageJson (message : Importance × String) : Value :=
  .array [.nat message.1.code, .string message.2]

/-- Writes problems as they were shown. -/
def Shown.toJson (shown : Shown) : Value :=
  .array [.string shown.uri, .array (shown.diagnostics.map Diagnostic.toJson),
    Value.ofOption .int shown.version]

/-- Writes what the editor was shown and asked. -/
def Record.editorFields (record : Record) : Fields :=
  listField "published" (record.shown.map Shown.toJson) ++
    listField "logs" (record.logs.map messageJson) ++
    listField "shown" (record.popups.map messageJson) ++
    listField "fetches" (record.fetches.map (Value.ofOption .string)) ++
    listField "registered" (record.registrations.map fun (id, method) =>
      .array [.string id, .string method])

/-- Writes an open document; of its problems only the texts. -/
def documentJson (document : Diagnostics.Document) : Value :=
  .object [("uri", .string document.uri), ("text", .string document.text),
    ("language", document.language), ("client", .int document.clientVersion),
    ("version", .nat document.version), ("generation", .nat document.generation),
    ("local", .strings (document.own.map (·.message))),
    ("clangd", .strings (document.companion.map (·.message)))]

/-- Writes the state of a session. -/
def Session.toJson (session : Session) : Value :=
  .object [("root", Value.ofOption (fun root => .string root.toString) session.root),
    ("root_uri", Value.ofOption .string session.rootUri),
    ("documents", .array (session.store.documents.map documentJson)),
    ("settings", session.settings.toJson)]

/-- Writes what is offered for completion in short: labels, and which side they come from. -/
def Offer.summary (full : Bool) (offer : Offer) : Value :=
  let entry (item : CompletionItem) : Value :=
    if full then item.toJson else .array [.string item.label, item.data.getD "source"]
  match offer with
  | .own items => .object [("list", .bool true), ("items", .array (items.map entry))]
  | .merged l =>
    .object [("list", .bool false), ("items", .array (l.items.map entry)),
      ("isIncomplete", .bool l.isIncomplete)]

/-- The connection that the keeper holds. -/
def keptConnection? (w : World) : Option Connection :=
  w.keeper.connection.bind (w.connections[·]?)

/-- The word for the phase of the connection that the keeper holds. -/
def keptPhase (w : World) : Value :=
  Value.ofOption (fun c => .string c.phase.name) (keptConnection? w)

/-- Writes the state of a channel. -/
def channelFields (w : World) (channel : Channel) : Fields :=
  [("running", .bool (channel.process.any fun process =>
      (exitCode? w process).isNone && !channel.closing)),
   ("has_pid", .bool channel.process.isSome),
   ("command", .strings channel.command)]

/-- Writes the state of a connection, and what it has told. -/
def connectionFields (w : World) (connection : Connection) : Fields :=
  let channel := connection.channel.bind (w.channels[·]?)
  listField "events" (w.record.events.map Event.toJson) ++
    [("state", .string connection.phase.name), ("ready", .bool (connection.phase = .ready)),
     ("pending", .nat ((channel.map (·.requests.pending.length)).getD 0)),
     ("queued", .nat connection.queue.length),
     ("server_info", Value.ofOption .object connection.serverInfo),
     ("has_pid", .bool (channel.bind (·.process)).isSome)]

/-- Writes the state of the keeper. -/
def keeperFields (w : World) : Fields :=
  [("state", keptPhase w), ("fingerprint", Value.ofOption .string w.keeper.fingerprint),
   ("ready", .bool (readyConnection? w).isSome), ("stopped", .nat w.record.stops)]

/-- Writes what the editor was shown, and how the tools of the session are. -/
def sessionFields (w : World) : Fields :=
  w.record.editorFields ++
    [("bridge", keptPhase w), ("qcc", .bool w.session.compilerWorks)]

end BasiliskServer.World
