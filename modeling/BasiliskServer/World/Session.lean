import BasiliskServer.Source.QuickCheck
import BasiliskServer.World.Keeper

/-!
# The editor session

The session keeps the open documents, the settings and the companion process in step with the
editor. Documents are checked when they are opened, changed or saved: the settings of the document
are looked up, the quick checks and the compiler run, and what they find is stored and shown if the
document has not changed since.
-/

namespace BasiliskServer.World

open Files (Path)
open Json (Value Fields)
open Wire (Diagnostic)

/-! ## Settings -/

/-- Asks the editor for settings. An editor that refuses to answer gives none. -/
def fetch (scope : Option String) : Act Next := do
  let editor := (← get).editor
  note fun r => { r with fetches := r.fetches ++ [scope] }
  let payload := if editor.refuses then .null else editor.answer scope
  under (.session (.fetched payload))
    (if editor.delay = 0 then finish .unit else sleep editor.delay)

/-- Complains about a configuration file, but only once. -/
def complain (path : Path) (problem : String) : Act Unit := do
  if !(← get).session.complaints.contains path then
    updateSession fun s => { s with complaints := s.complaints ++ [path] }
    log .warning (Tool.configComplaint path problem)

/-- Resolves settings from what the editor has answered. -/
def resolveSettings (start root : Option Path) (editor : Value) :
    Act (Except Failure Settings) := do
  let host := (← get).host
  let request : Settings.Request := { start, root, editor }
  match request.findProject host with
  | .error failure => return .error failure
  | .ok project =>
    (Settings.complaintOf project).forM fun (path, problem) => complain path problem
    return request.settingsOver host project

/-- Gets the settings of the workspace. -/
def refresh (revalidate : Bool) : Act Next := do
  let session := (← get).session
  under (.session (.refreshed revalidate))
    (if session.asksSettings then fetch none else finish (.json session.payload))

/-- Looks up the settings for a document. -/
def lookUp (uri : String) : Act Next :=
  under (.session (.lookedUp uri)) (fetch (some uri))

/-- The settings for a document. They are looked up once for an open document, and everyone who
needs them waits for the same lookup. -/
def documentSettings (uri : String) : Act Next := do
  let session := (← get).session
  if !session.asksSettings then finish (.settings session.settings)
  else
    match session.store.get? uri with
    | none => lookUp uri
    | some document =>
      match document.lookup with
      | some lookup => waitShielded lookup
      | none =>
        let (_, lookup) ← spawn (.lookUp uri)
        updateSession fun s =>
          { s with store := s.store.put { document with lookup := some lookup } }
        waitShielded lookup

/-! ## Compiler and companion process -/

/-- The text of the message that the compiler is missing. -/
def missingCompilerText (path : String) : String :=
  "qcc compiler not found at '" ++ path ++
    "'. Diagnostics will be limited. Set basilisk.qccPath in settings."

/-- The companion process that the settings ask for. -/
def wantedConfig (w : World) : Except Failure (Option Companion.Config) :=
  let session := w.session
  if Companion.isWanted session.settings session.compilerWorks then
    (Companion.Config.ofSettings w.host session.settings session.root session.rootUri
      session.folders).map some
  else .ok none

/-- Sees to it that the companion process runs that the settings ask for. -/
def ensureCompanion (revalidate : Bool) : Act Next := do
  match wantedConfig (← get) with
  | .error failure => fail failure
  | .ok config => under (.session (.ensured revalidate)) (ensure config)

/-- It is known whether the compiler works. -/
def noteCompiler (settings : Settings) (works : Bool) (compiler : String) (revalidate : Bool) :
    Act Next := do
  if settings.enableDiagnostics then
    if works then
      log .information ("Basilisk LSP server initialized with qcc support (" ++ compiler ++ ")")
    else log .warning (missingCompilerText settings.qccPath)
  updateSession fun s => { s with compilerWorks := works }
  ensureCompanion revalidate

/-- Finds out whether the compiler works. -/
def checkCompiler (revalidate : Bool) : Act Next := do
  let w ← get
  let settings := w.session.settings
  match Compiler.find w.host settings with
  | .error failure => fail failure
  | .ok none => noteCompiler settings false "" revalidate
  | .ok (some compiler) =>
    under (.session (.tested settings compiler revalidate)) (testCompiler compiler)

/-- Passes a notification on to the companion process, unless none is running or starting. -/
def forward (method : String) (params : Value) : Act Unit := do
  let w ← get
  w.keeper.connection.forM fun number =>
    match w.connections[number]? with
    | some c => if c.phase = .stopped then return else discard (notify number method params)
    | none => return

/-- The parameters of the notification that a document is open. -/
def openParams (document : Diagnostics.Document) : Value :=
  .object [("textDocument", .object
    [("uri", .string document.uri), ("languageId", document.language),
     ("version", .int document.clientVersion), ("text", .string document.text)])]

/-- Tells the companion process that a document is open. -/
def forwardOpen (document : Diagnostics.Document) : Act Unit :=
  forward "textDocument/didOpen" (openParams document)

/-- The companion process runs, or not: if it was started, it is told which documents are open; and
all documents are checked again if asked for. -/
def afterEnsure (started revalidate : Bool) : Act Next := do
  if started then (← get).session.store.documents.forM forwardOpen
  if revalidate then
    (← get).session.store.documents.forM fun document =>
      schedule (.validate document.uri .opened)
  finish .unit

/-- Prepares the session again after a change of the settings. Settings that the editor has sent
replace those that it sent before. -/
def reconfigure (payload : Value) : Act Next := do
  updateSession fun s =>
    { s with
      payload := if payload.isNull then s.payload else payload
      store := ⟨s.store.documents.map fun document => { document with lookup := none }⟩ }
  refresh true

/-- The name under which changes of the settings are registered. -/
def registrationId : String := "basilisk-did-change-configuration"

/-- Registers for changes of the settings and prepares the session. -/
def registerAndStart : Act Next := do
  if (← get).session.asksSettings then
    note fun r =>
      { r with
        registrations := r.registrations ++
          [(registrationId, "workspace/didChangeConfiguration")] }
  refresh false

/-- Ends the session. -/
def shutdown : Act Next := do
  (← get).session.tasks.forM fun task => modifyTasks (·.interrupt task)
  release

/-- Waits until nothing is under way in the background. -/
def settleDown : Act Next := do
  let w ← get
  if w.session.tasks.isEmpty then finish .unit
  else
    waitAll (w.session.tasks.filterMap fun task => w.tasks.tasks[task]?.map (·.result))
      (.session .settled)

/-! ## Documents -/

/-- Checks a document. -/
def validate (uri : String) (trigger : Settings.Trigger) : Act Next :=
  under (.session (.checking uri trigger)) (documentSettings uri)

/-- Whether a document is not checked at all. -/
def isSkipped (settings : Settings) : Settings.Trigger → Bool
  | .opened => false
  | .changed => !settings.diagnosticsOnType
  | .saved => !settings.diagnosticsOnSave

/-- Stores what a check has found and shows it. -/
def commitOwn (uri : String) (version : Nat) (settings : Settings) (found : List Diagnostic) :
    Act Next := do
  let (store, _, publications) :=
    (← get).session.store.commitOwn uri version found settings.maxProblems
  updateSession fun s => { s with store }
  display publications
  finish .unit

/-- Checks a document whose settings are known. -/
def checkDocument (uri : String) (trigger : Settings.Trigger) (settings : Settings) :
    Act Next := do
  if isSkipped settings trigger then finish .unit
  else
    match (← get).session.store.get? uri with
    | none => finish .unit
    | some document =>
      let found :=
        if settings.runsQuickCheck trigger then Source.quickCheck document.text else []
      if settings.runsCompiler trigger then
        under (.session (.compiled uri document.version settings found))
          (compile uri document.text settings none none)
      else commitOwn uri document.version settings found

/-- Takes a report of the companion process. -/
def commitPush (uri : String) (generation : Nat) (diagnostics : List Diagnostic) : Act Next :=
  under (.session (.committing uri generation diagnostics)) (documentSettings uri)

/-- Stores a report of the companion process whose settings are known, and shows it where problems
are shown while typing. -/
def storeReport (uri : String) (generation : Nat) (diagnostics : List Diagnostic)
    (settings : Settings) : Act Next := do
  let store := (← get).session.store
  match store.get? uri with
  | none => finish .unit
  | some document =>
    if !store.isCurrentPush uri generation then finish .unit
    else
      let kept :=
        Diagnostics.select settings.clangd.diagnosticsMode (some document.text) diagnostics
      let (store, _, publications) :=
        store.commitPush uri generation kept settings.diagnosticsOnType settings.maxProblems
      updateSession fun s => { s with store }
      display publications
      finish .unit

/-- Shows the problems of a document again. -/
def republish (uri : String) : Act Next :=
  under (.session (.republishing uri)) (documentSettings uri)

/-- Remembers the text of a document that was opened, under a number of its own. -/
def Session.rememberNew (s : Session) (uri text : String) : Session :=
  { s with
    texts := s.texts ++ [text]
    numbers := (uri, s.texts.length) :: s.numbers.filter (·.1 ≠ uri) }

/-- Remembers the text of a document that was changed. -/
def Session.rememberChange (s : Session) (uri text : String) : Session :=
  match s.numbers.lookup uri with
  | none => s
  | some number => { s with texts := s.texts.set number text }

/-- A document is opened. -/
def openDocument (uri text : String) (language : Value) (version : Int) : Act Next := do
  updateSession fun s =>
    { s.rememberNew uri text with
      store := s.store.opened uri text language version
      symbols := s.symbols.index uri text }
  ((← get).session.store.get? uri).forM forwardOpen
  validate uri .opened

/-- A document is changed. -/
def changeDocument (uri text : String) (version : Option Int) : Act Next := do
  updateSession fun s =>
    { s.rememberChange uri text with store := s.store.changed uri text version }
  match (← get).session.store.get? uri with
  | none => finish .unit
  | some document =>
    updateSession fun s => { s with symbols := s.symbols.index uri text }
    forward "textDocument/didChange" (.object
      [("textDocument", .object
        [("uri", .string uri), ("version", .int document.clientVersion)]),
       ("contentChanges", .array [.object [("text", .string text)]])])
    validate uri .changed

/-- The parameters of a notification about a document. -/
def documentParams (uri : String) : Value :=
  .object [("textDocument", .object [("uri", .string uri)])]

/-- A document is saved. -/
def saveDocument (uri : String) : Act Next := do
  forward "textDocument/didSave" (documentParams uri)
  validate uri .saved

/-- A document is closed. -/
def closeDocument (uri : String) : Act Unit := do
  let (store, publications) := (← get).session.store.closed uri
  updateSession fun s =>
    { s with store, numbers := s.numbers.filter (·.1 ≠ uri) }
  display publications
  updateSession fun s => { s with symbols := s.symbols.remove uri }
  forward "textDocument/didClose" (documentParams uri)

/-- The root that the editor works in: the one it names, or its first folder. -/
def rootOf (rootUri : Option String) (folders : List (String × String)) :
    Except Failure (Option Path) :=
  match rootUri.filter (· ≠ "") <|> folders.head?.map (·.1) with
  | none => .ok none
  | some uri => (Files.uriToPath uri).map some |>.mapError .address

/-- The editor introduces itself. A root that is malformed is refused after all else is known. -/
def introduce (rootUri : Option String) (folders : List (String × String))
    (asksSettings : Bool) : Act (Except Failure Unit) := do
  updateSession fun s => { s with rootUri, folders, asksSettings }
  match rootOf rootUri folders with
  | .error failure => return .error failure
  | .ok root =>
    updateSession fun s => { s with root }
    return .ok ()

end BasiliskServer.World
