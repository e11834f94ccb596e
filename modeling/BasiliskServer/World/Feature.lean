import BasiliskServer.Source.Completions
import BasiliskServer.Source.SymbolIndex
import BasiliskServer.Source.Token
import BasiliskServer.World.Session

/-!
# Features for the editor

Completions, hovers, definitions, references, outlines and symbol searches. The companion process
is asked first where it runs; the server answers itself where it does not run, does not answer, or
has nothing to say.
-/

namespace BasiliskServer.World

open Json (Value)
open Wire (CompletionItem CompletionResult Contents FoundSymbol Hover Location Markup Outline
  Position SymbolInformation Target)

/-- Asks the companion process, if it is used for requests and ready. -/
def proxy (settings : Settings) (method : String) (params : Value) : Act Next := do
  let w ← get
  match readyConnection? w with
  | some number =>
    if settings.clangd.enabled && settings.clangd.mode = .proxy then
      under (.session .proxied) (ask number method params (some w.session.featureLimit))
    else finish (.proxied none)
  | none => finish (.proxied none)

/-- The text of a line before a column; nothing where there is no such line. -/
def textBefore (text : String) (position : Position) : String :=
  String.ofList (((Text.lines text)[position.line]?.getD []).take position.character)

/-- The completions that the server offers itself. -/
def ownCompletions (s : Session) (cursor : Cursor) : List CompletionItem :=
  match s.store.get? cursor.uri with
  | none => Source.completionsFor ""
  | some document => Source.completionsFor (textBefore document.text cursor.position)

/-- What the server itself says about a declaration. -/
def declarationText (symbol : Source.IndexedSymbol) : String :=
  let comment := match symbol.documentation with
    | none => []
    | some "" => []
    | some text => [String.ofList (Text.strip text.toList)]
  let code := if symbol.detail.isEmpty then [] else ["```c\n" ++ symbol.detail ++ "\n```"]
  let text := Text.joinWith "\n\n" (comment ++ code)
  if text.isEmpty then "**" ++ symbol.name ++ "**" else text

/-- What the server itself says about a word. -/
def wordText? (s : Session) (word : String) : Option String :=
  match Source.hoverText? word with
  | some text => some text
  | none =>
    match Source.wordClass? word with
    | some wordClass => some ("**" ++ word ++ "** (Basilisk " ++ wordClass ++ ")")
    | none => (s.symbols.definition? word).map declarationText

/-- What the server itself says about what is under the cursor. -/
def ownHover (s : Session) (cursor : Cursor) : Option Hover := do
  let document ← s.store.get? cursor.uri
  let (word, range) ← Source.wordAt? document.text cursor.position
  let text ← wordText? s word
  return { contents := .markup (Markup.markdown text), range := some range }

/-- The word under the cursor. -/
def wordUnder? (s : Session) (cursor : Cursor) : Option String := do
  let document ← s.store.get? cursor.uri
  let (word, _) ← Source.wordAt? document.text cursor.position
  return word

/-- Offers completions. -/
def complete (cursor : Cursor) : Act Next := do
  let items := ownCompletions (← get).session cursor
  under (.session (.completing cursor items)) (documentSettings cursor.uri)

/-- An item with the documentation of its word, if it has none of its own. -/
def documented (item : CompletionItem) : CompletionItem :=
  match Source.hoverText? item.label with
  | some text =>
    if item.documentation.isPresent then item
    else { item with documentation := .markup (Markup.markdown text) }
  | none => item

/-- Completes a completion item: the companion process does so for its own items. -/
def resolveItem (item : CompletionItem) : Act Next := do
  let w ← get
  let (item, side) := untagItem item
  match side, readyConnection? w with
  | some .companion, some number =>
    under (.session (.resolved item))
      (ask number "completionItem/resolve" item.toJson (some w.session.featureLimit))
  | _, _ => finish (.item (documented item))

/-- Runs an activity for an open document. -/
def ifOpen (uri : String) (otherwise : Answer) (activity : Act Next) : Act Next := do
  if ((← get).session.store.get? uri).isSome then activity else finish otherwise

/-- Explains what is under the cursor. -/
def explain (cursor : Cursor) : Act Next :=
  ifOpen cursor.uri (.hover none)
    (under (.session (.hovering cursor)) (documentSettings cursor.uri))

/-- Finds a definition. -/
def define (cursor : Cursor) : Act Next :=
  ifOpen cursor.uri (.definition .unknown)
    (under (.session (.defining cursor)) (documentSettings cursor.uri))

/-- Finds references. -/
def refer (cursor : Cursor) : Act Next :=
  ifOpen cursor.uri (.places []) do
    let number := ((← get).session.numbers.lookup cursor.uri).getD 0
    under (.session (.referring cursor number)) (documentSettings cursor.uri)

/-- Outlines a document. -/
def outline (uri : String) (params : Value) : Act Next :=
  under (.session (.outlining uri params)) (documentSettings uri)

/-- Searches for symbols. -/
def search (query : String) (params : Value) : Act Next := do
  under (.session (.searched query)) (proxy (← get).session.settings "workspace/symbol" params)

/-- The definition that the server itself knows. -/
def ownDefinition (s : Session) (cursor : Cursor) : Definition :=
  match (wordUnder? s cursor).bind s.symbols.definition? with
  | some symbol => .place symbol.location
  | none => .unknown

/-- The references that the server itself finds. The text is that of the document for which they
were asked for, the word that of the document as it is now. -/
def ownReferences (s : Session) (cursor : Cursor) (number : Nat) : List Location :=
  match wordUnder? s cursor with
  | none => []
  | some word =>
    (Source.references (s.texts[number]?.getD "") word).map fun range => ⟨cursor.uri, range⟩

/-- The symbols that the server itself finds. -/
def ownSymbols (s : Session) (query : String) : List FoundSymbol :=
  (s.symbols.find query).map fun symbol =>
    .located
      { name := symbol.name
        kind := symbol.kind
        location := symbol.location
        containerName := symbol.container }

/-- The definition that the companion process has found, if it is one. -/
def companionDefinition? (value : Option Value) : Option Definition := do
  let value ← value
  if !value.truthy then none
  match Target.listOfJson value with
  | [] => none
  | targets => some (.targets targets)

/-- The places among the targets that the companion process has found. -/
def plainPlaces (value : Value) : List Location :=
  (Target.listOfJson value).filterMap fun
    | .location location => some location
    | .link _ => none

/-- The tokens of a document. -/
def documentTokens (s : Session) (uri : String) : List Int :=
  match s.store.get? uri with
  | none => []
  | some document => Source.tokenData document.text

/-- Goes on in a session. -/
def SessionPoint.resume (point : SessionPoint) (outcome : Outcome) : Act Next := do
  match point, outcome with
  | .fetched payload, .ok _ => finish (.json payload)
  | .refreshed revalidate, .ok (.json editor) =>
    let root := (← get).session.root
    match ← resolveSettings root root editor with
    | .error failure => fail failure
    | .ok settings =>
      updateSession fun s => { s with settings }
      checkCompiler revalidate
  | .tested settings compiler revalidate, .ok (.bool works) =>
    noteCompiler settings works compiler revalidate
  | .ensured revalidate, .ok (.bool started) => afterEnsure started revalidate
  | .ensured revalidate, .error (.startFailed path) =>
    let text := "clangd error: " ++ (Failure.startFailed path).message
    log .error text
    popUp .error text
    afterEnsure false revalidate
  | .lookedUp uri, .ok (.json editor) =>
    match Files.uriToPath uri with
    | .error fault => fail (.address fault)
    | .ok path =>
      let root := (← get).session.root <|> some path.parent
      give ((← resolveSettings (some path.parent) root editor).map .settings)
  | .checking uri trigger, .ok (.settings settings) => checkDocument uri trigger settings
  | .compiled uri version settings found, .ok (.findings findings) =>
    commitOwn uri version settings (found ++ findings.diagnostics)
  | .compiled uri version settings found, .error failure =>
    if failure.isExpected then
      log .warning ("qcc diagnostics failed: " ++ failure.message)
      commitOwn uri version settings found
    else fail failure
  | .committing uri generation diagnostics, .ok (.settings settings) =>
    storeReport uri generation diagnostics settings
  | .republishing uri, .ok (.settings settings) =>
    display ((← get).session.store.publish uri settings.maxProblems)
    finish .unit
  | .settled, .ok _ => settleDown
  | .proxied, .ok (.json value) => finish (.proxied (some value))
  | .proxied, .error failure =>
    if isUnanswered failure then finish (.proxied none) else fail failure
  | .completing cursor items, .ok (.settings settings) =>
    under (.session (.offered items)) (proxy settings "textDocument/completion" cursor.params)
  | .offered items, .ok (.proxied value) =>
    finish (.offer (match value with
      | none => .own (items.map (tagItem .own))
      | some value => .merged (mergeCompletions (CompletionResult.ofJson? value) items)))
  | .resolved item, .ok (.json value) =>
    finish (.item (documented ((CompletionItem.ofJson? value).getD item)))
  | .resolved item, .error failure =>
    if isUnanswered failure then finish (.item (documented item)) else fail failure
  | .hovering cursor, .ok (.settings settings) =>
    let own := ownHover (← get).session cursor
    under (.session (.explained own)) (proxy settings "textDocument/hover" cursor.params)
  | .explained own, .ok (.proxied value) =>
    finish (.hover (mergeHovers (value.bind Hover.ofJson?) own))
  | .defining cursor, .ok (.settings settings) =>
    under (.session (.defined cursor)) (proxy settings "textDocument/definition" cursor.params)
  | .defined cursor, .ok (.proxied value) =>
    match companionDefinition? value with
    | some definition => finish (.definition definition)
    | none => finish (.definition (ownDefinition (← get).session cursor))
  | .referring cursor number, .ok (.settings settings) =>
    under (.session (.referred cursor number))
      (proxy settings "textDocument/references" cursor.params)
  | .referred cursor number, .ok (.proxied value) =>
    match value with
    | some (.array entries) => finish (.places (plainPlaces (.array entries)))
    | _ => finish (.places (ownReferences (← get).session cursor number))
  | .outlining uri params, .ok (.settings settings) =>
    under (.session (.outlined uri)) (proxy settings "textDocument/documentSymbol" params)
  | .outlined uri, .ok (.proxied value) =>
    match value with
    | some (.array entries) => finish (.outline (Outline.ofJson (.array entries)))
    | _ => finish (.outline (.tree ((← get).session.symbols.documentSymbols uri)))
  | .searched query, .ok (.proxied value) =>
    match value with
    | some (.array entries) => finish (.symbols (FoundSymbol.listOfJson (.array entries)))
    | _ => finish (.symbols (ownSymbols (← get).session query))
  | _, outcome => give outcome

end BasiliskServer.World
