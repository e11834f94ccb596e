import BasiliskServer.Wire.Capabilities
import BasiliskServer.World.Feature

/-!
# Messages of the editor

What the editor tells and asks the server, read from the wire, and what the server does with it.
Some messages are dealt with at once; the others begin an activity. Parameters that do not have the
form that their method prescribes are refused before anything happens.
-/

namespace BasiliskServer.World

open Json (Value Fields)
open Wire (CompletionItem Misfit Position Shape)

/-- The section of the settings that is meant for the server. -/
def settingsSection (settings : Value) : Value :=
  match settings.get? "basilisk" with
  | some (.object fields) => .object fields
  | _ => .object []

/-! ## Parameters -/

/-- The parameters that name a document. -/
def documentFields (uri : String) : Fields :=
  [("textDocument", .object [("uri", .string uri)])]

/-- The parameters that name a place in a document. -/
def placeFields (uri : String) (position : Position) : Fields :=
  documentFields uri ++ [("position", position.toJson)]

/-- The parameters that say whether the declaration counts as a reference. -/
def referenceFields (declaration : Bool) : Fields :=
  [("context", .object [("includeDeclaration", .bool declaration)])]

/-- A place in a document; the position may not exist. -/
def Cursor.make (uri : String) (line character : Int) (further : Fields := []) :
    Except Failure Cursor := do
  let position ← (Position.make line character).mapError .position
  return { uri, position, params := .object (placeFields uri position ++ further) }

/-- The address in the parameters of a message about a document. -/
def readUri? (params : Value) : Option String := do
  let document ← (← params.get? "textDocument").fields?
  Wire.readString (← Wire.required document "uri")

/-- The mark by which the editor follows the progress of a request, passed on as it is. -/
def progressField (params : Value) : Fields :=
  Wire.anyField "workDoneToken" (params.getD "workDoneToken")

/-- The marks by which the editor follows the progress of a request and takes parts of its answer,
passed on as they are. -/
def progressFields (params : Value) : Fields :=
  progressField params ++
    Wire.anyField "partialResultToken" (params.getD "partialResultToken")

/-- How a completion was asked for, passed on as it is understood. -/
def readTrigger? (value : Value) : Option Value := do
  let fields ← value.fields?
  let kind ← Wire.readCode? 3 (← Wire.required fields "triggerKind")
  let character ← Wire.optional Wire.readString fields "triggerCharacter"
  return .object ([("triggerKind", .nat kind)] ++
    Wire.optionalField "triggerCharacter" .string character)

/-- What counts as a reference, passed on as it is understood. -/
def readReferenceContext? (value : Value) : Option Value := do
  let fields ← value.fields?
  let declaration ← Wire.readBool (← Wire.required fields "includeDeclaration")
  return .object [("includeDeclaration", .bool declaration)]

/-- A place in a document, with further parameters that are passed on. -/
def Cursor.ofJson? (params : Value) (further : Fields) : Option Cursor := do
  let uri ← readUri? params
  let position ← Position.ofJson? (← params.get? "position")
  return { uri, position, params := .object (placeFields uri position ++ further) }

/-- A place about which an explanation is asked for. -/
def Cursor.ofHover? (params : Value) : Option Cursor :=
  Cursor.ofJson? params (progressField params)

/-- A place for which a definition is asked for. -/
def Cursor.ofDefinition? (params : Value) : Option Cursor :=
  Cursor.ofJson? params (progressFields params)

/-- A place at which completions are asked for. -/
def Cursor.ofCompletion? (params : Value) : Option Cursor := do
  let context ← Wire.optional readTrigger? (← params.fields?) "context"
  Cursor.ofJson? params (Wire.optionalField "context" id context ++ progressFields params)

/-- A place for which references are asked for. -/
def Cursor.ofReference? (params : Value) : Option Cursor := do
  let context ← readReferenceContext? (← params.get? "context")
  Cursor.ofJson? params ([("context", context)] ++ progressFields params)

/-- A folder of the workspace: its address and its name. -/
def readFolder? (value : Value) : Option (String × String) := do
  let fields ← value.fields?
  let uri ← Wire.readString (← Wire.required fields "uri")
  let name ← Wire.readString (← Wire.required fields "name")
  return (uri, name)

/-- The address of a file that has changed. -/
def readFileChange? (value : Value) : Option String := do
  let fields ← value.fields?
  let _ ← Wire.readCode? 3 (← Wire.required fields "type")
  Wire.readString (← Wire.required fields "uri")

/-- The number of a version of a document. -/
def readVersion? (value : Value) : Option Int :=
  Wire.readIntBetween? Wire.leastInt Wire.greatestInt value

/-- The form of a change of a whole document. -/
def wholeChange : Shape := .record [("text", .anything)] []

/-- The form of a change of a range of a document. -/
def rangeChange : Shape :=
  .record [("range", .range), ("text", .anything)] [("rangeLength", .natural)]

/-- The change of a document; what it changes is known from the editor's text. -/
def readContentChange? (value : Value) : Option Unit :=
  let shape := if (value.get? "range").isSome then rangeChange else wholeChange
  if shape.accepts value then some () else none

/-! ## Messages -/

/-- A message of the editor. -/
inductive EditorMessage where
  /-- The editor introduces itself. -/
  | introduction (rootUri : Option String) (folders : List (String × String))
      (asksSettings : Bool)
  /-- The editor is ready. -/
  | readiness
  /-- The settings have changed. -/
  | newSettings (settings : Value)
  /-- Files have changed. -/
  | newFiles
  /-- A document is opened. -/
  | opening (uri text : String) (language : Value) (version : Int)
  /-- A document is changed. -/
  | change (uri : String) (version : Option Int)
  /-- A document is saved. -/
  | saving (uri : String)
  /-- A document is closed. -/
  | closing (uri : String)
  /-- Completions are asked for. -/
  | completion (cursor : Cursor)
  /-- A completion item is to be completed. -/
  | resolution (item : CompletionItem)
  /-- A hover is asked for. -/
  | hover (cursor : Cursor)
  /-- A definition is asked for. -/
  | definition (cursor : Cursor)
  /-- References are asked for. -/
  | references (cursor : Cursor)
  /-- The outline of a document is asked for. -/
  | outline (uri : String) (params : Value)
  /-- Symbols are searched for. -/
  | search (query : String) (params : Value)
  /-- The tokens of a document are asked for. -/
  | tokens (uri : String)
  /-- The session ends. -/
  | shutdown

/-- Reads the introduction of the editor. -/
def EditorMessage.ofIntroduction? (params : Value) : Option EditorMessage := do
  if !Wire.Capabilities.introduction.accepts params then none
  let fields ← params.fields?
  let workspace := (params.getD "capabilities").getD "workspace"
  let rootUri ← Wire.optional Wire.readString fields "rootUri"
  let folders ← Wire.optional (Wire.readList readFolder?) fields "workspaceFolders"
  return .introduction rootUri (folders.getD []) (workspace.getD "configuration").truthy

/-- Reads the opening of a document. -/
def EditorMessage.ofOpening? (params : Value) : Option EditorMessage := do
  let document ← (← params.get? "textDocument").fields?
  let uri ← Wire.readString (← Wire.required document "uri")
  let language ← Wire.readScalar? (← Wire.required document "languageId")
  let version ← readVersion? (← Wire.required document "version")
  let text ← Wire.readString (← Wire.required document "text")
  return .opening uri text language version

/-- Reads the change of a document. -/
def EditorMessage.ofChange? (params : Value) : Option EditorMessage := do
  let uri ← readUri? params
  let version ← readVersion? (← (← params.get? "textDocument").get? "version")
  let _ ← Wire.readList readContentChange? (← params.get? "contentChanges")
  return .change uri (some version)

/-- Reads a change of files. -/
def EditorMessage.ofFileChanges? (params : Value) : Option EditorMessage := do
  let _ ← Wire.readList readFileChange? (← params.get? "changes")
  return .newFiles

/-- Reads a request for the outline of a document. -/
def EditorMessage.ofOutline? (params : Value) : Option EditorMessage := do
  let uri ← readUri? params
  return .outline uri (.object (documentFields uri ++ progressFields params))

/-- Reads a search for symbols. -/
def EditorMessage.ofSearch? (params : Value) : Option EditorMessage := do
  let query ← Wire.readString (← params.get? "query")
  return .search query (.object ([("query", .string query)] ++ progressFields params))

/-- Reads a message of the editor, if its parameters have the right form. -/
def EditorMessage.ofJson? (method : String) (params : Value) : Option EditorMessage :=
  match method with
  | "initialize" => ofIntroduction? params
  | "initialized" => some .readiness
  | "workspace/didChangeConfiguration" => (params.get? "settings").map .newSettings
  | "workspace/didChangeWatchedFiles" => ofFileChanges? params
  | "textDocument/didOpen" => ofOpening? params
  | "textDocument/didChange" => ofChange? params
  | "textDocument/didSave" => (readUri? params).map .saving
  | "textDocument/didClose" => (readUri? params).map .closing
  | "textDocument/completion" => (Cursor.ofCompletion? params).map .completion
  | "completionItem/resolve" => (CompletionItem.ofJson? params).map .resolution
  | "textDocument/hover" => (Cursor.ofHover? params).map .hover
  | "textDocument/definition" => (Cursor.ofDefinition? params).map .definition
  | "textDocument/references" => (Cursor.ofReference? params).map .references
  | "textDocument/documentSymbol" => ofOutline? params
  | "workspace/symbol" => ofSearch? params
  | "textDocument/semanticTokens/full" => (readUri? params).map .tokens
  | "shutdown" => some .shutdown
  | _ => none

/-- The methods none of whose parameters may be missing. -/
def strictMethods : List String :=
  ["workspace/didChangeConfiguration", "workspace/didChangeWatchedFiles", "textDocument/didOpen",
   "textDocument/didChange", "textDocument/didClose"]

/-- Reads a message of the editor. -/
def EditorMessage.ofJson (method : String) (params : Value) : Except Failure EditorMessage :=
  match ofJson? method params with
  | some message => .ok message
  | none => .error (.misfit (Misfit.of (!strictMethods.contains method) params))

/-! ## Reactions -/

/-- What the server does with a message. -/
inductive Reaction where
  /-- It has dealt with it. -/
  | done (answer : Answer)
  /-- It refuses it. -/
  | refused (failure : Failure)
  /-- It begins an activity. -/
  | begins (activity : Activity)

/-- The settings that a change of the settings brings along: none where the editor is asked. -/
def newPayload (session : Session) (settings : Value) : Value :=
  if session.asksSettings then .null else settingsSection settings

/-- The text of a document as the editor shows it. -/
def editorText (w : World) (uri : String) : String :=
  (w.editor.texts.lookup uri).getD ""

/-- What the server does with a message of the editor. -/
def react (message : EditorMessage) : Act Reaction := do
  match message with
  | .introduction rootUri folders asksSettings =>
    match ← introduce rootUri folders asksSettings with
    | .ok _ => return .done .unit
    | .error failure => return .refused failure
  | .readiness => return .begins .registerAndStart
  | .newSettings settings =>
    return .begins (.reconfigure (newPayload (← get).session settings))
  | .newFiles => return .begins (.reconfigure .null)
  | .opening uri text language version =>
    return .begins (.openDocument uri text language version)
  | .change uri version =>
    return .begins (.changeDocument uri (editorText (← get) uri) version)
  | .saving uri => return .begins (.saveDocument uri)
  | .closing uri =>
    closeDocument uri
    return .done .unit
  | .completion cursor => return .begins (.complete cursor)
  | .resolution item => return .begins (.resolveItem item)
  | .hover cursor => return .begins (.hover cursor)
  | .definition cursor => return .begins (.define cursor)
  | .references cursor => return .begins (.refer cursor)
  | .outline uri params => return .begins (.outline uri params)
  | .search query params => return .begins (.search query params)
  | .tokens uri => return .done (.tokens (documentTokens (← get).session uri))
  | .shutdown => return .begins .shutdown

/-! ## Answers -/

/-- Writes what is offered for completion. -/
def Offer.toJson : Offer → Value
  | .own items => .array (items.map CompletionItem.toJson)
  | .merged list => list.toJson

/-- Writes where a name is defined. -/
def Definition.toJson : Definition → Value
  | .unknown => .null
  | .targets found => .array (found.map Wire.Target.toJson)
  | .place found => found.toJson

/-- Writes the outline of a document. -/
def outlineJson : Wire.Outline → Value
  | .tree symbols => .array (Wire.DocumentSymbol.listToJson symbols)
  | .flat symbols => .array (symbols.map Wire.SymbolInformation.toJson)

/-- Writes an answer to the editor; what the editor does not ask for is written as null. -/
def Answer.toJson : Answer → Value
  | .bool b => .bool b
  | .json value => value
  | .offer found => found.toJson
  | .item found => found.toJson
  | .hover found => Value.ofOption Wire.Hover.toJson found
  | .definition found => found.toJson
  | .places found => .array (found.map Wire.Location.toJson)
  | .outline found => outlineJson found
  | .symbols found => .array (found.map Wire.FoundSymbol.toJson)
  | .tokens data => .object [("data", .array (data.map Value.int))]
  | _ => .null

end BasiliskServer.World
