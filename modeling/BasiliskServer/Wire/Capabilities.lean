import BasiliskServer.Wire.Field

/-!
# What the editor can do

The editor introduces itself with a long account of what it can do. The server uses very little of
it, but an introduction with a malformed account is refused. The forms of the account are listed
here, area by area.
-/

/-!
## Shapes of values

What the editor says about itself is only checked for its form, not kept. A shape describes which
values have the right form, and `Shape.accepts` decides it. Text fields and truth fields take any
value, so they have no shape of their own.
-/

namespace BasiliskServer.Wire

open Json (Value Fields)

/-- A form that values can have. -/
inductive Shape where
  /-- Any value. -/
  | anything
  /-- Whatever denotes an integer. -/
  | number
  /-- An integer between two bounds. -/
  | integer (least greatest : Int)
  /-- A code from one to the last. -/
  | code (last : Nat)
  /-- One of some words. -/
  | word (words : List String)
  /-- Neither a list nor an object. -/
  | scalar
  /-- Neither a list nor an object, or else of another form. -/
  | scalarOr (other : Shape)
  /-- A list of values of one form. -/
  | list (item : Shape)
  /-- An object with fields that have to be present and fields that may be missing. -/
  | record (needed optional : List (String × Shape))

namespace Shape

/-- An object all of whose fields may be missing. -/
def options (fields : List (String × Shape)) : Shape :=
  .record [] fields

/-- Fields that take any value. -/
def free (names : List String) : List (String × Shape) :=
  names.map fun name => (name, .anything)

/-- A list of texts. -/
def texts : Shape := .list .anything

/-- A natural number of a wire object. -/
def natural : Shape := .integer 0 greatestInt

/-- A place in a document. -/
def position : Shape := .record [("line", natural), ("character", natural)] []

/-- A range of a document. -/
def range : Shape := .record [("start", position), ("end", position)] []

mutual

/-- Whether a value has a form. -/
def accepts : Shape → Value → Bool
  | .anything, _ => true
  | .number, value => (readInt? value).isSome
  | .integer least greatest, value => (readIntBetween? least greatest value).isSome
  | .code last, value => (readCode? last value).isSome
  | .word words, value => words.any fun word => value.string? = some word
  | .scalar, value => isScalar value
  | .scalarOr other, value => isScalar value || accepts other value
  | .list item, value =>
    match listed? value with
    | some items => items.all fun entry => accepts item entry
    | none => false
  | .record needed optional, value =>
    if needed.isEmpty then
      match looseFields? (optional.map (·.1)) value with
      | some fields => acceptsOptional optional fields
      | none => false
    else
      match value.fields? with
      | some fields => acceptsNeeded needed fields && acceptsOptional optional fields
      | none => false

/-- Whether fields that have to be present have their forms. -/
def acceptsNeeded : List (String × Shape) → Fields → Bool
  | [], _ => true
  | (name, shape) :: rest, fields =>
    (match Json.Fields.get? fields name with
      | some value => accepts shape value
      | none => false) && acceptsNeeded rest fields

/-- Whether fields that may be missing or null have their forms. -/
def acceptsOptional : List (String × Shape) → Fields → Bool
  | [], _ => true
  | (name, shape) :: rest, fields =>
    (match Json.Fields.get? fields name with
      | none => true
      | some .null => true
      | some value => accepts shape value) && acceptsOptional rest fields

end

end Shape

end BasiliskServer.Wire

namespace BasiliskServer.Wire.Capabilities

open Shape (options free texts)

/-- The field that says whether a feature can be registered later. -/
def registration : List (String × Shape) := free ["dynamicRegistration"]

/-- A feature of which only is said whether it can be registered later. -/
def registrable : Shape := options registration

/-- A feature that can be registered later, with further fields that take any value. -/
def registrableWith (names : List String) : Shape :=
  options (registration ++ free names)

/-- Properties that can be filled in later. -/
def resolvable : Shape := .record [("properties", texts)] []

/-- A set of codes, all of which are known to the editor. -/
def codeSet (last : Nat) : Shape := .record [("valueSet", .list (.code last))] []

/-- A set of kinds that may be left out, and to which anyone may add kinds of their own. -/
def openKinds : Shape := options [("valueSet", .list .scalar)]

/-- The ways in which texts for people can be written. -/
def markupKinds : Shape := .list (.word ["plaintext", "markdown"])

/-- The kinds of symbols; they may be left out. -/
def symbolKinds : Shape := options [("valueSet", .list (.code 26))]

/-! ## The workspace -/

/-- Changes of several files at once. -/
def workspaceEdit : Shape :=
  options (free ["documentChanges", "normalizesLineEndings", "metadataSupport",
      "snippetEditSupport"] ++
    [("resourceOperations", .list (.word ["create", "rename", "delete"])),
     ("failureHandling", .word ["abort", "transactional", "textOnlyTransactional", "undo"]),
     ("changeAnnotationSupport", options (free ["groupsOnLabel"]))])

/-- A search for symbols. -/
def workspaceSymbol : Shape :=
  options (registration ++
    [("symbolKind", symbolKinds),
     ("tagSupport", codeSet 1),
     ("resolveSupport", resolvable)])

/-- Features that can be refreshed. -/
def refreshable : List (String × Shape) :=
  ["semanticTokens", "codeLens", "inlineValue", "inlayHint", "diagnostics", "foldingRange"].map
    fun name => (name, options (free ["refreshSupport"]))

/-- What the editor can do with the workspace. -/
def workspace : Shape :=
  options (free ["applyEdit", "workspaceFolders", "configuration"] ++ refreshable ++
    [("workspaceEdit", workspaceEdit),
     ("didChangeConfiguration", registrable),
     ("didChangeWatchedFiles", registrableWith ["relativePatternSupport"]),
     ("symbol", workspaceSymbol),
     ("executeCommand", registrable),
     ("fileOperations", registrableWith
       ["didCreate", "willCreate", "didRename", "willRename", "didDelete", "willDelete"]),
     ("textDocumentContent", registrable)])

/-! ## Documents -/

/-- Items for completion. -/
def completionItem : Shape :=
  options (free ["snippetSupport", "commitCharactersSupport", "deprecatedSupport",
      "preselectSupport", "insertReplaceSupport", "labelDetailsSupport"] ++
    [("documentationFormat", markupKinds),
     ("tagSupport", codeSet 1),
     ("resolveSupport", resolvable),
     ("insertTextModeSupport", codeSet 2)])

/-- Completion. -/
def completion : Shape :=
  options (registration ++ free ["contextSupport"] ++
    [("completionItem", completionItem),
     ("completionItemKind", openKinds),
     ("insertTextMode", .code 2),
     ("completionList", options ([("itemDefaults", texts)] ++ free ["applyKindSupport"]))])

/-- Hints on the parameters of a call. -/
def signatureHelp : Shape :=
  options (registration ++ free ["contextSupport"] ++
    [("signatureInformation", options
      (free ["activeParameterSupport", "noActiveParameterSupport"] ++
        [("documentationFormat", markupKinds),
         ("parameterInformation", options (free ["labelOffsetSupport"]))]))])

/-- Outlines of documents. -/
def documentSymbol : Shape :=
  options (registration ++ free ["hierarchicalDocumentSymbolSupport", "labelSupport"] ++
    [("symbolKind", symbolKinds), ("tagSupport", codeSet 1)])

/-- Actions on code. -/
def codeAction : Shape :=
  options (registration ++ free ["isPreferredSupport", "disabledSupport", "dataSupport",
      "honorsChangeAnnotations", "documentationSupport"] ++
    [("codeActionLiteralSupport", .record
      [("codeActionKind", .record [("valueSet", .list .scalar)] [])] []),
     ("resolveSupport", resolvable),
     ("tagSupport", codeSet 1)])

/-- Renaming. -/
def rename : Shape :=
  options (registration ++ free ["prepareSupport", "honorsChangeAnnotations"] ++
    [("prepareSupportDefaultBehavior", .code 1)])

/-- Folding. -/
def foldingRange : Shape :=
  options (registration ++ free ["lineFoldingOnly"] ++
    [("rangeLimit", .natural),
     ("foldingRangeKind", openKinds),
     ("foldingRange", options (free ["collapsedText"]))])

/-- What the editor makes of reported problems. -/
def problems : List (String × Shape) :=
  free ["relatedInformation", "codeDescriptionSupport", "dataSupport"] ++
    [("tagSupport", codeSet 2)]

/-- Coloured tokens. -/
def semanticTokens : Shape :=
  .record
    [("requests", options
      (free ["range"] ++ [("full", .scalarOr (options (free ["delta"])))])),
     ("tokenTypes", texts),
     ("tokenModifiers", texts),
     ("formats", .list (.word ["relative"]))]
    (registration ++ free ["overlappingTokenSupport", "multilineTokenSupport",
      "serverCancelSupport", "augmentsSyntaxTokens"])

/-- Features of which only is said whether they can be registered later. -/
def plainFeatures : List (String × Shape) :=
  ["references", "documentHighlight", "colorProvider", "formatting", "onTypeFormatting",
   "selectionRange", "callHierarchy", "linkedEditingRange", "moniker", "typeHierarchy",
   "inlineValue", "inlineCompletion"].map fun name => (name, registrable)

/-- Features whose answers may be links. -/
def linkedFeatures : List (String × Shape) :=
  ["declaration", "definition", "typeDefinition", "implementation"].map
    fun name => (name, registrableWith ["linkSupport"])

/-- What the editor can do with documents. -/
def textDocument : Shape :=
  options (plainFeatures ++ linkedFeatures ++
    [("synchronization", registrableWith ["willSave", "willSaveWaitUntil", "didSave"]),
     ("filters", options (free ["relativePatternSupport"])),
     ("completion", completion),
     ("hover", options (registration ++ [("contentFormat", markupKinds)])),
     ("signatureHelp", signatureHelp),
     ("documentSymbol", documentSymbol),
     ("codeAction", codeAction),
     ("codeLens", options (registration ++ [("resolveSupport", resolvable)])),
     ("documentLink", registrableWith ["tooltipSupport"]),
     ("rangeFormatting", registrableWith ["rangesSupport"]),
     ("rename", rename),
     ("foldingRange", foldingRange),
     ("publishDiagnostics", options (problems ++ free ["versionSupport"])),
     ("semanticTokens", semanticTokens),
     ("inlayHint", options (registration ++ [("resolveSupport", resolvable)])),
     ("diagnostic", options
       (registration ++ problems ++ free ["relatedDocumentSupport"]))])

/-! ## Everything else -/

/-- What the editor can do with notebooks. -/
def notebookDocument : Shape :=
  .record [("synchronization", registrableWith ["executionSummarySupport"])] []

/-- What the editor can show in its window. -/
def window : Shape :=
  options (free ["workDoneProgress"] ++
    [("showMessage", options
      [("messageActionItem", options (free ["additionalPropertiesSupport"]))]),
     ("showDocument", .record (free ["support"]) [])])

/-- What the editor can do in general. -/
def general : Shape :=
  options
    [("staleRequestSupport", .record
      (free ["cancel"] ++ [("retryOnContentModified", texts)]) []),
     ("regularExpressions", .record (free ["engine"]) (free ["version"])),
     ("markdown", .record (free ["parser"]) (free ["version"] ++ [("allowedTags", texts)])),
     ("positionEncodings", .list .scalar)]

/-- All that the editor can do. -/
def all : Shape :=
  options (free ["experimental"] ++
    [("workspace", workspace),
     ("textDocument", textDocument),
     ("notebookDocument", notebookDocument),
     ("window", window),
     ("general", general)])

/-- The introduction of the editor. -/
def introduction : Shape :=
  .record [("capabilities", all)]
    (free ["workDoneToken", "locale", "rootPath", "rootUri", "initializationOptions"] ++
      [("processId", .number),
       ("clientInfo", .record (free ["name"]) (free ["version"])),
       ("trace", .word ["off", "messages", "verbose"]),
       ("workspaceFolders", .list (.record (free ["uri", "name"]) []))])

end BasiliskServer.Wire.Capabilities
