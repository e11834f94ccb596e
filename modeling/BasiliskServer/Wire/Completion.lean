import BasiliskServer.Wire.Markup

/-!
# Completion items

What the editor offers for the text at the cursor.
-/

namespace BasiliskServer.Wire

open Json (Value Fields)

/-- A change of a document: a range and the text that replaces it. -/
structure TextEdit where
  /-- What is replaced. -/
  range : Range
  /-- What replaces it. -/
  newText : String
  deriving DecidableEq, Repr

/-- Reads a change. -/
def TextEdit.ofJson? (value : Value) : Option TextEdit := do
  let fields ← value.fields?
  let range ← Range.ofJson? (← required fields "range")
  let newText ← readString (← required fields "newText")
  return ⟨range, newText⟩

/-- Writes a change. -/
def TextEdit.toJson (e : TextEdit) : Value :=
  .object [("range", e.range.toJson), ("newText", .string e.newText)]

/-- A change that offers two ranges: one to insert at and one to replace. -/
structure InsertReplaceEdit where
  /-- The new text. -/
  newText : String
  /-- The range when inserting. -/
  insert : Range
  /-- The range when replacing. -/
  replace : Range
  deriving DecidableEq, Repr

/-- Reads a change that offers two ranges. -/
def InsertReplaceEdit.ofJson? (value : Value) : Option InsertReplaceEdit := do
  let fields ← value.fields?
  let newText ← readString (← required fields "newText")
  let insert ← Range.ofJson? (← required fields "insert")
  let replace ← Range.ofJson? (← required fields "replace")
  return ⟨newText, insert, replace⟩

/-- Writes a change that offers two ranges. -/
def InsertReplaceEdit.toJson (e : InsertReplaceEdit) : Value :=
  .object [("newText", .string e.newText), ("insert", e.insert.toJson),
    ("replace", e.replace.toJson)]

/-- The change that a completion makes. -/
inductive CompletionEdit where
  /-- One range. -/
  | plain (edit : TextEdit)
  /-- Two ranges to choose from. -/
  | choice (edit : InsertReplaceEdit)
  deriving DecidableEq, Repr

/-- Reads the change that a completion makes. -/
def CompletionEdit.ofJson? (value : Value) : Option CompletionEdit :=
  match value with
  | .object fields =>
    if Json.Fields.has fields "insert" || Json.Fields.has fields "replace" then
      (InsertReplaceEdit.ofJson? value).map .choice
    else (TextEdit.ofJson? value).map .plain
  | _ => none

/-- Writes the change that a completion makes. -/
def CompletionEdit.toJson : CompletionEdit → Value
  | .plain edit => edit.toJson
  | .choice edit => edit.toJson

/-- A command that the editor runs. -/
structure Command where
  /-- Its title. -/
  title : String
  /-- Its name. -/
  command : String
  /-- A hint that is shown with it. -/
  tooltip : Option String := none
  /-- What it is run with. -/
  arguments : Option (List Value) := none

/-- Reads a command. -/
def Command.ofJson? (value : Value) : Option Command := do
  let fields ← value.fields?
  let title ← readString (← required fields "title")
  let command ← readString (← required fields "command")
  let tooltip ← optional readString fields "tooltip"
  let arguments ← optional (readList some) fields "arguments"
  return { title, command, tooltip, arguments }

/-- Writes a command. -/
def Command.toJson (c : Command) : Value :=
  .object ([("title", .string c.title), ("command", .string c.command)] ++
    optionalField "tooltip" .string c.tooltip ++
    optionalField "arguments" .array c.arguments)

/-- What is shown next to a label. -/
structure LabelDetails where
  /-- Right after the label. -/
  detail : Option String := none
  /-- After the detail. -/
  description : Option String := none
  deriving DecidableEq, Repr

/-- Reads what is shown next to a label. -/
def LabelDetails.ofJson? (value : Value) : Option LabelDetails := do
  let fields ← looseFields? ["detail", "description"] value
  let detail ← optional readString fields "detail"
  let description ← optional readString fields "description"
  return ⟨detail, description⟩

/-- Writes what is shown next to a label. -/
def LabelDetails.toJson (d : LabelDetails) : Value :=
  .object (optionalField "detail" .string d.detail ++
    optionalField "description" .string d.description)

/-- What the editor offers for the text at the cursor. -/
structure CompletionItem where
  /-- The text that is shown, and inserted unless another is given. -/
  label : String
  /-- What is shown next to the label. -/
  labelDetails : Option LabelDetails := none
  /-- What kind of thing it is; any scalar is kept as it is. -/
  kind : Value := .null
  /-- Codes of further properties. -/
  tags : Option (List Nat) := none
  /-- A short description. -/
  detail : Option String := none
  /-- A longer description. -/
  documentation : Contents := .plain .null
  /-- Whether it should no longer be used. -/
  deprecated : Option Bool := none
  /-- Whether it is selected at first. -/
  preselect : Option Bool := none
  /-- The text to sort by. -/
  sortText : Option String := none
  /-- The text to filter by. -/
  filterText : Option String := none
  /-- The text to insert. -/
  insertText : Option String := none
  /-- Whether the inserted text is plain or a template with places to fill in. -/
  insertTextFormat : Option Nat := none
  /-- How the inserted text is indented. -/
  insertTextMode : Option Nat := none
  /-- The change to make. -/
  textEdit : Option CompletionEdit := none
  /-- The text of a change whose range is given for the whole list. -/
  textEditText : Option String := none
  /-- Further changes to make. -/
  additionalTextEdits : Option (List TextEdit) := none
  /-- Characters that accept the item. -/
  commitCharacters : Option (List String) := none
  /-- A command to run afterwards. -/
  command : Option Command := none
  /-- Anything that the peer wants back. -/
  data : Value := .null

/-- Reads an item. -/
def CompletionItem.ofJson? (value : Value) : Option CompletionItem := do
  let fields ← value.fields?
  let label ← readString (← required fields "label")
  let labelDetails ← optional LabelDetails.ofJson? fields "labelDetails"
  let kind ← optional readScalar? fields "kind"
  let tags ← optional (readList (readCode? 1)) fields "tags"
  let detail ← optional readString fields "detail"
  let documentation ← Contents.ofJson? (anyValue fields "documentation")
  let deprecated ← optional readBool fields "deprecated"
  let preselect ← optional readBool fields "preselect"
  let sortText ← optional readString fields "sortText"
  let filterText ← optional readString fields "filterText"
  let insertText ← optional readString fields "insertText"
  let insertTextFormat ← optional (readCode? 2) fields "insertTextFormat"
  let insertTextMode ← optional (readCode? 2) fields "insertTextMode"
  let textEdit ← optional CompletionEdit.ofJson? fields "textEdit"
  let textEditText ← optional readString fields "textEditText"
  let additionalTextEdits ← optional (readList TextEdit.ofJson?) fields "additionalTextEdits"
  let commitCharacters ← optional (readList readString) fields "commitCharacters"
  let command ← optional Command.ofJson? fields "command"
  return {
    label, labelDetails, tags, detail, documentation, deprecated, preselect, sortText, filterText
    insertText, insertTextFormat, insertTextMode, textEdit, textEditText, additionalTextEdits
    commitCharacters, command
    kind := kind.getD .null
    data := anyValue fields "data" }

/-- Writes an item. -/
def CompletionItem.toJson (i : CompletionItem) : Value :=
  .object ([("label", .string i.label)] ++
    optionalField "labelDetails" LabelDetails.toJson i.labelDetails ++
    anyField "kind" i.kind ++
    optionalField "tags" (fun tags => .array (tags.map .nat)) i.tags ++
    optionalField "detail" .string i.detail ++
    anyField "documentation" i.documentation.toJson ++
    optionalField "deprecated" .bool i.deprecated ++
    optionalField "preselect" .bool i.preselect ++
    optionalField "sortText" .string i.sortText ++
    optionalField "filterText" .string i.filterText ++
    optionalField "insertText" .string i.insertText ++
    optionalField "insertTextFormat" .nat i.insertTextFormat ++
    optionalField "insertTextMode" .nat i.insertTextMode ++
    optionalField "textEdit" CompletionEdit.toJson i.textEdit ++
    optionalField "textEditText" .string i.textEditText ++
    optionalField "additionalTextEdits" (fun edits => .array (edits.map TextEdit.toJson))
      i.additionalTextEdits ++
    optionalField "commitCharacters" .strings i.commitCharacters ++
    optionalField "command" Command.toJson i.command ++
    anyField "data" i.data)

/-- The range that all items of a list share. -/
inductive SharedRange where
  /-- One range. -/
  | plain (range : Range)
  /-- One range to insert at and one to replace. -/
  | choice (insert replace : Range)
  deriving DecidableEq, Repr

/-- Reads the range that all items of a list share. -/
def SharedRange.ofJson? (value : Value) : Option SharedRange :=
  match value with
  | .object fields =>
    if Json.Fields.has fields "insert" then do
      let insert ← Range.ofJson? (← required fields "insert")
      let replace ← Range.ofJson? (← required fields "replace")
      return .choice insert replace
    else (Range.ofJson? value).map .plain
  | _ => none

/-- Writes the range that all items of a list share. -/
def SharedRange.toJson : SharedRange → Value
  | .plain range => range.toJson
  | .choice insert replace => .object [("insert", insert.toJson), ("replace", replace.toJson)]

/-- What all items of a list share unless they say otherwise. -/
structure ItemDefaults where
  /-- Characters that accept an item. -/
  commitCharacters : Option (List String) := none
  /-- The range to change. -/
  editRange : Option SharedRange := none
  /-- Whether the inserted text is plain or a template. -/
  insertTextFormat : Option Nat := none
  /-- How the inserted text is indented. -/
  insertTextMode : Option Nat := none
  /-- Anything that the peer wants back. -/
  data : Value := .null

/-- Reads what all items of a list share. -/
def ItemDefaults.ofJson? (value : Value) : Option ItemDefaults := do
  let fields ← looseFields?
    ["commitCharacters", "editRange", "insertTextFormat", "insertTextMode", "data"] value
  let commitCharacters ← optional (readList readString) fields "commitCharacters"
  let editRange ← optional SharedRange.ofJson? fields "editRange"
  let insertTextFormat ← optional (readCode? 2) fields "insertTextFormat"
  let insertTextMode ← optional (readCode? 2) fields "insertTextMode"
  return {
    commitCharacters, editRange, insertTextFormat, insertTextMode
    data := anyValue fields "data" }

/-- Writes what all items of a list share. -/
def ItemDefaults.toJson (d : ItemDefaults) : Value :=
  .object (optionalField "commitCharacters" .strings d.commitCharacters ++
    optionalField "editRange" SharedRange.toJson d.editRange ++
    optionalField "insertTextFormat" .nat d.insertTextFormat ++
    optionalField "insertTextMode" .nat d.insertTextMode ++
    anyField "data" d.data)

/-- How the shared values of a list and the values of an item go together. -/
structure ItemMerging where
  /-- For the characters that accept an item. -/
  commitCharacters : Option Nat := none
  /-- For the data that the peer wants back. -/
  data : Option Nat := none
  deriving DecidableEq, Repr

/-- Reads how shared values and values of an item go together. -/
def ItemMerging.ofJson? (value : Value) : Option ItemMerging := do
  let fields ← looseFields? ["commitCharacters", "data"] value
  let commitCharacters ← optional (readCode? 2) fields "commitCharacters"
  let data ← optional (readCode? 2) fields "data"
  return ⟨commitCharacters, data⟩

/-- Writes how shared values and values of an item go together. -/
def ItemMerging.toJson (m : ItemMerging) : Value :=
  .object (optionalField "commitCharacters" .nat m.commitCharacters ++
    optionalField "data" .nat m.data)

/-- A list of items with what holds for all of them. -/
structure CompletionList where
  /-- Whether typing on may bring up more items. -/
  isIncomplete : Bool
  /-- The items. -/
  items : List CompletionItem
  /-- What the items share. -/
  itemDefaults : Option ItemDefaults := none
  /-- How shared values and values of an item go together. -/
  applyKind : Option ItemMerging := none

/-- Reads a list of items; one bad item spoils the list. -/
def CompletionList.ofJson? (value : Value) : Option CompletionList := do
  let fields ← value.fields?
  let isIncomplete ← readBool (← required fields "isIncomplete")
  let items ← readList CompletionItem.ofJson? (← required fields "items")
  let itemDefaults ← optional ItemDefaults.ofJson? fields "itemDefaults"
  let applyKind ← optional ItemMerging.ofJson? fields "applyKind"
  return { isIncomplete, items, itemDefaults, applyKind }

/-- Writes a list of items. -/
def CompletionList.toJson (l : CompletionList) : Value :=
  .object ([("isIncomplete", .bool l.isIncomplete),
    ("items", .array (l.items.map CompletionItem.toJson))] ++
    optionalField "itemDefaults" ItemDefaults.toJson l.itemDefaults ++
    optionalField "applyKind" ItemMerging.toJson l.applyKind)

/-- A list of items as a value that says nothing else. -/
def listAnswer (isIncomplete : Bool) (entries : List Value) : Value :=
  .object [("isIncomplete", .bool isIncomplete), ("items", .array entries)]

/-- How completions are read. A list is read entry by entry, and one bad entry spoils it. -/
structure CompletionReaders where
  /-- Reads an item. -/
  item? : Value → Option CompletionItem
  /-- Reads a list of items. -/
  list? : Value → Option CompletionList
  list?_listAnswer (isIncomplete : Bool) (entries : List Value) :
    list? (listAnswer isIncomplete entries) =
      (entries.mapM item?).map fun items => { isIncomplete, items }

/-- The readers of the protocol. -/
def CompletionReaders.protocol : CompletionReaders where
  item? := CompletionItem.ofJson?
  list? := CompletionList.ofJson?
  list?_listAnswer isIncomplete entries := by
    show ((entries.mapM CompletionItem.ofJson?).bind fun items => _) = _
    cases entries.mapM CompletionItem.ofJson? <;> rfl

/-- An answer to a completion request. -/
inductive CompletionResult where
  /-- Only the items. -/
  | items (entries : List CompletionItem)
  /-- The items with what holds for all of them. -/
  | list (whole : CompletionList)

/-- Reads an answer to a completion request. In a plain list a bad item costs only itself. -/
def CompletionResult.ofJson? (value : Value) (readers : CompletionReaders := .protocol) :
    Option CompletionResult :=
  match value with
  | .array entries => some (.items (entries.filterMap readers.item?))
  | .object _ => (readers.list? value).map .list
  | _ => none

/-- An answer as a list; no answer is the empty list. -/
def CompletionResult.normalize : Option CompletionResult → CompletionList
  | none => { isIncomplete := false, items := [] }
  | some (.items entries) => { isIncomplete := false, items := entries }
  | some (.list whole) => whole

/-- Writes an answer to a completion request. -/
def CompletionResult.toJson : CompletionResult → Value
  | .items entries => .array (entries.map CompletionItem.toJson)
  | .list whole => whole.toJson

end BasiliskServer.Wire
