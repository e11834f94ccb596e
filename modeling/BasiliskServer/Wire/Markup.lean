import BasiliskServer.Wire.Position

/-!
# Documentation and hovers

Texts that the editor shows beside the code. A text may be formatted, plain, or a piece of source
code; older peers send lists of such pieces, and scalars of any kind are kept as they are.
-/

namespace BasiliskServer.Wire

open Json (Value Fields)

/-- How a text is formatted. -/
inductive MarkupKind where
  /-- As it is. -/
  | plaintext
  /-- With markdown. -/
  | markdown
  deriving DecidableEq, Repr

/-- The name of a format. -/
def MarkupKind.name : MarkupKind → String
  | .plaintext => "plaintext"
  | .markdown => "markdown"

/-- Reads the name of a format. -/
def MarkupKind.ofJson? : Value → Option MarkupKind
  | .string "plaintext" => some .plaintext
  | .string "markdown" => some .markdown
  | _ => none

/-- A formatted text. -/
structure Markup where
  /-- Its format. -/
  kind : MarkupKind
  /-- The text. -/
  value : String
  deriving DecidableEq, Repr

/-- A text formatted with markdown. -/
def Markup.markdown (value : String) : Markup :=
  ⟨.markdown, value⟩

/-- Reads a formatted text. -/
def Markup.ofJson? (value : Value) : Option Markup := do
  let fields ← value.fields?
  let kind ← MarkupKind.ofJson? (← required fields "kind")
  let value ← readString (← required fields "value")
  return ⟨kind, value⟩

/-- Writes a formatted text. -/
def Markup.toJson (m : Markup) : Value :=
  .object [("kind", .string m.kind.name), ("value", .string m.value)]

/-- A piece of source code. -/
structure CodeText where
  /-- The language it is written in. -/
  language : String
  /-- The code. -/
  value : String
  deriving DecidableEq, Repr

/-- Reads a piece of source code. -/
def CodeText.ofJson? (value : Value) : Option CodeText := do
  let fields ← value.fields?
  let language ← readString (← required fields "language")
  let value ← readString (← required fields "value")
  return ⟨language, value⟩

/-- Writes a piece of source code. -/
def CodeText.toJson (c : CodeText) : Value :=
  .object [("language", .string c.language), ("value", .string c.value)]

/-- An entry of a list of texts. -/
inductive Entry where
  /-- A scalar, kept as it is. -/
  | scalar (value : Value)
  /-- A piece of source code. -/
  | code (text : CodeText)

/-- Reads an entry of a list of texts. -/
def Entry.ofJson? (value : Value) : Option Entry :=
  if isScalar value && !value.isNull then some (.scalar value)
  else (CodeText.ofJson? value).map .code

/-- Writes an entry of a list of texts. -/
def Entry.toJson : Entry → Value
  | .scalar value => value
  | .code text => text.toJson

/-- What a hover or a documentation field shows. -/
inductive Contents where
  /-- Nothing, or a scalar kept as it is. -/
  | plain (value : Value)
  /-- A formatted text. -/
  | markup (text : Markup)
  /-- A piece of source code. -/
  | code (text : CodeText)
  /-- A list of texts. -/
  | entries (list : List Entry)

/-- Reads what a hover or a documentation field shows. -/
def Contents.ofJson? (value : Value) : Option Contents :=
  match value with
  | .null => some (.plain .null)
  | .array items => (items.mapM Entry.ofJson?).map .entries
  | .object fields =>
    if Json.Fields.has fields "kind" then (Markup.ofJson? value).map .markup
    else (CodeText.ofJson? value).map .code
  | scalar => some (.plain scalar)

/-- Writes what a hover or a documentation field shows. -/
def Contents.toJson : Contents → Value
  | .plain value => value
  | .markup text => text.toJson
  | .code text => text.toJson
  | .entries list => .array (list.map Entry.toJson)

/-- Whether there is something to show. -/
def Contents.isPresent : Contents → Bool
  | .plain value => value.truthy
  | .markup _ => true
  | .code _ => true
  | .entries list => !list.isEmpty

/-- What is shown when the cursor rests on a place. -/
structure Hover where
  /-- What is shown. -/
  contents : Contents
  /-- The text it belongs to. -/
  range : Option Range := none

/-- Reads a hover. -/
def Hover.ofJson? (value : Value) : Option Hover := do
  let fields ← value.fields?
  let contents ← Contents.ofJson? (← required fields "contents")
  let range ← optional Range.ofJson? fields "range"
  return ⟨contents, range⟩

/-- Writes a hover. -/
def Hover.toJson (h : Hover) : Value :=
  .object ([("contents", h.contents.toJson)] ++ optionalField "range" Range.toJson h.range)

end BasiliskServer.Wire
