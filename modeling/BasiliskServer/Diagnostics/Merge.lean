import BasiliskServer.Wire.Completion

/-!
# Merging answers

Completions and hovers of the companion process and of the server are merged. A completion item
carries where it came from in its data, wrapped around its own data, so that it can be resolved by
the side that offered it.
-/

namespace BasiliskServer

open Json (Value Fields)
open Wire (CompletionItem CompletionList CompletionResult Contents Entry Hover Markup)

/-- Which side offered a completion item. -/
inductive Provenance where
  /-- The companion process. -/
  | companion
  /-- The server itself. -/
  | own
  deriving DecidableEq, Repr

/-- The name of a side. -/
def Provenance.name : Provenance → String
  | .companion => "clangd"
  | .own => "basilisk"

/-- Reads the name of a side. -/
def Provenance.ofJson? : Value → Option Provenance
  | .string "clangd" => some .companion
  | .string "basilisk" => some .own
  | _ => none

/-- An item with its side wrapped around its data. -/
def tagItem (side : Provenance) (item : CompletionItem) : CompletionItem :=
  { item with data := .object [("source", .string side.name), ("data", item.data)] }

/-- An item with its own data again, and the side that offered it if it says so. -/
def untagItem (item : CompletionItem) : CompletionItem × Option Provenance :=
  match item.data with
  | .object fields =>
    match Provenance.ofJson? ((Json.Fields.get? fields "source").getD .null) with
    | some side =>
      ({ item with data := (Json.Fields.get? fields "data").getD .null }, some side)
    | none => (item, none)
  | _ => (item, none)

/-- Tags the items of one side, leaving out labels that are taken. -/
def takeNewLabels (side : Provenance) (taken : List String) :
    List CompletionItem → List CompletionItem × List String
  | [] => ([], taken)
  | item :: rest =>
    if taken.contains item.label then takeNewLabels side taken rest
    else
      let (items, taken) := takeNewLabels side (item.label :: taken) rest
      (tagItem side item :: items, taken)

/-- The items of both sides, the companion's first, each label once. -/
def mergeCompletions (companion : Option CompletionResult) (own : List CompletionItem) :
    CompletionList :=
  let list := CompletionResult.normalize companion
  let (first, taken) := takeNewLabels .companion [] list.items
  let (second, _) := takeNewLabels .own taken own
  { isIncomplete := list.isIncomplete, items := first ++ second }

/-- The text of an entry of a hover. -/
def entryText : Entry → String
  | .scalar (.string s) => s
  | .scalar _ => ""
  | .code text => "```" ++ text.language ++ "\n" ++ text.value ++ "\n```"

/-- The text of a hover. -/
def contentsText : Contents → String
  | .plain (.string s) => s
  | .plain _ => ""
  | .markup text => text.value
  | .code text => "```" ++ text.language ++ "\n" ++ text.value ++ "\n```"
  | .entries list =>
    Text.joinWith "\n\n" ((list.map entryText).filter (· ≠ ""))

/-- What stands between two hovers. -/
def hoverSeparator : String := "\n\n---\n\n"

/-- Two hovers in one; the first keeps its range. -/
def mergeHovers (first second : Option Hover) : Option Hover :=
  match first, second with
  | none, second => second
  | first, none => first
  | some first, some second =>
    let texts := [contentsText first.contents, contentsText second.contents].filter (· ≠ "")
    some
      { contents := .markup (.markdown (Text.joinWith hoverSeparator texts))
        range := first.range }

end BasiliskServer
