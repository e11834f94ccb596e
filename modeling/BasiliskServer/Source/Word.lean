import BasiliskServer.Text.Line
import BasiliskServer.Wire.Position

/-!
# Words of a source text

The words of a line are its longest runs of word characters. The word at a position is found by
looking in both directions from it; references to a name are found by searching for the name
between word boundaries.
-/

namespace BasiliskServer.Source

open Text (Line isWord)
open Wire (Position Range)

/-- A word of a line and what follows it. -/
structure WordRun where
  /-- Column of its first character. -/
  start : Nat
  /-- Its characters. -/
  word : List Char
  /-- The rest of the line after it. -/
  rest : List Char

/-- The words of a line from a column on. -/
def wordRuns (column : Nat) (cs : List Char) : List WordRun :=
  match cs with
  | [] => []
  | c :: rest =>
    if isWord c then
      let word := c :: rest.takeWhile isWord
      let after := rest.dropWhile isWord
      ⟨column, word, after⟩ :: wordRuns (column + word.length) after
    else wordRuns (column + 1) rest
termination_by cs.length
decreasing_by
  · exact Nat.lt_succ_of_le (List.dropWhile_sublist isWord).length_le
  · exact Nat.lt_succ_self _

/-- The word that reaches or touches a position, and its range. -/
def wordAt? (text : String) (position : Position) : Option (String × Range) := do
  let line ← (Text.lines text)[position.line]?
  let column := min position.character line.length
  let before := ((line.take column).reverse.takeWhile isWord).reverse
  let after := (line.drop column).takeWhile isWord
  let word := before ++ after
  if word.isEmpty then none
  else
    some (String.ofList word,
      .onLine position.line (column - before.length) (column + after.length))

/-- Whether a text starts with a word character. -/
def startsWithWord : List Char → Bool
  | [] => false
  | c :: _ => isWord c

/-- Whether a name stands at the start of a text between two word boundaries; the flag says
whether a word character stands just before. -/
def nameHere (name : List Char) (afterWord : Bool) (cs : List Char) : Bool :=
  match Text.after? name cs with
  | none => false
  | some rest =>
    let lastIsWord := (name.getLast?.map isWord).getD afterWord
    afterWord ≠ startsWithWord cs && lastIsWord ≠ startsWithWord rest

/-- First and last column of every occurrence of a name between word boundaries, from a column
on. Occurrences do not overlap; an empty name occurs at every boundary. -/
def occurrences (name : List Char) (column : Nat) (afterWord : Bool) (cs : List Char) :
    List (Nat × Nat) :=
  let here := nameHere name afterWord cs
  let found := if here then [(column, column + name.length)] else []
  match cs with
  | [] => found
  | c :: rest =>
    if here && !name.isEmpty then
      found ++ occurrences name (column + name.length) ((name.getLast?.map isWord).getD false)
        (rest.drop (name.length - 1))
    else found ++ occurrences name (column + 1) (isWord c) rest
termination_by cs.length
decreasing_by
  · simp only [List.length_drop, List.length_cons]
    omega
  · exact Nat.lt_succ_self _

/-- The references to a name in the lines from a line number on. -/
def referencesFrom (name : List Char) (line : Nat) : List Line → List Range
  | [] => []
  | first :: rest =>
    (occurrences name 0 false first).map (fun (start, stop) => Range.onLine line start stop) ++
      referencesFrom name (line + 1) rest

/-- The references to a name in a text, in the order in which they stand. -/
def references (text name : String) : List Range :=
  referencesFrom name.toList 0 (Text.lines text)

end BasiliskServer.Source
