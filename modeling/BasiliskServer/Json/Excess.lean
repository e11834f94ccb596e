import BasiliskServer.Json.Value
import BasiliskServer.Text.Integer

/-!
# What stands against a value

Integers with too many digits are neither read nor written, and lists and objects are read, written
and spelled only so far down. How far is not a property of the format: it depends on the machine and
on how much of its stack is taken when the reader or the writer is called. So whoever reads or
writes says how many levels are left. A text in which half of a pair stands alone is read and
written, but the text that is written has no bytes.

What is reported is what comes first in the text, since readers and writers stop there. That there
are no bytes is found out after everything is written.
-/

namespace BasiliskServer.Json

/-- What can stand against a value. -/
inductive Excess where
  /-- An integer with so many digits. -/
  | digits (count : Nat)
  /-- Lists and objects inside each other. -/
  | nesting
  /-- Half of a pair that stands alone, which has no bytes. -/
  | halves
  deriving DecidableEq, Repr

/-- The number of digits of a natural number, if these are too many. -/
def digitsExcess? (n : Nat) : Option Excess :=
  let count := (Nat.toDigits 10 n).length
  if Text.digitLimit < count then some (.digits count) else none

theorem digitsExcess?_eq_none_iff {n : Nat} :
    digitsExcess? n = none ↔ (Nat.toDigits 10 n).length ≤ Text.digitLimit := by
  simp [digitsExcess?]

mutual

/-- What is too much in a value for a reader or a writer that may go `depth` levels down: the first
integer with too many digits, or the first list or object that lies too deep. -/
def Value.excess? (depth : Nat) : Value → Option Excess
  | .int n => digitsExcess? n.natAbs
  | .array items => if depth = 0 then some .nesting else itemsExcess? (depth - 1) items
  | .object fields => if depth = 0 then some .nesting else fieldsExcess? (depth - 1) fields
  | _ => none

/-- What is too much in the items of a list. -/
def itemsExcess? (depth : Nat) : List Value → Option Excess
  | [] => none
  | value :: rest => (value.excess? depth).or (itemsExcess? depth rest)

/-- What is too much in the fields of an object. -/
def fieldsExcess? (depth : Nat) : List (String × Value) → Option Excess
  | [] => none
  | (_, value) :: rest => (value.excess? depth).or (fieldsExcess? depth rest)

end

mutual

/-- Whether all texts in a value are made of characters. -/
def Value.isWhole : Value → Bool
  | .broken _ => false
  | .array items => itemsAreWhole items
  | .object fields => fieldsAreWhole fields
  | _ => true

/-- Whether all texts in the items of a list are made of characters. -/
def itemsAreWhole : List Value → Bool
  | [] => true
  | value :: rest => value.isWhole && itemsAreWhole rest

/-- Whether all texts in the fields of an object are made of characters. -/
def fieldsAreWhole : List (String × Value) → Bool
  | [] => true
  | (_, value) :: rest => value.isWhole && fieldsAreWhole rest

end

/-- What stands against the bytes of a value: a text that has none. -/
def Value.halvesExcess? (value : Value) : Option Excess :=
  if value.isWhole then none else some .halves

theorem halvesExcess?_eq_none_iff {value : Value} :
    value.halvesExcess? = none ↔ value.isWhole = true := by
  simp [Value.halvesExcess?]

mutual

/-- What is too much in a value for a message that spells it and may go `depth` levels down. There
a value without parts takes a level as well. -/
def Value.spellingExcess? (depth : Nat) (value : Value) : Option Excess :=
  if depth = 0 then some .nesting else
    match value with
    | .int n => digitsExcess? n.natAbs
    | .array items => itemsSpellingExcess? (depth - 1) items
    | .object fields => fieldsSpellingExcess? (depth - 1) fields
    | _ => none

/-- What is too much in the items of a list that is spelled. -/
def itemsSpellingExcess? (depth : Nat) : List Value → Option Excess
  | [] => none
  | value :: rest => (value.spellingExcess? depth).or (itemsSpellingExcess? depth rest)

/-- What is too much in the fields of an object that is spelled. A name lies as deep as its value,
so it need not be looked at. -/
def fieldsSpellingExcess? (depth : Nat) : List (String × Value) → Option Excess
  | [] => none
  | (_, value) :: rest => (value.spellingExcess? depth).or (fieldsSpellingExcess? depth rest)

end

end BasiliskServer.Json
