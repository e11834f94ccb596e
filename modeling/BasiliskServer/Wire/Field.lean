import BasiliskServer.Json.Spelled
import BasiliskServer.Text.Integer

/-!
# Reading fields of wire objects

The editor and the companion process are read leniently: a text field takes any value and spells
it, an integer field takes whatever denotes an integer, a truth field asks whether the value counts
as true, and a list field takes anything that can be listed. A field that may be missing may also
be null. Objects are written without the fields that are not set. Where every field of an object may
be missing, a text or a list stands for the object without fields, as long as it does not seem to
hold one of them.
-/

namespace BasiliskServer.Wire

open Json (Value Fields)

/-- Why a value is not read as an object of some kind. -/
inductive Misfit where
  /-- Its form is not that of the kind. -/
  | form
  /-- It is not even something in which fields that may be missing can be looked for. -/
  | scalar
  deriving DecidableEq, Repr

/-- Why a value was not read as an object of a kind; the flag says whether the kind has fields that
may be missing. -/
def Misfit.of (mayMiss : Bool) : Value → Misfit
  | .object _ => .form
  | .array _ => .form
  | .string _ => .form
  | _ => if mayMiss then .scalar else .form

/-- Reads an object of a kind with fields that may be missing, or says why the value is none. -/
def reading {α : Type} (read : Value → Option α) (value : Value) : Except Misfit α :=
  match read value with
  | some a => .ok a
  | none => .error (.of true value)

/-- The value of a required field. -/
def required (fields : Fields) (name : String) : Option Value :=
  Json.Fields.get? fields name

/-- A text field takes any value and spells it. -/
def readString (value : Value) : Option String :=
  some value.text

/-- An integer field takes integers, truth values, the integer part of other numbers and texts
that spell an integer. -/
def readInt? : Value → Option Int
  | .int n => some n
  | .bool b => some (if b then 1 else 0)
  | .float x => if x.isFinite then some x.truncate else none
  | .string s => Text.integer? s
  | _ => none

/-- An integer field with bounds. -/
def readIntBetween? (least greatest : Int) (value : Value) : Option Int :=
  (readInt? value).filter fun n => least ≤ n && n ≤ greatest

/-- The least integer of 32 bits. -/
def leastInt : Int := -2147483648

/-- The greatest integer of 32 bits. -/
def greatestInt : Int := 2147483647

/-- A truth field asks whether the value counts as true. -/
def readBool (value : Value) : Option Bool :=
  some value.truthy

/-- The integer that a value equals: an integer, a truth value or a number without a fraction. -/
def equalInt? : Value → Option Int
  | .int n => some n
  | .bool b => some (if b then 1 else 0)
  | .float x => x.toInt?
  | _ => none

/-- A code between one and `last`. -/
def readCode? (last : Nat) (value : Value) : Option Nat :=
  match equalInt? value with
  | some n => if 1 ≤ n ∧ n ≤ last then some n.toNat else none
  | none => none

/-- Whether a value is neither a list nor an object. -/
def isScalar : Value → Bool
  | .array _ => false
  | .object _ => false
  | _ => true

/-- A scalar field takes whatever is neither a list nor an object and keeps it as it is. -/
def readScalar? (value : Value) : Option Value :=
  if isScalar value then some value else none

/-- What can be listed: the items of a list, the characters of a text, the names of an object's
fields. -/
def listed? : Value → Option (List Value)
  | .array items => some items
  | .string s => some (s.toList.map fun c => .string (String.singleton c))
  | .object fields => some (fields.map fun field => .string field.1)
  | _ => none

/-- A list field reads all its entries or none. -/
def readList {α : Type} (read : Value → Option α) (value : Value) : Option (List α) :=
  (listed? value).bind (·.mapM read)

/-- A field that may be missing or null. -/
def optional {α : Type} (read : Value → Option α) (fields : Fields) (name : String) :
    Option (Option α) :=
  match Json.Fields.get? fields name with
  | none => some none
  | some .null => some none
  | some value => (read value).map some

/-- Whether a text or a list seems to hold a field: its name stands somewhere in the text, or is an
entry of the list. -/
def seemsToHold (value : Value) (name : String) : Bool :=
  match value with
  | .string s => Text.occursIn name s.toList
  | .array items => items.any (·.string? = some name)
  | _ => false

/-- The fields of an object every field of which may be missing; `names` are the names of all its
fields. -/
def looseFields? (names : List String) (value : Value) : Option Fields :=
  match value with
  | .object fields => some fields
  | .string _ => if names.any (seemsToHold value) then none else some []
  | .array _ => if names.any (seemsToHold value) then none else some []
  | _ => none

/-- A field of any kind, kept as it is; null is the same as a missing field. -/
def anyValue (fields : Fields) (name : String) : Value :=
  (Json.Fields.get? fields name).getD .null

/-- A field of any kind that is written unless it is null. -/
def anyField (name : String) (value : Value) : Fields :=
  if value.isNull then [] else [(name, value)]

/-- A field that is written only when it is set. -/
def optionalField {α : Type} (name : String) (write : α → Value) : Option α → Fields
  | none => []
  | some a => [(name, write a)]

end BasiliskServer.Wire
