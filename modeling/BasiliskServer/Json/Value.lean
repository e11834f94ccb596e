import BasiliskServer.Decimal.Double

/-!
# JSON values

Values of the data format in which the editor, the companion process and the configuration files
talk. Integers have any size and are told apart from numbers written with a fraction or exponent.
Objects keep the order in which their fields were written; a field written again keeps its place.
-/

namespace BasiliskServer.Json

/-- What is escaped or stands for itself at one place of a text. -/
inductive CodePoint where
  /-- A character. -/
  | char (c : Char)
  /-- Half of a pair of escapes that stands alone, by its number. -/
  | half (n : Nat)

/-- The character of a code point, if it is one. -/
def CodePoint.char? : CodePoint → Option Char
  | .char c => some c
  | .half _ => none

/-- The character that a code point is shown as. -/
def CodePoint.shown : CodePoint → Char
  | .char c => c
  | .half _ => Char.ofNat 0xFFFD

/-- A JSON value. -/
inductive Value where
  /-- The null value. -/
  | null
  /-- A truth value. -/
  | bool (b : Bool)
  /-- An integer of any size. -/
  | int (n : Int)
  /-- A number written with a fraction or an exponent. -/
  | float (x : Decimal.Double)
  /-- A text. -/
  | string (s : String)
  /-- A text in which half of a pair stands alone. It has no characters and no bytes. -/
  | broken (codes : List CodePoint)
  /-- A list of values. -/
  | array (items : List Value)
  /-- Named fields in the order in which they were written. -/
  | object (fields : List (String × Value))
  deriving Inhabited

/-- The fields of an object, in the order in which they were written. -/
abbrev Fields := List (String × Value)

namespace Fields

/-- The value of a field. -/
def get? (fields : Fields) (name : String) : Option Value :=
  fields.lookup name

/-- Whether a field is present. -/
def has (fields : Fields) (name : String) : Bool :=
  (get? fields name).isSome

/-- Writes a field: a new one goes to the end, one written before keeps its place. -/
def put : Fields → String → Value → Fields
  | [], name, value => [(name, value)]
  | (key, old) :: rest, name, value =>
    if key = name then (key, value) :: rest else (key, old) :: put rest name value

/-- Writes all fields of `upper` over those of `lower`. -/
def overlay (lower upper : Fields) : Fields :=
  upper.foldl (fun fields field => put fields field.1 field.2) lower

end Fields

namespace Value

/-- The text with these code points. -/
def ofCodePoints (codes : List CodePoint) : Value :=
  match codes.mapM CodePoint.char? with
  | some cs => .string (String.ofList cs)
  | none => .broken codes

/-- The fields of an object. -/
def fields? : Value → Option Fields
  | .object fields => some fields
  | _ => none

/-- The items of a list. -/
def items? : Value → Option (List Value)
  | .array items => some items
  | _ => none

/-- The characters of a text. -/
def string? : Value → Option String
  | .string s => some s
  | _ => none

/-- A field of an object; anything that is not an object has none. -/
def get? (value : Value) (name : String) : Option Value :=
  match value with
  | .object fields => Fields.get? fields name
  | _ => none

/-- A field of an object, null when it is absent. -/
def getD (value : Value) (name : String) : Value :=
  (value.get? name).getD .null

/-- An integer, counting truth values as zero and one. -/
def integer? : Value → Option Int
  | .int n => some n
  | .bool b => some (if b then 1 else 0)
  | _ => none

/-- Whether a value is null. -/
def isNull : Value → Bool
  | .null => true
  | _ => false

/-- Whether a value counts as true: null, zero and anything empty do not. -/
def truthy : Value → Bool
  | .null => false
  | .bool b => b
  | .int n => n ≠ 0
  | .float x => !x.isZero
  | .string s => !s.isEmpty
  | .broken codes => !codes.isEmpty
  | .array items => !items.isEmpty
  | .object fields => !fields.isEmpty

/-- A list of texts. -/
def strings (texts : List String) : Value :=
  .array (texts.map .string)

/-- A natural number. -/
def nat (n : Nat) : Value :=
  .int n

/-- A value that may be missing, null when it is. -/
def ofOption {α : Type} (write : α → Value) : Option α → Value
  | none => .null
  | some a => write a

end Value

end BasiliskServer.Json

/-!
## Looking into JSON values

Fields of an expected kind, with a default where they are missing or of another kind, and changes
of all texts within a value.
-/

namespace BasiliskServer.Json.Value

/-- A text field. -/
def textAt? (value : Value) (name : String) : Option String :=
  (value.get? name).bind string?

/-- A text field, or a default. -/
def textAt (value : Value) (name : String) (default : String := "") : String :=
  (value.textAt? name).getD default

/-- An integer field. -/
def intAt? (value : Value) (name : String) : Option Int :=
  (value.get? name).bind integer?

/-- An integer field, or a default. -/
def intAt (value : Value) (name : String) (default : Int := 0) : Int :=
  (value.intAt? name).getD default

/-- A field that holds a natural number, zero where it does not. -/
def natAt (value : Value) (name : String) : Nat :=
  (value.intAt name).toNat

/-- Whether a field counts as true. -/
def flagAt (value : Value) (name : String) : Bool :=
  (value.getD name).truthy

/-- The items of a list field, none where it is no list. -/
def itemsAt (value : Value) (name : String) : List Value :=
  ((value.get? name).bind items?).getD []

/-- The texts among the items of a list field. -/
def textsAt (value : Value) (name : String) : List String :=
  (value.itemsAt name).filterMap string?

/-- The fields of an object field, none where it is no object. -/
def fieldsAt (value : Value) (name : String) : Fields :=
  ((value.get? name).bind fields?).getD []

mutual

/-- Changes all texts within a value, names of fields included. -/
def mapTexts (change : String → String) : Value → Value
  | .string s => .string (change s)
  | .array items => .array (mapItemTexts change items)
  | .object fields => .object (mapFieldTexts change fields)
  | value => value

/-- Changes all texts within the items of a list. -/
def mapItemTexts (change : String → String) : List Value → List Value
  | [] => []
  | item :: rest => mapTexts change item :: mapItemTexts change rest

/-- Changes all texts within the fields of an object. -/
def mapFieldTexts (change : String → String) : List (String × Value) → List (String × Value)
  | [] => []
  | (name, value) :: rest => (change name, mapTexts change value) :: mapFieldTexts change rest

end

end BasiliskServer.Json.Value
