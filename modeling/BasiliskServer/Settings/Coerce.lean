import BasiliskServer.Json.Value
import BasiliskServer.Text.Integer

/-!
# Reading settings leniently

Settings are written by people, so numbers and truth values may be spelled as texts. A value that
is not understood makes the whole payload invalid; null is never understood. Settings can be read by any
readers that understand what is written by the program itself (`Readers`), and these are such
readers (`Readers.lenient`).
-/

namespace BasiliskServer.Settings

open Json (Value)
open Text (isAsciiDigit)

/-- A spelled number without its zeros in front, `last` being the character before. Underscores
between these zeros go with them. A zero stays before a point and at the end of the text. Only a
digit, a minus sign or a point may follow. -/
def afterZeros? (last : Char) : List Char → Option (List Char)
  | [] => some [last]
  | c :: rest =>
    if c = '0' || c = '_' then afterZeros? c rest
    else if isAsciiDigit c || c = '-' then some (c :: rest)
    else if c = '.' then some (last :: c :: rest)
    else none

/-- A spelled number without zeros in front; it starts with a digit or a minus sign. -/
def withoutLeadingZeros? : List Char → Option (List Char)
  | '0' :: rest => afterZeros? '0' rest
  | c :: rest => if isAsciiDigit c || c = '-' then some (c :: rest) else none
  | [] => none

/-- A spelled number without a fraction that consists of zeros. -/
def withoutZeroFraction (cs : List Char) : List Char :=
  match cs.dropWhile (· ≠ '.') with
  | '.' :: zero :: fraction =>
    if (zero :: fraction).all (· = '0') then cs.takeWhile (· ≠ '.') else cs
  | _ => cs

/-- Whether two underscores stand next to each other. -/
def hasDoubledUnderscore : List Char → Bool
  | '_' :: '_' :: _ => true
  | _ :: rest => hasDoubledUnderscore rest
  | [] => false

/-- A spelled number without single underscores inside it. -/
def withoutUnderscores (cs : List Char) : List Char :=
  if cs.head? = some '_' || cs.getLast? = some '_' || hasDoubledUnderscore cs then cs
  else cs.filter (· ≠ '_')

/-- A spelled number reduced to its digits: zeros in front, a fraction of zeros and single
underscores are taken out. -/
def reduced? (cs : List Char) : Option (List Char) :=
  (withoutLeadingZeros? cs).map fun digits => withoutUnderscores (withoutZeroFraction digits)

/-- The value of digits that start with a zero only if it is the only one, if there are not too
many. -/
def plainDigits? : List Char → Option Nat
  | [] => none
  | ['0'] => some 0
  | '0' :: _ => none
  | digits =>
    if digits.all isAsciiDigit && digits.length ≤ Text.digitLimit then
      some (Text.digitsValue digits)
    else none

/-- The opposite of the integer that digits spell. -/
def negated? (digits : List Char) : Option Int :=
  (plainDigits? digits).map fun n => -(n : Int)

/-- The integer that digits with an optional minus sign spell. -/
def plainInt? : List Char → Option Int
  | '-' :: digits => negated? digits
  | digits => (plainDigits? digits).map fun n => (n : Int)

/-- The integer that a text spells: an optional sign, zeros in front, digits with single underscores
between them, perhaps a fraction of zeros. Zeros in front may also stand before the minus sign. -/
def spelledInt? (s : String) : Option Int :=
  match Text.withoutPadding s.toList with
  | '-' :: digits => (reduced? digits).bind negated?
  | '+' :: '-' :: _ => none
  | '+' :: digits => (reduced? digits).bind plainInt?
  | digits => (reduced? digits).bind plainInt?

/-- An integer setting. Numbers with a fraction part of zero count as long as they fit into 64
bits. -/
def readInt? : Value → Option Int
  | .int n => some n
  | .bool b => some (if b then 1 else 0)
  | .float x =>
    match x.toInt? with
    | some n => if n.natAbs < Decimal.twoTo 63 then some n else none
    | none => none
  | .string s => spelledInt? s
  | _ => none

/-- The words for true. -/
def trueWords : List String := ["1", "t", "y", "yes", "on", "true"]

/-- The words for false. -/
def falseWords : List String := ["0", "f", "n", "no", "off", "false"]

/-- A truth value: itself, a number equal to zero or one, or one of the words in any case. -/
def readBool? : Value → Option Bool
  | .bool b => some b
  | .int n => if n = 0 then some false else if n = 1 then some true else none
  | .float x =>
    match x.toInt? with
    | some n => if n = 0 then some false else if n = 1 then some true else none
    | none => none
  | .string s =>
    let word := String.ofList (s.toList.map Char.toLower)
    if trueWords.contains word then some true
    else if falseWords.contains word then some false
    else none
  | _ => none

/-- A list of texts. -/
def readStrings? : Value → Option (List String)
  | .array items => items.mapM Value.string?
  | _ => none

theorem readStrings?_strings (texts : List String) : readStrings? (.strings texts) = some texts := by
  induction texts with
  | nil => rfl
  | cons text rest ih =>
    simp only [readStrings?, Value.strings] at ih
    simp [readStrings?, Value.strings, Value.string?, ih]

/-- How the values of settings are read. Whatever is written is read back as it was. -/
structure Readers where
  /-- Reads a truth value. -/
  bool? : Value → Option Bool
  /-- Reads an integer. -/
  int? : Value → Option Int
  /-- Reads a text. -/
  string? : Value → Option String
  /-- Reads a list of texts. -/
  strings? : Value → Option (List String)
  bool?_bool (b : Bool) : bool? (.bool b) = some b
  int?_int (n : Int) : int? (.int n) = some n
  string?_string (s : String) : string? (.string s) = some s
  strings?_strings (texts : List String) : strings? (.strings texts) = some texts

attribute [simp] Readers.bool?_bool Readers.int?_int Readers.string?_string Readers.strings?_strings

/-- Readers that also understand numbers and truth values in other spellings. -/
def Readers.lenient : Readers where
  bool? := readBool?
  int? := readInt?
  string? := Value.string?
  strings? := readStrings?
  bool?_bool _ := rfl
  int?_int _ := rfl
  string?_string _ := rfl
  strings?_strings := readStrings?_strings

end BasiliskServer.Settings
