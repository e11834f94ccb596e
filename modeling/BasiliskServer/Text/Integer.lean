import BasiliskServer.Text.Line

/-!
# Integers in texts

Decimal integers as they stand in environment variables and in messages: white space around the
number, an optional sign, digits of any script and single underscores between digits. A number with
more digits than the limit is not read, however small its value is.
-/

namespace BasiliskServer.Text

/-- White space that may surround a number: all blanks but the four separators of information. -/
def isPadding (c : Char) : Bool :=
  isBlank c && !(0x1C ≤ c.toNat && c.toNat ≤ 0x1F)

/-- A spelled number without the white space around it. -/
def withoutPadding (cs : List Char) : List Char :=
  ((cs.dropWhile isPadding).reverse.dropWhile isPadding).reverse

/-- The greatest number of digits that a number may be spelled with. -/
def digitLimit : Nat := 4300

/-- Whether a text holds more digits than a number may be spelled with. -/
def hasTooManyDigits (cs : List Char) : Bool :=
  digitLimit < cs.countP isDigit

/-- The value of digits with single underscores between them, given the value read so far. The
flag says whether a digit was read just before, so that an underscore or the end may follow. -/
def groupedDigits? : Bool → Nat → List Char → Option Nat
  | afterDigit, value, [] => if afterDigit then some value else none
  | afterDigit, value, c :: rest =>
    if c = '_' then
      if afterDigit then groupedDigits? false value rest else none
    else match digitValue? c with
      | none => none
      | some digit => groupedDigits? true (value * 10 + digit) rest

/-- The number that digits with single underscores between them spell. -/
def naturalNumber? (cs : List Char) : Option Nat :=
  if hasTooManyDigits cs then none else groupedDigits? false 0 cs

/-- The integer that a text spells. -/
def integer? (s : String) : Option Int :=
  match withoutPadding s.toList with
  | '-' :: digits => (naturalNumber? digits).map fun n => -(n : Int)
  | '+' :: digits => (naturalNumber? digits).map fun n => (n : Int)
  | digits => (naturalNumber? digits).map fun n => (n : Int)

end BasiliskServer.Text
