import BasiliskServer.Decimal.Shortest
import BasiliskServer.Json.Value

/-!
# Writing JSON text

JSON text in the three shapes that the server writes: on one line with all characters as they are
(frames), on one line in ASCII (fingerprints), and indented in ASCII (reports). Fields are written
in the order in which they stand.
-/

namespace BasiliskServer.Json

/-- Lower-case hexadecimal digits of a number, at least `width` of them. -/
def hexDigits (width n : Nat) : List Char :=
  let digits := Nat.toDigits 16 n
  List.replicate (width - digits.length) '0' ++ digits

/-- An escaped code point of at most sixteen bits. -/
def escapeUnit (n : Nat) : List Char :=
  '\\' :: 'u' :: hexDigits 4 n

/-- An escaped code point; one of more than sixteen bits is written as a pair. -/
def escapeCodePoint (n : Nat) : List Char :=
  if n < 0x10000 then escapeUnit n
  else escapeUnit (0xD800 + (n - 0x10000) / 1024) ++ escapeUnit (0xDC00 + (n - 0x10000) % 1024)

/-- How one character is written inside a text. -/
def writeChar (ascii : Bool) (c : Char) : List Char :=
  if c = '"' then ['\\', '"']
  else if c = '\\' then ['\\', '\\']
  else if c = '\n' then ['\\', 'n']
  else if c = '\r' then ['\\', 'r']
  else if c = '\t' then ['\\', 't']
  else if c.toNat = 8 then ['\\', 'b']
  else if c.toNat = 12 then ['\\', 'f']
  else if c.toNat < 0x20 || (ascii && 0x7E < c.toNat) then escapeCodePoint c.toNat
  else [c]

/-- How one code point is written inside a text. -/
def writeCodePoint (ascii : Bool) : CodePoint → List Char
  | .char c => writeChar ascii c
  | .half n => escapeUnit n

/-- A text between quotes. -/
def writeText (ascii : Bool) (s : String) : List Char :=
  '"' :: (s.toList.flatMap (writeChar ascii) ++ ['"'])

/-- The decimal text of an integer. -/
def writeInt (n : Int) : List Char :=
  if n < 0 then '-' :: Nat.toDigits 10 n.natAbs else Nat.toDigits 10 n.natAbs

/-- How numbers that are not finite are written. -/
def spelling : Decimal.Spelling := ⟨"NaN", "Infinity"⟩

/-- A value that has no parts. -/
def writeScalar (ascii : Bool) : Value → List Char
  | .null => "null".toList
  | .bool true => "true".toList
  | .bool false => "false".toList
  | .int n => writeInt n
  | .float x => x.render spelling
  | .string s => writeText ascii s
  | .broken codes => '"' :: (codes.flatMap (writeCodePoint ascii) ++ ['"'])
  | .array _ => []
  | .object _ => []

mutual

/-- A value on one line, with one space after every comma and colon. -/
def write (ascii : Bool) : Value → List Char
  | .array items => '[' :: (writeItems ascii items ++ [']'])
  | .object fields => '{' :: (writeFields ascii fields ++ ['}'])
  | scalar => writeScalar ascii scalar

/-- Items of a list on one line. -/
def writeItems (ascii : Bool) : List Value → List Char
  | [] => []
  | [value] => write ascii value
  | value :: rest => write ascii value ++ (',' :: ' ' :: writeItems ascii rest)

/-- Fields of an object on one line. -/
def writeFields (ascii : Bool) : List (String × Value) → List Char
  | [] => []
  | [(name, value)] => writeText ascii name ++ (':' :: ' ' :: write ascii value)
  | (name, value) :: rest =>
    writeText ascii name ++ (':' :: ' ' :: (write ascii value ++
      (',' :: ' ' :: writeFields ascii rest)))

end

/-- A line end and the indentation of a level. -/
def newLine (level : Nat) : List Char :=
  '\n' :: List.replicate (2 * level) ' '

mutual

/-- A value in ASCII, every item and field on a line of its own. -/
def writeIndented (level : Nat) : Value → List Char
  | .array [] => ['[', ']']
  | .array items =>
    '[' :: (newLine (level + 1) ++ indentedItems (level + 1) items ++ newLine level ++ [']'])
  | .object [] => ['{', '}']
  | .object fields =>
    '{' :: (newLine (level + 1) ++ indentedFields (level + 1) fields ++ newLine level ++ ['}'])
  | scalar => writeScalar true scalar

/-- Items of a list, each on its line. -/
def indentedItems (level : Nat) : List Value → List Char
  | [] => []
  | [value] => writeIndented level value
  | value :: rest =>
    writeIndented level value ++ (',' :: (newLine level ++ indentedItems level rest))

/-- Fields of an object, each on its line. -/
def indentedFields (level : Nat) : List (String × Value) → List Char
  | [] => []
  | [(name, value)] => writeText true name ++ (':' :: ' ' :: writeIndented level value)
  | (name, value) :: rest =>
    writeText true name ++ (':' :: ' ' :: (writeIndented level value ++
      (',' :: (newLine level ++ indentedFields level rest))))

end

/-- One line, all characters as they are. -/
def render (value : Value) : String :=
  String.ofList (write false value)

/-- One line of ASCII. -/
def renderAscii (value : Value) : String :=
  String.ofList (write true value)

/-- Indented ASCII. -/
def renderIndented (value : Value) : String :=
  String.ofList (writeIndented 0 value)

end BasiliskServer.Json
