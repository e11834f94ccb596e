import BasiliskServer.Json.Excess
import BasiliskServer.Json.Printer
import BasiliskServer.Text.PrintableTable

/-!
# Values spelled in messages

How values are spelled inside messages: texts between single quotes unless they hold one, and the
words `None`, `True` and `False`. A value that is itself a text is spelled as it is when it is the
whole message.
-/

namespace BasiliskServer.Json

/-- Characters that are shown as they are inside a quoted text. -/
def isPrintable (c : Char) : Bool :=
  if c.toNat < 128 then 32 ≤ c.toNat && c.toNat < 127
  else Text.inRanges Text.printableRanges c

/-- How one character is written between quotes of the given kind. -/
def quoteChar (quote c : Char) : List Char :=
  if c = quote || c = '\\' then ['\\', c]
  else if c = '\n' then ['\\', 'n']
  else if c = '\r' then ['\\', 'r']
  else if c = '\t' then ['\\', 't']
  else if isPrintable c then [c]
  else if c.toNat < 0x100 then '\\' :: 'x' :: hexDigits 2 c.toNat
  else if c.toNat < 0x10000 then '\\' :: 'u' :: hexDigits 4 c.toNat
  else '\\' :: 'U' :: hexDigits 8 c.toNat

/-- The quotes around a text: single ones, or double ones if it holds a single quote and no double
quote. -/
def quoteFor (cs : List Char) : Char :=
  if cs.contains '\'' && !cs.contains '"' then '"' else '\''

/-- A text between quotes. -/
def quoteText (s : String) : List Char :=
  let quote := quoteFor s.toList
  quote :: (s.toList.flatMap (quoteChar quote) ++ [quote])

/-- How one code point is written between quotes of the given kind. -/
def quoteCodePoint (quote : Char) : CodePoint → List Char
  | .char c => quoteChar quote c
  | .half n => '\\' :: 'u' :: hexDigits 4 n

/-- How numbers that are not finite are spelled in messages. -/
def spokenNumbers : Decimal.Spelling := ⟨"nan", "inf"⟩

mutual

/-- A value inside a message. -/
def spell : Value → List Char
  | .null => "None".toList
  | .bool true => "True".toList
  | .bool false => "False".toList
  | .int n => (toString n).toList
  | .float x => x.render spokenNumbers
  | .string s => quoteText s
  | .broken codes =>
    let quote := quoteFor (codes.filterMap CodePoint.char?)
    quote :: (codes.flatMap (quoteCodePoint quote) ++ [quote])
  | .array items => '[' :: (spellItems items ++ [']'])
  | .object fields => '{' :: (spellFields fields ++ ['}'])

/-- Items of a list inside a message. -/
def spellItems : List Value → List Char
  | [] => []
  | [value] => spell value
  | value :: rest => spell value ++ (',' :: ' ' :: spellItems rest)

/-- Fields of an object inside a message. -/
def spellFields : List (String × Value) → List Char
  | [] => []
  | [(name, value)] => quoteText name ++ (':' :: ' ' :: spell value)
  | (name, value) :: rest =>
    quoteText name ++ (':' :: ' ' :: (spell value ++ (',' :: ' ' :: spellFields rest)))

end

/-- A value between quotes where it needs them. -/
def Value.spelled (value : Value) : String :=
  String.ofList (spell value)

/-- A value as a message of its own: a text is taken as it is. -/
def Value.text : Value → String
  | .string s => s
  | .broken codes => String.ofList (codes.map CodePoint.shown)
  | value => value.spelled

/-- A value as a message of its own, unless there is too much of something. A text is not spelled,
so it never is too much. -/
def Value.textWithin (room : Option Nat) (value : Value) : Except Excess String :=
  match value with
  | .string s => .ok s
  | .broken codes => .ok (String.ofList (codes.map CodePoint.shown))
  | value =>
    match room.bind fun depth => value.spellingExcess? depth with
    | none => .ok value.text
    | some what => .error what

/-- A text between quotes. -/
def quoted (s : String) : String :=
  String.ofList (quoteText s)

end BasiliskServer.Json
