import BasiliskServer.Json.Excess

/-!
# Reading JSON text

A reader for JSON text that says what is wrong and where. Every function takes the characters
that are left and returns what it read together with what is left then. A fault carries the
characters that were left where it is reported, so its position is what has been read before.
Integers with too many digits and values that are nested too deeply are refused as soon as they are
met; how deep the reader may go is an argument.

The reader also takes the three spellings of numbers that are not finite.
-/

namespace BasiliskServer.Json

/-- What can be wrong with a JSON text. -/
inductive Reason where
  /-- A value should start here. -/
  | value
  /-- A field name should start here. -/
  | fieldName
  /-- A colon should stand here. -/
  | colon
  /-- A comma should stand here. -/
  | comma
  /-- Something follows the value. -/
  | extra
  /-- The text that starts here has no end. -/
  | unterminated
  /-- A control character stands inside a text. -/
  | control
  /-- An unknown escape. -/
  | badEscape
  /-- An escaped code point without four hexadecimal digits. -/
  | badCodePoint
  /-- The text starts with a byte order mark. -/
  | byteOrderMark
  deriving DecidableEq, Repr

/-- The wording of a reason. -/
def Reason.message : Reason → String
  | .value => "Expecting value"
  | .fieldName => "Expecting property name enclosed in double quotes"
  | .colon => "Expecting ':' delimiter"
  | .comma => "Expecting ',' delimiter"
  | .extra => "Extra data"
  | .unterminated => "Unterminated string starting at"
  | .control => "Invalid control character at"
  | .badEscape => "Invalid \\escape"
  | .badCodePoint => "Invalid \\uXXXX escape"
  | .byteOrderMark => "Unexpected UTF-8 BOM (decode using utf-8-sig)"

/-- Why the reader stops. -/
inductive Fault where
  /-- Something is wrong; `rest` is what is left of the text where that is reported. -/
  | wrong (reason : Reason) (rest : List Char)
  /-- There is too much of something. -/
  | excess (excess : Excess)

/-- Space between the parts of a JSON text. -/
def isSpace (c : Char) : Bool :=
  c = ' ' || c = '\t' || c = '\n' || c = '\r'

/-- What is left after leading space. -/
def skipSpace (cs : List Char) : List Char :=
  cs.dropWhile isSpace

/-- The decimal digits of JSON numbers. -/
def isDecimal (c : Char) : Bool :=
  '0' ≤ c && c ≤ '9'

/-- The value of a hexadecimal digit. -/
def hexValue? (c : Char) : Option Nat :=
  if '0' ≤ c && c ≤ '9' then some (c.toNat - 48)
  else if 'a' ≤ c && c ≤ 'f' then some (c.toNat - 87)
  else if 'A' ≤ c && c ≤ 'F' then some (c.toNat - 55)
  else none

/-- The value of four hexadecimal digits. -/
def hex4? (a b c d : Char) : Option Nat := do
  let a ← hexValue? a
  let b ← hexValue? b
  let c ← hexValue? c
  let d ← hexValue? d
  return ((a * 16 + b) * 16 + c) * 16 + d

/-- The first half of a pair of escapes that spell one character. -/
def isHighHalf (n : Nat) : Bool := 0xD800 ≤ n && n ≤ 0xDBFF

/-- The second half of a pair of escapes that spell one character. -/
def isLowHalf (n : Nat) : Bool := 0xDC00 ≤ n && n ≤ 0xDFFF

/-- The code point of a single escape. -/
def escapedCodePoint (n : Nat) : CodePoint :=
  if isHighHalf n || isLowHalf n then .half n else .char (Char.ofNat n)

/-- The character of a pair of escapes. -/
def pairedChar (high low : Nat) : Char :=
  Char.ofNat (0x10000 + (high - 0xD800) * 1024 + (low - 0xDC00))

/-- The character of a short escape. -/
def shortEscape? (c : Char) : Option Char :=
  match c with
  | '"' => some '"'
  | '\\' => some '\\'
  | '/' => some '/'
  | 'b' => some (Char.ofNat 8)
  | 'f' => some (Char.ofNat 12)
  | 'n' => some '\n'
  | 'r' => some '\r'
  | 't' => some '\t'
  | _ => none

/-- The second half of a pair of escapes, if an escape of that form and one more character
follow. -/
def secondHalf? : List Char → Option (List Char × Option Nat × List Char)
  | x :: y :: a :: b :: c :: d :: e :: rest =>
    if x = '\\' && y = 'u' then
      some (y :: a :: b :: c :: d :: e :: rest, hex4? a b c d, e :: rest)
    else none
  | _ => none

/-- The code point that an escape spells, `n` being its value and `rest` what follows it: half a
pair takes the escape of the other half with it. -/
def readPair (n : Nat) (rest : List Char) : Except Fault (CodePoint × List Char) :=
  if isHighHalf n then
    match secondHalf? rest with
    | none => .ok (escapedCodePoint n, rest)
    | some (here, none, _) => .error (.wrong .badCodePoint here)
    | some (_, some low, after) =>
      if isLowHalf low then .ok (.char (pairedChar n low), after)
      else .ok (escapedCodePoint n, rest)
  else .ok (escapedCodePoint n, rest)

/-- The code point that the four digits of an escape spell, together with the other half of a pair;
a character has to follow the digits. -/
def readCodePoint : List Char → Except Fault (CodePoint × List Char)
  | a :: b :: c :: d :: e :: rest =>
    match hex4? a b c d with
    | none => .error (.wrong .badCodePoint ('u' :: a :: b :: c :: d :: e :: rest))
    | some n => readPair n (e :: rest)
  | rest => .error (.wrong .badCodePoint ('u' :: rest))

/-- Reads an escape after its backslash; `start` is the text from its opening quote on. -/
def readEscape (start : List Char) : List Char → Except Fault (CodePoint × List Char)
  | [] => .error (.wrong .unterminated start)
  | c :: rest =>
    if c = 'u' then readCodePoint rest
    else match shortEscape? c with
      | none => .error (.wrong .badEscape ('\\' :: c :: rest))
      | some image => .ok (.char image, rest)

theorem secondHalf?_length {rest here after : List Char} {low : Option Nat}
    (h : secondHalf? rest = some (here, low, after)) : after.length ≤ rest.length := by
  unfold secondHalf? at h
  split at h
  · split at h
    · cases h
      simp only [List.length_cons]
      omega
    · cases h
  · cases h

theorem readPair_length {n : Nat} {rest after : List Char} {c : CodePoint}
    (h : readPair n rest = .ok (c, after)) : after.length ≤ rest.length := by
  unfold readPair at h
  split at h
  · split at h
    · simp only [Except.ok.injEq, Prod.mk.injEq] at h
      exact h.2 ▸ Nat.le_refl _
    · cases h
    · rename_i second
      split at h
      · simp only [Except.ok.injEq, Prod.mk.injEq] at h
        exact h.2 ▸ secondHalf?_length second
      · simp only [Except.ok.injEq, Prod.mk.injEq] at h
        exact h.2 ▸ Nat.le_refl _
  · simp only [Except.ok.injEq, Prod.mk.injEq] at h
    exact h.2 ▸ Nat.le_refl _

theorem readCodePoint_length {cs after : List Char} {c : CodePoint}
    (h : readCodePoint cs = .ok (c, after)) : after.length ≤ cs.length := by
  unfold readCodePoint at h
  split at h
  · split at h
    · cases h
    · have := readPair_length h
      simp only [List.length_cons] at this ⊢
      omega
  · cases h

theorem readEscape_length {start cs after : List Char} {c : CodePoint}
    (h : readEscape start cs = .ok (c, after)) : after.length ≤ cs.length := by
  unfold readEscape at h
  split at h
  · cases h
  · split at h
    · exact Nat.le_succ_of_le (readCodePoint_length h)
    · split at h
      · cases h
      · cases h
        simp

/-- Reads a text after its opening quote; `start` is the text from that quote on. -/
def readText (start cs : List Char) : Except Fault (List CodePoint × List Char) :=
  match cs with
  | [] => .error (.wrong .unterminated start)
  | c :: rest =>
    if c = '"' then .ok ([], rest)
    else if c = '\\' then
      match _h : readEscape start rest with
      | .error fault => .error fault
      | .ok (image, after) =>
        match readText start after with
        | .error fault => .error fault
        | .ok (text, rest) => .ok (image :: text, rest)
    else if c.toNat ≤ 0x1F then .error (.wrong .control (c :: rest))
    else
      match readText start rest with
      | .error fault => .error fault
      | .ok (text, rest) => .ok (.char c :: text, rest)
termination_by cs.length
decreasing_by
  · exact Nat.lt_succ_of_le (readEscape_length _h)
  · exact Nat.lt_succ_self _

/-- The number that decimal digits denote. -/
def decimalValue (digits : List Char) : Nat :=
  digits.foldl (fun value c => value * 10 + (c.toNat - 48)) 0

/-- The integer digits of a number: one zero, or a run that does not start with zero. -/
def wholeDigits? : List Char → Option (List Char × List Char)
  | '0' :: rest => some (['0'], rest)
  | c :: rest =>
    if isDecimal c then some (c :: rest.takeWhile isDecimal, rest.dropWhile isDecimal) else none
  | [] => none

/-- The digits after a point, if a point and a digit follow. -/
def fractionDigits : List Char → List Char × List Char
  | '.' :: c :: rest =>
    if isDecimal c then (c :: rest.takeWhile isDecimal, rest.dropWhile isDecimal)
    else ([], '.' :: c :: rest)
  | cs => ([], cs)

/-- The exponent, if a mark and at least one digit follow. -/
def exponentPart (cs : List Char) : Option (Int × List Char) :=
  match cs with
  | mark :: rest =>
    if mark = 'e' || mark = 'E' then
      let (negative, digits) : Bool × List Char :=
        match rest with
        | '-' :: more => (true, more)
        | '+' :: more => (false, more)
        | more => (false, more)
      match digits.takeWhile isDecimal with
      | [] => none
      | run =>
        let magnitude : Int := decimalValue run
        some (if negative then -magnitude else magnitude, digits.dropWhile isDecimal)
    else none
  | [] => none

/-- Reads a number; `start` is the text from its sign on. -/
def readNumber (start : List Char) (negative : Bool) (cs : List Char) :
    Except Fault (Value × List Char) :=
  match wholeDigits? cs with
  | none => .error (.wrong .value start)
  | some (whole, rest) =>
    let (fraction, rest) := fractionDigits rest
    match fraction, exponentPart rest with
    | [], none =>
      if Text.digitLimit < whole.length then .error (.excess (.digits whole.length))
      else
        let magnitude : Int := decimalValue whole
        .ok (.int (if negative then -magnitude else magnitude), rest)
    | fraction, exponent =>
      let (power, rest) := exponent.getD (0, rest)
      let number :=
        Decimal.Double.ofDecimal negative (decimalValue (whole ++ fraction))
          (power - fraction.length)
      .ok (.float number, rest)

/-- What follows a fixed word, if the text starts with it. -/
def afterWord? : List Char → List Char → Option (List Char)
  | [], rest => some rest
  | w :: word, c :: rest => if w = c then afterWord? word rest else none
  | _ :: _, [] => none

/-- The named values and their spellings. -/
def namedValues : List (String × Value) :=
  [("null", .null), ("true", .bool true), ("false", .bool false),
   ("NaN", .float .nan), ("Infinity", .float (.infinity false)),
   ("-Infinity", .float (.infinity true))]

/-- A named value at the start of a text. -/
def readNamed? (cs : List Char) : Option (Value × List Char) :=
  namedValues.findSome? fun (word, value) =>
    (afterWord? word.toList cs).map fun rest => (value, rest)

/-- Reads a value that is neither a text nor a list nor an object. -/
def readScalar (cs : List Char) : Except Fault (Value × List Char) :=
  match readNamed? cs with
  | some read => .ok read
  | none =>
    match cs with
    | '-' :: rest => readNumber cs true rest
    | _ => readNumber cs false cs

mutual

/-- Reads one value. Lists and objects may be nested `depth` times more. The fuel bounds nesting and
length together and never runs out when it is twice the number of characters left. -/
def readValue (fuel depth : Nat) (cs : List Char) : Except Fault (Value × List Char) :=
  match fuel with
  | 0 => .error (.wrong .value cs)
  | fuel + 1 =>
    match cs with
    | '"' :: rest => do
      let (text, rest) ← readText cs rest
      return (.ofCodePoints text, rest)
    | '{' :: rest =>
      match depth, skipSpace rest with
      | 0, _ => .error (.excess .nesting)
      | _ + 1, '}' :: rest => .ok (.object [], rest)
      | depth + 1, rest => do
        let (fields, rest) ← readFields fuel depth [] rest
        return (.object fields, rest)
    | '[' :: rest =>
      match depth, skipSpace rest with
      | 0, _ => .error (.excess .nesting)
      | _ + 1, ']' :: rest => .ok (.array [], rest)
      | depth + 1, rest => do
        let (items, rest) ← readItems fuel depth rest
        return (.array items, rest)
    | cs => readScalar cs

/-- Reads the fields of an object up to its closing brace, over those already read. A name has a
replacement character where half of a pair stands alone. -/
def readFields (fuel depth : Nat) (fields : Fields) (cs : List Char) :
    Except Fault (Fields × List Char) :=
  match fuel with
  | 0 => .error (.wrong .value cs)
  | fuel + 1 =>
    match cs with
    | '"' :: rest => do
      let (name, rest) ← readText cs rest
      match skipSpace rest with
      | ':' :: rest => do
        let (value, rest) ← readValue fuel depth (skipSpace rest)
        let fields := fields.put (String.ofList (name.map CodePoint.shown)) value
        match skipSpace rest with
        | '}' :: rest => .ok (fields, rest)
        | ',' :: rest => readFields fuel depth fields (skipSpace rest)
        | rest => .error (.wrong .comma rest)
      | rest => .error (.wrong .colon rest)
    | cs => .error (.wrong .fieldName cs)

/-- Reads the items of a list up to its closing bracket. -/
def readItems (fuel depth : Nat) (cs : List Char) : Except Fault (List Value × List Char) :=
  match fuel with
  | 0 => .error (.wrong .value cs)
  | fuel + 1 => do
    let (value, rest) ← readValue fuel depth cs
    match skipSpace rest with
    | ']' :: rest => .ok ([value], rest)
    | ',' :: rest => do
      let (values, rest) ← readItems fuel depth (skipSpace rest)
      return (value :: values, rest)
    | rest => .error (.wrong .comma rest)

end

/-- What is wrong with a JSON text, and after how many characters. -/
structure SyntaxError where
  /-- What is wrong. -/
  reason : Reason
  /-- The characters before the place where it is reported. -/
  before : List Char

/-- Number of the line, from one, in which an error is reported. -/
def SyntaxError.line (error : SyntaxError) : Nat :=
  error.before.count '\n' + 1

/-- Number of the column, from one, in which an error is reported. -/
def SyntaxError.column (error : SyntaxError) : Nat :=
  (error.before.reverse.takeWhile (· ≠ '\n')).length + 1

/-- The wording of an error: the reason, then line, column and number of characters before it. -/
def SyntaxError.message (error : SyntaxError) : String :=
  error.reason.message ++ ": line " ++ toString error.line ++ " column " ++ toString error.column ++
    " (char " ++ toString error.before.length ++ ")"

/-- Why a text is not read as one value. -/
inductive ParseError where
  /-- It is malformed. -/
  | malformed (error : SyntaxError)
  /-- There is too much of something. -/
  | excess (excess : Excess)

/-- The error for a fault in a text. -/
def ParseError.ofFault (cs : List Char) : Fault → ParseError
  | .wrong reason rest => .malformed ⟨reason, cs.take (cs.length - rest.length)⟩
  | .excess what => .excess what

/-- Reads one value with space around it and nothing else, at most `nesting` levels down. -/
def readAll (nesting : Nat) (cs : List Char) : Except Fault Value :=
  match readValue (2 * cs.length + 2) nesting (skipSpace cs) with
  | .error fault => .error fault
  | .ok (value, rest) =>
    match skipSpace rest with
    | [] => .ok value
    | rest => .error (.wrong .extra rest)

/-- Reads a whole text as one value, at most `nesting` levels down. A byte order mark in front is
not allowed. -/
def parse (nesting : Nat) (text : String) : Except ParseError Value :=
  let cs := text.toList
  let read := if cs.head? = some (Char.ofNat 0xFEFF) then .error (.wrong .byteOrderMark cs)
    else readAll nesting cs
  read.mapError (ParseError.ofFault cs)

end BasiliskServer.Json
