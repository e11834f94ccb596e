import BasiliskServer.Text.CharClass

/-!
# Lines and runs

Cutting texts into lines and lines into pieces. All functions work on lists of characters and
return the rest of the input where they read a piece of it, so that nothing is lost between a
piece and its rest.
-/

namespace BasiliskServer.Text

/-- One line of a text, without its line end. -/
abbrev Line := List Char

/-- Cuts a text at every character for which `isEnd` holds; there is always one piece more than
there are ends. -/
def splitBy (isEnd : Char → Bool) : List Char → List (List Char)
  | [] => [[]]
  | c :: rest =>
    if isEnd c then [] :: splitBy isEnd rest
    else match splitBy isEnd rest with
      | [] => [[c]]
      | piece :: pieces => (c :: piece) :: pieces

/-- The lines of a text, cut at line feeds only. -/
def lines (text : String) : List Line :=
  splitBy (· = '\n') text.toList

/-- Characters that end a line of compiler output. -/
def isLineBreak (c : Char) : Bool :=
  let n := c.toNat
  (0xA ≤ n && n ≤ 0xD) || (0x1C ≤ n && n ≤ 0x1E) || n = 0x85 || n = 0x2028 || n = 0x2029

/-- Cuts a text after every line break of any kind, a carriage return and line feed together being
one break. The piece after the last break counts only if it is not empty. -/
def breakLines : List Char → List Line
  | [] => []
  | '\r' :: '\n' :: rest => [] :: breakLines rest
  | c :: rest =>
    if isLineBreak c then [] :: breakLines rest
    else match breakLines rest with
      | [] => [[c]]
      | line :: more => (c :: line) :: more

/-- The text after its leading blanks. -/
def dropBlanks (cs : List Char) : List Char :=
  cs.dropWhile isBlank

/-- The text without blanks at its two ends. -/
def strip (cs : List Char) : List Char :=
  (dropBlanks (dropBlanks cs).reverse).reverse

/-- The text without blanks at its end. -/
def stripRight (cs : List Char) : List Char :=
  (dropBlanks cs.reverse).reverse

/-- Whether a text holds blanks only. -/
def allBlank (cs : List Char) : Bool :=
  cs.all isBlank

/-- What follows a fixed beginning, if the text has that beginning. -/
def after? : List Char → List Char → Option (List Char)
  | [], rest => some rest
  | _ :: _, [] => none
  | e :: expected, c :: rest => if e = c then after? expected rest else none

/-- What follows a fixed beginning, if the text has that beginning. -/
def literal? (expected : String) (cs : List Char) : Option (List Char) :=
  after? expected.toList cs

/-- What follows at least one blank, if the text starts with one. -/
def blanks? (cs : List Char) : Option (List Char) :=
  match cs with
  | [] => none
  | c :: rest => if isBlank c then some (dropBlanks rest) else none

/-- The word at the start of a text and what follows it, if the text starts with one. -/
def word? (cs : List Char) : Option (List Char × List Char) :=
  match cs.takeWhile isWord with
  | [] => none
  | word => some (word, cs.dropWhile isWord)

/-- Whether one text begins with another. -/
def beginsWith (expected cs : List Char) : Bool :=
  (after? expected cs).isSome

/-- Position of the first occurrence of a text in another. -/
def indexOf? (needle : List Char) : List Char → Option Nat
  | [] => if needle.isEmpty then some 0 else none
  | c :: rest =>
    if beginsWith needle (c :: rest) then some 0 else (indexOf? needle rest).map (· + 1)

/-- Whether a text occurs in another. -/
def occursIn (needle : String) (cs : List Char) : Bool :=
  (indexOf? needle.toList cs).isSome

/-- Joins texts with a separator between each two of them. -/
def joinWith (separator : String) (parts : List String) : String :=
  String.intercalate separator parts

end BasiliskServer.Text
