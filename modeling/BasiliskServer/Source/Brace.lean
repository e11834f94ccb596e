import BasiliskServer.Text.Line

/-!
# Braces of a source text

Where the braces of a C source are, leaving out those in texts, characters and comments. The
scanner goes line by line and looks one character ahead; only a block comment goes on across a
line end.
-/

namespace BasiliskServer.Source

open Text (Line)

/-- A brace outside texts and comments. -/
structure Brace where
  /-- Its line. -/
  line : Nat
  /-- Its column. -/
  column : Nat
  /-- Whether it opens a block. -/
  opening : Bool
  deriving DecidableEq, Repr

/-- What the scanner is inside of. -/
inductive Within where
  /-- Code. -/
  | code
  /-- A text or a character, up to its closing quote; the flag says that the next character is
  escaped. -/
  | quoted (quote : Char) (escaped : Bool)
  /-- A block comment. -/
  | comment
  deriving DecidableEq, Repr

/-- The braces of one line from a column on, and whether a block comment is open at its end. -/
def scanBraces (line column : Nat) : Within → Line → List Brace × Bool
  | within, [] => ([], within = .comment)
  | .comment, '*' :: '/' :: rest => scanBraces line (column + 2) .code rest
  | .comment, _ :: rest => scanBraces line (column + 1) .comment rest
  | .quoted quote true, _ :: rest => scanBraces line (column + 1) (.quoted quote false) rest
  | .quoted quote false, c :: rest =>
    let next := if c = '\\' then .quoted quote true
      else if c = quote then .code
      else .quoted quote false
    scanBraces line (column + 1) next rest
  | .code, '/' :: '/' :: _ => ([], false)
  | .code, '/' :: '*' :: rest => scanBraces line (column + 2) .comment rest
  | .code, c :: rest =>
    if c = '"' || c = '\'' then scanBraces line (column + 1) (.quoted c false) rest
    else
      let (braces, inComment) := scanBraces line (column + 1) .code rest
      if c = '{' || c = '}' then (⟨line, column, c = '{'⟩ :: braces, inComment)
      else (braces, inComment)

/-- The braces of the lines from a line number on; the flag says whether a block comment is open
at their start. -/
def bracesFrom (line : Nat) (inComment : Bool) : List Line → List Brace
  | [] => []
  | first :: rest =>
    let (braces, inComment) :=
      scanBraces line 0 (if inComment then .comment else .code) first
    braces ++ bracesFrom (line + 1) inComment rest

/-- The braces of a text in the order in which they stand. -/
def braces (text : String) : List Brace :=
  bracesFrom 0 false (Text.lines text)

/-- The braces that have no partner: closing ones without an opening one, in the order in which
they stand, and opening ones that are never closed, the last first. -/
def unmatchedFrom : List Brace → List Brace → List Brace × List Brace
  | stack, [] => ([], stack)
  | stack, brace :: rest =>
    if brace.opening then unmatchedFrom (brace :: stack) rest
    else match stack with
      | _ :: stack => unmatchedFrom stack rest
      | [] =>
        let (closing, unclosed) := unmatchedFrom [] rest
        (brace :: closing, unclosed)

/-- The braces that have no partner: first the closing ones, then the opening ones. -/
def unmatched (all : List Brace) : List Brace :=
  let (closing, unclosed) := unmatchedFrom [] all
  closing ++ unclosed.reverse

end BasiliskServer.Source
