import BasiliskServer.Text.Line

/-!
# Documentation comments

The documentation of a declaration is the comment that ends just above it, blank lines aside, if
that comment starts with a documentation mark.
-/

namespace BasiliskServer.Source

open Text (Line dropBlanks allBlank occursIn isBlank)

/-- The lines from the end of a comment up to its start, nearest first. The comment counts only if
it starts with a documentation mark. -/
def commentUpwards : List Line → Option (List Line)
  | [] => none
  | line :: above =>
    if occursIn "/**" line || occursIn "/*!" line then some [line]
    else if occursIn "/*" line then none
    else (commentUpwards above).map (line :: ·)

/-- A first line without its comment mark. -/
def dropOpening (line : Line) : Line :=
  match dropBlanks line with
  | '/' :: '*' :: rest =>
    match rest.dropWhile (· = '*') with
    | '!' :: rest => rest
    | rest => rest
  | _ => line

/-- A last line without its comment mark, if nothing follows the mark. -/
def dropClosing (line : Line) : Line :=
  match line.reverse.dropWhile isBlank with
  | '/' :: '*' :: rest => rest.reverse
  | _ => line

/-- A line without the star that leads it. -/
def dropStar (line : Line) : Line :=
  match dropBlanks line with
  | '*' :: c :: rest => if isBlank c then rest else c :: rest
  | ['*'] => []
  | _ => line

/-- The lines of a comment without its marks. -/
def cleanComment (lines : List Line) : List Line :=
  let lines := match lines with
    | first :: rest => dropOpening first :: rest
    | [] => []
  let lines := match lines.reverse with
    | last :: rest => (dropClosing last :: rest).reverse
    | [] => []
  lines.map dropStar

/-- The documentation above a line, given the lines above it, nearest first. -/
def docComment? (above : List Line) : Option String :=
  match above.dropWhile allBlank with
  | [] => none
  | last :: more =>
    if occursIn "*/" last then
      match commentUpwards (last :: more) with
      | none => none
      | some upwards =>
        let text := List.intercalate ['\n'] (cleanComment upwards.reverse)
        match Text.strip text with
        | [] => none
        | doc => some (String.ofList doc)
    else none

end BasiliskServer.Source
