import BasiliskServer.Text.Line

/-!
# Declarations on a line

Which declarations a line of Basilisk C can start, and the parts of each: events, functions,
fields, global variables, structures, macros and enumerations. A declaration is recognised from
its line alone.
-/

namespace BasiliskServer.Source

open Text (Line literal? blanks? word? dropBlanks isWord isBlank)

/-- The text up to a closing parenthesis, and what follows the parenthesis. -/
def upToClosing? (cs : List Char) : Option (List Char × List Char) :=
  match cs.dropWhile (· ≠ ')') with
  | _ :: rest => some (cs.takeWhile (· ≠ ')'), rest)
  | [] => none

/-- The text between parentheses at the start of a text, and what follows it. -/
def parenthesized? : List Char → Option (List Char × List Char)
  | '(' :: rest => upToClosing? rest
  | _ => none

/-- A word followed by blanks, left out where it stands. -/
def skipWord (word : String) (cs : List Char) : List Char :=
  ((literal? word cs).bind blanks?).getD cs

/-- The head of an event: its name and its timing. -/
def eventHead? (line : Line) : Option (List Char × List Char) := do
  let rest ← blanks? (← literal? "event" (dropBlanks line))
  let (name, rest) ← word? rest
  let (timing, _) ← parenthesized? (dropBlanks rest)
  return (name, timing)

/-- A function head: result type, name and parameters. -/
structure FunctionHead where
  /-- The result type, with a star for a pointer. -/
  type : List Char
  /-- The name. -/
  name : List Char
  /-- The parameters. -/
  parameters : List Char

/-- The head of a function without its qualifiers. The line may only go on with an opening
brace. -/
def plainFunctionHead? (cs : List Char) : Option FunctionHead := do
  let (word, rest) ← word? cs
  let gap := rest.takeWhile isBlank
  let (type, rest) :=
    match dropBlanks rest with
    | '*' :: after => (word ++ gap ++ ['*'], after)
    | _ => (word, rest)
  let (name, rest) ← word? (← blanks? rest)
  let (parameters, rest) ← parenthesized? (dropBlanks rest)
  match dropBlanks rest with
  | [] => some ⟨type, name, parameters⟩
  | ['{'] => some ⟨type, name, parameters⟩
  | _ => none

/-- The head of a function. Qualifiers are left out where the rest still is a function head. -/
def functionHead? (line : Line) : Option FunctionHead :=
  let withoutStatic := (literal? "static" line).bind blanks?
  let starts := (withoutStatic.toList ++ [line]).flatMap fun start =>
    ((literal? "inline" start).bind blanks?).toList ++ [start]
  starts.findSome? plainFunctionHead?

/-- The types that declare fields; those of two words have any blanks between them. -/
def fieldTypeWords : List (List String) :=
  [["face", "vector"], ["vertex", "scalar"], ["vertex", "vector"], ["scalar"], ["vector"],
   ["tensor"], ["symmetric", "tensor"]]

/-- What follows the words of a type with blanks between them. -/
def afterWords? : List String → List Char → Option (List Char)
  | [], cs => some cs
  | [word], cs => literal? word cs
  | word :: rest, cs => do afterWords? rest (← blanks? (← literal? word cs))

/-- What follows the type of a field declaration: everything up to the semicolon. It is not empty;
blanks alone will do if there are two of them. -/
def fieldBody? (cs : List Char) : Option (List Char) := do
  let rest ← blanks? cs
  let body := rest.takeWhile (· ≠ ';')
  match body, rest.dropWhile (· ≠ ';') with
  | _, [] => none
  | [], _ =>
    match cs.takeWhile isBlank with
    | _ :: second :: more => ((second :: more).getLast?).map fun last => [last]
    | _ => none
  | body, _ => some body

/-- A field declaration: its type as written and its declarators. -/
def fieldList? (line : Line) : Option (List Char × List Char) :=
  let cs := dropBlanks line
  fieldTypeWords.findSome? fun words => do
    let rest ← afterWords? words cs
    let body ← fieldBody? rest
    return (cs.take (cs.length - rest.length), body)

/-- The first word of a text that a bracket follows, blanks aside. -/
def bracketedName? (cs : List Char) : Option (List Char) :=
  match cs with
  | [] => none
  | c :: rest =>
    if isWord c then
      match dropBlanks (rest.dropWhile isWord) with
      | '[' :: _ => some (c :: rest.takeWhile isWord)
      | _ => bracketedName? (rest.dropWhile isWord)
    else bracketedName? rest
termination_by cs.length
decreasing_by
  · exact Nat.lt_succ_of_le (List.dropWhile_sublist isWord).length_le
  · exact Nat.lt_succ_self _

/-- The names that a field declaration declares. -/
def fieldNames (body : List Char) : List (List Char) :=
  (Text.splitBy (· = ',') body).filterMap fun declarator => bracketedName? (Text.strip declarator)

/-- The types of global variables. -/
def globalTypes : List String :=
  ["double", "int", "float", "char", "long", "short", "unsigned", "size_t"]

/-- A global variable: its type and its name. -/
def globalHead? (line : Line) : Option (String × List Char) :=
  let cs := skipWord "const" (skipWord "static" line)
  globalTypes.findSome? fun type => do
    let rest ← blanks? (← literal? type cs)
    let (name, rest) ← word? rest
    match dropBlanks rest with
    | c :: _ => if c = '=' || c = ';' then some (type, name) else none
    | [] => none

/-- Whether a line starts the definition of a named structure type. -/
def startsStruct (line : Line) : Bool :=
  let rest : Option (List Char) := do
    let rest ← blanks? (← literal? "typedef" (dropBlanks line))
    let rest ← literal? "struct" rest
    return dropBlanks ((dropBlanks rest).dropWhile isWord)
  match rest with
  | some ('{' :: _) => true
  | _ => false

/-- The name after the first closing brace that a name and a semicolon follow. -/
def closingName? : Line → Option (List Char)
  | [] => none
  | c :: rest =>
    let here : Option (List Char) :=
      if c = '}' then do
        let (name, after) ← word? (dropBlanks rest)
        match dropBlanks after with
        | ';' :: _ => some name
        | _ => none
      else none
    match here with
    | some name => some name
    | none => closingName? rest

/-- A macro: its name and its parameters, if it has any. A blank has to follow. -/
def defineHead? (line : Line) : Option (List Char × Option (List Char)) := do
  let rest ← blanks? (← literal? "#define" (dropBlanks line))
  let (name, rest) ← word? rest
  match parenthesized? rest with
  | some (parameters, rest) =>
    let _ ← blanks? rest
    return (name, some parameters)
  | none =>
    let _ ← blanks? rest
    return (name, none)

/-- An enumeration: its name, which may be empty. -/
def enumHead? (line : Line) : Option (List Char) := do
  let rest ← literal? "enum" (skipWord "typedef" (dropBlanks line))
  let rest := dropBlanks rest
  match dropBlanks (rest.dropWhile isWord) with
  | '{' :: _ => some (rest.takeWhile isWord)
  | _ => none

end BasiliskServer.Source
