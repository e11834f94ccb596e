import BasiliskServer.Source.Guide
import BasiliskServer.Source.Vocabulary
import BasiliskServer.Wire.Completion

/-!
# Completions of the language

The completion items that the server itself offers: loops, events, fields, functions, constants,
headers and a few templates. After an include directive only headers are offered, after a member
point only the components of a vector.
-/

namespace BasiliskServer.Source

open Text (isWord isBlank dropBlanks literal?)
open Wire (CompletionItem Contents Markup)

/-- Codes of the kinds of completion items. -/
inductive ItemKind where
  /-- A function. -/
  | function
  /-- A member of a structure. -/
  | member
  /-- A variable. -/
  | loopVariable
  /-- A keyword. -/
  | keyword
  /-- A template. -/
  | snippet
  /-- A file. -/
  | file
  /-- A constant. -/
  | constant
  /-- A type. -/
  | type
  deriving DecidableEq, Repr

/-- The code of a kind. -/
def ItemKind.code : ItemKind → Nat
  | .function => 3
  | .member => 5
  | .loopVariable => 6
  | .keyword => 14
  | .snippet => 15
  | .file => 17
  | .constant => 21
  | .type => 25

/-- Code of inserted text that is taken as it is. -/
def plainFormat : Nat := 1

/-- Code of inserted text with places to fill in. -/
def templateFormat : Nat := 2

/-- A text formatted with markdown as documentation. -/
def markdown (text : String) : Contents :=
  .markup (.markdown text)

/-- An item that inserts a template. -/
def template (label : String) (kind : ItemKind) (detail insertText doc : String) :
    CompletionItem :=
  { label
    kind := .nat kind.code
    detail := some detail
    documentation := markdown doc
    insertText := some insertText
    insertTextFormat := some templateFormat }

/-- Loops: label, detail and template. -/
def loopTemplates : List (String × String × String) :=
  [("foreach", "Basilisk iteration", "foreach() \x7b\n\t$0\n\x7d"),
   ("foreach_face", "Face iteration", "foreach_face($\x7b1:x\x7d) \x7b\n\t$0\n\x7d"),
   ("foreach_vertex", "Vertex iteration", "foreach_vertex() \x7b\n\t$0\n\x7d"),
   ("foreach_boundary", "Boundary iteration",
    "foreach_boundary($\x7b1|left,right,top,bottom,front,back|\x7d) \x7b\n\t$0\n\x7d"),
   ("foreach_dimension", "Dimension loop", "foreach_dimension() \x7b\n\t$0\n\x7d"),
   ("foreach_neighbor", "Neighbor iteration", "foreach_neighbor($\x7b1:1\x7d) \x7b\n\t$0\n\x7d"),
   ("foreach_level", "Level iteration", "foreach_level($\x7b1:level\x7d) \x7b\n\t$0\n\x7d"),
   ("foreach_leaf", "Leaf iteration", "foreach_leaf() \x7b\n\t$0\n\x7d"),
   ("foreach_cell", "Cell iteration", "foreach_cell() \x7b\n\t$0\n\x7d"),
   ("foreach_child", "Child iteration", "foreach_child() \x7b\n\t$0\n\x7d")]

/-- Events: label, detail, template and description. -/
def eventTemplates : List (String × String × String × String) :=
  [("event init", "Initialization event", "event init (i = 0) \x7b\n\t$0\n\x7d",
    "Runs once at i = 0."),
   ("event logfile", "Logging event",
    "event logfile (i++) \x7b\n\tfprintf(stderr, \"i = %d, t = %g\\n\", i, t);\n\t$0\n\x7d",
    "Runs every iteration."),
   ("event adapt", "Adaptation event",
    "event adapt (i++) \x7b\n" ++
      "\tadapt_wavelet(\x7b$\x7b1:f\x7d\x7d, (double[])\x7b$\x7b2:1e-3\x7d\x7d, $\x7b3:8\x7d);\n" ++
      "\x7d",
    "Adapts the mesh every iteration."),
   ("event movies", "Output event",
    "event movies (t += $\x7b1:0.1\x7d; t <= $\x7b2:10\x7d) \x7b\n" ++
      "\toutput_ppm($\x7b3:f\x7d, fopen(\"$\x7b4:field\x7d.ppm\", \"w\"));\n\x7d",
    "Periodic image output."),
   ("event end", "End condition", "event end (t = $\x7b1:10\x7d) \x7b\n\t$0\n\x7d",
    "Stops the simulation.")]

/-- Fields: label, detail, template and the word that documents them. -/
def fieldTemplates : List (String × String × String × String) :=
  [("scalar", "Scalar field", "scalar $\x7b1:f\x7d[];", "scalar"),
   ("vector", "Vector field", "vector $\x7b1:u\x7d[];", "vector"),
   ("tensor", "Tensor field", "tensor $\x7b1:T\x7d[];", "tensor"),
   ("face vector", "Face-centered vector", "face vector $\x7b1:uf\x7d[];", "face"),
   ("vertex scalar", "Vertex-centered scalar", "vertex scalar $\x7b1:psi\x7d[];", "vertex"),
   ("coord", "Coordinate struct",
    "coord $\x7b1:p\x7d = \x7b$\x7b2:0\x7d, $\x7b3:0\x7d, $\x7b4:0\x7d\x7d;", "coord")]

/-- Other templates: label, detail, template and description. -/
def otherTemplates : List (String × String × String × String) :=
  [("main", "Main function template",
    "int main() \x7b\n\tinit_grid($\x7b1:64\x7d);\n\trun();\n\x7d", "Minimal Basilisk main."),
   ("main_mpi", "MPI main function",
    "int main(int argc, char *argv[]) \x7b\n\tMPI_Init(&argc, &argv);\n" ++
      "\tinit_grid($\x7b1:64\x7d);\n\trun();\n\tMPI_Finalize();\n\treturn 0;\n\x7d",
    "Main with MPI setup and teardown."),
   ("boundary_dirichlet", "Dirichlet BC",
    "$\x7b1:f\x7d[$\x7b2|left,right,top,bottom,front,back|\x7d] = dirichlet($\x7b3:0\x7d);",
    "Fixed-value boundary condition."),
   ("boundary_neumann", "Neumann BC",
    "$\x7b1:f\x7d[$\x7b2|left,right,top,bottom,front,back|\x7d] = neumann($\x7b3:0\x7d);",
    "Fixed-gradient boundary condition.")]

/-- The item of a documented name. -/
def namedItem (kind : ItemKind) (detail name : String) (doc : Option String) : CompletionItem :=
  { label := name
    kind := .nat kind.code
    detail := some detail
    documentation := match doc with
      | some text => markdown text
      | none => .plain .null }

/-- The item of a header. -/
def headerItem (header : String) : CompletionItem :=
  { label := header
    kind := .nat ItemKind.file.code
    detail := some "Basilisk header"
    insertText := some ("#include \"" ++ header ++ "\"")
    insertTextFormat := some plainFormat }

/-- All items of the language. -/
def allCompletions : List CompletionItem :=
  loopTemplates.map (fun (label, detail, insert) =>
    template label .keyword detail insert (describe label detail)) ++
  [template "event" .keyword "Event handler"
    "event $\x7b1:name\x7d ($\x7b2|i = 0,t = 0,i++,t++,t += 0.1|\x7d) \x7b\n\t$0\n\x7d"
    (describe "event" "Define an event handler")] ++
  eventTemplates.map (fun (label, detail, insert, doc) =>
    template label .snippet detail insert doc) ++
  fieldTemplates.map (fun (label, detail, insert, word) =>
    template label .type detail insert (describe word detail)) ++
  builtinFunctions.map (fun name =>
    namedItem .function "Basilisk function" name (hoverText? name)) ++
  constants.map (fun name =>
    namedItem .constant "Basilisk constant" name ((guide? name).map (·.description))) ++
  loopVariables.map (fun name =>
    namedItem .loopVariable "Loop variable" name ((guide? name).map (·.description))) ++
  commonHeaders.map headerItem ++
  otherTemplates.map (fun (label, detail, insert, doc) =>
    template label .snippet detail insert doc) ++
  [template "reduction" .keyword "Parallel reduction"
    "reduction($\x7b1|+,*,min,max|\x7d:$\x7b2:var\x7d)"
    (describe "reduction" "Parallel reduction operator")]

/-- The components of a vector. -/
def componentCompletions : List CompletionItem :=
  [namedItem .member "X component" "x" none, namedItem .member "Y component" "y" none,
   namedItem .member "Z component (3D)" "z" none]

/-- Whether an include directive and the start of a header name stand in a text. -/
def hasIncludeStart : List Char → Bool
  | [] => false
  | c :: rest =>
    (match (literal? "#include" (c :: rest)).map dropBlanks with
      | some (mark :: _) => mark = '"' || mark = '<'
      | _ => false) || hasIncludeStart rest

/-- Whether a text ends with a word and a member point, a line end at the very end aside. -/
def endsWithMember (cs : List Char) : Bool :=
  let ending : List Char → Bool
    | '.' :: c :: _ => isWord c
    | _ => false
  match cs.reverse with
  | '\n' :: rest => ending rest
  | rest => ending rest

/-- Whether an item names a header. -/
def isHeaderItem (item : CompletionItem) : Bool :=
  item.label.endsWith ".h" || item.label.contains '/'

/-- The items for the text left of the cursor. -/
def completionsFor (before : String) : List CompletionItem :=
  if hasIncludeStart before.toList then allCompletions.filter isHeaderItem
  else if endsWithMember before.toList then componentCompletions
  else allCompletions

end BasiliskServer.Source
