import BasiliskServer.Text.Line

/-!
# Documentation of words

What the editor shows for the words of the language: how a word is used, what it does, an example
and related words.
-/

namespace BasiliskServer.Source

/-- The documentation of a word. -/
structure WordGuide where
  /-- How it is used. -/
  usage : String
  /-- What it does. -/
  description : String
  /-- An example, if there is one. -/
  sample : String := ""
  /-- Related words. -/
  related : List String := []

/-- The documented words. -/
def wordGuides : List (String × WordGuide) := [
  ("foreach", {
     usage := "foreach() \x7b ... \x7d"
     description :=
       "Loops over every cell of the grid. The main way to read and write " ++
       "field values."
     sample := "foreach()\n  f[] = x*x + y*y;"
     related := ["foreach_face", "foreach_vertex", "foreach_boundary"] }),
  ("foreach_face", {
     usage := "foreach_face([x|y|z]) \x7b ... \x7d"
     description := "Loops over cell faces, optionally restricted to one direction."
     sample := "face vector uf[];\nforeach_face(x)\n  uf.x[] = 1.;"
     related := ["foreach", "face"] }),
  ("foreach_vertex", {
     usage := "foreach_vertex() \x7b ... \x7d"
     description := "Loops over grid vertices (cell corners)."
     related := ["foreach", "vertex"] }),
  ("foreach_boundary", {
     usage := "foreach_boundary(direction) \x7b ... \x7d"
     description := "Loops over the boundary cells on one side of the domain."
     related := ["foreach"] }),
  ("foreach_dimension", {
     usage := "foreach_dimension() \x7b ... \x7d"
     description := "Repeats the block once per spatial dimension, permuting x, y and z." }),
  ("foreach_neighbor", {
     usage := "foreach_neighbor([size]) \x7b ... \x7d"
     description := "Loops over the stencil around the current cell. Only valid inside foreach." }),
  ("foreach_level", {
     usage := "foreach_level(level) \x7b ... \x7d"
     description := "Loops over the cells of one refinement level of a tree grid." }),
  ("foreach_leaf", {
     usage := "foreach_leaf() \x7b ... \x7d"
     description := "Loops over the leaf cells of a tree grid." }),
  ("foreach_cell", {
     usage := "foreach_cell() \x7b ... \x7d"
     description := "Depth-first traversal of a tree grid, including parent cells." }),
  ("foreach_child", {
     usage := "foreach_child() \x7b ... \x7d"
     description := "Loops over the children of the current cell inside foreach_cell." }),
  ("event", {
     usage := "event name (condition) \x7b ... \x7d"
     description :=
       "Declares a block that run() executes whenever its condition holds, " ++
       "such as i++, t += 0.1 or t = end."
     sample := "event logfile (i++)\n  fprintf (stderr, \"%d %g\\n\", i, t);"
     related := ["run"] }),
  ("reduction", {
     usage := "reduction(op:var)"
     description := "Combines a variable across a parallel foreach with +, *, min or max."
     sample := "double total = 0.;\nforeach(reduction(+:total))\n  total += f[]*dv();" }),
  ("scalar", {
     usage := "scalar name[];"
     description := "Declares a cell-centered scalar field, indexed with []."
     sample := "scalar f[];\nforeach()\n  f[] = 0.;"
     related := ["vector", "tensor"] }),
  ("vector", {
     usage := "vector name[];"
     description := "Declares a cell-centered vector field with components name.x, name.y, name.z."
     sample := "vector u[];\nforeach()\n  u.x[] = 1.;"
     related := ["scalar", "face"] }),
  ("tensor", {
     usage := "tensor name[];"
     description := "Declares a tensor field with components such as name.x.y." }),
  ("face", {
     usage := "face vector name[];"
     description := "Qualifies a vector field as stored on cell faces."
     related := ["foreach_face"] }),
  ("vertex", {
     usage := "vertex scalar name[];"
     description := "Qualifies a scalar field as stored on cell corners."
     related := ["foreach_vertex"] }),
  ("coord", {
     usage := "coord name;"
     description := "Plain struct with x, y and z members; not a field." }),
  ("run", {
     usage := "run()"
     description := "Runs the time loop, executing events until none remain."
     related := ["event"] }),
  ("init_grid", {
     usage := "init_grid(int n)"
     description := "Allocates the grid with n cells per direction." }),
  ("adapt_wavelet", {
     usage := "adapt_wavelet(\x7bfields\x7d, (double[])\x7btolerances\x7d, maxlevel[, minlevel])"
     description :=
       "Refines and coarsens a tree grid from wavelet error estimates of the " ++
       "given fields."
     sample := "adapt_wavelet (\x7bf, u\x7d, (double[])\x7b1e-3, 1e-2, 1e-2\x7d, 8);" }),
  ("diffusion", {
     usage := "diffusion(scalar f, double dt, face vector D)"
     description := "Advances df/dt = div(D grad f) by one implicit time step." }),
  ("poisson", {
     usage := "poisson(scalar a, scalar b, face vector alpha, scalar lambda)"
     description := "Solves div(alpha grad a) + lambda a = b with the multigrid solver." }),
  ("output_ppm", {
     usage := "output_ppm(scalar f, FILE *fp[, options])"
     description := "Writes a scalar field as a PPM image." }),
  ("dump", {
     usage := "dump([file = \"dump\"])"
     description := "Writes a full snapshot of the simulation for restarts."
     related := ["restore"] }),
  ("restore", {
     usage := "restore([file = \"dump\"])"
     description := "Reloads a snapshot written by dump()."
     related := ["dump"] }),
  ("dirichlet", {
     usage := "f[side] = dirichlet(value)"
     description := "Fixed-value boundary condition." }),
  ("neumann", {
     usage := "f[side] = neumann(value)"
     description := "Fixed-gradient boundary condition." }),
  ("fraction", {
     usage := "fraction(scalar c, expression)"
     description := "Initializes volume fractions from an implicit surface." }),
  ("interpolate", {
     usage := "interpolate(scalar f, double x, double y[, double z])"
     description := "Interpolates field f at an arbitrary point." }),
  ("statsf", {
     usage := "statsf(scalar f)"
     description := "Returns min, max, sum and volume of a field." }),
  ("normf", {
     usage := "normf(scalar f)"
     description := "Returns the average, rms and max norms of a field." }),
  ("Delta", {
     usage := "Delta"
     description := "Size of the current cell." }),
  ("level", {
     usage := "level"
     description := "Refinement level of the current cell." }),
  ("t", {
     usage := "t"
     description := "Current simulation time." }),
  ("dt", {
     usage := "dt"
     description := "Current time step." }),
  ("i", {
     usage := "i"
     description := "Current iteration number." }),
  ("N", {
     usage := "N"
     description := "Initial number of cells per direction." }),
  ("L0", {
     usage := "L0"
     description := "Domain length; the box spans X0 to X0 + L0." }),
  ("pid", {
     usage := "pid()"
     description := "MPI rank of this process, 0 without MPI." }),
  ("npe", {
     usage := "npe()"
     description := "Number of MPI processes, 1 without MPI." })]

/-- The documentation of a word. -/
def guide? (word : String) : Option WordGuide :=
  wordGuides.lookup word

/-- The documentation of a word as formatted text. -/
def WordGuide.render (guide : WordGuide) : String :=
  let sample :=
    if guide.sample.isEmpty then "" else "\n\n**Example:**\n```c\n" ++ guide.sample ++ "\n```"
  let related :=
    if guide.related.isEmpty then ""
    else "\n\n**See also:** " ++ Text.joinWith ", " guide.related
  "**" ++ guide.usage ++ "**\n\n" ++ guide.description ++ sample ++ related

/-- The documentation of a word as formatted text, if it has one. -/
def hoverText? (word : String) : Option String :=
  (guide? word).map WordGuide.render

/-- What a word does, or a text to use instead. -/
def describe (word fallback : String) : String :=
  ((guide? word).map (·.description)).getD fallback

end BasiliskServer.Source
