/-!
# Vocabulary of Basilisk C

Basilisk C is C with loops over the cells of a grid, fields declared with brackets, and events that
the time loop runs. This module lists its words by what they are.
-/

namespace BasiliskServer.Source

/-- Words that steer loops and events. -/
def controlKeywords : List String :=
  ["event", "foreach", "foreach_face", "foreach_boundary", "foreach_vertex", "foreach_dimension",
   "foreach_level", "foreach_leaf", "foreach_neighbor", "foreach_cell", "foreach_child",
   "foreach_block", "foreach_blockf", "foreach_block_inner", "foreach_point", "foreach_cache",
   "foreach_cache_level", "foreach_stencil", "reduction"]

/-- Words that declare fields and coordinates. -/
def fieldTypes : List String :=
  ["scalar", "vector", "tensor", "face", "vertex", "symmetric", "coord", "point"]

/-- Types of grids and their parts. -/
def gridTypes : List String :=
  ["Grid", "Boundary", "Tree", "Quadtree", "Octree", "Point", "Cell"]

/-- Functions that the solver library provides. -/
def builtinFunctions : List String :=
  ["run", "init_grid", "free_grid", "cartesian", "quadtree", "octree", "multigrid", "new",
   "delete", "normalize", "statsf", "normf", "change", "diffusion", "poisson", "project",
   "advection", "viscosity", "mg_solve", "adapt_wavelet", "refine", "unrefine", "coarsen",
   "output_ppm", "output_gfs", "output_vtu", "output_field", "output_facets", "dump", "restore",
   "noise", "interpolate", "pid", "npe", "clamp", "fabs", "sq", "cube", "sign", "max", "min",
   "dirichlet", "neumann", "periodic", "symmetry", "fraction", "curvature", "height",
   "facet_normal", "embed_gradient", "mpi_all_reduce", "mpi_boundary_update"]

/-- Constants and global parameters. -/
def constants : List String :=
  ["PI", "M_PI", "HUGE", "nodata", "true", "false", "NULL", "BGHOSTS", "GHOSTS", "TRASH", "N",
   "L0", "X0", "Y0", "Z0", "DT", "TOLERANCE", "NITERMAX", "NITERMIN"]

/-- Variables that a loop or an event brings into scope. -/
def loopVariables : List String :=
  ["x", "y", "z", "Delta", "level", "depth", "t", "dt", "i", "point", "child", "neighbor", "left",
   "right", "top", "bottom", "front", "back", "fm", "cm", "cs"]

/-- Names of the message-passing interface. -/
def parallelNames : List String :=
  ["MPI_Allreduce", "MPI_Barrier", "MPI_Bcast", "MPI_Comm", "MPI_Comm_rank", "MPI_Comm_size",
   "MPI_Finalize", "MPI_Gather", "MPI_Init", "MPI_Recv", "MPI_Reduce", "MPI_Scatter", "MPI_Send",
   "MPI_DOUBLE", "MPI_INT", "MPI_FLOAT", "MPI_COMM_WORLD", "MPI_SUM", "MPI_MAX", "MPI_MIN"]

/-- Headers of the solver library. -/
def commonHeaders : List String :=
  ["run.h", "utils.h", "events.h", "common.h", "grid/cartesian.h", "grid/quadtree.h",
   "grid/octree.h", "grid/multigrid.h", "grid/multigrid-mpi.h", "grid/tree.h", "grid/bitree.h",
   "poisson.h", "diffusion.h", "navier-stokes/centered.h", "navier-stokes/perfs.h", "two-phase.h",
   "vof.h", "tension.h", "reduced.h", "tracer.h", "embed.h", "curvature.h", "fractions.h",
   "conservation.h", "view.h", "output.h", "draw.h"]

/-- Words of plain C that can stand where a function name could. -/
def plainKeywords : List String :=
  ["if", "else", "for", "while", "do", "switch", "case", "default", "break", "continue", "return",
   "goto", "sizeof", "typedef", "struct", "union", "enum", "static", "const", "volatile",
   "extern", "register", "auto", "inline", "restrict"]

/-- Whether a word steers control, in plain C or in Basilisk C. -/
def isKeyword (word : String) : Bool :=
  plainKeywords.contains word || controlKeywords.contains word

/-- Whether a word has a meaning of its own, so that no variable is called like it. -/
def isReserved (word : String) : Bool :=
  isKeyword word || builtinFunctions.contains word || fieldTypes.contains word

/-- The classes of words and what they are called; the first class that holds a word decides. -/
def wordClasses : List (String × List String) :=
  [("control", controlKeywords), ("type", fieldTypes), ("type", gridTypes),
   ("function", builtinFunctions), ("constant", constants), ("variable", loopVariables),
   ("mpi", parallelNames)]

/-- What a word of the language is called. -/
def wordClass? (word : String) : Option String :=
  (wordClasses.find? fun entry => entry.2.contains word).map (·.1)

end BasiliskServer.Source
