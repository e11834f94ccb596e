/-!
# Ranges of code points

Character classes beyond ASCII are given as tables of closed ranges. A class asks only whether
some range of its table holds the character, so the order of a table does not matter.
-/

namespace BasiliskServer.Text

/-- A closed range of code points, first and last. -/
abbrev CodeRange := Nat × Nat

/-- Whether the character lies in one of the ranges. -/
def inRanges (ranges : List CodeRange) (c : Char) : Bool :=
  ranges.any fun range => range.1 ≤ c.toNat && c.toNat ≤ range.2

end BasiliskServer.Text
