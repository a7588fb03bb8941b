/-!
This module contains sets of characters given by ranges of code points.
-/

namespace Aggregation.Text

/--
Ranges of code points, both ends included.
-/
abbrev CodePoints := List (Nat × Nat)

def CodePoints.contains (rs : CodePoints) (c : Char) : Bool :=
  rs.any fun (lo, hi) => lo ≤ c.toNat && c.toNat ≤ hi

end Aggregation.Text
