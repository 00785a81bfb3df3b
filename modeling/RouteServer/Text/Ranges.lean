/-
  **Ranges of code points** — how the tables of character properties are written down.
-/

namespace RouteServer.Text

/-- Whether a number is in one of some ranges, ends included. -/
def inRanges (ranges : List (Nat × Nat)) (n : Nat) : Bool :=
  ranges.any fun r => r.1 ≤ n && n ≤ r.2

end RouteServer.Text
