/-! # Sets of code points

A property of characters is given by the ranges of code points that have it. -/

namespace RecordFilters.Text

/-- Closed ranges of code points, in order. -/
abbrev Ranges := List (Nat × Nat)

/-- Whether a character lies in one of the ranges. -/
def Ranges.has (ranges : Ranges) (c : Char) : Bool :=
  ranges.any fun r => r.1 ≤ c.toNat && c.toNat ≤ r.2

end RecordFilters.Text
