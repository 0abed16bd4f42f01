/-!
Properties of characters given by ranges of code points.
-/

namespace ScopedImports

/-- A set of code points as inclusive ranges. -/
abbrev Ranges := List (Nat × Nat)

/-- The character's code point lies in one of the ranges. -/
def Ranges.has (ranges : Ranges) (c : Char) : Bool :=
  ranges.any fun range => range.1 ≤ c.toNat && c.toNat ≤ range.2

end ScopedImports
