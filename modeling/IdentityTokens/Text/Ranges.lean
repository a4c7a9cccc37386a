/-!
# Ranges of characters

Classes of characters as ranges of their scalar values, both ends included.

## Main definitions

* `inRanges`: whether a character is in one of some ranges.
-/

namespace IdentityTokens

/-- Whether a character is in one of some inclusive ranges. -/
def inRanges (ranges : List (Nat × Nat)) (c : Char) : Bool :=
  ranges.any fun range => range.1 ≤ c.toNat && c.toNat ≤ range.2

end IdentityTokens
