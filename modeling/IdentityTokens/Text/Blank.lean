/-!
# Blank characters

The characters with the Unicode property White_Space, and the removal of them from the ends of a
text.

## Main definitions

* `isBlank c`: whether `c` has the property.
* `trimBlank s`: `s` without the blank characters at its ends.
-/

namespace IdentityTokens

/-- The scalar values with the property White_Space, as ascending inclusive ranges. -/
def blankRanges : List (Nat × Nat) :=
  [(0x09, 0x0D), (0x20, 0x20), (0x85, 0x85), (0xA0, 0xA0), (0x1680, 0x1680), (0x2000, 0x200A),
   (0x2028, 0x2029), (0x202F, 0x202F), (0x205F, 0x205F), (0x3000, 0x3000)]

/-- Whether a character has the property White_Space. -/
def isBlank (c : Char) : Bool :=
  blankRanges.any fun range => range.1 ≤ c.toNat && c.toNat ≤ range.2

/-- Characters without those at either end that satisfy `p`. -/
def trimEnds (p : Char → Bool) (cs : List Char) : List Char :=
  ((cs.dropWhile p).reverse.dropWhile p).reverse

/-- A text without the blank characters at its ends. -/
def trimBlank (s : String) : String := String.ofList (trimEnds isBlank s.toList)

end IdentityTokens
