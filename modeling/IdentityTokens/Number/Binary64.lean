/-!
# Binary64 magnitudes

The non-negative finite numbers of the IEEE binary64 format, held as `mantissa * 2 ^ exponent` in
exact integers. Every result is the exact one rounded to nearest, a tie to the even mantissa; a
result beyond the largest finite number is no number.

## Main definitions

* `Binary64`: a magnitude in normal form.
* `Binary64.ofRatio? num den`: the magnitude nearest to `num / den`.
* `Binary64.mul?`, `Binary64.div?`: the rounded product and quotient.
* `Binary64.ofDecimal? significand exponent`: the magnitude for a decimal numeral.
-/

namespace IdentityTokens

/-- A magnitude `mantissa * 2 ^ exponent`. In normal form the mantissa has 53 bits, or fewer where
the exponent is the least one, -1074. -/
structure Binary64 where
  mantissa : Nat
  exponent : Int
deriving DecidableEq, Repr

namespace Binary64

/-- The least and the greatest exponent. -/
def minExponent : Int := -1074
def maxExponent : Int := 971

def zero : Binary64 := ⟨0, minExponent⟩

/-- The value as a quotient of natural numbers. -/
def ratio (x : Binary64) : Nat × Nat :=
  match x.exponent with
  | .ofNat e => (x.mantissa * Nat.pow 2 e, 1)
  | .negSucc e => (x.mantissa, Nat.pow 2 (e + 1))

/-- Numerator and denominator of `num / den / 2 ^ e`. -/
def scaled (num den : Nat) : Int → Nat × Nat
  | .ofNat e => (num, den * Nat.pow 2 e)
  | .negSucc e => (num * Nat.pow 2 (e + 1), den)

/-- A quotient rounded to the nearest natural number, a tie to the even one. -/
def roundHalfEven (num den : Nat) : Nat :=
  let q := num / den
  let r := num % den
  if 2 * r > den ∨ (2 * r = den ∧ q % 2 = 1) then q + 1 else q

/-- The exponent at which a positive quotient has a mantissa of 53 bits, but at least the least
one. -/
def exponentFor (num den : Nat) : Int :=
  let guess : Int := (num.log2 : Int) - den.log2 - 52
  let (n, d) := scaled num den guess
  max minExponent (if n < d * Nat.pow 2 52 then guess - 1 else guess)

/-- The magnitude nearest to `num / den`, for a positive `den`. -/
def ofRatio? (num den : Nat) : Option Binary64 :=
  if num = 0 then some zero
  else
    let e := exponentFor num den
    let (n, d) := scaled num den e
    let m := roundHalfEven n d
    let result : Binary64 := if m = Nat.pow 2 53 then ⟨Nat.pow 2 52, e + 1⟩ else ⟨m, e⟩
    if maxExponent < result.exponent then none else some result

/-- The magnitude nearest to a natural number. -/
def ofNat? (n : Nat) : Option Binary64 := ofRatio? n 1

/-- The rounded product. -/
def mul? (x y : Binary64) : Option Binary64 :=
  ofRatio? (x.ratio.1 * y.ratio.1) (x.ratio.2 * y.ratio.2)

/-- The rounded quotient, for a divisor above zero. -/
def div? (x y : Binary64) : Option Binary64 :=
  ofRatio? (x.ratio.1 * y.ratio.2) (x.ratio.2 * y.ratio.1)

/-- The magnitude nearest to a power of ten; there is one up to `10 ^ 308`. -/
def powerOfTen? (k : Nat) : Option Binary64 := ofNat? (Nat.pow 10 k)

/-- Divide by `10 ^ 308` a number of times, stopping early once nothing is left. -/
def shrink? (x : Binary64) : Nat → Option Binary64
  | 0 => some x
  | times + 1 =>
    if x.mantissa = 0 then some x
    else ((powerOfTen? 308).bind x.div?).bind (shrink? · times)

/-- Scale by a power of ten. Powers up to `10 ^ 308` take one rounded step; below `10 ^ -308` as
many whole steps are taken first as leave such a power. -/
def scaleByTen? (x : Binary64) : Int → Option Binary64
  | .ofNat k =>
    if x.mantissa = 0 then some x
    else if k ≤ 308 then (powerOfTen? k).bind x.mul? else none
  | .negSucc k =>
    (x.shrink? (k / 308)).bind fun y => (powerOfTen? (k % 308 + 1)).bind y.div?

/-- The magnitude of `significand * 10 ^ exponent`: the significand is rounded first and scaled
after, so the result can differ from the nearest magnitude in its last place. -/
def ofDecimal? (significand : Nat) (exponent : Int) : Option Binary64 :=
  (ofNat? significand).bind (scaleByTen? · exponent)

end Binary64

end IdentityTokens
