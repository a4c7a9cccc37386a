import IdentityTokens.Number.Binary64

/-!
# Shortest decimals

The shortest decimal that reads back as a given binary64 magnitude. For each number of digits in
turn the two neighbours of the magnitude on that decimal grid are tried; the first grid with a
neighbour that rounds to the magnitude gives the digits, the nearer of two such neighbours wins.

## Main definitions

* `Decimal`: digits and the place of the point.
* `Binary64.shortest`: the shortest decimal of a magnitude above zero.
-/

namespace IdentityTokens

/-- The number `0.d₁d₂…dₙ * 10 ^ point`, with no zero at either end of the digits. -/
structure Decimal where
  digits : List Char
  point : Int
deriving DecidableEq, Repr

namespace Binary64

/-- How many zeros follow the point of a positive quotient below one. -/
def zerosAfterPoint (num den : Nat) : Nat → Nat
  | 0 => 0
  | fuel + 1 => if den ≤ num * 10 then 0 else zerosAfterPoint (num * 10) den fuel + 1

/-- The place of the decimal point relative to the first digit of a positive quotient. -/
def decimalPoint (num den : Nat) : Int :=
  if den ≤ num then (Nat.toDigits 10 (num / den)).length
  else -(zerosAfterPoint num den (den.log2 + 1) : Nat)

/-- Whether `d * 10 ^ k` rounds to the magnitude. -/
def readsAs (x : Binary64) (d : Nat) : Int → Bool
  | .ofNat k => ofRatio? (d * Nat.pow 10 k) 1 = some x
  | .negSucc k => ofRatio? d (Nat.pow 10 (k + 1)) = some x

/-- The neighbour on the grid of multiples of `10 ^ k` that reads back, the nearer of two. -/
def gridHit (x : Binary64) (k : Int) : Option Nat :=
  let (num, den) := x.ratio
  let (n, d) : Nat × Nat := match k with
    | .ofNat k => (num, den * Nat.pow 10 k)
    | .negSucc k => (num * Nat.pow 10 (k + 1), den)
  let low := n / d
  let nearer := if 2 * (n % d) > d ∨ (2 * (n % d) = d ∧ low % 2 = 1) then low + 1 else low
  let farther := if nearer = low then low + 1 else low
  if readsAs x nearer k then some nearer
  else if readsAs x farther k then some farther
  else none

/-- The first grid with a hit, from `count` digits up; seventeen digits always have one. -/
def shortestFrom (x : Binary64) (point : Int) (count : Nat) : Nat → Nat × Int
  | 0 => (0, 0)
  | fuel + 1 =>
    match gridHit x (point - count) with
    | some d => (d, point - count)
    | none => shortestFrom x point (count + 1) fuel

/-- The shortest decimal of a magnitude above zero. -/
def shortest (x : Binary64) : Decimal :=
  let (num, den) := x.ratio
  let (d, k) := shortestFrom x (decimalPoint num den) 1 17
  let all := Nat.toDigits 10 d
  let kept := (all.reverse.dropWhile (· = '0')).reverse
  ⟨kept, k + all.length⟩

end Binary64

end IdentityTokens
