/-!
# Digits

Numbers from their digits in a base of at most sixteen.

## Main definitions

* `Digits.hexValue?`: the value of one digit.
* `Digits.value?`: the number that digits denote.
-/

namespace IdentityTokens.Digits

/-- The value of a hexadecimal digit. -/
def hexValue? (c : Char) : Option Nat :=
  if '0' ≤ c ∧ c ≤ '9' then some (c.toNat - 48)
  else if 'a' ≤ c ∧ c ≤ 'f' then some (c.toNat - 87)
  else if 'A' ≤ c ∧ c ≤ 'F' then some (c.toNat - 55)
  else none

/-- The number that digits of a base denote, if all are digits of it. No digits denote zero. -/
def value? (base : Nat) (cs : List Char) : Option Nat :=
  cs.foldl (fun acc c => acc.bind fun n =>
    match hexValue? c with
    | some d => if d < base then some (n * base + d) else none
    | none => none) (some 0)

end IdentityTokens.Digits
