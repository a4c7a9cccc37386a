/-!
# Decimal numerals

Whole numbers within bounds, written in decimal: a sign, then one or more ASCII digits. A numeral
is read from the left, and the first character that is no digit, or first digit that leads out of
the bounds, decides.

## Main definitions

* `Numeral.read low high cs`: the number that `cs` denotes, if it is between `low` and `high`.
* `Numeral.int64`, `Numeral.word32`: the two bounds in use.
* `Numeral.render n`: the numeral of a number.
-/

namespace IdentityTokens.Numeral

/-- Why a text denotes no number within the bounds. -/
inductive Error where
  | empty
  | invalidDigit
  | tooLarge
  | tooSmall
deriving DecidableEq, Repr

/-- The wording of each reason. -/
def Error.message : Error → String
  | .empty => "cannot parse integer from empty string"
  | .invalidDigit => "invalid digit found in string"
  | .tooLarge => "number too large to fit in target type"
  | .tooSmall => "number too small to fit in target type"

/-- The value of an ASCII digit. -/
def digit? (c : Char) : Option Nat :=
  if '0' ≤ c ∧ c ≤ '9' then some (c.toNat - '0'.toNat) else none

/-- Read digits after `acc`, away from zero in the direction of the sign. -/
def readDigits (low high : Int) (negative : Bool) : Int → List Char → Except Error Int
  | acc, [] => .ok acc
  | acc, c :: cs =>
    match digit? c with
    | none => .error .invalidDigit
    | some d =>
      let next := if negative then acc * 10 - d else acc * 10 + d
      if next < low then .error .tooSmall
      else if high < next then .error .tooLarge
      else readDigits low high negative next cs

/-- Read a whole text. A minus sign counts as a sign only where negative numbers are allowed. -/
def read (low high : Int) : List Char → Except Error Int
  | [] => .error .empty
  | ['+'] | ['-'] => .error .invalidDigit
  | '+' :: cs => readDigits low high false 0 cs
  | '-' :: cs =>
    if low < 0 then readDigits low high true 0 cs else .error .invalidDigit
  | cs => readDigits low high false 0 cs

/-- The bounds of signed 64-bit numbers. -/
def int64Min : Int := -9223372036854775808
def int64Max : Int := 9223372036854775807

/-- Whether a number fits in signed 64 bits. -/
def fitsInt64 (n : Int) : Bool := int64Min ≤ n && n ≤ int64Max

theorem fitsInt64_iff {n : Int} :
    fitsInt64 n = true ↔ -9223372036854775808 ≤ n ∧ n ≤ 9223372036854775807 := by
  simp only [fitsInt64, Bool.and_eq_true, decide_eq_true_eq]
  rfl

/-- A signed 64-bit number. -/
def int64 (s : String) : Except Error Int := read int64Min int64Max s.toList

/-- An unsigned 32-bit number. -/
def word32 (cs : List Char) : Except Error Int := read 0 4294967295 cs

/-- The decimal digits of a natural number. -/
def natDigits (n : Nat) : List Char := Nat.toDigits 10 n

/-- The decimal numeral of a number, with a minus sign if it is negative. -/
def digits (n : Int) : List Char :=
  match n with
  | .ofNat n => natDigits n
  | .negSucc n => '-' :: natDigits (n + 1)

/-- The decimal numeral of a number, as a text. -/
def render (n : Int) : String := String.ofList (digits n)

end IdentityTokens.Numeral
