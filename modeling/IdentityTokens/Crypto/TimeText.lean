/-!
# Points of time as text

A point of time in a certificate is a text: two digits for each part, most significant first, and
a mark for the time zone. There are two forms. The older one has two digits for the year, the other
one four and perhaps a fraction of the second. Both are read in two ways, one after the rules for
certificates and one for time anywhere else.

## Main definitions

* `TimeText.Parts`, `TimeText.Parts.isReal`: a calendar date with a time of day.
* `TimeText.isUtcTime`, `TimeText.isGeneralizedTime`: times in certificates.
* `TimeText.isPlainUtcTime`, `TimeText.isPlainGeneralizedTime`: times elsewhere.
-/

namespace IdentityTokens.TimeText

/-! ## Dates -/

/-- A calendar date with a time of day. -/
structure Parts where
  year : Int
  month : Nat
  day : Nat
  hour : Nat
  minute : Nat
  second : Nat
deriving DecidableEq, Repr

/-- Whether a year has a leap day. -/
def isLeap (year : Int) : Bool := year % 4 = 0 && (year % 100 ≠ 0 || year % 400 = 0)

/-- The number of days in a month. -/
def daysIn (year : Int) (month : Nat) : Nat :=
  if month = 2 then if isLeap year then 29 else 28
  else if month ∈ [4, 6, 9, 11] then 30
  else 31

/-- Whether there is such a day, with such a time. -/
def Parts.isReal (p : Parts) : Bool :=
  1 ≤ p.month && p.month ≤ 12 && 1 ≤ p.day && p.day ≤ daysIn p.year p.month &&
    p.hour < 24 && p.minute < 60 && p.second < 60

/-! ## Digits -/

/-- Whether an octet is a decimal digit. -/
def isDigit (b : UInt8) : Bool := 0x30 ≤ b && b ≤ 0x39

/-- Numbers of two digits each. -/
def pairs? : Nat → List UInt8 → Option (List Nat × List UInt8)
  | 0, s => some ([], s)
  | count + 1, a :: b :: rest =>
    if isDigit a && isDigit b then
      (pairs? count rest).map fun (ns, rest) =>
        (((a.toNat - 0x30) * 10 + (b.toNat - 0x30)) :: ns, rest)
    else none
  | _ + 1, _ => none

/-- Two digits, or zero where less than two octets are left. -/
def pairOrZero? : List UInt8 → Option (Nat × List UInt8)
  | a :: b :: rest =>
    match pairs? 1 (a :: b :: rest) with
    | some ([n], rest) => some (n, rest)
    | _ => none
  | s => some (0, s)

/-- The mark of the zero time zone, `Z`. -/
def zuluOctet : UInt8 := 0x5A
/-- The point before a fraction. -/
def pointOctet : UInt8 := 0x2E
/-- The plus sign. -/
def plusOctet : UInt8 := 0x2B
/-- The minus sign. -/
def minusOctet : UInt8 := 0x2D

/-- Whether octets are a time zone: `Z`, or an offset of less than 26 hours. -/
def isZone (s : List UInt8) : Bool :=
  match s with
  | [] => false
  | sign :: rest =>
    if sign = plusOctet ∨ sign = minusOctet then
      match pairs? 2 rest with
      | some ([hours, minutes], []) => hours < 26 && minutes < 60
      | _ => false
    else sign = zuluOctet && rest.isEmpty

/-! ## Times in certificates -/

/-- The older form. The seconds may be missing. The last two digits of a year tell whether it has a
leap day: years run from 1950 to 2049. -/
def isUtcTime (s : List UInt8) : Bool :=
  match pairs? 5 s with
  | some ([year, month, day, hour, minute], rest) =>
    match pairOrZero? rest with
    | none => false
    | some (second, rest) => isZone rest && Parts.isReal ⟨year, month, day, hour, minute, second⟩
  | _ => false

/-- Whether octets are a fraction of at most three digits, or none, and `Z`. -/
def isFractionZulu (s : List UInt8) : Bool :=
  match s with
  | [] => false
  | b :: rest =>
    if b = pointOctet then
      let digits := rest.takeWhile isDigit
      digits.length ≤ 3 && rest.drop digits.length = [zuluOctet]
    else b = zuluOctet && rest.isEmpty

/-- The newer form. The seconds may be missing, and a fraction may follow them. -/
def isGeneralizedTime (s : List UInt8) : Bool :=
  match pairs? 6 s with
  | some ([century, year, month, day, hour, minute], rest) =>
    match pairOrZero? rest with
    | none => false
    | some (second, rest) =>
      isFractionZulu rest &&
        Parts.isReal ⟨century * 100 + year, month, day, hour, minute, second⟩
  | _ => false

/-! ## Times elsewhere -/

/-- The older form with seconds, in the zero time zone. -/
def isPlainUtcTime (s : List UInt8) : Bool :=
  match pairs? 6 s with
  | some ([year, month, day, hour, minute, second], [b]) =>
    b = zuluOctet && Parts.isReal ⟨year, month, day, hour, minute, second⟩
  | _ => false

/-- The place at which a point is added to a text without one. -/
def pointPlace : Nat := 14

/-- The newer form with seconds, in the zero time zone, fifteen octets at least. All digits after
the seconds are a fraction, with or without a point before it. Where there is a point, a sign may
stand before the year. -/
def isPlainGeneralizedTime (s : List UInt8) : Bool :=
  if s.length ≤ pointPlace then false
  else
    let s := if s.contains pointOctet then s
      else s.take pointPlace ++ [pointOctet] ++ s.drop pointPlace
    let (negative, digits) :=
      match s with
      | [] => (false, [])
      | b :: rest => if b = plusOctet ∨ b = minusOctet then (b = minusOctet, rest) else (false, s)
    match pairs? 7 digits with
    | some ([century, year, month, day, hour, minute, second], b :: rest) =>
      let magnitude : Int := century * 100 + year
      b = pointOctet && rest.dropWhile isDigit = [zuluOctet] &&
        Parts.isReal ⟨if negative then -magnitude else magnitude, month, day, hour, minute, second⟩
    | _ => false

end IdentityTokens.TimeText
