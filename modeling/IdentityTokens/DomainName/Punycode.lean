/-!
# Names in letters and digits

A text in any characters, written with letters, digits and hyphens. The characters of ASCII come
first, a hyphen follows them, and then numbers say where the other characters go, in ascending order
of the characters. A number is written with the digits `a` to `z` and `0` to `9`, the least first;
the digit that ends it is below a threshold, which follows the size of the numbers before it.

## Main definitions

* `Punycode.encode`: the written form of a text.
* `Punycode.decode?`: the text of a written form.
-/

namespace IdentityTokens.Punycode

/-! ## Digits -/

/-- The number of digits. -/
def base : Nat := 36

/-- The digit of a value below the base. -/
def digit (d : Nat) : Char := if d < 26 then Char.ofNat (97 + d) else Char.ofNat (22 + d)

/-- The value of a digit. -/
def digitValue? (c : Char) : Option Nat :=
  if 'a' ≤ c ∧ c ≤ 'z' then some (c.toNat - 97)
  else if '0' ≤ c ∧ c ≤ '9' then some (c.toNat - 22)
  else none

/-! ## Thresholds -/

/-- The value below which a digit ends its number. `k` is the place of the digit, in steps of the
base. -/
def threshold (k bias : Nat) : Nat := if k ≤ bias then 1 else min 26 (k - bias)

theorem one_le_threshold (k bias : Nat) : 1 ≤ threshold k bias := by
  unfold threshold
  split <;> omega

theorem threshold_le (k bias : Nat) : threshold k bias ≤ 26 := by
  unfold threshold
  split <;> omega

/-- The bias for numbers as large as one that is divided down. -/
def biasOf (delta k : Nat) : Nat :=
  if 455 < delta then biasOf (delta / 35) (k + base) else k + 36 * delta / (delta + 38)
termination_by delta

/-- The bias after a number, with the count of characters so far. -/
def adapt (delta count : Nat) (first : Bool) : Nat :=
  let delta := if first then delta / 700 else delta / 2
  biasOf (delta + delta / count) 0

/-- The first bias. -/
def firstBias : Nat := 72
/-- The first character that is not ASCII. -/
def firstOther : Nat := 128

/-! ## Writing -/

/-- A number in digits. -/
def encodeNumber (bias k n : Nat) : List Char :=
  let t := threshold k bias
  if n < t then [digit n]
  else digit (t + (n - t) % (base - t)) :: encodeNumber bias (k + base) ((n - t) / (base - t))
termination_by n
decreasing_by
  have h := one_le_threshold k bias
  have h' := threshold_le k bias
  calc (n - threshold k bias) / (base - threshold k bias)
      ≤ n - threshold k bias := Nat.div_le_self _ _
    _ < n := by omega

/-- How far writing has come: the digits so far, the number to write next, the bias, and the count
of characters written. -/
structure Progress where
  digits : List Char
  delta : Nat
  bias : Nat
  count : Nat

/-- One character of the text, where those below `n` are written and `n` is being written. -/
def writeChar (basic n : Nat) (p : Progress) (c : Char) : Progress :=
  if c.toNat < n then { p with delta := p.delta + 1 }
  else if c.toNat = n then
    ⟨p.digits ++ encodeNumber p.bias base p.delta, 0,
      adapt p.delta (p.count + 1) (p.count = basic), p.count + 1⟩
  else p

/-- The characters of the text that are left to write, in ascending order, each once. `n` follows
the last one written. -/
def writeOthers (text : List Char) (basic : Nat) : List Nat → Nat → Progress → Progress
  | [], _, p => p
  | m :: rest, n, p =>
    let p := text.foldl (writeChar basic m) { p with delta := p.delta + (m - n) * (p.count + 1) }
    writeOthers text basic rest (m + 1) { p with delta := p.delta + 1 }

/-- A number put into an ascending list without repetition. -/
def insertNew (n : Nat) : List Nat → List Nat
  | [] => [n]
  | m :: rest =>
    if n < m then n :: m :: rest else if n = m then m :: rest else m :: insertNew n rest

/-- The written form of a text. -/
def encode (text : List Char) : List Char :=
  let basic := text.filter (·.toNat < firstOther)
  let others := ((text.filter (firstOther ≤ ·.toNat)).map Char.toNat).foldr insertNew []
  let written := writeOthers text basic.length others firstOther ⟨[], 0, firstBias, basic.length⟩
  basic ++ (if basic = [] then [] else ['-']) ++ written.digits

/-! ## Reading -/

/-- The numbers that can be held on the way. -/
def limit : Nat := Nat.pow 2 32

/-- A number from its digits, of which the first has weight `w` at place `k`. `n` is the number so
far. -/
def decodeNumber? (bias : Nat) : List Char → Nat → Nat → Nat → Option (Nat × List Char)
  | [], _, _, _ => none
  | c :: rest, k, w, n =>
    match digitValue? c with
    | none => none
    | some d =>
      let t := threshold k bias
      if limit ≤ n + d * w then none
      else if d < t then some (n + d * w, rest)
      else if limit ≤ w * (base - t) then none
      else decodeNumber? bias rest (k + base) (w * (base - t)) (n + d * w)

/-- The text that numbers make of one. `n` is the last character put in, and `start` the place after
it. The first number bounds the work. -/
def insertOthers? : Nat → Nat → Nat → Nat → List Char → List Char → Option (List Char)
  | _, _, _, _, text, [] => some text
  | 0, _, _, _, _, _ :: _ => none
  | fuel + 1, bias, n, start, text, c :: rest =>
    match decodeNumber? bias (c :: rest) base 1 start with
    | none => none
    | some (place, rest) =>
      let count := text.length + 1
      let n := n + place / count
      let i := place % count
      if n.isValidChar then
        insertOthers? fuel (adapt (place - start) count (start = 0)) n (i + 1)
          (text.take i ++ Char.ofNat n :: text.drop i) rest
      else none

/-- The text of a written form. A hyphen that stands first is no digit. -/
def decode? (cs : List Char) : Option (List Char) :=
  let others := (cs.reverse.takeWhile (· ≠ '-')).reverse
  let basic := (cs.take (cs.length - others.length)).dropLast
  if basic = [] ∧ others.length < cs.length then none
  else insertOthers? cs.length firstBias firstOther 0 basic others

end IdentityTokens.Punycode
