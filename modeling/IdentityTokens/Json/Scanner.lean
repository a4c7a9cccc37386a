import IdentityTokens.Json.Basic
import IdentityTokens.Text.Utf8

/-!
# Scanning JSON

The smallest parts of a JSON document: blank octets, the words `null`, `true` and `false`, texts
and numerals. A document is read octet by octet from the left and the first problem decides its
fault. Each part is read in one of two ways: kept, with full checks, or passed over, where a text
need not be well-formed UTF-8 or have paired surrogates and a numeral may denote any number.

## Main definitions

* `Json.Fault`: the kinds of problem.
* `Json.Reader`: a function that takes a value from the front of octets.
* `Json.readText`, `Json.skipText`: a text after its opening quote.
* `Json.readNumber`, `Json.skipNumeral`: a numeral.
-/

namespace IdentityTokens.Json

/-- What is wrong with a document: it ends too early, it is no JSON, or it is JSON of another
shape than the one asked for. -/
inductive Fault where
  | ended
  | malformed
  | mismatched
deriving DecidableEq, Repr

/-- The wording of each kind. -/
def Fault.message : Fault → String
  | .ended => "<json eof>"
  | .malformed => "<json syntax>"
  | .mismatched => "<json data>"

/-- A reader takes a value from the front of octets and leaves the rest. -/
abbrev Reader (α : Type) := List UInt8 → Except Fault (α × List UInt8)

/-! ## Octets -/

def quoteOctet : UInt8 := 0x22
def commaOctet : UInt8 := 0x2C
def minusOctet : UInt8 := 0x2D
def pointOctet : UInt8 := 0x2E
def colonOctet : UInt8 := 0x3A
def openBracket : UInt8 := 0x5B
def backslashOctet : UInt8 := 0x5C
def closeBracket : UInt8 := 0x5D
def openBrace : UInt8 := 0x7B
def closeBrace : UInt8 := 0x7D

/-- Space, line feed, carriage return and tab are the only blank octets. -/
def isBlankOctet (b : UInt8) : Bool := b == 0x20 || b == 0x0A || b == 0x0D || b == 0x09

/-- The octets from the first one that is not blank. -/
def skipBlank (s : List UInt8) : List UInt8 := s.dropWhile isBlankOctet

/-- Whether an octet is an ASCII digit. -/
def isDigit (b : UInt8) : Bool := 0x30 ≤ b && b ≤ 0x39

/-- The octets after an expected word. -/
def expect : List UInt8 → List UInt8 → Except Fault (List UInt8)
  | [], s => .ok s
  | _ :: _, [] => .error .ended
  | w :: ws, b :: s => if b = w then expect ws s else .error .malformed

/-- What follows the first letter of `null`, and of the other words below. -/
def afterN : List UInt8 := [0x75, 0x6C, 0x6C]
def afterT : List UInt8 := [0x72, 0x75, 0x65]
def afterF : List UInt8 := [0x61, 0x6C, 0x73, 0x65]

/-! ## Texts -/

/-- The value of a hexadecimal digit. -/
def hexValue? (b : UInt8) : Option Nat :=
  let n := b.toNat
  if 0x30 ≤ n ∧ n ≤ 0x39 then some (n - 0x30)
  else if 0x41 ≤ n ∧ n ≤ 0x46 then some (n - 0x41 + 10)
  else if 0x61 ≤ n ∧ n ≤ 0x66 then some (n - 0x61 + 10)
  else none

/-- The octet that a one-letter escape stands for. -/
def shortEscape? (b : UInt8) : Option UInt8 :=
  match b.toNat with
  | 0x22 => some 0x22
  | 0x5C => some 0x5C
  | 0x2F => some 0x2F
  | 0x62 => some 0x08
  | 0x66 => some 0x0C
  | 0x6E => some 0x0A
  | 0x72 => some 0x0D
  | 0x74 => some 0x09
  | _ => none

/-- A place inside a text: between characters, after a backslash, inside the four digits of an
escape, after the escape of a high surrogate, and after the backslash that follows one. Inside
the digits the value is missing once one of them was no digit: that is a problem only when all
four are there. -/
inductive Cursor where
  | plain
  | escaped
  | digits (high : Option Nat) (count : Nat) (value : Option Nat)
  | paired (high : Nat)
  | pairedEscaped (high : Nat)

/-- What an octet does at a place: it ends the text, or gives octets and the next place. -/
inductive Motion where
  | finish
  | emit (octets : List UInt8) (next : Cursor)

/-- One more digit of an escape. -/
def pushDigit (value : Option Nat) (b : UInt8) : Option Nat :=
  match value, hexValue? b with
  | some v, some d => some (v * 16 + d)
  | _, _ => none

def isHighSurrogate (n : Nat) : Bool := 0xD800 ≤ n && n ≤ 0xDBFF
def isLowSurrogate (n : Nat) : Bool := 0xDC00 ≤ n && n ≤ 0xDFFF

/-- The end of an escape with four digits. Surrogates must come in pairs, the high one first. -/
def closeEscape (high : Option Nat) (n : Nat) : Except Fault Motion :=
  match high with
  | none =>
    if isLowSurrogate n then .error .malformed
    else if isHighSurrogate n then .ok (.emit [] (.paired n))
    else .ok (.emit (Utf8.encodeChar (Char.ofNat n)) .plain)
  | some h =>
    if isLowSurrogate n then
      let c := Char.ofNat ((h - 0xD800) * 0x400 + (n - 0xDC00) + 0x10000)
      .ok (.emit (Utf8.encodeChar c) .plain)
    else .error .malformed

/-- One octet of a text. A control character must be escaped. -/
def Cursor.step (cursor : Cursor) (b : UInt8) : Except Fault Motion :=
  match cursor with
  | .plain =>
    if b = quoteOctet then .ok .finish
    else if b = backslashOctet then .ok (.emit [] .escaped)
    else if b < 0x20 then .error .malformed
    else .ok (.emit [b] .plain)
  | .escaped =>
    match shortEscape? b with
    | some octet => .ok (.emit [octet] .plain)
    | none => if b = 0x75 then .ok (.emit [] (.digits none 0 (some 0))) else .error .malformed
  | .digits high count value =>
    let value := pushDigit value b
    if count < 3 then .ok (.emit [] (.digits high (count + 1) value))
    else
      match value with
      | none => .error .malformed
      | some n => closeEscape high n
  | .paired high => if b = backslashOctet then .ok (.emit [] (.pairedEscaped high))
    else .error .malformed
  | .pairedEscaped high => if b = 0x75 then .ok (.emit [] (.digits (some high) 0 (some 0)))
    else .error .malformed

/-- The octets of a text from a place up to its closing quote. -/
def textOctets : Cursor → Reader (List UInt8)
  | _, [] => .error .ended
  | cursor, b :: rest =>
    match cursor.step b with
    | .error e => .error e
    | .ok .finish => .ok ([], rest)
    | .ok (.emit octets next) =>
      match textOctets next rest with
      | .error e => .error e
      | .ok (more, rest) => .ok (octets ++ more, rest)

/-- A text after its opening quote. Its octets must be well-formed as a whole, which is seen at
the closing quote. -/
def readText : Reader String := fun s =>
  match textOctets .plain s with
  | .error e => .error e
  | .ok (octets, rest) =>
    match Utf8.decode? octets with
    | none => .error .malformed
    | some s => .ok (s, rest)

/-- One octet of a text that is passed over: an escape has four digits, whatever they denote. -/
def Cursor.skipStep (cursor : Cursor) (b : UInt8) : Except Fault Motion :=
  match cursor with
  | .digits _ count value =>
    let value := pushDigit value b
    if count < 3 then .ok (.emit [] (.digits none (count + 1) value))
    else if value.isNone then .error .malformed
    else .ok (.emit [] .plain)
  | cursor => cursor.step b

/-- Pass over a text from a place up to its closing quote. -/
def skipTextFrom : Cursor → List UInt8 → Except Fault (List UInt8)
  | _, [] => .error .ended
  | cursor, b :: rest =>
    match cursor.skipStep b with
    | .error e => .error e
    | .ok .finish => .ok rest
    | .ok (.emit _ next) => skipTextFrom next rest

/-- Pass over a text after its opening quote. -/
def skipText : List UInt8 → Except Fault (List UInt8) := skipTextFrom .plain

/-! ## Numerals -/

/-- A numeral as it is written: the digits of its parts. -/
structure Numeral where
  negative : Bool
  whole : List Nat
  fraction : Option (List Nat)
  exponent : Option (Bool × List Nat)

/-- The digits at the front of octets, by value, and the rest. -/
def digitRun (s : List UInt8) : List Nat × List UInt8 :=
  ((s.takeWhile isDigit).map (·.toNat - 0x30), s.dropWhile isDigit)

/-- One digit or more. `short` is the fault of a numeral at whose place the document ends. -/
def someDigits (short : Fault) (s : List UInt8) : Except Fault (List Nat × List UInt8) :=
  match digitRun s with
  | ([], []) => .error short
  | ([], _ :: _) => .error .malformed
  | run => .ok run

/-- The digits before the point: a zero alone, or digits that start with another one. -/
def wholeDigits (short : Fault) (s : List UInt8) : Except Fault (List Nat × List UInt8) :=
  match someDigits short s with
  | .ok (0 :: _ :: _, _) => .error .malformed
  | result => result

/-- A point with the digits after it, if there is a point. -/
def fractionDigits (short : Fault) (s : List UInt8) :
    Except Fault (Option (List Nat) × List UInt8) :=
  match s with
  | b :: rest =>
    if b = pointOctet then (someDigits short rest).map fun (ds, rest) => (some ds, rest)
    else .ok (none, s)
  | [] => .ok (none, [])

/-- An exponent with its sign, if there is one. -/
def exponentDigits (short : Fault) (s : List UInt8) :
    Except Fault (Option (Bool × List Nat) × List UInt8) :=
  match s with
  | b :: rest =>
    if b = 0x65 ∨ b = 0x45 then
      let (negative, rest) : Bool × List UInt8 := match rest with
        | c :: more => if c = minusOctet then (true, more) else if c = 0x2B then (false, more)
          else (false, rest)
        | [] => (false, [])
      (someDigits short rest).map fun (ds, rest) => (some (negative, ds), rest)
    else .ok (none, s)
  | [] => .ok (none, [])

/-- A numeral after its sign. -/
def readNumeral (short : Fault) (negative : Bool) : Reader Numeral := fun s =>
  match wholeDigits short s with
  | .error e => .error e
  | .ok (whole, s) =>
    match fractionDigits short s with
    | .error e => .error e
    | .ok (fraction, s) =>
      match exponentDigits short s with
      | .error e => .error e
      | .ok (exponent, s) => .ok (⟨negative, whole, fraction, exponent⟩, s)

/-- A numeral with its sign. -/
def signedNumeral (short : Fault) : Reader Numeral := fun s =>
  match s with
  | b :: rest => if b = minusOctet then readNumeral short true rest else readNumeral short false s
  | [] => .error .ended

/-- The largest significand is below this: 64 bits. -/
def significandLimit : Nat := 18446744073709551616

/-- Take digits into a significand for as long as it stays below the limit, and count the digits
that are left. -/
def gather : Nat → List Nat → Nat × Nat
  | significand, [] => (significand, 0)
  | significand, d :: ds =>
    let next := significand * 10 + d
    if next < significandLimit then gather next ds else (significand, ds.length + 1)

/-- The number that digits denote. -/
def digitsValue (ds : List Nat) : Nat := ds.foldl (fun n d => n * 10 + d) 0

/-- The value of an exponent. -/
def exponentValue : Option (Bool × List Nat) → Int
  | none => 0
  | some (true, ds) => -(digitsValue ds : Int)
  | some (false, ds) => digitsValue ds

/-- The sign and magnitude of a numeral, through a significand of 64 bits. Whole digits beyond it
count as zeros, fraction digits beyond it as nothing. -/
def Numeral.fraction? (n : Numeral) : Option Number :=
  let (whole, excess) := gather 0 n.whole
  let fraction := n.fraction.getD []
  let (significand, unused) := gather whole fraction
  let exponent : Int := excess - (fraction.length - unused : Nat) + exponentValue n.exponent
  (Binary64.ofDecimal? significand exponent).map (.fraction n.negative ·)

/-- The number that a numeral denotes, if it is finite. Digits alone denote a whole number where
it fits in 64 bits, signed if negative; minus zero is not whole. -/
def Numeral.value? (n : Numeral) : Option Number :=
  match n.fraction, n.exponent with
  | none, none =>
    let whole := digitsValue n.whole
    if n.negative then
      if 0 < whole ∧ whole ≤ 9223372036854775808 then some (.integer (-(whole : Int)))
      else n.fraction?
    else if whole < significandLimit then some (.integer whole)
    else n.fraction?
  | _, _ => n.fraction?

/-- A number from its first octet. One that is not finite is no JSON. -/
def readNumber : Reader Number := fun s =>
  match signedNumeral .ended s with
  | .error e => .error e
  | .ok (n, rest) =>
    match n.value? with
    | none => .error .malformed
    | some v => .ok (v, rest)

/-- Pass over a numeral from its first octet. One that is cut short by the end of the document
counts as no JSON here. -/
def skipNumeral (s : List UInt8) : Except Fault (List UInt8) :=
  (signedNumeral .malformed s).map (·.2)

end IdentityTokens.Json
