import IdentityTokens.Json.Basic
import IdentityTokens.Number.Numeral
import IdentityTokens.Number.Shortest

/-!
# Compact JSON

The text of a JSON value without blank characters. A text escapes the double quote, the backslash
and the characters below U+0020 and nothing else. A number that is not whole has the shortest
digits that read back.

## Main definitions

* `Json.renderText`: a text in quotes.
* `Json.renderNumber`: a number.
* `Json.render`: a value.
-/

namespace IdentityTokens.Json

/-! ## Texts -/

/-- The lower-case hexadecimal digit of a number below sixteen. -/
def hexDigit (n : Nat) : Char := if n < 10 then Char.ofNat (48 + n) else Char.ofNat (87 + n)

/-- One character between the quotes. -/
def escapeChar (c : Char) : List Char :=
  match c with
  | '"' => ['\\', '"']
  | '\\' => ['\\', '\\']
  | '\x08' => ['\\', 'b']
  | '\x0c' => ['\\', 'f']
  | '\n' => ['\\', 'n']
  | '\r' => ['\\', 'r']
  | '\t' => ['\\', 't']
  | c =>
    if c.toNat < 0x20 then
      ['\\', 'u', '0', '0', hexDigit (c.toNat / 16), hexDigit (c.toNat % 16)]
    else [c]

/-- A text in quotes. -/
def renderText (s : String) : List Char := '"' :: s.toList.flatMap escapeChar ++ ['"']

/-! ## Numbers -/

/-- The places of the point, relative to the first digit, for which no exponent is written: above
the first and not above the second. -/
def plainPoints : Int × Int := (-5, 16)

/-- A decimal, without an exponent where the point is near the digits. There is always a point or
an exponent, and an exponent has its sign. -/
def renderDecimal (d : Decimal) : List Char :=
  let count : Int := d.digits.length
  if plainPoints.1 < d.point ∧ d.point ≤ plainPoints.2 then
    if count ≤ d.point then
      d.digits ++ List.replicate (d.point - count).toNat '0' ++ ['.', '0']
    else if 0 < d.point then
      d.digits.take d.point.toNat ++ '.' :: d.digits.drop d.point.toNat
    else '0' :: '.' :: List.replicate (-d.point).toNat '0' ++ d.digits
  else
    let lead := match d.digits with
      | [] => []
      | [c] => [c]
      | c :: rest => c :: '.' :: rest
    let exponent := d.point - 1
    lead ++ 'e' :: (if 0 ≤ exponent then '+' else '-') :: Numeral.natDigits exponent.natAbs

/-- A magnitude; zero is `0.0`. -/
def renderMagnitude (x : Binary64) : List Char :=
  if x.mantissa = 0 then ['0', '.', '0'] else renderDecimal x.shortest

/-- A number; minus zero keeps its sign. -/
def renderNumber : Number → List Char
  | .integer n => Numeral.digits n
  | .fraction negative x => if negative then '-' :: renderMagnitude x else renderMagnitude x

/-! ## Values -/

mutual

/-- The characters of a value. -/
def renderChars : Json → List Char
  | .null => "null".toList
  | .bool true => "true".toList
  | .bool false => "false".toList
  | .number n => renderNumber n
  | .string s => renderText s
  | .array items => '[' :: renderItems items ++ [']']
  | .object members => '\x7b' :: renderMembers members ++ ['\x7d']

/-- The items of an array, with commas between them. -/
def renderItems : List Json → List Char
  | [] => []
  | [v] => renderChars v
  | v :: w :: rest => renderChars v ++ ',' :: renderItems (w :: rest)

/-- The members of an object, with commas between them. -/
def renderMembers : List (String × Json) → List Char
  | [] => []
  | [(name, v)] => renderText name ++ ':' :: renderChars v
  | (name, v) :: m :: rest =>
    renderText name ++ ':' :: renderChars v ++ ',' :: renderMembers (m :: rest)

end

/-- The text of a value. -/
def render (v : Json) : String := String.ofList (renderChars v)

end IdentityTokens.Json
