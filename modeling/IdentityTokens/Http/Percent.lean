import IdentityTokens.Number.Digits
import IdentityTokens.Text.Utf8

/-!
# Escapes

Octets written as a percent sign and two digits, in the parts of an address where a character may
not stand for itself.

## Main definitions

* `Percent.escape`: characters with escapes for some of them.
* `Percent.decode`: octets with their escapes resolved.
-/

namespace IdentityTokens.Percent

/-! ## Writing -/

/-- The upper-case hexadecimal digit of a number below sixteen. -/
def hexDigit (n : Nat) : Char := if n < 10 then Char.ofNat (48 + n) else Char.ofNat (55 + n)

/-- A percent sign and two digits for each octet of a character. -/
def escapeChar (c : Char) : List Char :=
  (Utf8.encodeChar c).flatMap fun b => ['%', hexDigit (b.toNat / 16), hexDigit (b.toNat % 16)]

/-- Characters with an escape for each that is not printable ASCII or is listed. -/
def escape (listed : List Char) (cs : List Char) : String :=
  String.ofList <| cs.flatMap fun c =>
    if c.toNat < 0x20 ∨ 0x7E < c.toNat ∨ listed.contains c then escapeChar c else [c]

/-- What a path escapes. -/
def pathEscapes : List Char := [' ', '"', '#', '<', '>', '?', '\x60', '\x7b', '\x7d']
/-- What the name and the password of a user escape. -/
def userEscapes : List Char := pathEscapes ++ ['/', ':', ';', '=', '@', '[', '\\', ']', '^', '|']
/-- What a query escapes. -/
def queryEscapes : List Char := [' ', '"', '#', '<', '>']
/-- What a query escapes where its syntax is known. -/
def specialQueryEscapes : List Char := queryEscapes ++ ['\'']
/-- What a fragment escapes. -/
def fragmentEscapes : List Char := [' ', '"', '<', '>', '\x60']

/-! ## Reading -/

/-- The octets of characters, in which each `%` with two hexadecimal digits stands for one octet. -/
def decode : List Char → List UInt8
  | [] => []
  | '%' :: a :: b :: rest =>
    match Digits.hexValue? a, Digits.hexValue? b with
    | some x, some y => UInt8.ofNat (x * 16 + y) :: decode rest
    | _, _ => Utf8.encodeChar '%' ++ decode (a :: b :: rest)
  | c :: rest => Utf8.encodeChar c ++ decode rest

/-- The text of characters with their escapes resolved, if it is one. -/
def decodeText? (cs : List Char) : Option (List Char) := Utf8.decodeChars? (decode cs)

end IdentityTokens.Percent
