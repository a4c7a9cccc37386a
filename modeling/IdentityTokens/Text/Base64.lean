import IdentityTokens.Text.Utf8

/-!
# Base64

Octets as text of 64 symbols. Three octets make four symbols; a last group of one or two octets
makes two or three. Writing pads or does not; reading tells the first place where a text departs
from the form.

## Main definitions

* `Base64.Alphabet`: the symbols for 62 and 63; `standard` and `urlSafe` are the two in use.
* `Base64.encode`: the symbols of octets.
* `Base64.decode`: the octets of symbols, or the first departure from the form.
-/

namespace IdentityTokens.Base64

/-- The two symbols in which alphabets differ. -/
structure Alphabet where
  symbol62 : Char
  symbol63 : Char

/-- The alphabet of MIME. -/
def standard : Alphabet := ⟨'+', '/'⟩

/-- The alphabet for tokens and file names. -/
def urlSafe : Alphabet := ⟨'-', '_'⟩

/-- Whether padding must complete the last group or may be left out in part or whole. -/
inductive Padding where
  | required
  | optional
deriving DecidableEq, Repr

/-- The padding sign `=` as an octet. -/
def padOctet : UInt8 := 61

namespace Alphabet

/-- The symbol of a six-bit value. -/
def symbol (a : Alphabet) (v : Nat) : Char :=
  if v < 26 then Char.ofNat (65 + v)
  else if v < 52 then Char.ofNat (97 + (v - 26))
  else if v < 62 then Char.ofNat (48 + (v - 52))
  else if v = 62 then a.symbol62
  else a.symbol63

/-- The six-bit value of an octet that is a symbol. -/
def value? (a : Alphabet) (octet : UInt8) : Option Nat :=
  let n := octet.toNat
  if 65 ≤ n ∧ n ≤ 90 then some (n - 65)
  else if 97 ≤ n ∧ n ≤ 122 then some (n - 97 + 26)
  else if 48 ≤ n ∧ n ≤ 57 then some (n - 48 + 52)
  else if n = a.symbol62.toNat then some 62
  else if n = a.symbol63.toNat then some 63
  else none

end Alphabet

/-! ## Writing -/

/-- The symbols of octets, three octets at a time, without padding. -/
def encode (a : Alphabet) : List UInt8 → List Char
  | [] => []
  | [x] => [a.symbol (x.toNat / 4), a.symbol (x.toNat % 4 * 16)]
  | [x, y] =>
    [a.symbol (x.toNat / 4), a.symbol (x.toNat % 4 * 16 + y.toNat / 16),
      a.symbol (y.toNat % 16 * 4)]
  | x :: y :: z :: rest =>
    a.symbol (x.toNat / 4) :: a.symbol (x.toNat % 4 * 16 + y.toNat / 16) ::
      a.symbol (y.toNat % 16 * 4 + z.toNat / 64) :: a.symbol (z.toNat % 64) :: encode a rest

/-- The symbols of octets, the last group padded to four. -/
def encodePadded (a : Alphabet) (octets : List UInt8) : List Char :=
  encode a octets ++ List.replicate ((3 - octets.length % 3) % 3) '='

/-! ## Reading -/

/-- How a text departs from the form. -/
inductive Error where
  | invalidSymbol (octet : UInt8) (offset : Nat)
  | invalidLength (symbols : Nat)
  | invalidLastSymbol (octet : UInt8) (offset : Nat)
  | invalidPadding
deriving DecidableEq, Repr

/-- The wording of each departure. -/
def Error.message : Error → String
  | .invalidSymbol octet offset =>
    "Invalid symbol " ++ toString octet.toNat ++ ", offset " ++ toString offset ++ "."
  | .invalidLength symbols => "Invalid input length: " ++ toString symbols
  | .invalidLastSymbol octet offset =>
    "Invalid last symbol " ++ toString octet.toNat ++ ", offset " ++ toString offset ++ "."
  | .invalidPadding => "Invalid padding"

/-- The value of the symbol at an offset. -/
def valueAt (a : Alphabet) (offset : Nat) (octet : UInt8) : Except Error Nat :=
  match a.value? octet with
  | some v => .ok v
  | none => .error (.invalidSymbol octet offset)

/-- The values of the symbols in the last group and the number of padding signs after them.
`index` counts from the start of the group, `pad` is the index of the first padding sign. -/
def readTail (a : Alphabet) (base : Nat) :
    Nat → Option Nat → List UInt8 → Except Error (List Nat × Nat)
  | _, _, [] => .ok ([], 0)
  | index, pad, octet :: rest =>
    if octet = padOctet then
      if index < 2 then .error (.invalidSymbol octet (base + index))
      else
        (readTail a base (index + 1) (some (pad.getD index)) rest).map
          fun (values, padding) => (values, padding + 1)
    else
      match pad with
      | some first => .error (.invalidSymbol padOctet (base + first))
      | none =>
        match valueAt a (base + index) octet with
        | .error e => .error e
        | .ok v =>
          (readTail a base (index + 1) none rest).map
            fun (values, padding) => (v :: values, padding)

/-- The octet of the symbol of a value. -/
def Alphabet.octet (a : Alphabet) (v : Nat) : UInt8 := UInt8.ofNat (a.symbol v).toNat

/-- The octets of the last group. The bits of its last symbol that no octet uses must be zero. -/
def tailOctets (a : Alphabet) (base : Nat) : List Nat → Except Error (List UInt8)
  | [u, v] =>
    if v % 16 = 0 then .ok [UInt8.ofNat (u * 4 + v / 16)]
    else .error (.invalidLastSymbol (a.octet v) (base + 1))
  | [u, v, w] =>
    if w % 4 = 0 then .ok [UInt8.ofNat (u * 4 + v / 16), UInt8.ofNat (v % 16 * 16 + w / 4)]
    else .error (.invalidLastSymbol (a.octet w) (base + 2))
  | [u, v, w, x] =>
    .ok [UInt8.ofNat (u * 4 + v / 16), UInt8.ofNat (v % 16 * 16 + w / 4),
      UInt8.ofNat (w % 4 * 64 + x)]
  | values => .error (.invalidLength (base + values.length))

/-- Read the last group, which has at most four octets and is empty only for an empty text. -/
def decodeTail (a : Alphabet) (padding : Padding) (base : Nat) (tail : List UInt8) :
    Except Error (List UInt8) :=
  match tail with
  | [] => .ok []
  | tail =>
    match readTail a base 0 none tail with
    | .error e => .error e
    | .ok (values, pads) =>
      if values.length < 2 then .error (.invalidLength (base + values.length))
      else if padding = .required ∧ (values.length + pads) % 4 ≠ 0 then .error .invalidPadding
      else tailOctets a base values

/-- Read from an offset. A group of four with something after it holds symbols only. -/
def decodeFrom (a : Alphabet) (padding : Padding) :
    Nat → List UInt8 → Except Error (List UInt8)
  | base, p :: q :: r :: s :: t :: rest =>
    match valueAt a base p, valueAt a (base + 1) q, valueAt a (base + 2) r,
        valueAt a (base + 3) s with
    | .error e, _, _, _ => .error e
    | _, .error e, _, _ => .error e
    | _, _, .error e, _ => .error e
    | _, _, _, .error e => .error e
    | .ok u, .ok v, .ok w, .ok x =>
      (decodeFrom a padding (base + 4) (t :: rest)).map fun octets =>
        UInt8.ofNat (u * 4 + v / 16) :: UInt8.ofNat (v % 16 * 16 + w / 4) ::
          UInt8.ofNat (w % 4 * 64 + x) :: octets
  | base, tail => decodeTail a padding base tail

/-- A foreign octet that alone makes a fifth symbol is found before any other fault. -/
def strayLast (a : Alphabet) (octets : List UInt8) : Option Error :=
  match octets.getLast? with
  | none => none
  | some last =>
    if octets.length % 4 = 1 ∧ last ≠ padOctet ∧ (a.value? last).isNone then
      some (.invalidSymbol last (octets.length - 1))
    else none

/-- The octets of a text of symbols, given by its own octets. -/
def decode (a : Alphabet) (padding : Padding) (octets : List UInt8) : Except Error (List UInt8) :=
  match strayLast a octets with
  | some e => .error e
  | none => decodeFrom a padding 0 octets

/-- The octets of a text of symbols. -/
def decodeText (a : Alphabet) (padding : Padding) (s : String) : Except Error (List UInt8) :=
  decode a padding (Utf8.encode s)

end IdentityTokens.Base64
