import IdentityTokens.Text.Base64
import IdentityTokens.Text.Blank

/-!
# Armoured data

Binary data as lines of base64 between a line that opens and a line that closes, both with one
label. Text before and after is ignored. Headers may stand before the data, with a blank line
after them.

## Main definitions

* `Armour.cut`: octets before and after a marker.
* `Armour`: a label and the data under it.
* `Armour.read?`: the first armoured data in octets.
-/

namespace IdentityTokens

/-- Armoured data. -/
structure Armour where
  label : String
  contents : List UInt8
deriving DecidableEq, Repr

namespace Armour

/-! ## Markers -/

/-- The number of octets up to the end of a marker, of which `left` is still to come. An octet
that breaks a partial match is passed; the match starts afresh after it. -/
def markerEnd (marker : List UInt8) : List UInt8 → List UInt8 → Option Nat
  | [], _ => some 0
  | _ :: _, [] => none
  | m :: left, b :: rest =>
    (markerEnd marker (if b = m then left else marker) rest).map (· + 1)

/-- The octets before a marker and those after it. -/
def cut (marker s : List UInt8) : Option (List UInt8 × List UInt8) :=
  (markerEnd marker marker s).map fun n => (s.take (n - marker.length), s.drop n)

/-- What opens the data, up to the label. -/
def opening : List UInt8 := Utf8.encode "-----BEGIN "
/-- What closes the data, up to the label. -/
def closing : List UInt8 := Utf8.encode "-----END "
/-- What follows a label. -/
def dashes : List UInt8 := Utf8.encode "-----"

/-! ## Headers and data -/

/-- Blank octets that may follow the opening line. -/
def isGap (b : UInt8) : Bool := b == 0x20 || b == 0x0A || b == 0x0D || b == 0x09

/-- The headers and the data of what stands between the opening and the closing line. The first
blank line separates them; without one all is data. -/
def splitHeaders (body : List UInt8) : List UInt8 × List UInt8 :=
  match cut [0x0A, 0x0A] body with
  | some parts => parts
  | none => (cut [0x0D, 0x0A, 0x0D, 0x0A] body).getD ([], body)

/-- The lines of a text. Nothing after the last line feed is no line. -/
def lines : List Char → List (List Char)
  | [] => []
  | c :: rest =>
    if c = '\n' then [] :: lines rest
    else
      match lines rest with
      | [] => [[c]]
      | line :: more => (c :: line) :: more

/-- Whether every line of the headers has a colon, as it must between a name and its value. -/
def headersOk (headers : List UInt8) : Bool :=
  match Utf8.decodeChars? headers with
  | none => false
  | some cs => (lines cs).all (·.contains ':')

/-- The octets of a text of base64 with blank characters anywhere in it. -/
def dataOctets? (data : List UInt8) : Option (List UInt8) :=
  match Utf8.decodeChars? data with
  | none => none
  | some cs =>
    let symbols := Utf8.encodeChars (cs.filter fun c => !isBlank c)
    (Base64.decode Base64.standard .required symbols).toOption

/-! ## Reading -/

/-- The label, the body and the closing label of the first armoured data. -/
def frame? (s : List UInt8) : Option (List UInt8 × List UInt8 × List UInt8) :=
  match cut opening s with
  | none => none
  | some (_, s) =>
    match cut dashes s with
    | none => none
    | some (label, s) =>
      match cut closing (s.dropWhile isGap) with
      | none => none
      | some (body, s) => (cut dashes s).map fun (closingLabel, _) => (label, body, closingLabel)

/-- The first armoured data in octets. Its two labels must be one text that is not empty. -/
def read? (s : List UInt8) : Option Armour :=
  match frame? s with
  | none => none
  | some (label, body, closingLabel) =>
    let (headers, data) := splitHeaders body
    if label = [] ∨ label ≠ closingLabel ∨ !headersOk headers then none
    else
      match Utf8.decode? label, dataOctets? data with
      | some label, some contents => some ⟨label, contents⟩
      | _, _ => none

end Armour

end IdentityTokens
