import IdentityTokens.Crypto.Der

/-!
# Elements in any form

The basic encoding of ASN.1, read with more patience than `Der`: a tag may take several octets, a
length may be longer than it need be, and what kind of tag it is matters only where a reader asks.
Readers here compare the number of a tag and not its class.

An element whose content is constructed may leave its length open and end with an empty element
of tag number zero.

## Main definitions

* `Ber.Header`, `Ber.header?`: what stands before the content of an element.
* `Ber.element?`, `Ber.tagged?`: the element at the front of octets, its length given.
* `Ber.after?`: what follows an element, its length given or open.
* `Ber.naturalElement?`, `Ber.bitString?`, `Ber.objectId?`, `Ber.octetString?`: elements of a kind.
-/

namespace IdentityTokens.Ber

/-! ## Headers -/

/-- The kinds of tag. -/
inductive TagClass where
  | universal
  | application
  | context
  | privateUse
deriving DecidableEq, Repr

/-- What stands before the content of an element. A length of `none` is open. -/
structure Header where
  tagClass : TagClass
  constructed : Bool
  number : Nat
  length : Option Nat
deriving DecidableEq, Repr

def booleanNumber : Nat := 1
def integerNumber : Nat := 2
def bitStringNumber : Nat := 3
def octetStringNumber : Nat := 4
def sequenceNumber : Nat := 16
def utcTimeNumber : Nat := 23
def generalizedTimeNumber : Nat := 24

/-- The class that the two high bits of a tag name. -/
def classOf (b : UInt8) : TagClass :=
  if b < 0x40 then .universal
  else if b < 0x80 then .application
  else if b < 0xC0 then .context
  else .privateUse

/-- The number of a long tag, in groups of seven bits of which all but the last have their high bit
set. At most `left` groups are read, and 32 bits are kept. -/
def longNumber? : Nat → Nat → List UInt8 → Option (Nat × List UInt8)
  | 0, _, _ => none
  | _ + 1, _, [] => none
  | left + 1, n, b :: rest =>
    let next := (n * 128 + b.toNat % 128) % Nat.pow 2 32
    if b < 0x80 then some (next, rest) else longNumber? left next rest

/-- The length of content. -/
def length? : List UInt8 → Option (Option Nat × List UInt8)
  | [] => none
  | b :: rest =>
    if b < 0x80 then some (some b.toNat, rest)
    else if b = 0x80 then some (none, rest)
    else
      let count := b.toNat - 0x80
      if count = 0x7F ∨ rest.length < count then none
      else some (some (Der.unsigned (rest.take count)), rest.drop count)

/-- The header at the front of octets. Only a constructed element may leave its length open. -/
def header? : List UInt8 → Option (Header × List UInt8)
  | [] => none
  | b :: rest =>
    let constructed := b.toNat / 32 % 2 = 1
    let number? := if b.toNat % 32 = 31 then longNumber? 5 0 rest else some (b.toNat % 32, rest)
    match number? with
    | none => none
    | some (number, rest) =>
      match length? rest with
      | none => none
      | some (length, rest) =>
        if length = none ∧ !constructed then none
        else some (⟨classOf b, constructed, number, length⟩, rest)

/-! ## Elements -/

/-- An element. -/
structure Element where
  header : Header
  content : List UInt8
deriving DecidableEq, Repr

/-- The element at the front of octets. Its length must be given. -/
def element? (s : List UInt8) : Option (Element × List UInt8) :=
  match header? s with
  | none => none
  | some (h, rest) =>
    match h.length with
    | none => none
    | some n => if rest.length < n then none else some (⟨h, rest.take n⟩, rest.drop n)

/-- The element at the front, if its tag has the wanted number. -/
def numbered? (number : Nat) (s : List UInt8) : Option (Element × List UInt8) :=
  (element? s).filter (·.1.header.number = number)

/-- The content of the element at the front, if its tag has the wanted number. -/
def tagged? (number : Nat) (s : List UInt8) : Option (List UInt8 × List UInt8) :=
  (numbered? number s).map fun (e, rest) => (e.content, rest)

/-- The element at the front, if it has no elements inside. -/
def primitive? (s : List UInt8) : Option (Element × List UInt8) :=
  (element? s).filter (!·.1.header.constructed)

/-- How deep elements of open length may be nested. -/
def maxOpen : Nat := 49

/-- What follows the end of `depth` elements of open length, of which the innermost goes on at the
front. The first number bounds the work. -/
def afterEnds? : Nat → Nat → List UInt8 → Option (List UInt8)
  | _, 0, s => some s
  | 0, _ + 1, _ => none
  | fuel + 1, depth + 1, s =>
    if maxOpen < depth + 1 then none
    else
      match header? s with
      | none => none
      | some (h, rest) =>
        match h.length with
        | none => afterEnds? fuel (depth + 2) rest
        | some n =>
          if n = 0 ∧ h.number = 0 then afterEnds? fuel depth rest
          else if rest.length < n then none
          else afterEnds? fuel (depth + 1) (rest.drop n)

/-- What follows the element at the front, if its tag has the wanted number. Its length may be
open. -/
def after? (number : Nat) (s : List UInt8) : Option (List UInt8) :=
  match header? s with
  | none => none
  | some (h, rest) =>
    let rest? :=
      match h.length with
      | none => afterEnds? (rest.length + 1) 1 rest
      | some n => if rest.length < n then none else some (rest.drop n)
    if h.number = number then rest? else none

/-! ## Elements of a kind -/

/-- A number of 32 bits that is not negative, in its shortest form. -/
def word? (s : List UInt8) : Option (Nat × List UInt8) :=
  match primitive? s with
  | none => none
  | some (e, rest) =>
    if e.header.number = integerNumber then
      ((Der.natural? e.content).filter (· < Nat.pow 2 32)).map (·, rest)
    else none

/-- What follows a whole number that has octets, of which the first is not a zero too many. -/
def afterInteger? (s : List UInt8) : Option (List UInt8) :=
  match tagged? integerNumber s with
  | none => none
  | some (content, rest) =>
    match content with
    | [] => none
    | [_] => some rest
    | b :: c :: _ => if b = 0 ∧ c < 0x80 then none else some rest

/-- The octets of a bit string's content, after the count of the bits at their end that are unused
and must be zero. -/
def bitsOf? : List UInt8 → Option (List UInt8)
  | [] => none
  | unused :: octets =>
    match octets.getLast? with
    | none => if unused = 0 then some [] else none
    | some last =>
      if 8 < unused ∨ last.toNat % Nat.pow 2 unused.toNat ≠ 0 then none else some octets

/-- The octets of the bit string at the front. -/
def bitString? (s : List UInt8) : Option (List UInt8 × List UInt8) :=
  match primitive? s with
  | none => none
  | some (e, rest) =>
    if e.header.number = bitStringNumber then (bitsOf? e.content).map (·, rest) else none

/-- The octets that identify an object. Any tag will do. -/
def objectId? (s : List UInt8) : Option (List UInt8 × List UInt8) :=
  (primitive? s).map fun (e, rest) => (e.content, rest)

/-- What follows the octet string at the front. -/
def afterOctetString? (s : List UInt8) : Option (List UInt8) :=
  match primitive? s with
  | none => none
  | some (e, rest) => if e.header.number = octetStringNumber then some rest else none

end IdentityTokens.Ber
