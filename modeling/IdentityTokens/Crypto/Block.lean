import IdentityTokens.Crypto.Der
import IdentityTokens.Crypto.TimeText
import IdentityTokens.Text.Utf8

/-!
# Octets taken apart

Octets as blocks of ASN.1, as deep as sequences and sets go. Tags and lengths may have any form;
everything must be complete and not empty, and blocks whose kind restricts their content must keep
to it.

## Main definitions

* `Block`, `Block.read?`: octets taken apart.
* `Block.findObjectId`, `Block.findOctets`: the first of a kind in sequences.
-/

namespace IdentityTokens

/-- A part of octets taken apart. -/
inductive Block where
  | sequence (items : List Block)
  | objectId (arcs : List Nat)
  | bits (octets : List UInt8)
  | octets (octets : List UInt8)
  | other

namespace Block

/-- A number in groups of seven bits, each but the last with its high bit set. -/
def base128? : Nat → List UInt8 → Option (Nat × List UInt8)
  | _, [] => none
  | n, b :: rest =>
    let next := n * 128 + b.toNat % 128
    if b < 0x80 then some (next, rest) else base128? next rest

/-- All such numbers in octets. The first number bounds the work. -/
def base128s? : Nat → List UInt8 → Option (List Nat)
  | _, [] => some []
  | 0, _ :: _ => none
  | fuel + 1, s =>
    match base128? 0 s with
    | none => none
    | some (n, rest) => (base128s? fuel rest).map (n :: ·)

/-- The arcs of an object identifier. Its first octet holds two of them. -/
def arcs? : List UInt8 → Option (List Nat)
  | [] => none
  | b :: rest =>
    let n := b.toNat
    let first := if n < 40 then [0, n] else if n < 80 then [1, n - 40] else [2, n - 80]
    (base128s? rest.length rest).map (first ++ ·)

/-- A length in any form of at most eight octets. -/
def lenientLength? : List UInt8 → Option (Nat × List UInt8)
  | [] => none
  | b :: rest =>
    if b < 0x80 then some (b.toNat, rest)
    else
      let count := b.toNat - 0x80
      if 8 < count ∨ rest.length < count then none
      else some (Der.unsigned (rest.take count), rest.drop count)

/-- A tag: whether its class is universal, and its number. -/
def lenientTag? : List UInt8 → Option (Bool × Nat × List UInt8)
  | [] => none
  | b :: rest =>
    let universal := b < 0x40
    if b.toNat % 32 = 31 then (base128? 0 rest).map fun (n, rest) => (universal, n, rest)
    else some (universal, b.toNat % 32, rest)

/-- The characters of a printable string. -/
def isPrintableOctet (b : UInt8) : Bool :=
  (0x30 ≤ b && b ≤ 0x39) || (0x41 ≤ b && b ≤ 0x5A) || (0x61 ≤ b && b ≤ 0x7A) ||
    (Utf8.encode " '()+,-./:=?").contains b

/-- The block of a universal tag that holds no other blocks. Texts in a character set that has
rules, and points of time, are looked into. -/
def plainBlock? (tag : Nat) (content : List UInt8) : Option Block :=
  let checked (good : Bool) : Option Block := if good then some .other else none
  match tag with
  | 0x01 => checked (content.length = 1)
  | 0x03 =>
    match content with
    | [] => some (.bits [])
    | unused :: rest => if rest.length * 8 < unused.toNat then none else some (.bits rest)
  | 0x04 => some (.octets content)
  | 0x06 => (arcs? content).map .objectId
  | 0x0C | 0x14 | 0x1C | 0x1E => checked (Utf8.decodeChars? content).isSome
  | 0x13 => checked (content.all isPrintableOctet)
  | 0x17 => checked (TimeText.isPlainUtcTime content)
  | 0x18 => checked (TimeText.isPlainGeneralizedTime content)
  | _ => some .other

/-- The blocks that fill octets, of which there must be one at least. The number bounds the
work. -/
def readFrom? : Nat → List UInt8 → Option (List Block)
  | 0, _ => none
  | fuel + 1, s =>
    match lenientTag? s with
    | none => none
    | some (universal, tag, rest) =>
      match lenientLength? rest with
      | none => none
      | some (n, rest) =>
        if rest.length < n then none
        else
          let content := rest.take n
          let block? : Option Block :=
            if !universal then some .other
            else if tag = 0x10 then (readFrom? fuel content).map .sequence
            else if tag = 0x11 then (readFrom? fuel content).map fun _ => .other
            else plainBlock? tag content
          match block?, rest.drop n with
          | none, _ => none
          | some block, [] => some [block]
          | some block, more => (readFrom? fuel more).map (block :: ·)

/-- The blocks that fill octets. -/
def read? (s : List UInt8) : Option (List Block) := readFrom? (s.length + 1) s

mutual

/-- The first object identifier in sequences for which `f` has an answer. -/
def findObjectId {α : Type} (f : List Nat → Option α) : List Block → Option α
  | [] => none
  | b :: rest =>
    match objectIdIn f b with
    | some a => some a
    | none => findObjectId f rest

/-- The same in one block. -/
def objectIdIn {α : Type} (f : List Nat → Option α) : Block → Option α
  | .sequence items => findObjectId f items
  | .objectId arcs => f arcs
  | _ => none

end

mutual

/-- The octets of the first bit string or octet string in sequences. -/
def findOctets : List Block → Option (List UInt8)
  | [] => none
  | b :: rest =>
    match octetsIn b with
    | some found => some found
    | none => findOctets rest

/-- The same in one block. -/
def octetsIn : Block → Option (List UInt8)
  | .sequence items => findOctets items
  | .bits found => some found
  | .octets found => some found
  | _ => none

end

end Block

end IdentityTokens
