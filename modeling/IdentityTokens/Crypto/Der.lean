/-!
# DER

The distinguished encoding of ASN.1: elements of a tag, a length and content. The tag has one octet
and the length its shortest form.

## Main definitions

* `Der.element?`, `Der.tagged?`: the element at the front of octets.
* `Der.natural?`: a number that is not negative, from its content.
* `Der.naturalSequence?`: the numbers of a sequence.
-/

namespace IdentityTokens.Der

def integerTag : UInt8 := 0x02
def sequenceTag : UInt8 := 0x30

/-! ## Elements -/

/-- The number that octets denote, the most significant first. -/
def unsigned (octets : List UInt8) : Nat := octets.foldl (fun n b => n * 256 + b.toNat) 0

/-- A length in its shortest form: one octet below 128, or a count of octets and a number that
needs them. -/
def length? : List UInt8 → Option (Nat × List UInt8)
  | [] => none
  | b :: rest =>
    if b < 0x80 then some (b.toNat, rest)
    else
      let count := b.toNat - 0x80
      let digits := rest.take count
      let n := unsigned digits
      if count = 0 ∨ 4 < count ∨ digits.length < count ∨ n < 128 ∨ n < Nat.pow 256 (count - 1) then
        none
      else some (n, rest.drop count)

/-- An element. -/
structure Element where
  tag : UInt8
  content : List UInt8
deriving DecidableEq, Repr

/-- The element at the front of octets. Its tag has one octet. -/
def element? : List UInt8 → Option (Element × List UInt8)
  | [] => none
  | tag :: rest =>
    if tag &&& 0x1F = 0x1F then none
    else
      match length? rest with
      | none => none
      | some (n, rest) =>
        if rest.length < n then none else some (⟨tag, rest.take n⟩, rest.drop n)

/-- The content of the element at the front, if it has the wanted tag. -/
def tagged? (tag : UInt8) (s : List UInt8) : Option (List UInt8 × List UInt8) :=
  match element? s with
  | some (e, rest) => if e.tag = tag then some (e.content, rest) else none
  | none => none

/-- The number of an integer's content, if it is not negative and in its shortest form. -/
def natural? : List UInt8 → Option Nat
  | [] => none
  | [b] => if b < 0x80 then some b.toNat else none
  | b :: c :: rest =>
    if 0x80 ≤ b ∨ (b = 0 ∧ c < 0x80) then none else some (unsigned (b :: c :: rest))

/-- The number at the front of octets. -/
def naturalElement? (s : List UInt8) : Option (Nat × List UInt8) :=
  match tagged? integerTag s with
  | none => none
  | some (content, rest) => (natural? content).map (·, rest)

/-- The numbers that fill octets exactly. -/
def naturals? : Nat → List UInt8 → Option (List Nat)
  | 0, [] => some []
  | 0, _ :: _ => none
  | count + 1, s =>
    match naturalElement? s with
    | none => none
    | some (n, rest) => (naturals? count rest).map (n :: ·)

/-- The numbers of a sequence that fills octets exactly. -/
def naturalSequence? (count : Nat) (s : List UInt8) : Option (List Nat) :=
  match tagged? sequenceTag s with
  | some (content, []) => naturals? count content
  | _ => none

end IdentityTokens.Der
