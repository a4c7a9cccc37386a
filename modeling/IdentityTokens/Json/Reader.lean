import IdentityTokens.Json.Scanner

/-!
# Reading JSON documents

Values, documents, and the passing over of values that nobody asked for. Arrays and objects share
one loop over what stands between their brackets. The loop and the nesting both consume octets, so
the number of octets bounds them; a value may be nested only so deep, a value passed over as deep
as it likes.

## Main definitions

* `Json.sequence`: what stands between brackets, separated by commas.
* `Json.readValue`: a value.
* `Json.skipValue`: a value that is passed over.
* `Json.document`: a reader applied to a whole document.
* `Json.parse`: the value of a document.
-/

namespace IdentityTokens.Json

variable {σ α κ : Type}

/-! ## Brackets and names -/

/-- The entries up to a closing bracket, separated by commas, each of which changes a state. The
number bounds the entries; the first entry has no comma before it, and no comma may stand before
the bracket. -/
def sequence (close : UInt8) (entry : σ → Reader σ) : Nat → Bool → σ → Reader σ
  | 0, _, _, _ => .error .ended
  | fuel + 1, first, state, s =>
    let advance (s : List UInt8) : Except Fault (σ × List UInt8) :=
      match entry state s with
      | .error e => .error e
      | .ok (state, rest) => sequence close entry fuel false state rest
    match skipBlank s with
    | [] => .error .ended
    | b :: rest =>
      if b = close then .ok (state, rest)
      else if first then advance (b :: rest)
      else if b = commaOctet then
        match skipBlank rest with
        | [] => .error .ended
        | c :: rest => if c = close then .error .malformed else advance (c :: rest)
      else .error .malformed

/-- The name of a member from its first octet. `name` reads or passes over the name after its
opening quote. -/
def quotedName (name : Reader κ) : Reader κ := fun s =>
  match s with
  | [] => .error .ended
  | b :: rest => if b = quoteOctet then name rest else .error .malformed

/-- The colon between the name of a member and its value, with blanks before it. -/
def nameColon (s : List UInt8) : Except Fault (List UInt8) :=
  match skipBlank s with
  | [] => .error .ended
  | b :: rest => if b = colonOctet then .ok rest else .error .malformed

/-- The name of a member, up to and with the colon. -/
def memberName (name : Reader κ) : Reader κ := fun s =>
  match quotedName name s with
  | .error e => .error e
  | .ok (k, rest) => (nameColon rest).map (k, ·)

/-! ## Values -/

/-- A value that has no parts, from its first octet. -/
def readScalar : Reader Json := fun s =>
  match s with
  | [] => .error .ended
  | b :: rest =>
    if b = 0x6E then (expect afterN rest).map (Json.null, ·)
    else if b = 0x74 then (expect afterT rest).map (Json.bool true, ·)
    else if b = 0x66 then (expect afterF rest).map (Json.bool false, ·)
    else if b = quoteOctet then (readText rest).map fun (s, rest) => (Json.string s, rest)
    else if b = minusOctet ∨ isDigit b then
      (readNumber s).map fun (n, rest) => (Json.number n, rest)
    else .error .malformed

/-- A value. The first number bounds the work, the second how deep arrays and objects may still
be nested. -/
def readValue : Nat → Nat → Reader Json
  | 0, _, _ => .error .ended
  | fuel + 1, depth, s =>
    match skipBlank s with
    | [] => .error .ended
    | b :: rest =>
      if b = openBracket ∨ b = openBrace then
        match depth with
        | 0 => .error .malformed
        | depth + 1 =>
          if b = openBracket then
            let item (items : List Json) : Reader (List Json) := fun s =>
              (readValue fuel depth s).map fun (v, rest) => (v :: items, rest)
            (sequence closeBracket item fuel true [] rest).map
              fun (items, rest) => (.array items.reverse, rest)
          else
            let member (pairs : List (String × Json)) : Reader (List (String × Json)) := fun s =>
              match memberName readText s with
              | .error e => .error e
              | .ok (name, rest) =>
                (readValue fuel depth rest).map fun (v, rest) => ((name, v) :: pairs, rest)
            (sequence closeBrace member fuel true [] rest).map
              fun (pairs, rest) => (.object (NameMap.ofList pairs.reverse), rest)
      else readScalar (b :: rest)

/-- How deep the arrays and objects of a document may be nested. -/
def maxDepth : Nat := 127

/-- A value, with the bounds for its document. -/
def readAny : Reader Json := fun s => readValue (s.length + 1) maxDepth s

/-! ## Values passed over -/

/-- Pass over a value that has no parts, from its first octet. -/
def skipScalar (s : List UInt8) : Except Fault (List UInt8) :=
  match s with
  | [] => .error .ended
  | b :: rest =>
    if b = 0x6E then expect afterN rest
    else if b = 0x74 then expect afterT rest
    else if b = 0x66 then expect afterF rest
    else if b = quoteOctet then skipText rest
    else if b = minusOctet ∨ isDigit b then skipNumeral s
    else .error .malformed

/-- Pass over a value. The number bounds the work. -/
def skipValue : Nat → List UInt8 → Except Fault (List UInt8)
  | 0, _ => .error .ended
  | fuel + 1, s =>
    match skipBlank s with
    | [] => .error .ended
    | b :: rest =>
      if b = openBracket then
        let item (_ : Unit) : Reader Unit := fun s => (skipValue fuel s).map ((), ·)
        (sequence closeBracket item fuel true () rest).map (·.2)
      else if b = openBrace then
        let member (_ : Unit) : Reader Unit := fun s =>
          match memberName (fun s => (skipText s).map ((), ·)) s with
          | .error e => .error e
          | .ok (_, rest) => (skipValue fuel rest).map ((), ·)
        (sequence closeBrace member fuel true () rest).map (·.2)
      else skipScalar (b :: rest)

/-- Pass over a value, with the bound for its document. -/
def skipAny (s : List UInt8) : Except Fault (List UInt8) := skipValue (s.length + 1) s

/-! ## Documents -/

/-- A whole document: what a reader takes, with nothing but blank octets after it. -/
def document (reader : Reader α) (s : List UInt8) : Except Fault α :=
  match reader s with
  | .error e => .error e
  | .ok (a, rest) => if (skipBlank rest).isEmpty then .ok a else .error .malformed

/-- The value of a document. -/
def parse (s : List UInt8) : Except Fault Json := document readAny s

end IdentityTokens.Json
