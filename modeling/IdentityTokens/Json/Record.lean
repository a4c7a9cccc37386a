import IdentityTokens.Json.Reader
import IdentityTokens.Number.Numeral

/-!
# Documents of a known shape

Readers for values of which the shape is known beforehand: texts, whole numbers, lists, maps from
names to texts, and records. A value of another shape is a mismatch; a scalar of another shape is
still read to its end first, an array or object is refused at its bracket.

A record is an object whose members are looked up by name, in any order, each name at most once,
and members of other names are passed over. It may also be an array of the values of its fields in
their declared order, of which the last ones may be missing.

## Main definitions

* `Json.textValue`, `Json.optionalText`, `Json.int64Value`: values without parts.
* `Json.listOf`, `Json.textMap`, `Json.openObject`: values with parts of one shape.
* `Json.Field`, `Json.record`: records.
-/

namespace IdentityTokens.Json

variable {σ α : Type}

/-! ## Values without parts -/

/-- Refuse a value of the wrong shape, from its first octet. -/
def refuse : Reader α := fun s =>
  match s with
  | [] => .error .ended
  | b :: _ =>
    if b = openBracket ∨ b = openBrace then .error .mismatched
    else
      match readScalar s with
      | .error e => .error e
      | .ok _ => .error .mismatched

/-- Choose a reader by the first octet of a value that is not blank. -/
def atValue (choose : UInt8 → List UInt8 → Except Fault (α × List UInt8)) : Reader α := fun s =>
  match skipBlank s with
  | [] => .error .ended
  | b :: rest => choose b rest

/-- A text. -/
def textValue : Reader String :=
  atValue fun b rest => if b = quoteOctet then readText rest else refuse (b :: rest)

/-- A text, or `null` for none. -/
def optionalText : Reader (Option String) :=
  atValue fun b rest =>
    if b = 0x6E then (expect afterN rest).map (none, ·)
    else (textValue (b :: rest)).map fun (s, rest) => (some s, rest)

/-- A whole number that fits in signed 64 bits. -/
def int64Value : Reader Int :=
  atValue fun b rest =>
    if b = minusOctet ∨ isDigit b then
      match readNumber (b :: rest) with
      | .error e => .error e
      | .ok (.integer n, rest) =>
        if Numeral.fitsInt64 n then .ok (n, rest) else .error .mismatched
      | .ok (.fraction _ _, _) => .error .mismatched
    else refuse (b :: rest)

/-! ## Lists and maps -/

/-- A list of values of one shape. -/
def listOf (item : Reader α) : Reader (List α) :=
  atValue fun b rest =>
    if b = openBracket then
      let entry (items : List α) : Reader (List α) := fun s =>
        (item s).map fun (a, rest) => (a :: items, rest)
      (sequence closeBracket entry (rest.length + 1) true [] rest).map
        fun (items, rest) => (items.reverse, rest)
    else refuse (b :: rest)

/-- The members of an object whose values are texts, as they follow each other. -/
def textMap : Reader (List (String × String)) :=
  atValue fun b rest =>
    if b = openBrace then
      let entry (pairs : List (String × String)) : Reader (List (String × String)) := fun s =>
        match memberName readText s with
        | .error e => .error e
        | .ok (name, rest) => (textValue rest).map fun (t, rest) => ((name, t) :: pairs, rest)
      (sequence closeBrace entry (rest.length + 1) true [] rest).map
        fun (pairs, rest) => (pairs.reverse, rest)
    else refuse (b :: rest)

/-- The members of any object. -/
def openObject : Reader Members :=
  atValue fun b rest =>
    if b = openBrace then
      match readAny (b :: rest) with
      | .error e => .error e
      | .ok (.object members, rest) => .ok (members, rest)
      | .ok _ => .error .mismatched
    else refuse (b :: rest)

/-! ## Records -/

/-- A field of a record: its name, and how its value changes the record read so far. -/
structure Field (σ : Type) where
  name : String
  set : σ → Reader σ

/-- A field whose value `reader` reads and `put` puts into the record. -/
def Field.of (name : String) (reader : Reader α) (put : σ → α → σ) : Field σ where
  name := name
  set := fun state s => (reader s).map fun (a, rest) => (put state a, rest)

/-- One member of a record, with the names of the fields that were read before. The second
occurrence of a field is seen at its name, whatever follows. -/
def recordMember (fields : List (Field σ)) (seen : List String × σ) :
    Reader (List String × σ) := fun s =>
  match quotedName readText s with
  | .error e => .error e
  | .ok (name, rest) =>
    if seen.1.contains name then .error .mismatched
    else
      match nameColon rest with
      | .error e => .error e
      | .ok rest =>
        match fields.find? (·.name == name) with
        | none => (skipAny rest).map (seen, ·)
        | some field =>
          (field.set seen.2 rest).map fun (state, rest) => ((name :: seen.1, state), rest)

/-- The fields of a record in array form, after the bracket. -/
def recordItems : List (Field σ) → Bool → σ → Reader σ
  | [], _, state, s =>
    match skipBlank s with
    | [] => .error .ended
    | b :: rest => if b = closeBracket then .ok (state, rest) else .error .malformed
  | field :: fields, first, state, s =>
    let advance (s : List UInt8) : Except Fault (σ × List UInt8) :=
      match field.set state s with
      | .error e => .error e
      | .ok (state, rest) => recordItems fields false state rest
    match skipBlank s with
    | [] => .error .ended
    | b :: rest =>
      if b = closeBracket then .ok (state, rest)
      else if first then advance (b :: rest)
      else if b = commaOctet then
        match skipBlank rest with
        | [] => .error .ended
        | c :: rest => if c = closeBracket then .error .malformed else advance (c :: rest)
      else .error .malformed

/-- A record, from the one in which every field has its default. -/
def record (fields : List (Field σ)) (default : σ) : Reader σ :=
  atValue fun b rest =>
    if b = openBrace then
      (sequence closeBrace (recordMember fields) (rest.length + 1) true ([], default) rest).map
        fun (seen, rest) => (seen.2, rest)
    else if b = openBracket then recordItems fields true default rest
    else refuse (b :: rest)

/-- A value that a reader takes and a check turns into the one wanted. -/
def checked (reader : Reader σ) (check : σ → Option α) : Reader α := fun s =>
  match reader s with
  | .error e => .error e
  | .ok (state, rest) =>
    match check state with
    | none => .error .mismatched
    | some a => .ok (a, rest)

end IdentityTokens.Json
