/-!
# UTF-8

Text as octets and back. The decoder is a machine that takes one octet at a time and holds the
unfinished part of a character between them, so one table of bounds serves both readings: the
strict one refuses ill-formed input, the lenient one puts U+FFFD for each maximal part of it.

## Main definitions

- `Utf8.encode`: the octets of a text
- `Utf8.takeOctets?`: the characters that fill a number of octets
- `Utf8.decode?`: the text of well-formed octets
- `Utf8.decodeLossy`: the text of any octets
-/

namespace IdentityTokens.Utf8

/-! ## Encoding -/

/-- The one to four octets of a character, by the size of its scalar value. -/
def encodeChar (c : Char) : List UInt8 :=
  let n := c.toNat
  if n < 0x80 then [UInt8.ofNat n]
  else if n < 0x800 then [UInt8.ofNat (0xC0 + n / 64), UInt8.ofNat (0x80 + n % 64)]
  else if n < 0x10000 then
    [UInt8.ofNat (0xE0 + n / 4096), UInt8.ofNat (0x80 + n / 64 % 64),
      UInt8.ofNat (0x80 + n % 64)]
  else
    [UInt8.ofNat (0xF0 + n / 262144), UInt8.ofNat (0x80 + n / 4096 % 64),
      UInt8.ofNat (0x80 + n / 64 % 64), UInt8.ofNat (0x80 + n % 64)]

/-- The octets of a list of characters. -/
def encodeChars (cs : List Char) : List UInt8 := cs.flatMap encodeChar

/-- The octets of a text. -/
def encode (s : String) : List UInt8 := encodeChars s.toList

@[simp] theorem encodeChars_nil : encodeChars [] = [] := rfl

@[simp] theorem encodeChars_cons (c : Char) (cs : List Char) :
    encodeChars (c :: cs) = encodeChar c ++ encodeChars cs := rfl

@[simp] theorem encodeChars_append (as bs : List Char) :
    encodeChars (as ++ bs) = encodeChars as ++ encodeChars bs := by
  simp [encodeChars]

/-! ## Cutting by octets -/

/-- The characters at the front of a text that fill a number of octets. There are none if the
text is too short or if the last octet does not end a character. -/
def takeOctets? : Nat → List Char → Option (List Char)
  | 0, _ => some []
  | _ + 1, [] => none
  | n + 1, c :: rest =>
    if (encodeChar c).length ≤ n + 1 then
      (takeOctets? (n + 1 - (encodeChar c).length) rest).map (c :: ·)
    else none

theorem length_encodeChar_pos (c : Char) : 0 < (encodeChar c).length := by
  simp only [encodeChar]
  repeat' split
  all_goals exact Nat.succ_pos _

/-- A text is cut where a part of it ends. -/
theorem takeOctets?_append (cs rest : List Char) :
    takeOctets? (encodeChars cs).length (cs ++ rest) = some cs := by
  induction cs with
  | nil => simp [takeOctets?]
  | cons c cs ih =>
    have hlength : (encodeChars (c :: cs)).length =
        (encodeChar c).length - 1 + (encodeChars cs).length + 1 := by
      have hpos := length_encodeChar_pos c
      rw [encodeChars_cons, List.length_append]
      omega
    have hrest : (encodeChar c).length - 1 + (encodeChars cs).length + 1 - (encodeChar c).length =
        (encodeChars cs).length := by
      have hpos := length_encodeChar_pos c
      omega
    rw [hlength, List.cons_append, takeOctets?, if_pos (by omega), hrest, ih]
    rfl

/-! ## Decoding -/

/-- The unfinished part of a character: its leading bits, how many octets follow the next one,
and the bounds of the next one. -/
structure Pending where
  bits : Nat
  after : Nat
  low : Nat
  high : Nat

/-- What one more octet makes of the part of a character held so far. -/
inductive Progress where
  | char (c : Char)
  | more (held : Pending)
  | bad

/-- The first octet of a character. Its bounds for the second one leave out overlong forms,
surrogates and values above U+10FFFF. -/
def lead (octet : UInt8) : Progress :=
  let n := octet.toNat
  if n < 0x80 then .char (Char.ofNat n)
  else if n < 0xC2 then .bad
  else if n < 0xE0 then .more ⟨n - 0xC0, 0, 0x80, 0xBF⟩
  else if n < 0xF0 then
    .more ⟨n - 0xE0, 1, if n = 0xE0 then 0xA0 else 0x80, if n = 0xED then 0x9F else 0xBF⟩
  else if n < 0xF5 then
    .more ⟨n - 0xF0, 2, if n = 0xF0 then 0x90 else 0x80, if n = 0xF4 then 0x8F else 0xBF⟩
  else .bad

/-- A later octet of a character. -/
def Pending.next (held : Pending) (octet : UInt8) : Progress :=
  let n := octet.toNat
  if held.low ≤ n ∧ n ≤ held.high then
    let bits := held.bits * 64 + n % 64
    match held.after with
    | 0 => .char (Char.ofNat bits)
    | after + 1 => .more ⟨bits, after, 0x80, 0xBF⟩
  else .bad

/-- One step of the machine: with nothing held an octet begins a character. -/
def advance (held : Option Pending) (octet : UInt8) : Progress :=
  match held with
  | none => lead octet
  | some held => held.next octet

/-- Strict decoding from a state of the machine. -/
def decodeFrom : Option Pending → List UInt8 → Option (List Char)
  | none, [] => some []
  | some _, [] => none
  | held, octet :: rest =>
    match advance held octet with
    | .char c => (decodeFrom none rest).map (c :: ·)
    | .more held => decodeFrom (some held) rest
    | .bad => none

/-- The characters of well-formed octets, `none` for ill-formed ones. -/
def decodeChars? (octets : List UInt8) : Option (List Char) := decodeFrom none octets

/-- The text of well-formed octets, `none` for ill-formed ones. -/
def decode? (octets : List UInt8) : Option String := (decodeChars? octets).map String.ofList

/-- The character that stands for octets that encode none. -/
def replacement : Char := '\uFFFD'

/-- Lenient decoding from a state of the machine: an octet that cannot continue the character
held ends it as a replacement and is then looked at afresh. -/
def decodeLossyFrom : Option Pending → List UInt8 → List Char
  | none, [] => []
  | some _, [] => [replacement]
  | held, octet :: rest =>
    match advance held octet with
    | .char c => c :: decodeLossyFrom none rest
    | .more held => decodeLossyFrom (some held) rest
    | .bad =>
      match held with
      | none => replacement :: decodeLossyFrom none rest
      | some _ =>
        match lead octet with
        | .char c => replacement :: c :: decodeLossyFrom none rest
        | .more held => replacement :: decodeLossyFrom (some held) rest
        | .bad => replacement :: replacement :: decodeLossyFrom none rest

/-- The text of any octets, each maximal ill-formed part replaced by U+FFFD. -/
def decodeLossy (octets : List UInt8) : String := String.ofList (decodeLossyFrom none octets)

end IdentityTokens.Utf8
