import IdentityTokens.Crypto.Armour
import IdentityTokens.Crypto.Ber
import IdentityTokens.Crypto.TimeText

/-!
# Certificates

The public key in an X.509 certificate. The certificate must have the form of one, as far as its
dates and the frames of its extensions; what these say, its names and its signature do not matter.
Of the kinds of key only RSA is of use.

## Main definitions

* `Certificate.Problem`: why octets give no key.
* `Certificate.rsaKey`: the encoded RSA key in an armoured certificate.
-/

namespace IdentityTokens.Certificate

/-- Why octets give no RSA key. -/
inductive Problem where
  | armour
  | certificate
  | notRsa
deriving DecidableEq, Repr

/-- The wording of each problem. -/
def Problem.message : Problem → String
  | .armour => "invalid certificate PEM"
  | .certificate => "invalid X.509 certificate"
  | .notRsa => "certificate does not hold an RSA public key"

/-! ## Parts -/

/-- The content of the sequence at the front. -/
def sequence? (s : List UInt8) : Option (List UInt8 × List UInt8) :=
  Ber.tagged? Ber.sequenceNumber s

/-- What follows an optional version, which is a number of 32 bits in a wrapping of its own. -/
def afterVersion? (s : List UInt8) : Option (List UInt8) :=
  match Ber.element? s with
  | none => none
  | some (e, rest) =>
    if e.header.number ≠ 0 then some s
    else if e.header.tagClass = .context ∧ (Ber.word? e.content).isSome then some rest
    else none

/-- The object identifier of an algorithm. An element that describes it further may follow. -/
def algorithm? (s : List UInt8) : Option (List UInt8 × List UInt8) :=
  match sequence? s with
  | none => none
  | some (content, rest) =>
    match Ber.objectId? content with
    | none => none
    | some (id, more) =>
      if more = [] ∨ (Ber.element? more).isSome then some (id, rest) else none

/-- What follows a sequence, whatever it holds. -/
def afterName? (s : List UInt8) : Option (List UInt8) := (sequence? s).map (·.2)

/-- What follows a point of time, in either of its two forms. -/
def afterTime? (s : List UInt8) : Option (List UInt8) :=
  match Ber.element? s with
  | none => none
  | some (e, rest) =>
    if e.header.number = Ber.utcTimeNumber ∧ TimeText.isUtcTime e.content then some rest
    else if e.header.number = Ber.generalizedTimeNumber ∧ TimeText.isGeneralizedTime e.content then
      some rest
    else none

/-- What follows the two points of time between which a certificate is valid. -/
def afterValidity? (s : List UInt8) : Option (List UInt8) :=
  match sequence? s with
  | none => none
  | some (content, rest) => ((afterTime? content).bind afterTime?).map fun _ => rest

/-- A public key: the identifier of its algorithm, and its octets. -/
structure KeyInfo where
  algorithm : List UInt8
  octets : List UInt8
deriving DecidableEq, Repr

/-- The public key at the front of octets. -/
def keyInfo? (s : List UInt8) : Option (KeyInfo × List UInt8) :=
  match sequence? s with
  | none => none
  | some (content, rest) =>
    match algorithm? content with
    | none => none
    | some (algorithm, more) =>
      (Ber.bitString? more).map fun (octets, _) => (⟨algorithm, octets⟩, rest)

/-- What follows an optional bit string under a tag of its own. -/
def afterUniqueId? (number : Nat) (s : List UInt8) : Option (List UInt8) :=
  if s = [] then some []
  else
    match Ber.element? s with
    | none => none
    | some (e, rest) =>
      if e.header.number ≠ number then some s
      else if e.header.tagClass = .context ∧ !e.header.constructed ∧
          (Ber.bitsOf? e.content).isSome then some rest
      else none

/-! ## Extensions -/

/-- What follows an optional truth value. -/
def afterCritical? (s : List UInt8) : Option (List UInt8) :=
  match Ber.element? s with
  | none => none
  | some (e, rest) =>
    if e.header.number = Ber.booleanNumber ∧ (e.content = [0x00] ∨ e.content = [0xFF]) then
      some rest
    else some s

/-- What follows an extension: a sequence of an object identifier, perhaps a truth value, and an
octet string, of which the content does not matter. -/
def afterExtension? (s : List UInt8) : Option (List UInt8) :=
  match sequence? s with
  | none => none
  | some (content, rest) =>
    (((Ber.objectId? content).bind fun (_, more) => afterCritical? more).bind
      Ber.afterOctetString?).map fun _ => rest

/-- Whether extensions fill octets exactly. The number bounds the work. -/
def areExtensions : Nat → List UInt8 → Bool
  | _, [] => true
  | 0, _ :: _ => false
  | fuel + 1, s =>
    match afterExtension? s with
    | none => false
    | some rest => areExtensions fuel rest

/-- The tag number under which extensions stand. -/
def extensionsNumber : Nat := 3

/-- Whether octets are nothing, or begin with extensions. Of the wrapping around their sequence
only the header counts. -/
def holdsExtensions (s : List UInt8) : Bool :=
  if s = [] then true
  else
    match Ber.header? s with
    | none => false
    | some (h, rest) =>
      h.number = extensionsNumber && h.length.isSome &&
        (match sequence? rest with
          | none => false
          | some (content, _) => areExtensions content.length content)

/-! ## Certificates -/

/-- The public key in the body of a certificate: a version, a serial number, an algorithm, the
issuer, the validity, the subject, the key, two optional identifiers, and extensions. -/
def bodyKey? (body : List UInt8) : Option KeyInfo :=
  let beforeKey :=
    (((((afterVersion? body).bind (Ber.after? Ber.integerNumber)).bind
      fun s => (algorithm? s).map (·.2)).bind afterName?).bind afterValidity?).bind afterName?
  match beforeKey.bind keyInfo? with
  | none => none
  | some (info, rest) =>
    match (afterUniqueId? 1 rest).bind (afterUniqueId? 2) with
    | none => none
    | some rest => if holdsExtensions rest then some info else none

/-- The public key of a certificate, which is a body, an algorithm and a signature. Octets after
it do not matter. -/
def key? (der : List UInt8) : Option KeyInfo :=
  match sequence? der with
  | none => none
  | some (content, _) =>
    match sequence? content with
    | none => none
    | some (body, rest) =>
      match bodyKey? body, (algorithm? rest).bind fun (_, s) => Ber.bitString? s with
      | some info, some _ => some info
      | _, _ => none

/-! ## RSA keys -/

/-- The object identifier 1.2.840.113549.1.1.1 of RSA keys. -/
def rsaEncryption : List UInt8 := [0x2A, 0x86, 0x48, 0x86, 0xF7, 0x0D, 0x01, 0x01, 0x01]

/-- Whether octets begin with a sequence of two whole numbers. -/
def holdsTwoNumbers (s : List UInt8) : Bool :=
  match sequence? s with
  | none => false
  | some (content, _) => ((Ber.afterInteger? content).bind Ber.afterInteger?).isSome

/-- The encoded RSA key in an armoured certificate, whatever the label of the armour. -/
def rsaKey (pem : List UInt8) : Except Problem (List UInt8) :=
  match Armour.read? pem with
  | none => .error .armour
  | some armour =>
    match key? armour.contents with
    | none => .error .certificate
    | some info =>
      if info.algorithm = rsaEncryption ∧ holdsTwoNumbers info.octets then .ok info.octets
      else .error .notRsa

end IdentityTokens.Certificate
