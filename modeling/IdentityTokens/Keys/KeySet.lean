import IdentityTokens.Crypto.Certificate
import IdentityTokens.Crypto.Rsa
import IdentityTokens.Instant
import IdentityTokens.NameMap
import IdentityTokens.Text.Base64
import IdentityTokens.Text.Quoted

/-!
# Sets of public keys

The public keys of an authority, each under an identifier, and the instant from which they must
not be used any more. A set is made as a whole from certificates and never changes.

## Main definitions

* `VerificationKey`: a public key with its identifier.
* `VerificationKey.accepts`: whether a signature is right.
* `KeySet`: a set of keys.
* `KeySet.collect`, `KeySet.ofCertificates`: the keys in certificates.
* `KeySet.isFresh`: whether a set may be used at an instant.
-/

namespace IdentityTokens

/-! ## Keys -/

/-- A public key: the identifier under which it is published, and its encoded form. -/
structure VerificationKey where
  kid : String
  encoded : List UInt8
deriving DecidableEq, Repr

namespace VerificationKey

/-- The key in an armoured certificate. -/
def ofCertificate (kid : String) (pem : List UInt8) :
    Except Certificate.Problem VerificationKey :=
  (Certificate.rsaKey pem).map (⟨kid, ·⟩)

/-- Whether a signature is one of the message under the key. -/
def accepts (k : VerificationKey) (message signature : List UInt8) : Bool :=
  Rsa.verifies k.encoded message signature

/-- Whether a signature in text form, which must have no padding, is one of a text. -/
def acceptsText (k : VerificationKey) (message signature : String) : Bool :=
  if signature.toList.contains '=' then false
  else
    match Base64.decodeText Base64.urlSafe .optional signature with
    | .error _ => false
    | .ok octets => k.accepts (Utf8.encode message) octets

/-- The form in which records show a key. -/
def summary (k : VerificationKey) : String :=
  "VerificationKey \x7b kid: " ++ Quoted.quote k.kid ++ ", .. \x7d"

end VerificationKey

/-! ## Sets -/

/-- A set of keys in encoded form, and the instant at which it goes stale, if it ever does. -/
structure KeySet where
  keys : NameMap (List UInt8)
  expiresAt : Option Instant
deriving DecidableEq, Repr

namespace KeySet

/-- The keys that `extract` takes from the certificates of identifiers. A later certificate of an
identifier replaces an earlier one; the first that holds no key makes the whole set fail. -/
def collect {κ ε : Type} (extract : κ → Except ε (List UInt8)) (certs : List (String × κ))
    (expiresAt : Option Instant) : Except ε KeySet :=
  (NameMap.ofListChecked extract certs).map fun keys => ⟨keys, expiresAt⟩

/-- The RSA keys in armoured certificates. -/
def ofCertificates (certs : List (String × List UInt8)) (expiresAt : Option Instant) :
    Except Certificate.Problem KeySet :=
  collect Certificate.rsaKey certs expiresAt

/-- The key under an identifier. -/
def get? (s : KeySet) (kid : String) : Option VerificationKey :=
  (s.keys.find? kid).map (⟨kid, ·⟩)

/-- All keys, in the order of their identifiers. -/
def toList (s : KeySet) : List VerificationKey := s.keys.map fun (kid, encoded) => ⟨kid, encoded⟩

/-- The number of keys. -/
def size (s : KeySet) : Nat := s.keys.length

/-- Whether a set may be used at an instant. The deadline itself is too late. -/
def isFresh (s : KeySet) (now : Instant) : Bool :=
  match s.expiresAt with
  | none => true
  | some deadline => now < deadline

end KeySet

end IdentityTokens
