import IdentityTokens.Crypto.Der
import IdentityTokens.Crypto.Sha256

/-!
# RSA signatures

RS256: RSASSA-PKCS1-v1_5 with SHA-256, by exact arithmetic. The signature of a message is the
power by the private exponent of its padded digest; a public key accepts a signature whose power
by the public exponent is that padded digest, octet for octet.

## Main definitions

* `Rsa.powMod`: modular powers.
* `Rsa.PublicKey`, `Rsa.PublicKey.accepts`: verification.
* `Rsa.PrivateKey`, `Rsa.PrivateKey.sign?`: signing.
* `Rsa.verifies`, `Rsa.sign?`: the same with keys in their encoded form.
-/

namespace IdentityTokens.Rsa

/-! ## Arithmetic -/

/-- The power `b ^ e` modulo `m`, by squaring. -/
def powMod (m b e : Nat) : Nat :=
  if h : e = 0 then 1 % m
  else
    let square := powMod m (b * b % m) (e / 2)
    if e % 2 = 1 then square * b % m else square
termination_by e
decreasing_by omega

/-- The number of bits of a number. -/
def bitLength (n : Nat) : Nat := if n = 0 then 0 else n.log2 + 1

/-- The number of octets that a number needs. -/
def octetLength (n : Nat) : Nat := (bitLength n + 7) / 8

/-! ## Padding -/

/-- What stands before the digest: that it is one of SHA-256. -/
def digestInfo : List UInt8 :=
  [0x30, 0x31, 0x30, 0x0D, 0x06, 0x09, 0x60, 0x86, 0x48, 0x01, 0x65, 0x03, 0x04, 0x02, 0x01, 0x05,
   0x00, 0x04, 0x20]

/-- The padded digest of a message, filling a number of octets. -/
def paddedDigest (size : Nat) (message : List UInt8) : List UInt8 :=
  let tail := digestInfo ++ Sha256.hash message
  0x00 :: 0x01 :: List.replicate (size - tail.length - 3) 0xFF ++ 0x00 :: tail

/-! ## Verification -/

/-- A public key: the modulus and the public exponent. -/
structure PublicKey where
  modulus : Nat
  exponent : Nat
deriving DecidableEq, Repr

namespace PublicKey

/-- The greatest public exponent. -/
def maxExponent : Nat := Nat.pow 2 33 - 1

/-- A key of the sizes in use: an odd modulus of 2048 to 8192 bits, the lower bound taken in whole
octets, and an odd exponent from 3 up. -/
def isUsable (k : PublicKey) : Bool :=
  256 ≤ octetLength k.modulus && bitLength k.modulus ≤ 8192 && k.modulus % 2 == 1 &&
    3 ≤ k.exponent && k.exponent ≤ maxExponent && k.exponent % 2 == 1

/-- Whether a signature is one of the message under the key. -/
def accepts (k : PublicKey) (message signature : List UInt8) : Bool :=
  let size := octetLength k.modulus
  let s := Der.unsigned signature
  k.isUsable && signature.length == size && s < k.modulus &&
    Sha256.bigEndian size (powMod k.modulus s k.exponent) == paddedDigest size message

/-- The key of an encoded sequence of modulus and exponent. -/
def ofDer? (der : List UInt8) : Option PublicKey :=
  match Der.naturalSequence? 2 der with
  | some [n, e] => some ⟨n, e⟩
  | _ => none

end PublicKey

/-- Whether a signature is one of the message under an encoded key; no malformed key has any. -/
def verifies (der message signature : List UInt8) : Bool :=
  match PublicKey.ofDer? der with
  | none => false
  | some k => k.accepts message signature

/-! ## Signing -/

/-- A private key of two primes, with the exponents and the inverse for working modulo each. -/
structure PrivateKey where
  publicKey : PublicKey
  exponent : Nat
  prime1 : Nat
  prime2 : Nat
  exponent1 : Nat
  exponent2 : Nat
  coefficient : Nat
deriving DecidableEq, Repr

namespace PrivateKey

/-- The key of an encoded sequence of nine numbers, of which the first, the version, is zero. -/
def ofDer? (der : List UInt8) : Option PrivateKey :=
  match Der.naturalSequence? 9 der with
  | some [0, n, e, d, p, q, dp, dq, qinv] => some ⟨⟨n, e⟩, d, p, q, dp, dq, qinv⟩
  | _ => none

/-- A prime of half the modulus' bits, a multiple of 512, with the exponent for it. -/
def isPart (k : PrivateKey) (prime exponent : Nat) : Bool :=
  let half := (bitLength k.publicKey.modulus + 1) / 2
  bitLength prime == half && half % 512 == 0 && prime % 2 == 1 && exponent < prime &&
    exponent % 2 == 1

/-- A key that fits together and has a size in use: a modulus of 2048 to 4096 bits that is the
product of the primes, and a public exponent of at least 65537. -/
def isUsable (k : PrivateKey) : Bool :=
  let n := k.publicKey.modulus
  k.publicKey.isUsable && bitLength n ≤ 4096 && 65537 ≤ k.publicKey.exponent &&
    k.isPart k.prime1 k.exponent1 && k.isPart k.prime2 k.exponent2 &&
    k.prime1 * k.prime2 == n && (bitLength n + 1) / 2 < bitLength k.exponent &&
    k.exponent < n && k.exponent % 2 == 1 && k.coefficient < k.prime1 &&
    k.coefficient * k.prime2 % k.prime1 == 1

/-- The power by the private exponent, joined from the powers modulo each prime. -/
def power (k : PrivateKey) (m : Nat) : Nat :=
  let m1 := powMod k.prime1 (m % k.prime1) k.exponent1
  let m2 := powMod k.prime2 (m % k.prime2) k.exponent2
  let h := k.coefficient * (m1 + k.prime1 - m2 % k.prime1) % k.prime1
  m2 + h * k.prime2

/-- The signature of a message, if the key is usable and the signature holds under its public
part. -/
def sign? (k : PrivateKey) (message : List UInt8) : Option (List UInt8) :=
  if k.isUsable then
    let n := k.publicKey.modulus
    let size := octetLength n
    let m := Der.unsigned (paddedDigest size message)
    let s := k.power m
    if powMod n s k.publicKey.exponent = m then some (Sha256.bigEndian size s) else none
  else none

end PrivateKey

/-- The signature of a message with an encoded key. -/
def sign? (der message : List UInt8) : Option (List UInt8) :=
  (PrivateKey.ofDer? der).bind (·.sign? message)

end IdentityTokens.Rsa
