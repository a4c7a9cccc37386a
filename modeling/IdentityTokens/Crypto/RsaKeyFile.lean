import IdentityTokens.Crypto.Armour
import IdentityTokens.Crypto.Block

/-!
# Armoured RSA keys

The RSA key under an armour whose label tells its form: bare, or in a wrapping that names the
algorithm. No more is checked here than that; whether the key can sign shows when it is used.

## Main definitions

* `RsaKeyFile.read?`: the encoded key in armoured data.
-/

namespace IdentityTokens.RsaKeyFile

/-- The kinds of key that a wrapping can name. -/
inductive Kind where
  | ellipticCurve
  | rsa
  | edwardsCurve
deriving DecidableEq, Repr

/-- The kind that an object identifier names. -/
def kindOfId (arcs : List Nat) : Option Kind :=
  if arcs = [1, 2, 840, 10045, 2, 1] then some .ellipticCurve
  else if arcs = [1, 2, 840, 113549, 1, 1, 1] then some .rsa
  else if arcs = [1, 3, 101, 112] then some .edwardsCurve
  else none

/-- The labels under which a key stands bare. -/
def bareLabels : List String := ["RSA PRIVATE KEY", "RSA PUBLIC KEY"]

/-- The labels under which a key stands in a wrapping. -/
def wrappedLabels : List String := ["PRIVATE KEY", "PUBLIC KEY", "CERTIFICATE"]

/-- The encoded RSA key in armoured data. -/
def ofArmour? (armour : Armour) : Option (List UInt8) :=
  match Block.read? armour.contents with
  | none => none
  | some blocks =>
    if bareLabels.contains armour.label then some armour.contents
    else if wrappedLabels.contains armour.label then
      if Block.findObjectId kindOfId blocks = some .rsa then Block.findOctets blocks else none
    else none

/-- The encoded RSA key in octets that hold armoured data. -/
def read? (pem : List UInt8) : Option (List UInt8) := (Armour.read? pem).bind ofArmour?

end IdentityTokens.RsaKeyFile
