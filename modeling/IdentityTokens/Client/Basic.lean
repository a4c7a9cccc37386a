import IdentityTokens.Keys.KeySource
import IdentityTokens.Signer
import IdentityTokens.Users

/-!
# Clients

A client knows the project whose ID tokens it accepts, where the public keys come from, who signs
custom tokens and who keeps user records. What lies outside goes with it, so a client after an
operation is a value of the same type.

## Main definitions

* `Client`: a client.
* `Client.signerEmail`, `Client.keySet`, `Client.getKey`: what its parts answer.
-/

namespace IdentityTokens

/-- A client with all that its operations change. -/
structure Client where
  projectId : Option String
  signer : Signer
  keySource : KeySource
  users : Users
  network : Http.Network

namespace Client

/-- The identity under which custom tokens are signed. -/
def signerEmail (c : Client) : Except Error String × Client :=
  let (email, signer, network) := c.signer.email c.network
  (email, { c with signer, network })

/-- A signature under that identity. -/
def sign (c : Client) (message : List UInt8) : Except Error (List UInt8) × Client :=
  let (signature, signer, network) := c.signer.sign message c.network
  (signature, { c with signer, network })

/-- The public keys at an instant. -/
def keySet (c : Client) (now : Instant) : Except Error KeySet × Client :=
  let (keys, keySource, network) := c.keySource.keySet now c.network
  (keys, { c with keySource, network })

/-- The public key under an identifier. -/
def getKey (c : Client) (kid : String) (now : Instant) : Except Error VerificationKey × Client :=
  let (key, keySource, network) := c.keySource.getKey kid now c.network
  (key, { c with keySource, network })

/-- The record of a user. -/
def getUser (c : Client) (uid : String) : Except Error UserRecord × Client :=
  let (record, users, network) := c.users.getUser uid c.network
  (record, { c with users, network })

/-- Change the record of a user. -/
def updateUser (c : Client) (uid : String) (update : UserUpdate) : Except Error Unit × Client :=
  let (done, users, network) := c.users.updateUser uid update c.network
  (done, { c with users, network })

end Client

end IdentityTokens
