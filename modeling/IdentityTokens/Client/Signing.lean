import IdentityTokens.Client.Minting
import IdentityTokens.Run

/-!
# Clients that sign

A client over time, in the calls that its signer has a part in: it is asked for the identity under
which it signs, for signatures and for custom tokens, each token at an instant of its own.

## Main definitions

* `SigningCall`, `SigningResult`: what is asked for, and what is answered.
* `Signed`: what is seen of one call.
* `Client.serve`: what one call shows, and the client after it.
-/

namespace IdentityTokens

/-- A call for the identity, for a signature of a message, or for a custom token. -/
inductive SigningCall where
  | email
  | sign (message : List UInt8)
  | mint (uid : String) (claims : Json.Members) (now : Instant)

/-- The result of a call. -/
inductive SigningResult where
  | email (result : Except Error String)
  | signature (result : Except Error (List UInt8))
  | token (result : Except Error String)

/-- What is seen of one call: what was asked for, the result, and the exchanges with servers that
it led to. -/
structure Signed where
  call : SigningCall
  result : SigningResult
  exchanges : List Http.Exchange

namespace Client

/-- The result of a call, and the client after it. -/
def answer (c : Client) : SigningCall → SigningResult × Client
  | .email =>
    let (result, c) := c.signerEmail
    (.email result, c)
  | .sign message =>
    let (result, c) := c.sign message
    (.signature result, c)
  | .mint uid claims now =>
    let (result, c) := c.customToken uid claims now
    (.token result, c)

/-- What one call shows, and the client after it. -/
def serve (c : Client) (call : SigningCall) : Option Signed × Client :=
  let (result, after) := c.answer call
  (some ⟨call, result, after.network.log.drop c.network.log.length⟩, after)

end Client

end IdentityTokens
