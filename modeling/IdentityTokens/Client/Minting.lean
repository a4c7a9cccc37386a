import IdentityTokens.Client.Basic
import IdentityTokens.Token.CustomToken
import IdentityTokens.Token.Header

/-!
# Making custom tokens

A custom token says that a service account vouches for a user. What the developer puts into it is
checked before the signer is asked for anything.

## Main definitions

* `Client.checkRequest`: whether a token may be made for a user with certain claims.
* `Signatory`: whoever signs, by what it answers.
* `Signatory.mint`: a token, by any signatory.
* `Client.customToken`: a token, by the signer of a client.
-/

namespace IdentityTokens

/-! ## What is asked for -/

namespace Client

/-- Whether a token may be made: the identifier of the user has a length that is allowed, and no
claim has a reserved name. -/
def checkRequest (uid : String) (claims : Json.Members) : Except Error Unit :=
  if isUid uid then
    match CustomToken.reservedIn claims with
    | [] => .ok ()
    | names => .error (.reservedClaims names)
  else .error .invalidUid

/-- The text that is signed for a user. -/
def customTokenInput (issuer uid : String) (claims : Json.Members) (now : Instant) : String :=
  signingInput Header.minted.toJson (CustomToken.issue issuer uid now.seconds claims).toJson

end Client

/-! ## Whoever signs -/

/-- Whoever signs custom tokens, by what it answers from its state: its identity, and a signature
of a message. -/
structure Signatory (σ : Type) where
  email : σ → Except Error String × σ
  sign : σ → List UInt8 → Except Error (List UInt8) × σ

/-- A token for a user with claims, made at an instant. The signatory is asked for its identity,
and then for one signature. -/
def Signatory.mint {σ : Type} (a : Signatory σ) (s : σ) (uid : String) (claims : Json.Members)
    (now : Instant) : Except Error String × σ :=
  match Client.checkRequest uid claims with
  | .error e => (.error e, s)
  | .ok () =>
    match a.email s with
    | (.error e, s) => (.error e, s)
    | (.ok issuer, s) =>
      let input := Client.customTokenInput issuer uid claims now
      match a.sign s (Utf8.encode input) with
      | (.error e, s) => (.error e, s)
      | (.ok signature, s) => (.ok (assemble input signature), s)

namespace Client

/-- A client as the signatory of its tokens. -/
def signatory : Signatory Client := ⟨signerEmail, sign⟩

/-- A token for a user with claims, made at an instant. -/
def customToken (c : Client) (uid : String) (claims : Json.Members) (now : Instant) :
    Except Error String × Client :=
  signatory.mint c uid claims now

end Client

end IdentityTokens
