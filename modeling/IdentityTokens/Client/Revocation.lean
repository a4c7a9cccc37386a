import IdentityTokens.Client.Verification

/-!
# Revocation

A user's tokens are revoked by an instant in the user's record: tokens issued before it are no
longer accepted by those who look at the record. The record is read afresh each time.

## Main definitions

* `IdToken.isRevoked`: whether a token was issued too early for a record.
* `IdToken.verdict`: what a reply about the record of its user makes of a valid token.
* `Client.verifyNotRevoked`: verification that looks at the record.
* `Client.revoke`: revoke all tokens issued so far.
-/

namespace IdentityTokens

/-- Whether a token was issued before the instant in a record. A time too early for 64 bits of
milliseconds is before any instant. -/
def IdToken.isRevoked (t : IdToken) (r : UserRecord) : Bool :=
  if Numeral.fitsInt64 (t.iat * 1000) then t.iat * 1000 < r.validAfterMillis else true

/-- What a reply about the record of its user makes of the payload of a valid token. -/
def IdToken.verdict (t : IdToken) (reply : Except Error UserRecord) : Except Error IdToken :=
  match reply with
  | .error e => .error e
  | .ok record => if t.isRevoked record then .error .tokenRevoked else .ok t

namespace Client

/-- The payload of an ID token, if it is valid at an instant and has not been revoked. -/
def verifyNotRevoked (c : Client) (token : String) (now : Instant) :
    Except Error IdToken × Client :=
  match c.verify token now with
  | (.error e, c) => (.error e, c)
  | (.ok payload, c) =>
    let (reply, c) := c.getUser payload.uid
    (payload.verdict reply, c)

/-- Revoke the tokens of a user that were issued before the second of an instant. -/
def revoke (c : Client) (uid : String) (now : Instant) : Except Error Unit × Client :=
  if isUid uid then c.updateUser uid (.revokeAt now) else (.error .invalidUid, c)

end Client

end IdentityTokens
