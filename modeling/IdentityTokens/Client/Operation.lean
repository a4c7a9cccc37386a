import IdentityTokens.Client.Minting
import IdentityTokens.Client.Revocation
import IdentityTokens.Client.Session

/-!
# Clients in operation

All that can happen to a client over time: what it is asked to do, in any order, the clock, and the
changes that others make to the records of users.

## Main definitions

* `Operation`: what can happen.
* `Session.operate`: what one operation answers, and the session after it.
-/

namespace IdentityTokens

/-- What can happen to a client. A token is checked against the record of its user, or only
verified; a token is made; the tokens of a user are revoked; someone else sets the instant, in
milliseconds, in the record of a user; the clock is set. -/
inductive Operation where
  | check (token : String)
  | verify (token : String)
  | mint (uid : String) (claims : Json.Members)
  | revoke (uid : String)
  | setCutoff (uid : String) (millis : Int)
  | setClock (now : Instant)

/-- The records after someone has set the instant in one. A service is out of reach. -/
def Users.setCutoff (uid : String) (millis : Int) : Users → Users
  | .service s => .service s
  | .store s => .store (s.setCutoff uid millis)

namespace Session

/-- What one operation answers, where the answer is the payload of a token or an error, and the
session after it. -/
def operate (s : Session) : Operation → Option (Except Error IdToken) × Session
  | .check token =>
    let (result, client) := s.client.verifyNotRevoked token s.now
    (some result, { s with client })
  | .verify token =>
    let (result, client) := s.client.verify token s.now
    (some result, { s with client })
  | .mint uid claims => (none, { s with client := (s.client.customToken uid claims s.now).2 })
  | .revoke uid => (none, { s with client := (s.client.revoke uid s.now).2 })
  | .setCutoff uid millis =>
    (none, { s with client := { s.client with users := s.client.users.setCutoff uid millis } })
  | .setClock now => (none, { s with now })

end Session

end IdentityTokens
