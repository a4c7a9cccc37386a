import IdentityTokens.Client.Verification
import IdentityTokens.Run

/-!
# Sessions of verification

A client over time: it is handed tokens, and the clock is set, forward or back.

## Main definitions

* `Session`: a client with the clock.
* `Verified`: what is seen of one verification.
* `Session.step`: what one event shows, and the session after it.
-/

namespace IdentityTokens

/-- A client, and the instant that the clock shows. -/
structure Session where
  client : Client
  now : Instant

/-- A token is handed to the client, or the clock is set. -/
inductive SessionEvent where
  | verify (token : String)
  | setClock (now : Instant)

/-- What is seen of one verification: when it was, of which token, the result, and the exchanges
with servers that it led to. -/
structure Verified where
  time : Instant
  token : String
  result : Except Error IdToken
  exchanges : List Http.Exchange

namespace Session

/-- What one event shows, and the session after it. -/
def step (s : Session) : SessionEvent → Option Verified × Session
  | .verify token =>
    let (result, client) := s.client.verify token s.now
    (some ⟨s.now, token, result, client.network.log.drop s.client.network.log.length⟩,
      { s with client })
  | .setClock now => (none, { s with now })

end Session

end IdentityTokens
