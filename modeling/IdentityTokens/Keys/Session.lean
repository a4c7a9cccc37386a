import IdentityTokens.Keys.KeySource
import IdentityTokens.Run

/-!
# Sessions with a source of keys

A source of keys over time: it is asked for its keys, or for one of them, and the clock is set,
forward or back.

## Main definitions

* `KeySession`: a source, the clock and what lies outside.
* `KeySession.step`: the answer to one event, and the session after it.
-/

namespace IdentityTokens

/-- What a source of keys is asked, or that the clock is set. -/
inductive KeyEvent where
  | keySet
  | getKey (kid : String)
  | setClock (now : Instant)

/-- What a source of keys answers. -/
inductive KeyAnswer where
  | keys (result : Except Error KeySet)
  | key (result : Except Error VerificationKey)

/-- A source of keys, the instant that the clock shows, and what lies outside. -/
structure KeySession where
  source : KeySource
  now : Instant
  network : Http.Network

namespace KeySession

/-- The answer to one event, and the session after it. -/
def step (s : KeySession) : KeyEvent → Option KeyAnswer × KeySession
  | .keySet =>
    let (keys, source, network) := s.source.keySet s.now s.network
    (some (.keys keys), { s with source, network })
  | .getKey kid =>
    let (key, source, network) := s.source.getKey kid s.now s.network
    (some (.key key), { s with source, network })
  | .setClock now => (none, { s with now })

end KeySession

end IdentityTokens
