import IdentityTokens.Keys.CertificateCache

/-!
# Sources of public keys

Where a client has its public keys from: a set that never changes, a server, or nowhere. These are
the kinds that the library has itself. A client may also be given a source of some other kind, made
by whoever uses it; such sources are left out.

## Main definitions

* `KeySource`: the kinds of source.
* `KeySource.keySet`: the keys of a source at an instant.
* `KeySource.getKey`: the key under an identifier.
-/

namespace IdentityTokens

/-- Where public keys come from, as far as the kinds of the library itself go. -/
inductive KeySource where
  | fixed (keys : KeySet)
  | certificates (cache : CertificateCache)
  | unavailable (reason : String)
deriving DecidableEq, Repr

namespace KeySource

/-- The keys of a source at an instant. -/
def keySet (s : KeySource) (now : Instant) (network : Http.Network) :
    Except Error KeySet × KeySource × Http.Network :=
  match s with
  | .fixed keys => (.ok keys, s, network)
  | .unavailable reason => (.error (.keysUnavailable (.refused reason)), s, network)
  | .certificates cache =>
    let (keys, cache, network) := cache.keySet now network
    (keys, .certificates cache, network)

/-- The key under an identifier in a set. -/
def pick (kid : String) (keys : KeySet) : Except Error VerificationKey :=
  match keys.get? kid with
  | none => .error (.noMatchingKey kid)
  | some key => .ok key

/-- The key under an identifier. -/
def getKey (s : KeySource) (kid : String) (now : Instant) (network : Http.Network) :
    Except Error VerificationKey × KeySource × Http.Network :=
  let (keys, s, network) := s.keySet now network
  (keys.bind (pick kid), s, network)

end KeySource

end IdentityTokens
