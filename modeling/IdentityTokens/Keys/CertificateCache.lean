import IdentityTokens.Error
import IdentityTokens.Http.CacheControl
import IdentityTokens.Json.Record
import IdentityTokens.Keys.KeySet

/-!
# Cached certificates

The keys in the certificates that a server publishes, kept for as long as the server allows. A
stale set is never used; a set that was fetched replaces the one before as a whole, and a fetch
that fails leaves it as it was.

## Main definitions

* `CertificateCache`: the address of the server and the last set that was fetched.
* `CertificateCache.fresh?`: the set that may be used without a request.
* `CertificateCache.settle`: what the outcome of a request makes of the cache.
* `CertificateCache.keySet`: the keys at an instant.
-/

namespace IdentityTokens

/-- The last set that was fetched from a server. The count tells the sets apart that were stored
one after the other. -/
structure CertificateCache where
  url : String
  defaultLifetime : Duration
  stored : Option KeySet
  count : Nat
deriving DecidableEq, Repr

namespace CertificateCache

/-- The lifetime of keys where the server grants none. -/
def usualLifetime : Duration := .ofSeconds 60

/-- The cache that has fetched nothing yet. -/
def ofUrl (url : String) (defaultLifetime : Duration) : CertificateCache :=
  ⟨url, defaultLifetime, none, 0⟩

/-- The set that may be used at an instant without a request. -/
def fresh? (c : CertificateCache) (now : Instant) : Option KeySet :=
  c.stored.filter (·.isFresh now)

/-- The request for the certificates. -/
def request (c : CertificateCache) : Http.Request := .get c.url

/-- The certificates in a response, by identifier. -/
def certificates (r : Http.Response) : Except Http.Failure (NameMap (List UInt8)) :=
  match r.read Json.textMap with
  | .error failure => .error failure
  | .ok pairs => .ok (NameMap.ofList (pairs.map fun (kid, pem) => (kid, Utf8.encode pem)))

/-- The set of keys in a response that came at an instant. The deadline must be one that an
instant can express, whatever the certificates are. -/
def keysIn (c : CertificateCache) (now : Instant) (r : Http.Response) : Except Error KeySet :=
  match certificates r with
  | .error failure => .error (.keysUnavailable (.http failure))
  | .ok certs =>
    match now.add? ((CacheControl.lifetime? r).getD c.defaultLifetime) with
    | none => .error .deadlineOutOfRange
    | some deadline =>
      match KeySet.ofCertificates certs (some deadline) with
      | .error problem => .error (.keysUnavailable (.certificate problem))
      | .ok keys => .ok keys

/-- The set of keys that a request has led to. -/
def keysOf (c : CertificateCache) (now : Instant) (outcome : Except Http.Failure Http.Response) :
    Except Error KeySet :=
  match outcome with
  | .error failure => .error (.keysUnavailable (.http failure))
  | .ok response => c.keysIn now response

/-- The cache with another set in it. -/
def store (c : CertificateCache) (keys : KeySet) : CertificateCache :=
  { c with stored := some keys, count := c.count + 1 }

/-- What the outcome of a request makes of the cache: a set that was fetched is stored, a failure
changes nothing. -/
def settle (c : CertificateCache) (now : Instant) (outcome : Except Http.Failure Http.Response) :
    Except Error KeySet × CertificateCache :=
  match c.keysOf now outcome with
  | .error e => (.error e, c)
  | .ok keys => (.ok keys, c.store keys)

/-- The keys at an instant, with one request where none are fresh. -/
def keySet (c : CertificateCache) (now : Instant) (network : Http.Network) :
    Except Error KeySet × CertificateCache × Http.Network :=
  match c.fresh? now with
  | some keys => (.ok keys, c, network)
  | none =>
    let (outcome, network) := network.send c.request
    let (keys, c) := c.settle now outcome
    (keys, c, network)

end CertificateCache

end IdentityTokens
