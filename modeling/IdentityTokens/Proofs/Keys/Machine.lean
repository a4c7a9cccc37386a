import IdentityTokens.Keys.Session
import IdentityTokens.Proofs.Keys.Grant

/-!
# The machine behind a source of keys

A source of keys from a server behaves like a machine that remembers nothing but the set it
fetched last. The machine is given by rules that speak of responses and of what they grant, and not
of how the source computes it. Its rules exclude each other, so it says for every call what
happens.

## Main definitions

* `KeyMachine`: the set that was fetched last, the clock and what lies outside.
* `KeyMachine.Asked`: one request for the certificates is sent.
* `KeyMachine.Call`: what a call for the keys gives, and the machine after it.
* `KeyMachine.Picks`: what a call for one key makes of this.
* `KeyMachine.Step`: the same for every event.

## Main statements

* `KeyMachine.Call.of_held`, `KeyMachine.Call.of_unusable`, `KeyMachine.Call.of_grants`: when a
  call ends in which way.
* `KeyMachine.call_keySet`: a call on a cache is a call on the machine.
* `KeySession.trace_machine`: every session is a trace of the machine.
-/

namespace IdentityTokens

/-- The set that was fetched last, if there is one; the instant that the clock shows; and what lies
outside. -/
structure KeyMachine where
  held : Option KeySet
  now : Instant
  network : Http.Network

namespace KeyMachine

/-- The machine needs a request: it holds no set whose deadline is still to come. -/
def Stale (m : KeyMachine) : Prop := ∀ keys, m.held = some keys → ¬keys.Fresh m.now

/-- The request for the certificates at an address. -/
def request (url : String) : Http.Request where
  method := .get
  url := url
  flavour := none
  body := ""

/-- Exactly one request is sent, the one for the certificates at an address: it is logged with what
came of it, and what lies outside is as it is after this request. -/
structure Asked (url : String) (before after : Http.Network) : Prop where
  log_eq : ∃ outcome, after.log = before.log ++ [⟨request url, outcome⟩]
  after_eq : after = (before.send (request url)).2

theorem asked_send (url : String) (n : Http.Network) : Asked url n (n.send (request url)).2 :=
  ⟨⟨_, n.log_send (request url)⟩, rfl⟩

/-- What is new in the log is the request with its outcome. -/
theorem Asked.sent {url : String} {before after : Http.Network} (h : Asked url before after) :
    after.log.drop before.log.length = [⟨request url, (before.send (request url)).1⟩] := by
  rw [h.after_eq, Http.Network.log_send, List.drop_left]

/-- A call for the keys. A set whose deadline is still to come is used, and nothing is sent.
Otherwise exactly one request is sent: if it leads to a set, this takes the place of the one held;
if not, the error is the result and the set held stays, fresh or not. -/
inductive Call (url : String) (lifetime : Duration) :
    KeyMachine → Except Error KeySet → KeyMachine → Prop where
  | held {m : KeyMachine} {keys : KeySet} (held : m.held = some keys) (fresh : keys.Fresh m.now) :
      Call url lifetime m (.ok keys) m
  | failed {m : KeyMachine} {network : Http.Network} {e : Error} (stale : m.Stale)
      (asked : Asked url m.network network)
      (leads : Leads lifetime m.now (m.network.reply? (request url)) (.error e)) :
      Call url lifetime m (.error e) { m with network }
  | fetched {m : KeyMachine} {network : Http.Network} {keys : KeySet} (stale : m.Stale)
      (asked : Asked url m.network network)
      (leads : Leads lifetime m.now (m.network.reply? (request url)) (.ok keys)) :
      Call url lifetime m (.ok keys) { m with held := some keys, network }

/-- What a call for the key under an identifier gives, by what the call for all keys gives: this
key, or that there is none, or the error. -/
inductive Picks (kid : String) : Except Error KeySet → Except Error VerificationKey → Prop where
  | found {keys : KeySet} {key : VerificationKey} (found : keys.get? kid = some key) :
      Picks kid (.ok keys) (.ok key)
  | missing {keys : KeySet} (missing : keys.get? kid = none) :
      Picks kid (.ok keys) (.error (.noMatchingKey kid))
  | failed (e : Error) : Picks kid (.error e) (.error e)

theorem picks_pick (kid : String) (result : Except Error KeySet) :
    Picks kid result (result.bind (KeySource.pick kid)) := by
  cases result with
  | error e => exact .failed e
  | ok keys =>
    rw [Except.bind, KeySource.pick]
    split
    · next hnone => exact .missing hnone
    · next key hkey => exact .found hkey

/-- What the machine does on an event, with its answer. -/
inductive Step (url : String) (lifetime : Duration) :
    KeyMachine → KeyEvent → Option KeyAnswer → KeyMachine → Prop where
  | keySet {m after : KeyMachine} {result : Except Error KeySet}
      (call : Call url lifetime m result after) :
      Step url lifetime m .keySet (some (.keys result)) after
  | getKey {m after : KeyMachine} {result : Except Error KeySet} {kid : String}
      {picked : Except Error VerificationKey} (call : Call url lifetime m result after)
      (picks : Picks kid result picked) :
      Step url lifetime m (.getKey kid) (some (.key picked)) after
  | setClock {m : KeyMachine} {now : Instant} :
      Step url lifetime m (.setClock now) none { m with now }

/-! ## The rules exclude each other -/

variable {url : String} {lifetime : Duration} {m after : KeyMachine} {result : Except Error KeySet}

theorem Call.of_held {keys : KeySet} (h : Call url lifetime m result after)
    (hheld : m.held = some keys) (hfresh : keys.Fresh m.now) : result = .ok keys ∧ after = m := by
  cases h with
  | held hheld' _ =>
    rw [hheld] at hheld'
    cases hheld'
    exact ⟨rfl, rfl⟩
  | failed hstale _ _ => exact absurd hfresh (hstale keys hheld)
  | fetched hstale _ _ => exact absurd hfresh (hstale keys hheld)

/-- A call that needs a request and gets nothing usable fails, and the set held stays. -/
theorem Call.of_unusable (h : Call url lifetime m result after) (hstale : m.Stale)
    (hunusable : Unusable lifetime m.now (m.network.reply? (request url))) :
    (∃ problem, result = .error (.keysUnavailable problem)) ∧
      ∃ network, Asked url m.network network ∧ after = { m with network } := by
  cases h with
  | held hheld hfresh => exact absurd hfresh (hstale _ hheld)
  | failed _ hasked hleads =>
    obtain ⟨problem, hproblem⟩ := hleads.of_unusable hunusable
    exact ⟨⟨problem, hproblem⟩, _, hasked, rfl⟩
  | fetched _ _ hleads =>
    obtain ⟨problem, hproblem⟩ := hleads.of_unusable hunusable
    cases hproblem

/-- A call that needs a request and is granted a set gives such a set and holds it from then on. -/
theorem Call.of_grants {r : Http.Response} {keys : KeySet} (h : Call url lifetime m result after)
    (hstale : m.Stale) (hreply : m.network.reply? (request url) = some r)
    (hgrants : Grants lifetime m.now r keys) :
    ∃ keys' network, result = .ok keys' ∧ Grants lifetime m.now r keys' ∧
      Asked url m.network network ∧ after = { m with held := some keys', network } := by
  cases h with
  | held hheld hfresh => exact absurd hfresh (hstale _ hheld)
  | failed _ _ hleads =>
    rw [hreply] at hleads
    obtain ⟨keys', hkeys', -⟩ := hleads.of_grants hgrants
    cases hkeys'
  | fetched _ hasked hleads =>
    rw [hreply] at hleads
    obtain ⟨keys', hkeys', hgrants'⟩ := hleads.of_grants hgrants
    cases hkeys'
    exact ⟨_, _, rfl, hgrants', hasked, rfl⟩

/-! ## One step -/

/-- A call on a cache is a call on the machine. -/
theorem call_keySet (c : CertificateCache) (now : Instant) (n : Http.Network) :
    Call c.url c.defaultLifetime ⟨c.stored, now, n⟩ (c.keySet now n).1
      ⟨(c.keySet now n).2.1.stored, now, (c.keySet now n).2.2⟩ := by
  cases hfresh : c.fresh? now with
  | some keys =>
    obtain ⟨hstored, hkeys⟩ := CertificateCache.fresh?_eq_some_iff.mp hfresh
    rw [CertificateCache.keySet_of_fresh hfresh]
    exact .held hstored hkeys
  | none =>
    have hstale : Stale ⟨c.stored, now, n⟩ := CertificateCache.fresh?_eq_none_iff.mp hfresh
    have hleads := c.leads_keysOf now n
    rw [CertificateCache.keySet_of_stale hfresh]
    cases hkeys : c.keysOf now (n.send c.request).1 with
    | error e =>
      rw [hkeys] at hleads
      rw [CertificateCache.settle_of_error hkeys]
      exact .failed hstale (asked_send c.url n) hleads
    | ok keys =>
      rw [hkeys] at hleads
      rw [CertificateCache.settle_of_ok hkeys]
      exact .fetched hstale (asked_send c.url n) hleads

end KeyMachine

/-! ## Sources -/

namespace KeySource

/-- The set that a source holds. -/
def held : KeySource → Option KeySet
  | .fixed keys => some keys
  | .certificates cache => cache.stored
  | .unavailable _ => none

/-- The keys of a source come from the server at an address, with a usual lifetime. -/
def Serves (url : String) (lifetime : Duration) (s : KeySource) : Prop :=
  ∃ cache, s = .certificates cache ∧ cache.url = url ∧ cache.defaultLifetime = lifetime

variable {s : KeySource}

theorem serves_ofUrl (url : String) (lifetime : Duration) :
    Serves url lifetime (.certificates (.ofUrl url lifetime)) := ⟨_, rfl, rfl, rfl⟩

theorem Serves.keySet (h : s.Serves url lifetime) (now : Instant) (n : Http.Network) :
    (s.keySet now n).2.1.Serves url lifetime := by
  obtain ⟨cache, rfl, rfl, rfl⟩ := h
  exact ⟨_, rfl, cache.url_keySet now n, cache.defaultLifetime_keySet now n⟩

/-- A call on a source is a call on the machine. -/
theorem Serves.call (h : s.Serves url lifetime) (now : Instant) (n : Http.Network) :
    KeyMachine.Call url lifetime ⟨s.held, now, n⟩ (s.keySet now n).1
      ⟨(s.keySet now n).2.1.held, now, (s.keySet now n).2.2⟩ := by
  obtain ⟨cache, rfl, rfl, rfl⟩ := h
  exact KeyMachine.call_keySet cache now n

end KeySource

/-! ## Sessions -/

namespace KeySession

/-- What the machine sees of a session. -/
def machine (s : KeySession) : KeyMachine := ⟨s.source.held, s.now, s.network⟩

theorem serves_step {s : KeySession} (h : s.source.Serves url lifetime) (e : KeyEvent) :
    (s.step e).2.source.Serves url lifetime := by
  cases e with
  | keySet => exact h.keySet s.now s.network
  | getKey kid => exact h.keySet s.now s.network
  | setClock now => exact h

/-- An event in a session is a step of the machine. -/
theorem machine_step {s : KeySession} (h : s.source.Serves url lifetime) (e : KeyEvent) :
    KeyMachine.Step url lifetime s.machine e (s.step e).1 (s.step e).2.machine := by
  cases e with
  | keySet => exact .keySet (h.call s.now s.network)
  | getKey kid => exact .getKey (h.call s.now s.network) (KeyMachine.picks_pick kid _)
  | setClock now => exact .setClock

/-- **A source of keys from a server is the machine**, over every session: whatever is asked in
whatever order, however the clock is set and whatever the server answers, the answers are those of
the machine that starts with no set, and the source ends up holding what the machine holds. -/
theorem trace_machine (url : String) (lifetime : Duration) (now : Instant) (network : Http.Network)
    (events : List KeyEvent) :
    let start : KeySession := ⟨.certificates (.ofUrl url lifetime), now, network⟩
    Trace (KeyMachine.Step url lifetime) ⟨none, now, network⟩ events
      (run step start events).1 (run step start events).2.machine := by
  intro start
  have hstart : start.source.Serves url lifetime := KeySource.serves_ofUrl url lifetime
  exact trace_run machine (fun _ e h => serves_step h e) (fun _ e h => machine_step h e) hstart
    events

deriving instance DecidableEq for KeyAnswer

namespace Sample

/-- An encoded key with the modulus 33 and the exponent 3. -/
def key : List UInt8 := [0x30, 0x06, 0x02, 0x01, 0x21, 0x02, 0x01, 0x03]

/-- A certificate with the key. -/
def certificate : List UInt8 :=
  let algorithm := [0x30, 0x03, 0x06, 0x01, 0x2A]
  let time := [0x17, 0x0D] ++ Utf8.encode "700101000000Z"
  [0x30, 0x50, 0x30, 0x46, 0x02, 0x01, 0x01] ++ algorithm ++ [0x30, 0x00, 0x30, 0x1E] ++ time ++
    time ++ [0x30, 0x00, 0x30, 0x18, 0x30, 0x0B, 0x06, 0x09] ++ Certificate.rsaEncryption ++
    [0x03, 0x09, 0x00] ++ key ++ algorithm ++ [0x03, 0x01, 0x00]

/-- A response that lists the certificate and may be kept for ninety seconds. -/
def response : Http.Response :=
  ⟨200, [("Cache-Control", "public, max-age=90")], Utf8.encode "\x7b\"k\":\"-----BEGIN C-----" ++
    Utf8.encodeChars (Base64.encodePadded Base64.standard certificate) ++
    Utf8.encode "-----END C-----\"\x7d"⟩

/-- An address at which the server gives the response, and then hangs up. -/
def address : String := "http://[::1]/"

/-- What lies outside. -/
def outside : Http.Network := .ofAnswers (fun _ => true) [.response response, .dropped]

/-- Noon of a day, the deadline of a set that is fetched then, and the moment before that. -/
def noon : Instant := ⟨43200000000000, by decide, by decide⟩
def deadline : Instant := ⟨43290000000000, by decide, by decide⟩
def lastMoment : Instant := ⟨43289999999999, by decide, by decide⟩

/-- The set of keys that the response grants at noon. -/
def keys : KeySet := ⟨[("k", key)], some deadline⟩

/-- The keys are wanted, one of them just before the deadline, all of them at the deadline, and
again after the clock was set back. -/
def events : List KeyEvent :=
  [.keySet, .setClock lastMoment, .getKey "k", .setClock deadline, .keySet, .setClock noon,
   .keySet]

/-- What comes of it. -/
def answers : List KeyAnswer :=
  [.keys (.ok keys), .key (.ok ⟨"k", key⟩),
    .keys (.error (.keysUnavailable (.http (.dropped address)))), .keys (.ok keys)]

/-- A source that has fetched nothing yet. -/
def start : KeySession :=
  ⟨.certificates (.ofUrl address CertificateCache.usualLifetime), noon, outside⟩

theorem run_start : (run step start events).1 = answers ∧
    (run step start events).2.machine.held = some keys ∧
    (run step start events).2.machine.network.log.length = 2 := by
  decide +kernel

end Sample

/-- The first call fetches the keys and the second needs no request. The third fails, and the set
that it leaves is used again once its deadline is to come. -/
theorem trace_machine_set_back :
    ∃ last, Trace (KeyMachine.Step Sample.address CertificateCache.usualLifetime)
        ⟨none, Sample.noon, Sample.outside⟩ Sample.events Sample.answers last ∧
      last.held = some Sample.keys ∧ last.network.log.length = 2 := by
  obtain ⟨hanswers, hheld, hlog⟩ := Sample.run_start
  refine ⟨(run step Sample.start Sample.events).2.machine, ?_, hheld, hlog⟩
  rw [← hanswers]
  exact trace_machine Sample.address CertificateCache.usualLifetime Sample.noon Sample.outside
    Sample.events

end KeySession

end IdentityTokens
