import IdentityTokens.Client.Session
import IdentityTokens.Proofs.Keys.Machine
import IdentityTokens.Proofs.Verification.Acceptance

/-!
# Rotation of keys

A client that has its keys from a server accepts tokens under the certificates of the last response
that granted keys, and of no response before it. The set that the client holds is always the one
that the last fetch among all verifications so far fetched; the rest follows from what a response
grants.

## Main definitions

* `Verified.Fetched`: a verification fetched a set of keys from a response.
* `LastFetch`: the last verification that fetched keys.
* `SignedUnder`: a token is signed under a certificate.
* `Session.History`: what a client holds, in view of the verifications so far.

## Main statements

* `Client.sends_keySet`: what is sent for the keys.
* `Session.History.verify`: one verification.
* `Session.accepted_under_last_certificates`: whole sessions.
-/

namespace IdentityTokens

variable {url : String} {lifetime : Duration}

/-! ## Fetches -/

/-- A verification fetched a set of keys: it sent a request to an address, and the response that
came granted the set. -/
structure Verified.Fetched (url : String) (lifetime : Duration) (v : Verified) (r : Http.Response)
    (keys : KeySet) : Prop where
  exchanged : ⟨.get url, .ok r⟩ ∈ v.exchanges
  grants : Grants lifetime v.time r keys

/-- The last of some verifications that fetched keys, the ones after it, and what it fetched. -/
structure LastFetch (url : String) (lifetime : Duration) (all : List Verified) (fetch : Verified)
    (newer : List Verified) (r : Http.Response) (keys : KeySet) : Prop where
  split : ∃ older, all = older ++ fetch :: newer
  fetched : fetch.Fetched url lifetime r keys
  last : ∀ v ∈ newer, ∀ r keys, ¬v.Fetched url lifetime r keys

/-- The set that is held is what the last fetch among some verifications fetched. -/
def Holds (url : String) (lifetime : Duration) (all : List Verified) : Option KeySet → Prop
  | none => ∀ v ∈ all, ∀ r keys, ¬v.Fetched url lifetime r keys
  | some keys => ∃ fetch newer r, LastFetch url lifetime all fetch newer r keys

/-- What is held does not change with a verification that fetches nothing. -/
theorem Holds.concat {past : List Verified} {held : Option KeySet} {v : Verified}
    (h : Holds url lifetime past held) (hv : ∀ r keys, ¬v.Fetched url lifetime r keys) :
    Holds url lifetime (past ++ [v]) held := by
  cases held with
  | none =>
    intro w hw
    rcases List.mem_append.mp hw with hw | hw
    · exact h w hw
    · rw [List.mem_singleton.mp hw]
      exact hv
  | some keys =>
    obtain ⟨fetch, newer, r, ⟨older, rfl⟩, hfetched, hlast⟩ := h
    refine ⟨fetch, newer ++ [v], r, ⟨older, by simp⟩, hfetched, ?_⟩
    intro w hw
    rcases List.mem_append.mp hw with hw | hw
    · exact hlast w hw
    · rw [List.mem_singleton.mp hw]
      exact hv

/-- A verification that fetches a set is the last that fetched one. -/
theorem Verified.Fetched.holds {v : Verified} {r : Http.Response} {keys : KeySet}
    (h : v.Fetched url lifetime r keys) (past : List Verified) :
    Holds url lifetime (past ++ [v]) (some keys) :=
  ⟨v, [], r, ⟨past, rfl⟩, h, by simp⟩

/-- A verification that itself fetched keys is the last one among those up to it. -/
theorem LastFetch.newer_eq_nil {past newer : List Verified} {v fetch : Verified}
    {r r' : Http.Response} {keys keys' : KeySet}
    (h : LastFetch url lifetime (past ++ [v]) fetch newer r keys)
    (hv : v.Fetched url lifetime r' keys') : newer = [] := by
  obtain ⟨older, hsplit⟩ := h.split
  induction newer using List.reverseRecOn with
  | nil => rfl
  | append_singleton newer w _ =>
    have hconcat : past ++ [v] = (older ++ fetch :: newer) ++ [w] := by simpa using hsplit
    have hw : v = w := by simpa using (List.append_inj' hconcat rfl).2
    exact absurd hv (hw ▸ h.last w (by simp) r' keys')

/-- Every fetch is the last one or has the last one after it. -/
theorem LastFetch.mem_of_fetched {all older newer after : List Verified} {old fetch : Verified}
    {r r' : Http.Response} {keys keys' : KeySet}
    (h : LastFetch url lifetime all fetch after r keys) (hsplit : all = older ++ old :: newer)
    (hold : old.Fetched url lifetime r' keys') : fetch ∈ old :: newer := by
  obtain ⟨before, hall⟩ := h.split
  rw [hsplit] at hall
  rcases List.append_eq_append_iff.mp hall with ⟨middle, -, hmiddle⟩ | ⟨middle, -, hmiddle⟩
  · rw [hmiddle]
    simp
  · cases middle with
    | nil =>
      simp only [List.nil_append] at hmiddle
      rw [← hmiddle]
      simp
    | cons w middle =>
      obtain ⟨-, hafter⟩ := List.cons.inj hmiddle
      exact absurd hold (h.last old (hafter ▸ by simp) r' keys')

/-! ## One verification -/

/-- A call on the machine, as a verification shows it, keeps what is held in line with the
verifications so far. The set that it gives is then the one held, and is fresh or has just been
fetched. -/
theorem KeyMachine.Call.holds {past : List Verified} {v : Verified} {m after : KeyMachine}
    {result : Except Error KeySet} (h : Call url lifetime m result after) (htime : v.time = m.now)
    (hexchanges : v.exchanges = after.network.log.drop m.network.log.length)
    (hpast : Holds url lifetime past m.held) :
    Holds url lifetime (past ++ [v]) after.held ∧
      ∀ keys, result = .ok keys → after.held = some keys ∧
        (keys.Fresh v.time ∨ ∃ r, v.Fetched url lifetime r keys) := by
  cases h with
  | held hheld hfresh =>
    refine ⟨hpast.concat ?_, ?_⟩
    · intro r keys hfetched
      have hnone : v.exchanges = [] := by rw [hexchanges, List.drop_length]
      exact absurd hfetched.exchanged (by simp [hnone])
    · intro keys hkeys
      cases hkeys
      exact ⟨hheld, .inl (htime ▸ hfresh)⟩
  | failed hstale hasked hleads =>
    refine ⟨hpast.concat ?_, fun keys hkeys => by cases hkeys⟩
    intro r keys hfetched
    have houtcome : (m.network.send (request url)).1 = .ok r := by
      have hmem := hfetched.exchanged
      rw [hexchanges, hasked.sent] at hmem
      exact (congrArg Http.Exchange.outcome (List.mem_singleton.mp hmem)).symm
    have hreply := (Http.Network.send_eq_ok_iff.mp houtcome).1
    rw [hreply] at hleads
    obtain ⟨keys', hkeys', -⟩ := hleads.of_grants (htime ▸ hfetched.grants)
    cases hkeys'
  | @fetched _ keys hstale hasked hleads =>
    generalize hreply : m.network.reply? (request url) = reply at hleads
    cases hleads with
    | @granted r _ hgrants =>
      have houtcome := Http.Network.send_eq_ok_iff.mpr ⟨hreply, hgrants.success⟩
      have hfetched : v.Fetched url lifetime r keys := by
        refine ⟨?_, htime ▸ hgrants⟩
        rw [hexchanges, hasked.sent, houtcome]
        exact List.mem_singleton_self _
      refine ⟨hfetched.holds past, ?_⟩
      intro keys hkeys
      cases hkeys
      exact ⟨rfl, .inr ⟨r, hfetched⟩⟩

/-- What a verification leaves of a client: only a token that is taken up leads to a call for the
keys. -/
theorem Client.snd_verify (c : Client) (token : String) (now : Instant) :
    (c.verify token now).2 =
      match c.receive token with
      | .error _ => c
      | .ok _ => (c.keySet now).2 := by
  rw [verify]
  cases c.receive token with
  | error e => rfl
  | ok taken =>
    obtain ⟨project, received⟩ := taken
    rcases c.keySet now with ⟨_ | _, after⟩ <;> rfl

theorem Client.fst_keySet {c : Client} {cache : CertificateCache}
    (h : c.keySource = .certificates cache) (now : Instant) :
    (c.keySet now).1 = (cache.keySet now c.network).1 := by
  rw [keySet, h]
  rfl

/-- What is asked for the keys: nothing, or one request to the server that a cache has them from. -/
theorem Client.sends_keySet (c : Client) (now : Instant) :
    ∃ sent, (c.keySet now).2.network.log = c.network.log ++ sent ∧ sent.length ≤ 1 ∧
      ∀ x ∈ sent, ∃ cache, c.keySource = .certificates cache ∧ x.request = .get cache.url := by
  rcases c with ⟨projectId, signer, keySource, users, network⟩
  cases keySource with
  | fixed keys => exact ⟨[], (List.append_nil _).symm, by simp, by simp⟩
  | unavailable reason => exact ⟨[], (List.append_nil _).symm, by simp, by simp⟩
  | certificates cache =>
    change ∃ sent, (cache.keySet now network).2.2.log = network.log ++ sent ∧ _
    cases hfresh : cache.fresh? now with
    | some keys =>
      rw [CertificateCache.keySet_of_fresh hfresh]
      exact ⟨[], (List.append_nil _).symm, by simp, by simp⟩
    | none =>
      rw [CertificateCache.keySet_of_stale hfresh]
      refine ⟨_, Http.Network.log_send network cache.request, by simp, ?_⟩
      intro x hx
      rw [List.mem_singleton.mp hx]
      exact ⟨cache, rfl, rfl⟩

namespace Session

/-- What one verification shows. -/
def verified (s : Session) (token : String) : Verified :=
  ⟨s.now, token, (s.client.verify token s.now).1,
    (s.client.verify token s.now).2.network.log.drop s.client.network.log.length⟩

/-- The session after one verification. -/
def afterVerify (s : Session) (token : String) : Session :=
  { s with client := (s.client.verify token s.now).2 }

theorem step_verify (s : Session) (token : String) :
    s.step (.verify token) = (some (s.verified token), s.afterVerify token) := rfl

/-- The client of a session has its keys from the server at an address, and holds what the last
fetch among the verifications so far fetched. -/
structure History (url : String) (lifetime : Duration) (past : List Verified) (s : Session) :
    Prop where
  serves : s.client.keySource.Serves url lifetime
  holds : Holds url lifetime past s.client.keySource.held

/-- One verification keeps the history in line. If it accepts the token, the keys under which it
does are the ones held afterwards, and they are fresh or have just been fetched. -/
theorem History.verify {past : List Verified} {s : Session} (h : History url lifetime past s)
    (token : String) :
    History url lifetime (past ++ [s.verified token]) (s.afterVerify token) ∧
      ∀ t, (s.verified token).result = .ok t → ∃ a : s.client.Acceptance token s.now,
        Holds url lifetime (past ++ [s.verified token]) (some a.keys) ∧
          (a.keys.Fresh s.now ∨ ∃ r, (s.verified token).Fetched url lifetime r a.keys) := by
  have hclient : (s.afterVerify token).client = (s.client.verify token s.now).2 := rfl
  rw [Client.snd_verify] at hclient
  cases hreceive : s.client.receive token with
  | error e =>
    rw [hreceive] at hclient
    have hexchanges : (s.verified token).exchanges = [] := by
      have hsame : (s.client.verify token s.now).2 = s.client := hclient
      simp [verified, hsame]
    refine ⟨⟨?_, ?_⟩, ?_⟩
    · rw [hclient]
      exact h.serves
    · rw [hclient]
      refine h.holds.concat ?_
      intro r keys hfetched
      exact absurd hfetched.exchanged (by simp [hexchanges])
    · intro t ht
      obtain ⟨project, received, keys, hreceived, -, -⟩ := Client.verify_eq_ok_iff_judge.mp ht
      rw [hreceive] at hreceived
      cases hreceived
  | ok taken =>
    rw [hreceive] at hclient
    have hexchanges : (s.verified token).exchanges =
        (s.client.keySource.keySet s.now s.client.network).2.2.log.drop
          s.client.network.log.length := by
      have hsame : (s.client.verify token s.now).2 = (s.client.keySet s.now).2 := hclient
      simp only [verified, hsame]
      rfl
    have hcall := h.serves.call s.now s.client.network
    obtain ⟨hholds, hkeys⟩ := hcall.holds (v := s.verified token) rfl hexchanges h.holds
    refine ⟨⟨?_, ?_⟩, ?_⟩
    · rw [hclient]
      exact h.serves.keySet s.now s.client.network
    · rw [hclient]
      exact hholds
    · intro t ht
      obtain ⟨a, -⟩ := Client.verify_eq_ok_iff.mp ht
      obtain ⟨hheld, hfresh⟩ := hkeys a.keys a.keys_eq
      rw [hheld] at hholds
      exact ⟨a, hholds, hfresh⟩

theorem history_start (url : String) (lifetime : Duration) (c : Client) (now : Instant) :
    History url lifetime []
      ⟨{ c with keySource := .certificates (.ofUrl url lifetime) }, now⟩ := by
  refine ⟨KeySource.serves_ofUrl url lifetime, ?_⟩
  intro v hv
  cases hv

theorem History.step {past : List Verified} {s : Session} (h : History url lifetime past s)
    (e : SessionEvent) : History url lifetime (past ++ (s.step e).1.toList) (s.step e).2 := by
  cases e with
  | verify token => exact (h.verify token).1
  | setClock now =>
    have hsame : History url lifetime past { s with now } := ⟨h.serves, h.holds⟩
    simpa [Session.step] using hsame

end Session

/-! ## A token that is accepted

A key of 2048 bits is made for one token: its exponent is three, and its modulus is the cube of the
signature less the padded digest. -/

namespace Sample

/-- The document in the header. -/
def headerOctets : List UInt8 := Utf8.encode "\x7b\"alg\":\"RS256\",\"kid\":\"k\"\x7d"

/-- The document in the payload. -/
def payloadOctets : List UInt8 :=
  Utf8.encode "\x7b\"iss\":\"https://securetoken.google.com/p\",\"aud\":\"p\",\"sub\":\"u\"\x7d"

/-- The digest of the text that is signed. -/
def digest : List UInt8 :=
  [114, 0, 113, 78, 254, 45, 14, 171, 239, 162, 128, 48, 72, 219, 92, 19,
   124, 187, 9, 135, 31, 232, 182, 184, 105, 203, 107, 33, 223, 86, 126, 161]

/-- The signature as a number. -/
def root : Nat := 3 * (2 ^ 227) ^ 3

/-- The modulus of the key. -/
def modulus : Nat :=
  root ^ 3 - Der.unsigned (0 :: 1 :: List.replicate 202 0xFF ++ 0 :: (Rsa.digestInfo ++ digest))

/-- The segments of the token. -/
def segments : Segments :=
  ⟨Segment.encode headerOctets, Segment.encode payloadOctets,
    Segment.encode (Sha256.bigEndian 256 root)⟩

/-- The encoded key. -/
def key : List UInt8 :=
  [0x30, 0x82, 0x01, 0x08, 0x02, 0x82, 0x01, 0x01] ++ Sha256.bigEndian 257 modulus ++
    [0x02, 0x01, 0x03]

/-- A certificate with the key. -/
def certificate : List UInt8 :=
  let algorithm := [0x30, 0x03, 0x06, 0x01, 0x2A]
  let time := [0x17, 0x0D] ++ Utf8.encode "700101000000Z"
  [0x30, 0x82, 0x01, 0x5A, 0x30, 0x82, 0x01, 0x4E, 0x02, 0x01, 0x01] ++ algorithm ++
    [0x30, 0x00, 0x30, 0x1E] ++ time ++ time ++
    [0x30, 0x00, 0x30, 0x82, 0x01, 0x1E, 0x30, 0x0B, 0x06, 0x09] ++ Certificate.rsaEncryption ++
    [0x03, 0x82, 0x01, 0x0D, 0x00] ++ key ++ algorithm ++ [0x03, 0x01, 0x00]

/-- The armoured certificate. -/
def armoured : List Char :=
  "-----BEGIN C-----".toList ++ Base64.encodePadded Base64.standard certificate ++
    "-----END C-----".toList

/-- A response that lists the certificate. -/
def response : Http.Response :=
  ⟨200, [], Utf8.encode "\x7b\"k\":\"" ++ Utf8.encodeChars armoured ++ Utf8.encode "\"\x7d"⟩

/-- The start of 1970. -/
def epoch : Instant := ⟨0, by decide, by decide⟩

/-- The address of the certificates. -/
def address : String := "http://[::1]/"

/-- The cache of the keys that the server at the address grants. -/
def cache : CertificateCache := .ofUrl address CertificateCache.usualLifetime

/-- A client whose keys come from a server that answers once. -/
def client : Client where
  projectId := some "p"
  signer := .service SigningService.usual
  keySource := .certificates cache
  users := .service ⟨userServiceUrl⟩
  network := .ofAnswers (fun _ => true) [.response response]

theorem client_eq : { client with
    keySource := .certificates (.ofUrl address CertificateCache.usualLifetime) } = client := rfl

/-- The octets of the text that is signed. -/
def input : List UInt8 :=
  (Base64.sextets headerOctets).map Base64.urlSafe.octet ++
    46 :: (Base64.sextets payloadOctets).map Base64.urlSafe.octet

theorem encode_signingInput : Utf8.encode (segments.header ++ "." ++ segments.payload) = input :=
  Segment.encode_signingInput headerOctets payloadOctets

theorem hash_input : Sha256.hash input = digest := by decide +kernel

theorem verifies_signature :
    Rsa.verifies key (Utf8.encode (segments.header ++ "." ++ segments.payload))
      (Sha256.bigEndian 256 root) = true := by
  have hkey : Rsa.PublicKey.ofDer? key = some ⟨modulus, 3⟩ := by decide +kernel
  rw [encode_signingInput, Rsa.verifies, hkey]
  simp only [Rsa.PublicKey.accepts, Rsa.paddedDigest, hash_input]
  decide +kernel

/-- The instant from which the keys are stale. -/
def deadline : Instant := ⟨60000000000, by decide, by decide⟩

/-- The set of keys that the response grants. -/
def keys : KeySet := ⟨[("k", key)], some deadline⟩

set_option maxRecDepth 10000 in
theorem read_response : response.read Json.textMap = .ok [("k", String.ofList armoured)] := by
  rfl

theorem rsaKey_armoured :
    Certificate.rsaKey (Utf8.encode (String.ofList armoured)) = .ok key := by
  have hkey : (Certificate.rsaKey (Utf8.encodeChars armoured)).toOption = some key := by
    decide +kernel
  rw [Utf8.encode, String.toList_ofList]
  cases h : Certificate.rsaKey (Utf8.encodeChars armoured) with
  | error problem => simp [h, Except.toOption] at hkey
  | ok octets => simpa [h, Except.toOption] using hkey

theorem keysIn_response : cache.keysIn epoch response = .ok keys := by
  have htexts := Http.Response.read_textMap_iff.mp read_response
  have hcerts := CertificateCache.certificates_eq_ok_iff.mpr ⟨_, htexts, rfl⟩
  rw [List.map_singleton, NameMap.ofList_singleton] at hcerts
  have hnone : CacheControl.lifetime? response = none := rfl
  have hdeadline : epoch.add? (lifetimeOf cache.defaultLifetime response) = some deadline := by
    rw [lifetimeOf, hnone]
    decide +kernel
  exact CertificateCache.keysIn_eq_ok_iff.mpr ⟨_, deadline, hcerts, hdeadline,
    NameMap.ofListChecked_singleton rsaKey_armoured "k", rfl⟩

theorem keySet_epoch : (client.keySet epoch).1 = .ok keys := by
  have hreply : client.network.reply? cache.request = some response := by decide +kernel
  have hsuccess : ¬response.ReportsError := by
    rw [← Http.Response.isError_eq_false_iff]
    rfl
  have hsend := Http.Network.send_eq_ok_iff.mpr ⟨hreply, hsuccess⟩
  have hstale : cache.fresh? epoch = none := rfl
  have hsource : client.keySource = .certificates cache := rfl
  rw [Client.fst_keySet hsource, CertificateCache.keySet_of_stale hstale]
  simp only [hsend, CertificateCache.keysOf]
  exact keysIn_response

/-- The payload that is handed out. -/
def payload : IdToken := ⟨"https://securetoken.google.com/p", "p", 0, 0, "u", "u", []⟩

theorem undotted_segments : segments.Undotted :=
  Segments.undotted_written _ _ _

theorem decode_header : Header.decode segments.header = .ok ⟨"RS256", none, some "k"⟩ := by
  rw [Header.decode, Segment.decodeJson, segments, Segment.decode_encode]
  rfl

theorem decode_payload : IdToken.decode segments.payload = .ok { payload with uid := "" } := by
  rw [IdToken.decode, Segment.decodeJson, Segment.decodeJson, segments, Segment.decode_encode]
  rfl

/-- A client that has the keys accepts the token. -/
theorem verify_of_keySet {c : Client} (hproject : c.projectId = some "p")
    (hkeys : (c.keySet epoch).1 = .ok keys) : (c.verify segments.text epoch).1 = .ok payload := by
  refine Client.verify_eq_ok_iff.mpr ⟨⟨"p", segments, _, _, Sha256.bigEndian 256 root, keys, "k",
    ⟨"k", key⟩, hproject, by decide, ?_, undotted_segments, decode_header, decode_payload,
    Segment.decode_encode _, hkeys, rfl, by decide, rfl, verifies_signature, rfl, rfl,
    by decide +kernel, by decide, by decide, by decide, by decide⟩, rfl⟩
  rw [Segments.text, Segments.signingInput]

theorem verify_token : (client.verify segments.text epoch).1 = .ok payload :=
  verify_of_keySet rfl keySet_epoch

end Sample

/-! ## Whole sessions -/

/-- The header of a token names a key, and its signature verifies under the RSA key of a
certificate. -/
def SignedUnder (token kid : String) (pem : List UInt8) : Prop :=
  ∃ s header signature encoded, Segments.split token = .ok s ∧
    Header.decode s.header = .ok header ∧ header.kid = some kid ∧
    Segment.decode s.signature = .ok signature ∧ Certificate.rsaKey pem = .ok encoded ∧
    Rsa.verifies encoded (Utf8.encode (s.header ++ "." ++ s.payload)) signature = true

/-- The certificate that a response lists under the identifier in a token, when the keys that the
response grants accept the token. -/
theorem Client.Acceptance.signedUnder {c : Client} {token : String} {now time : Instant}
    {r : Http.Response} (a : c.Acceptance token now) (h : Grants lifetime time r a.keys) :
    ∃ pem, r.Lists a.kid pem ∧ SignedUnder token a.kid pem := by
  obtain ⟨pem, encoded, hlisted, hencoded, hkey⟩ := (h.get?_iff a.kid a.key).mp a.key_eq
  refine ⟨pem, hlisted, a.segments, a.header, a.signature, encoded, ?_, a.header_eq, a.kid_eq,
    a.signature_eq, Certificate.rsaKey_eq_ok_iff.mpr hencoded, ?_⟩
  · exact Segments.split_eq_ok_iff.mpr ⟨a.token_eq, a.undotted⟩
  · have haccepts := a.accepts
    rw [hkey] at haccepts
    exact haccepts

/-- What is so of a verification that accepted a token, in view of all verifications up to it. The
token is signed under the certificate that the response of the last fetch lists for it, and the
set that was fetched is fresh or was fetched just now. And whatever was fetched at some time, from
then on some response that granted keys lists a certificate under which the token is signed. -/
structure AcceptedUnderLast (url : String) (lifetime : Duration) (all : List Verified)
    (call : Verified) (kid : String) : Prop where
  last : ∃ fetch newer r keys pem, LastFetch url lifetime all fetch newer r keys ∧
    r.Lists kid pem ∧ SignedUnder call.token kid pem ∧
    (newer = [] ∨ ∃ deadline, keys.expiresAt = some deadline ∧ call.time < deadline)
  since : ∀ older old newer r keys, all = older ++ old :: newer →
    old.Fetched url lifetime r keys → ∃ v ∈ old :: newer, ∃ r' keys' pem,
      v.Fetched url lifetime r' keys' ∧ r'.Lists kid pem ∧ SignedUnder call.token kid pem

namespace Session

/-- A verification that accepts a token does so under the last certificates. -/
theorem History.acceptedUnderLast {past : List Verified} {s : Session}
    (h : History url lifetime past s) {token : String} {t : IdToken}
    (ht : (s.verified token).result = .ok t) :
    ∃ kid, AcceptedUnderLast url lifetime (past ++ [s.verified token]) (s.verified token) kid := by
  obtain ⟨a, ⟨fetch, newer, r, hlast⟩, hfresh⟩ := (h.verify token).2 t ht
  obtain ⟨pem, hlisted, hsigned⟩ := a.signedUnder hlast.fetched.grants
  refine ⟨a.kid, ⟨fetch, newer, r, a.keys, pem, hlast, hlisted, hsigned, ?_⟩, ?_⟩
  · rcases hfresh with hfresh | ⟨r', hfetched⟩
    · obtain ⟨deadline, hdeadline, -⟩ := hlast.fetched.grants.deadline
      exact .inr ⟨deadline, hdeadline, hfresh deadline hdeadline⟩
    · exact .inl (hlast.newer_eq_nil hfetched)
  · intro older old after r' keys' hsplit hold
    exact ⟨fetch, hlast.mem_of_fetched hsplit hold, r, a.keys, pem, hlast.fetched, hlisted, hsigned⟩

/-- **Tokens are accepted under the last certificates only**, in every session of a client that has
its keys from a server: whichever tokens come, however the clock is set and whatever the server
answers. So a certificate that a response has dropped or replaced is of no use from then on, also
when later fetches fail or the clock is set back. -/
theorem accepted_under_last_certificates (url : String) (lifetime : Duration) (c : Client)
    (now : Instant) (events : List SessionEvent) (before after : List Verified) (call : Verified)
    (t : IdToken)
    (hcalls : (run step ⟨{ c with keySource := .certificates (.ofUrl url lifetime) }, now⟩
      events).1 = before ++ call :: after)
    (hok : call.result = .ok t) :
    ∃ kid, AcceptedUnderLast url lifetime (before ++ [call]) call kid := by
  have hgood : ∀ past s e answer, History url lifetime past s → (s.step e).1 = some answer →
      ∀ t, answer.result = .ok t →
        ∃ kid, AcceptedUnderLast url lifetime (past ++ [answer]) answer kid := by
    intro past s e answer h hanswer t ht
    cases e with
    | setClock now => cases hanswer
    | verify token =>
      cases hanswer
      exact h.acceptedUnderLast ht
  have hrun := run_history (fun _ _ e h => h.step e) hgood (history_start url lifetime c now) events
  simpa using hrun.2 before call after hcalls t hok

/-- The client with one answer to come accepts its token under the certificate in that answer. -/
theorem accepted_under_last_certificates_sample :
    (run step ⟨Sample.client, Sample.epoch⟩ [.verify Sample.segments.text]).1 =
        [] ++ [verified ⟨Sample.client, Sample.epoch⟩ Sample.segments.text] ∧
      (verified ⟨Sample.client, Sample.epoch⟩ Sample.segments.text).result = .ok Sample.payload ∧
      ∃ kid, AcceptedUnderLast Sample.address CertificateCache.usualLifetime
        ([] ++ [verified ⟨Sample.client, Sample.epoch⟩ Sample.segments.text])
        (verified ⟨Sample.client, Sample.epoch⟩ Sample.segments.text) kid := by
  have hrun : ∀ s : Session, (run step s [.verify Sample.segments.text]).1 =
      [] ++ [s.verified Sample.segments.text] := by
    intro s
    simp only [run, step_verify, Option.toList_some, List.append_nil, List.nil_append]
  have hresult : ∀ s : Session, (s.verified Sample.segments.text).result =
      (s.client.verify Sample.segments.text s.now).1 := fun _ => rfl
  have hok := (hresult ⟨Sample.client, Sample.epoch⟩).trans Sample.verify_token
  have haccepted := accepted_under_last_certificates Sample.address
    CertificateCache.usualLifetime Sample.client Sample.epoch [.verify Sample.segments.text] [] []
    (verified ⟨Sample.client, Sample.epoch⟩ Sample.segments.text) Sample.payload
  rw [Sample.client_eq] at haccepted
  exact ⟨hrun _, hok, haccepted (hrun _) hok⟩

end Session

end IdentityTokens
