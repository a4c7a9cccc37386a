import IdentityTokens.Proofs.Http.CacheControl
import IdentityTokens.Proofs.Json.Verbatim
import IdentityTokens.Proofs.Keys.Cache
import IdentityTokens.Proofs.Keys.Collection

/-!
# What a response grants

A response with certificates grants one set of keys: those in the certificates that it lists, each
under its identifier, up to a deadline. This is said here of the document in the body, with all its
members as they stand, of the first header that says how long the response may be kept, and of what
is under the armour of each certificate. Then it is shown that this is what a cache makes of the
response. How octets are divided into members, and a certificate into its fields, is not said again.

## Main definitions

* `Http.Response.HasTexts`, `Http.Response.Lists`: a response holds an object of texts, and lists a
  certificate under an identifier.
* `Certificate.Certifies`: an armoured certificate is one of an RSA key.
* `Lasts`: how long the keys in a response last.
* `Grants`: a response that comes at an instant grants a set of keys.
* `Unusable`: what came of a request grants nothing.
* `Leads`: what a request leads to.

## Main statements

* `Http.Response.read_textMap_iff`, `Certificate.rsaKey_eq_ok_iff`, `lasts_iff`: what is read from a
  response.
* `CertificateCache.grants_of_keysIn`: a set that is read from a response is granted by it.
* `CertificateCache.leads_keysOf`: what is made of a request is what it leads to.
* `Leads.of_unusable`, `Leads.of_overflow`, `Leads.of_grants`: a request leads to one thing only.
-/

namespace IdentityTokens

/-! ## Requests -/

namespace Http

/-- The response to a request, whatever its status. There is none if the request does not arrive
or the server hangs up. -/
def Network.reply? (n : Network) (r : Request) : Option Response :=
  match Url.parse? r.url with
  | none => none
  | some url =>
    if url.withoutUser.isSendable = true ∧ n.reaches url.withoutUser = true then
      match n.answers with
      | [] => some .notFound
      | .dropped :: _ => none
      | .response response :: _ => some response
    else none

/-- Whether a response reports an error of the client or of the server. -/
def Response.ReportsError (r : Response) : Prop := 400 ≤ r.status ∧ r.status ≤ 599

theorem Response.isError_eq_false_iff {r : Response} : r.isError = false ↔ ¬r.ReportsError := by
  simp [isError, ReportsError]

/-- A request is successful exactly when a response comes that reports no error. -/
theorem Network.send_eq_ok_iff {n : Network} {r : Request} {response : Response} :
    (n.send r).1 = .ok response ↔ n.reply? r = some response ∧ ¬response.ReportsError := by
  rw [← Response.isError_eq_false_iff]
  simp only [send, outcome, reply?]
  cases hurl : Url.parse? r.url with
  | none => simp
  | some url =>
    by_cases hsendable : url.withoutUser.isSendable = true
    · by_cases hreaches : n.reaches url.withoutUser = true
      · cases hanswers : n.answers with
        | nil =>
          have herror : Response.notFound.isError = true := rfl
          simp only [hsendable, hreaches, Bool.not_true, Bool.false_eq_true, if_false, if_true,
            and_self, reduceCtorEq, Option.some.injEq, false_iff, not_and]
          rintro rfl
          simp [herror]
        | cons answer rest =>
          cases answer with
          | dropped => simp [hsendable, hreaches]
          | response answer =>
            by_cases herror : answer.isError = true
            · simp only [hsendable, hreaches, herror, Bool.not_true, Bool.false_eq_true, if_false,
                if_true, and_self, reduceCtorEq, Option.some.injEq, false_iff, not_and]
              rintro rfl
              simp [herror]
            · simp only [Bool.not_eq_true] at herror
              simp only [hsendable, hreaches, herror, Bool.not_true, Bool.false_eq_true, if_false,
                if_true, and_self, Except.ok.injEq, Option.some.injEq]
              constructor
              · rintro rfl
                exact ⟨rfl, herror⟩
              · rintro ⟨rfl, -⟩
                rfl
      · simp [hsendable, hreaches]
    · simp [hsendable]

/-- Where all servers are in reach, the next answer is what comes of any address that can be sent
to. -/
theorem Network.send_ofAnswers {r : Request}
    (hurl : (Url.parse? r.url).any (·.withoutUser.isSendable) = true) {response : Response}
    (hsuccess : response.isError = false) (rest : List Answer) :
    ((ofAnswers (fun _ => true) (.response response :: rest)).send r).1 = .ok response := by
  obtain ⟨url, hparse, hsendable⟩ := (Option.any_eq_true _ _).mp hurl
  refine send_eq_ok_iff.mpr ⟨?_, Response.isError_eq_false_iff.mp hsuccess⟩
  simp [reply?, hparse, hsendable, ofAnswers]

/-! ## Responses -/

/-- The document in a response is an object whose values are texts: its members in their order, also
those of which the name comes again. -/
def Response.HasTexts (r : Response) (pairs : List (String × String)) : Prop :=
  Json.verbatim r.body = .ok (.object (pairs.map fun m => (m.1, .string m.2)))

/-- A response lists a certificate under an identifier: it holds an object of texts, and the
certificate is the last text of that name. -/
def Response.Lists (r : Response) (kid : String) (pem : List UInt8) : Prop :=
  ∃ before text after, r.HasTexts (before ++ (kid, text) :: after) ∧
    (∀ m ∈ after, m.1 ≠ kid) ∧ pem = Utf8.encode text

/-- A response holds one object of texts at most. -/
theorem Response.HasTexts.unique {r : Response} {pairs others : List (String × String)}
    (h : r.HasTexts pairs) (h' : r.HasTexts others) : pairs = others := by
  rw [HasTexts, ← Json.document_textMap_iff] at h h'
  exact Except.ok.inj (h.symm.trans h')

/-- A map of texts is read from a response exactly if it holds an object of these texts. -/
theorem Response.read_textMap_iff {r : Response} {pairs : List (String × String)} :
    r.read Json.textMap = .ok pairs ↔ r.HasTexts pairs := by
  rw [HasTexts, ← Json.document_textMap_iff, read]
  cases Json.document Json.textMap r.body <;> simp

end Http

/-! ## Certificates -/

namespace Certificate

/-- An armoured certificate is one of an RSA key: what is under the armour, whatever its label, is a
certificate, and it has an octet string for a key of the algorithm 1.2.840.113549.1.1.1, which
begins with a sequence of two whole numbers, the modulus and the exponent. -/
inductive Certifies (pem : List UInt8) : List UInt8 → Prop where
  | rsa {armour : Armour} {info : KeyInfo} {numbers after exponent rest : List UInt8}
      (armoured : Armour.read? pem = some armour)
      (certificate : key? armour.contents = some info)
      (algorithm : info.algorithm = [0x2A, 0x86, 0x48, 0x86, 0xF7, 0x0D, 0x01, 0x01, 0x01])
      (sequence : sequence? info.octets = some (numbers, after))
      (modulus : Ber.afterInteger? numbers = some exponent)
      (exponent : Ber.afterInteger? exponent = some rest) : Certifies pem info.octets

/-- A key is taken from an armoured certificate exactly if the certificate is one of this key. -/
theorem rsaKey_eq_ok_iff {pem encoded : List UInt8} :
    rsaKey pem = .ok encoded ↔ Certifies pem encoded := by
  have hnumbers : ∀ {octets}, holdsTwoNumbers octets = true ↔
      ∃ numbers after exponent rest, sequence? octets = some (numbers, after) ∧
        Ber.afterInteger? numbers = some exponent ∧ Ber.afterInteger? exponent = some rest := by
    intro octets
    rw [holdsTwoNumbers]
    cases sequence? octets with
    | none => simp
    | some read =>
      rw [Option.isSome_iff_exists]
      simp only [Option.bind_eq_some_iff]
      constructor
      · rintro ⟨rest, exponent, hmodulus, hexponent⟩
        exact ⟨_, _, exponent, rest, rfl, hmodulus, hexponent⟩
      · rintro ⟨numbers, after, exponent, rest, hread, hmodulus, hexponent⟩
        cases hread
        exact ⟨rest, exponent, hmodulus, hexponent⟩
  rw [rsaKey]
  constructor
  · intro h
    split at h
    · cases h
    · next armour harmour =>
      split at h
      · cases h
      · next info hinfo =>
        split at h
        · next hrsa =>
          cases h
          obtain ⟨numbers, after, exponent, rest, hsequence, hmodulus, hexponent⟩ :=
            hnumbers.mp hrsa.2
          exact .rsa harmour hinfo hrsa.1 hsequence hmodulus hexponent
        · cases h
  · rintro ⟨harmour, hinfo, halgorithm, hsequence, hmodulus, hexponent⟩
    have htwo := hnumbers.mpr ⟨_, _, _, _, hsequence, hmodulus, hexponent⟩
    simp only [harmour, hinfo]
    exact if_pos ⟨halgorithm, htwo⟩

end Certificate

/-! ## Lifetimes -/

/-- How many nanoseconds the keys in a response last: as many seconds as it may be kept, or else as
long as is usual. -/
inductive Lasts (usual : Duration) (r : Http.Response) : Int → Prop where
  | allowed {seconds : Int} (allows : CacheControl.Allows r seconds) :
      Lasts usual r (seconds * 1000000000)
  | unsaid (silent : ∀ seconds, ¬CacheControl.Allows r seconds) : Lasts usual r usual.nanos

/-- The lifetime that a response gives to keys: the one it grants, or else the usual one. -/
def lifetimeOf (usual : Duration) (r : Http.Response) : Duration :=
  (CacheControl.lifetime? r).getD usual

/-- Keys last for the lifetime that is read from the response. -/
theorem lasts_iff {usual : Duration} {r : Http.Response} {nanos : Int} :
    Lasts usual r nanos ↔ nanos = (lifetimeOf usual r).nanos := by
  rw [lifetimeOf]
  cases hlifetime : CacheControl.lifetime? r with
  | none =>
    have hsilent := CacheControl.lifetime?_eq_none_iff.mp hlifetime
    constructor
    · intro h
      cases h with
      | allowed hallows => exact (hsilent _ hallows).elim
      | unsaid _ => rfl
    · rintro rfl
      exact .unsaid hsilent
  | some lifetime =>
    obtain ⟨seconds, hallows, hnanos⟩ := CacheControl.lifetime?_eq_some_iff.mp hlifetime
    constructor
    · intro h
      cases h with
      | @allowed other hother =>
        have hsame := CacheControl.lifetime?_eq_some_iff.mpr
          ⟨other, hother, (rfl : Duration.nanos ⟨other * 1000000000⟩ = _)⟩
        cases hlifetime.symm.trans hsame
        rfl
      | unsaid hsilent => exact (hsilent _ hallows).elim
    · rintro rfl
      rw [Option.getD_some, hnanos]
      exact .allowed hallows

/-! ## Sets of keys -/

/-- A response that comes at an instant grants a set of keys: it reports no error and holds an
object of texts, each of which is a certificate of an RSA key; the set has these keys under
their identifiers and no others; and it goes stale when the keys have lasted their time. -/
structure Grants (usual : Duration) (time : Instant) (r : Http.Response) (keys : KeySet) :
    Prop where
  success : ¬r.ReportsError
  texts : ∃ pairs, r.HasTexts pairs
  certified : ∀ kid pem, r.Lists kid pem → ∃ encoded, Certificate.Certifies pem encoded
  get?_iff : ∀ kid key, keys.get? kid = some key ↔
    ∃ pem encoded, r.Lists kid pem ∧ Certificate.Certifies pem encoded ∧ key = ⟨kid, encoded⟩
  mem_iff : ∀ key, key ∈ keys.toList ↔ keys.get? key.kid = some key
  deadline : ∃ deadline, keys.expiresAt = some deadline ∧
    ∃ nanos, Lasts usual r nanos ∧ deadline.nanos = time.nanos + nanos

/-- The keys in a response that comes at an instant last longer, or end earlier, than instants
go. -/
def Overflows (usual : Duration) (time : Instant) (r : Http.Response) : Prop :=
  ∃ nanos, Lasts usual r nanos ∧ ∀ deadline : Instant, deadline.nanos ≠ time.nanos + nanos

/-- What came of a request at an instant grants nothing: there is no response, or it reports an
error, or holds no object of texts, or lists a certificate without an RSA key. The certificates
are not looked at when there is no deadline. -/
inductive Unusable (usual : Duration) (time : Instant) : Option Http.Response → Prop where
  | lost : Unusable usual time none
  | status {r : Http.Response} (error : r.ReportsError) : Unusable usual time (some r)
  | body {r : Http.Response} (texts : ∀ pairs, ¬r.HasTexts pairs) : Unusable usual time (some r)
  | certificate {r : Http.Response} {kid : String} {pem : List UInt8}
      (inRange : ¬Overflows usual time r) (listed : r.Lists kid pem)
      (keyless : ∀ encoded, ¬Certificate.Certifies pem encoded) : Unusable usual time (some r)

/-- What a request leads to, by what came of it at an instant. -/
inductive Leads (usual : Duration) (time : Instant) :
    Option Http.Response → Except Error KeySet → Prop where
  | unusable {reply : Option Http.Response} (problem : KeysProblem)
      (useless : Unusable usual time reply) :
      Leads usual time reply (.error (.keysUnavailable problem))
  | overflow {r : Http.Response} (success : ¬r.ReportsError)
      (texts : ∃ pairs, r.HasTexts pairs) (overflows : Overflows usual time r) :
      Leads usual time (some r) (.error .deadlineOutOfRange)
  | granted {r : Http.Response} {keys : KeySet} (grants : Grants usual time r keys) :
      Leads usual time (some r) (.ok keys)

/-- Keys last for one time only, so a response that grants a set has a deadline for it. -/
theorem Grants.inRange {usual : Duration} {time : Instant} {r : Http.Response} {keys : KeySet}
    (h : Grants usual time r keys) : ¬Overflows usual time r := by
  rintro ⟨nanos, hlasts, hnone⟩
  obtain ⟨deadline, -, other, hother, hdeadline⟩ := h.deadline
  rw [lasts_iff.mp hother, ← lasts_iff.mp hlasts] at hdeadline
  exact hnone deadline hdeadline

namespace CertificateCache

variable {c : CertificateCache} {now : Instant} {r : Http.Response}

theorem certificates_eq_ok_iff {certs : NameMap (List UInt8)} :
    certificates r = .ok certs ↔ ∃ pairs, r.HasTexts pairs ∧
      certs = NameMap.ofList (pairs.map fun (kid, pem) => (kid, Utf8.encode pem)) := by
  simp only [certificates, ← Http.Response.read_textMap_iff]
  cases r.read Json.textMap with
  | error failure => simp
  | ok pairs => simp [eq_comm]

theorem lookup_map_encode (pairs : List (String × String)) (kid : String) :
    (pairs.map fun (kid, pem) => (kid, Utf8.encode pem)).lookup kid =
      (pairs.lookup kid).map Utf8.encode := by
  induction pairs with
  | nil => rfl
  | cons pair rest ih =>
    obtain ⟨n, pem⟩ := pair
    by_cases h : kid = n
    · simp [h]
    · have hne : (kid == n) = false := by simp [h]
      simp only [List.map_cons, List.lookup_cons, hne]
      exact ih

/-- The map of certificates has under each identifier what the response lists there. -/
theorem find?_certificates {certs : NameMap (List UInt8)} (h : certificates r = .ok certs)
    {kid : String} {pem : List UInt8} : certs.find? kid = some pem ↔ r.Lists kid pem := by
  obtain ⟨pairs, htexts, rfl⟩ := certificates_eq_ok_iff.mp h
  simp only [NameMap.find?_ofList, ← List.map_reverse, lookup_map_encode, Option.map_eq_some_iff,
    NameMap.lookup_reverse_eq_some_iff]
  constructor
  · rintro ⟨text, ⟨before, after, rfl, hafter⟩, rfl⟩
    exact ⟨before, text, after, htexts, hafter, rfl⟩
  · rintro ⟨before, text, after, htexts', hafter, rfl⟩
    exact ⟨text, ⟨before, after, htexts.unique htexts', hafter⟩, rfl⟩

theorem ascending_certificates {certs : NameMap (List UInt8)} (h : certificates r = .ok certs) :
    certs.Ascending := by
  obtain ⟨pairs, -, rfl⟩ := certificates_eq_ok_iff.mp h
  exact NameMap.ascending_ofList _

/-- A set is read from a response when there are certificates and a deadline, and every certificate
has a key. -/
theorem keysIn_eq_ok_iff {keys : KeySet} :
    c.keysIn now r = .ok keys ↔ ∃ certs deadline,
      certificates r = .ok certs ∧ now.add? (lifetimeOf c.defaultLifetime r) = some deadline ∧
        NameMap.ofListChecked Certificate.rsaKey certs = .ok keys.keys ∧
        keys.expiresAt = some deadline := by
  obtain ⟨m, expiresAt⟩ := keys
  rw [keysIn, lifetimeOf]
  cases certificates r with
  | error failure => simp
  | ok certs =>
    cases now.add? ((CacheControl.lifetime? r).getD c.defaultLifetime) with
    | none => simp
    | some deadline =>
      simp only [KeySet.ofCertificates, KeySet.collect]
      cases hchecked : NameMap.ofListChecked Certificate.rsaKey certs with
      | error problem => simp [Except.map, hchecked]
      | ok m' => simp [Except.map, hchecked, eq_comm]

/-- A set with a lifetime is fresh when it is read. -/
theorem fresh_of_keysIn {keys : KeySet} (h : c.keysIn now r = .ok keys)
    (hpos : 0 < (lifetimeOf c.defaultLifetime r).nanos) : keys.Fresh now := by
  obtain ⟨certs, deadline, -, hdeadline, -, hexpires⟩ := keysIn_eq_ok_iff.mp h
  intro deadline' hdeadline'
  rw [hexpires] at hdeadline'
  cases hdeadline'
  rw [Instant.lt_iff, Instant.add?_eq_some_iff.mp hdeadline]
  omega

/-- The set that is read from a response is one that the response grants. -/
theorem grants_of_keysIn {keys : KeySet} (hsuccess : ¬r.ReportsError)
    (h : c.keysIn now r = .ok keys) : Grants c.defaultLifetime now r keys := by
  obtain ⟨certs, deadline, hcerts, hdeadline, hchecked, hexpires⟩ := keysIn_eq_ok_iff.mp h
  obtain ⟨pairs, htexts, -⟩ := certificates_eq_ok_iff.mp hcerts
  have hascending := ascending_certificates hcerts
  have hlists : ∀ kid pem, (kid, pem) ∈ certs ↔ r.Lists kid pem := fun kid pem =>
    hascending.find?_eq_some_iff.symm.trans (find?_certificates hcerts)
  refine ⟨hsuccess, ⟨pairs, htexts⟩, ?_, ?_,
    fun _ => KeySet.mem_toList_iff (NameMap.ascending_ofListChecked hchecked), deadline, hexpires,
    _, lasts_iff.mpr rfl, Instant.add?_eq_some_iff.mp hdeadline⟩
  · intro kid pem hlisted
    obtain ⟨encoded, hkey⟩ := NameMap.exists_ofListChecked_ok.mp ⟨_, hchecked⟩ (kid, pem)
      ((hlists kid pem).mpr hlisted)
    exact ⟨encoded, Certificate.rsaKey_eq_ok_iff.mp hkey⟩
  · intro kid key
    simp only [KeySet.get?, Option.map_eq_some_iff, NameMap.find?_ofListChecked hchecked,
      hascending.lookup_reverse, hlists, ← Certificate.rsaKey_eq_ok_iff]
    constructor
    · rintro ⟨encoded, ⟨pem, hlisted, hkey⟩, rfl⟩
      exact ⟨pem, encoded, hlisted, hkey, rfl⟩
    · rintro ⟨pem, encoded, hlisted, hkey, rfl⟩
      exact ⟨encoded, ⟨pem, hlisted, hkey⟩, rfl⟩

/-- Every way in which reading a response ends. -/
theorem leads_keysIn (hsuccess : ¬r.ReportsError) :
    Leads c.defaultLifetime now (some r) (c.keysIn now r) := by
  cases hread : c.keysIn now r with
  | ok keys => exact .granted (grants_of_keysIn hsuccess hread)
  | error e =>
    rw [keysIn] at hread
    cases hcerts : certificates r with
    | error failure =>
      simp only [hcerts, Except.error.injEq] at hread
      subst hread
      refine .unusable _ (.body ?_)
      intro pairs hpairs
      rw [certificates_eq_ok_iff.mpr ⟨pairs, hpairs, rfl⟩] at hcerts
      cases hcerts
    | ok certs =>
      obtain ⟨pairs, hpairs, -⟩ := certificates_eq_ok_iff.mp hcerts
      cases hdeadline : now.add? (lifetimeOf c.defaultLifetime r) with
      | none =>
        have hoverflows : Overflows c.defaultLifetime now r :=
          ⟨_, lasts_iff.mpr rfl, Instant.add?_eq_none_iff.mp hdeadline⟩
        rw [lifetimeOf] at hdeadline
        simp only [hcerts, hdeadline, Except.error.injEq] at hread
        subst hread
        exact .overflow hsuccess ⟨pairs, hpairs⟩ hoverflows
      | some deadline =>
        have hinRange : ¬Overflows c.defaultLifetime now r := by
          rintro ⟨nanos, hlasts, hnone⟩
          cases lasts_iff.mp hlasts
          exact hnone deadline (Instant.add?_eq_some_iff.mp hdeadline)
        rw [lifetimeOf] at hdeadline
        simp only [hcerts, hdeadline, KeySet.ofCertificates, KeySet.collect] at hread
        cases hchecked : NameMap.ofListChecked Certificate.rsaKey certs with
        | ok m => simp [hchecked, Except.map] at hread
        | error problem =>
          simp only [hchecked, Except.map, Except.error.injEq] at hread
          subst hread
          obtain ⟨kid, pem, hmem, hkeyless⟩ := NameMap.exists_mem_of_ofListChecked_error hchecked
          have hlisted : r.Lists kid pem := (find?_certificates hcerts).mp
            ((ascending_certificates hcerts).find?_eq_some_iff.mpr hmem)
          refine .unusable _ (.certificate hinRange hlisted ?_)
          intro encoded hcertifies
          rw [Certificate.rsaKey_eq_ok_iff.mpr hcertifies] at hkeyless
          cases hkeyless

/-- Every way in which a request for certificates ends. -/
theorem leads_keysOf (c : CertificateCache) (now : Instant) (n : Http.Network) :
    Leads c.defaultLifetime now (n.reply? c.request) (c.keysOf now (n.send c.request).1) := by
  cases hsend : (n.send c.request).1 with
  | error failure =>
    refine .unusable _ ?_
    cases hreply : n.reply? c.request with
    | none => exact .lost
    | some r =>
      refine .status ?_
      by_contra herror
      rw [Http.Network.send_eq_ok_iff.mpr ⟨hreply, herror⟩] at hsend
      cases hsend
  | ok r =>
    obtain ⟨hreply, hsuccess⟩ := Http.Network.send_eq_ok_iff.mp hsend
    rw [hreply]
    exact leads_keysIn hsuccess

end CertificateCache

/-! ## The ways exclude each other -/

variable {usual : Duration} {time : Instant} {reply : Option Http.Response}

/-- A request of which nothing usable came leads to a problem and to nothing else. -/
theorem Leads.of_unusable {result : Except Error KeySet} (h : Leads usual time reply result)
    (hunusable : Unusable usual time reply) :
    ∃ problem, result = .error (.keysUnavailable problem) := by
  cases h with
  | unusable problem _ => exact ⟨problem, rfl⟩
  | overflow hsuccess htexts hoverflows =>
    obtain ⟨pairs, hpairs⟩ := htexts
    cases hunusable with
    | status herror => exact absurd herror hsuccess
    | body hno => exact absurd hpairs (hno pairs)
    | certificate hinRange _ _ => exact absurd hoverflows hinRange
  | granted hgrants =>
    obtain ⟨pairs, hpairs⟩ := hgrants.texts
    cases hunusable with
    | status herror => exact absurd herror hgrants.success
    | body hno => exact absurd hpairs (hno pairs)
    | certificate _ hlisted hkeyless =>
      obtain ⟨encoded, hcertifies⟩ := hgrants.certified _ _ hlisted
      exact absurd hcertifies (hkeyless encoded)

/-- A request whose response holds texts but no deadline leads to no deadline, whatever the texts
are. -/
theorem Leads.of_overflow {r : Http.Response} {result : Except Error KeySet}
    (h : Leads usual time (some r) result) (hsuccess : ¬r.ReportsError)
    (htexts : ∃ pairs, r.HasTexts pairs) (hoverflows : Overflows usual time r) :
    result = .error .deadlineOutOfRange := by
  cases h with
  | unusable problem hunusable =>
    obtain ⟨problem', h⟩ := (Leads.overflow hsuccess htexts hoverflows).of_unusable hunusable
    cases h
  | overflow _ _ _ => rfl
  | granted hgrants =>
    exact absurd hoverflows hgrants.inRange

/-- A request to which a response comes that grants a set leads to a set. -/
theorem Leads.of_grants {r : Http.Response} {keys : KeySet} {result : Except Error KeySet}
    (h : Leads usual time (some r) result) (hgrants : Grants usual time r keys) :
    ∃ keys', result = .ok keys' ∧ Grants usual time r keys' := by
  cases h with
  | unusable problem hunusable =>
    obtain ⟨problem', h⟩ := (Leads.granted hgrants).of_unusable hunusable
    cases h
  | overflow _ _ hoverflows =>
    exact absurd hoverflows hgrants.inRange
  | granted hgrants' => exact ⟨_, rfl, hgrants'⟩

end IdentityTokens
