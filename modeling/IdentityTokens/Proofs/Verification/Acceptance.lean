import IdentityTokens.Client.Verification
import IdentityTokens.Proofs.Token.Joining

/-!
# When a token is accepted

Each step of verification succeeds exactly under a condition of its own: taking a token apart, the
signature, the claims, and the whole. An acceptance collects all that the whole requires, with the
data that the steps hand on, so that later results about accepted tokens start from its fields.

## Main definitions

* `Client.Acceptance`: everything that makes a client accept a token at an instant.

## Main statements

* `ReceivedToken.parse_eq_ok_iff`: which texts are taken apart, and into what.
* `ReceivedToken.judge_eq_ok_iff`: signature and claims together.
* `Client.verify_eq_ok_iff`: a token is accepted exactly when there is an acceptance.
-/

namespace IdentityTokens

/-! ## Signatures in text form -/

/-- A signature that is written and then checked in text form is the signature itself. -/
theorem VerificationKey.acceptsText_encode (k : VerificationKey) (message : String)
    (signature : List UInt8) :
    k.acceptsText message (Segment.encode signature) =
      k.accepts (Utf8.encode message) signature := by
  have hpadding : (Segment.encode signature).toList.contains '=' = false := by
    simpa using Segment.padding_notMem_encode signature
  have hread : Base64.decodeText Base64.urlSafe .optional (Segment.encode signature) =
      .ok signature :=
    Base64.decodeText_encode Base64.faithful_urlSafe signature
  rw [acceptsText, hpadding, hread]
  rfl

theorem Header.keyId_eq_some_iff {h : Header} {kid : String} :
    h.keyId = some kid ↔ h.kid = some kid ∧ kid ≠ "" := by
  simp [Header.keyId, Option.filter_eq_some_iff]

namespace ReceivedToken

/-! ## Taking apart -/

/-- The parts of a token with certain segments are read from these, one by one. -/
theorem ofSegments_text_eq_ok_iff {s : Segments} {t : ReceivedToken} :
    ofSegments s.text s = .ok t ↔
      Header.decode s.header = .ok t.header ∧ IdToken.decode s.payload = .ok t.payload ∧
        Segment.decode s.signature = .ok t.signature ∧ t.input = s.signingInput := by
  simp only [ofSegments, Segments.signedPart?_text]
  cases hheader : Header.decode s.header with
  | error e => simp
  | ok header =>
    cases hpayload : IdToken.decode s.payload with
    | error e => simp
    | ok payload =>
      cases hsignature : Segment.decode s.signature with
      | error e => simp
      | ok signature =>
        obtain ⟨h, p, g, i⟩ := t
        simp only [Except.ok.injEq, ReceivedToken.mk.injEq]
        constructor
        · rintro ⟨rfl, rfl, rfl, rfl⟩
          exact ⟨rfl, rfl, rfl, rfl⟩
        · rintro ⟨rfl, rfl, rfl, rfl⟩
          exact ⟨rfl, rfl, rfl, rfl⟩

/-- A text is taken apart exactly when it is the text of segments that can be read. -/
theorem parse_eq_ok_iff {token : String} {t : ReceivedToken} :
    parse token = .ok t ↔
      ∃ s : Segments, token = s.text ∧ s.Undotted ∧ Header.decode s.header = .ok t.header ∧
        IdToken.decode s.payload = .ok t.payload ∧
        Segment.decode s.signature = .ok t.signature ∧ t.input = s.signingInput := by
  constructor
  · intro h
    rw [parse] at h
    split at h
    · cases h
    · next s hs =>
      obtain ⟨rfl, hdots⟩ := Segments.split_eq_ok_iff.mp hs
      exact ⟨s, rfl, hdots, ofSegments_text_eq_ok_iff.mp h⟩
  · rintro ⟨s, rfl, hdots, hparts⟩
    rw [parse, Segments.split_text hdots]
    exact ofSegments_text_eq_ok_iff.mpr hparts

/-! ## The signature -/

theorem isSignedBy_eq (t : ReceivedToken) (key : VerificationKey) :
    t.isSignedBy key = key.accepts (Utf8.encode t.input) t.signature :=
  key.acceptsText_encode t.input t.signature

/-- The algorithm that a header names has no influence on the check of the signature. -/
theorem checkSignature_alg (t : ReceivedToken) (alg : String) (keys : KeySet) :
    ({ t with header := { t.header with alg } } : ReceivedToken).checkSignature keys =
      t.checkSignature keys := rfl

/-- Where the header names a key, the signature must be one under that very key. -/
theorem checkSignature_eq_ok_iff {t : ReceivedToken} {keys : KeySet} {kid : String}
    (hkid : t.header.keyId = some kid) :
    t.checkSignature keys = .ok () ↔
      ∃ key, keys.get? kid = some key ∧ key.accepts (Utf8.encode t.input) t.signature = true := by
  simp only [checkSignature, hkid, isSignedBy_eq]
  cases hkey : keys.get? kid with
  | none => simp
  | some key => simp

/-! ## The claims -/

/-- All claims are right: every check of the list passes. -/
theorem checkClaims_eq_ok_iff {t : ReceivedToken} {project : String} {now : Int} :
    t.checkClaims project now = .ok () ↔
      (∃ kid, t.header.keyId = some kid) ∧ t.header.alg = signatureAlgorithm ∧
        t.payload.aud = project ∧ t.payload.iss = issuerPrefix ++ project ∧
        t.payload.iat ≤ now ∧ now ≤ t.payload.exp ∧
        1 ≤ t.payload.sub.length ∧ t.payload.sub.length ≤ maxUidLength := by
  have hpasses : t.checkClaims project now = .ok () ↔
      ∀ check ∈ t.claimChecks project now, check.1 = false := by
    rw [checkClaims]
    cases hfind : (t.claimChecks project now).find? (·.1) with
    | none => simpa using List.find?_eq_none.mp hfind
    | some check =>
      have htrue : check.1 = true := by simpa using List.find?_some hfind
      have hmem := List.mem_of_find?_eq_some hfind
      constructor
      · intro h
        cases h
      · intro h
        rw [h check hmem] at htrue
        cases htrue
  have hlength : 1 ≤ t.payload.sub.length ↔ t.payload.sub ≠ "" := by
    rw [Nat.one_le_iff_ne_zero, ne_eq, String.length_eq_zero_iff]
  rw [hpasses, hlength]
  simp [claimChecks, Option.isSome_iff_exists]

/-- The payload is handed out exactly when signature and claims are right. A claim requires that
the header names a key, so the signature was checked under that key and no other. -/
theorem judge_eq_ok_iff {t : ReceivedToken} {project : String} {keys : KeySet} {now : Instant}
    {payload : IdToken} :
    t.judge project keys now = .ok payload ↔
      payload = t.accepted ∧ t.checkSignature keys = .ok () ∧
        t.checkClaims project now.seconds = .ok () := by
  rw [judge]
  cases hsignature : t.checkSignature keys with
  | error e => simp
  | ok _ =>
    cases hclaims : t.checkClaims project now.seconds with
    | error e => simp
    | ok _ => simp [eq_comm]

end ReceivedToken

/-! ## The whole -/

namespace Client

/-- Everything that makes a client accept a token at an instant: the segments of the token, what
is read from them, the keys that the client has, and why all of it is right. -/
structure Acceptance (c : Client) (token : String) (now : Instant) where
  project : String
  segments : Segments
  header : Header
  payload : IdToken
  signature : List UInt8
  keys : KeySet
  kid : String
  key : VerificationKey
  projectId_eq : c.projectId = some project
  project_ne : project ≠ ""
  token_eq : token = segments.header ++ "." ++ segments.payload ++ "." ++ segments.signature
  undotted : segments.Undotted
  header_eq : Header.decode segments.header = .ok header
  payload_eq : IdToken.decode segments.payload = .ok payload
  signature_eq : Segment.decode segments.signature = .ok signature
  keys_eq : (c.keySet now).1 = .ok keys
  kid_eq : header.kid = some kid
  kid_ne : kid ≠ ""
  key_eq : keys.get? kid = some key
  accepts : key.accepts (Utf8.encode (segments.header ++ "." ++ segments.payload)) signature = true
  alg_eq : header.alg = signatureAlgorithm
  aud_eq : payload.aud = project
  iss_eq : payload.iss = issuerPrefix ++ project
  iat_le : payload.iat ≤ now.seconds
  le_exp : now.seconds ≤ payload.exp
  one_le_sub : 1 ≤ payload.sub.length
  sub_le : payload.sub.length ≤ maxUidLength

/-- A token is taken up when there are a project and the parts of a token. -/
theorem receive_eq_ok_iff {c : Client} {token project : String} {received : ReceivedToken} :
    c.receive token = .ok (project, received) ↔
      c.projectId = some project ∧ project ≠ "" ∧ token ≠ "" ∧
        ReceivedToken.parse token = .ok received := by
  rw [receive]
  cases hproject : c.projectId.filter (· ≠ "") with
  | none =>
    have hnone : ∀ p, c.projectId = some p → p = "" := by
      simpa [Option.filter_eq_none_iff] using hproject
    simp only [reduceCtorEq, false_iff, not_and]
    intro h hne
    exact absurd (hnone project h) hne
  | some p =>
    obtain ⟨hp, hne⟩ : c.projectId = some p ∧ p ≠ "" := by
      simpa [Option.filter_eq_some_iff] using hproject
    by_cases htoken : token = ""
    · simp [htoken]
    · cases hparse : ReceivedToken.parse token with
      | error e => simp [htoken]
      | ok t =>
        simp only [htoken, if_false, Except.ok.injEq, Prod.mk.injEq, hp, Option.some.injEq]
        constructor
        · rintro ⟨rfl, rfl⟩
          exact ⟨rfl, hne, htoken, rfl⟩
        · rintro ⟨rfl, -, -, rfl⟩
          exact ⟨rfl, rfl⟩

/-- The answer of a client, in steps. -/
theorem verify_eq_ok_iff_judge {c : Client} {token : String} {now : Instant} {t : IdToken} :
    (c.verify token now).1 = .ok t ↔
      ∃ project received keys, c.receive token = .ok (project, received) ∧
        (c.keySet now).1 = .ok keys ∧ received.judge project keys now = .ok t := by
  rw [verify]
  cases hreceive : c.receive token with
  | error e => simp
  | ok taken =>
    obtain ⟨project, received⟩ := taken
    rcases hkeys : c.keySet now with ⟨answer, after⟩
    cases answer with
    | error e => simp
    | ok keys =>
      constructor
      · intro h
        exact ⟨project, received, keys, rfl, rfl, h⟩
      · rintro ⟨p, r, k, hpr, hk, h⟩
        cases hpr
        cases hk
        exact h

/-- A token is accepted exactly when there is an acceptance; its subject becomes the user. -/
theorem verify_eq_ok_iff {c : Client} {token : String} {now : Instant} {t : IdToken} :
    (c.verify token now).1 = .ok t ↔
      ∃ a : c.Acceptance token now, t = { a.payload with uid := a.payload.sub } := by
  rw [verify_eq_ok_iff_judge]
  constructor
  · rintro ⟨project, received, keys, hreceive, hkeys, hjudge⟩
    obtain ⟨hproject, hne, -, hparse⟩ := receive_eq_ok_iff.mp hreceive
    obtain ⟨s, htoken, hdots, hheader, hpayload, hsignature, hinput⟩ :=
      ReceivedToken.parse_eq_ok_iff.mp hparse
    obtain ⟨rfl, hsigned, hclaims⟩ := ReceivedToken.judge_eq_ok_iff.mp hjudge
    obtain ⟨⟨kid, hkid⟩, halg, haud, hiss, hiat, hexp, hone, hmax⟩ :=
      ReceivedToken.checkClaims_eq_ok_iff.mp hclaims
    obtain ⟨key, hkey, haccepts⟩ := (ReceivedToken.checkSignature_eq_ok_iff hkid).mp hsigned
    obtain ⟨hkid, hkidne⟩ := Header.keyId_eq_some_iff.mp hkid
    rw [hinput] at haccepts
    exact ⟨⟨project, s, received.header, received.payload, received.signature, keys, kid, key,
      hproject, hne, htoken, hdots, hheader, hpayload, hsignature, hkeys, hkid, hkidne, hkey,
      haccepts, halg, haud, hiss, hiat, hexp, hone, hmax⟩, rfl⟩
  · rintro ⟨a, rfl⟩
    let received : ReceivedToken :=
      ⟨a.header, a.payload, a.signature, a.segments.signingInput⟩
    have hkid : received.header.keyId = some a.kid :=
      Header.keyId_eq_some_iff.mpr ⟨a.kid_eq, a.kid_ne⟩
    have htoken : token ≠ "" := by
      intro h
      have hchars := congrArg String.toList (a.token_eq.symm.trans h)
      simp [String.toList_append] at hchars
    have hparse : ReceivedToken.parse token = .ok received :=
      ReceivedToken.parse_eq_ok_iff.mpr
        ⟨a.segments, a.token_eq, a.undotted, a.header_eq, a.payload_eq, a.signature_eq, rfl⟩
    refine ⟨a.project, received, a.keys, receive_eq_ok_iff.mpr
      ⟨a.projectId_eq, a.project_ne, htoken, hparse⟩, a.keys_eq, ?_⟩
    refine ReceivedToken.judge_eq_ok_iff.mpr ⟨rfl, ?_, ?_⟩
    · exact (ReceivedToken.checkSignature_eq_ok_iff hkid).mpr ⟨a.key, a.key_eq, a.accepts⟩
    · exact ReceivedToken.checkClaims_eq_ok_iff.mpr
        ⟨⟨a.kid, hkid⟩, a.alg_eq, a.aud_eq, a.iss_eq, a.iat_le, a.le_exp, a.one_le_sub, a.sub_le⟩

/-- **A client accepts exactly the tokens for which there is an acceptance**, and hands out the
payload with the subject as its user. What is cut out of a token as the signed text always lies
in it, and is its first two segments with the dot between them; and the algorithm that a header
names never changes what is checked of the signature. -/
theorem verify_accepts_exactly (c : Client) (token : String) (now : Instant) :
    (∀ t, (c.verify token now).1 = .ok t ↔
      ∃ a : c.Acceptance token now, t = { a.payload with uid := a.payload.sub }) ∧
    (∀ s, Segments.split token = .ok s →
      s.signedPart? token = some (s.header ++ "." ++ s.payload)) ∧
    (∀ (t : ReceivedToken) (alg : String) (keys : KeySet),
      ({ t with header := { t.header with alg } } : ReceivedToken).checkSignature keys =
        t.checkSignature keys) := by
  refine ⟨fun t => verify_eq_ok_iff, ?_, ReceivedToken.checkSignature_alg⟩
  intro s hs
  obtain ⟨rfl, -⟩ := Segments.split_eq_ok_iff.mp hs
  exact s.signedPart?_text

end Client

end IdentityTokens
