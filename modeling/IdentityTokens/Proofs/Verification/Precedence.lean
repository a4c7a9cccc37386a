import IdentityTokens.Proofs.Token.Payload
import IdentityTokens.Proofs.Verification.Traffic

/-!
# Which error comes first

Much can be wrong with a token at once. Each thing that can be wrong is a condition of its own, on
the client, on the text, on what is read from one segment, on the keys or on one claim, and none of
them takes the others into account. Verification fails exactly if one of these objections can be
made, and its error is that of the first in a fixed order.

So an error about a claim says that the signature is right; and of a token that names no key nothing
counts but whether some key accepts the signature and whom the token is meant for.

## Main definitions

* `First`: the first of several conditions that holds.
* `Client.objections`: what can be said against a token, in order.

## Main statements

* `Client.receive_eq_error_iff`, `ReceivedToken.judge_eq_error_iff`: the order in each stage.
* `Client.verify_gives_first_error`: the order in the whole.
-/

namespace IdentityTokens

/-! ## The first of several conditions -/

section First

variable {α β : Type} {p q : α → Prop} {ps qs : List (α → Prop)} {a : α}

/-- The first of several conditions that anything meets is met. -/
inductive First : List (α → Prop) → α → Prop where
  | here {p : α → Prop} {ps : List (α → Prop)} {a : α} (holds : p a) : First (p :: ps) a
  | later {p : α → Prop} {ps : List (α → Prop)} {a : α} (none : ∀ b, ¬p b) (rest : First ps a) :
      First (p :: ps) a

theorem not_first_nil : ¬First [] a := nofun

theorem first_cons_iff : First (p :: ps) a ↔ p a ∨ (∀ b, ¬p b) ∧ First ps a := by
  constructor
  · intro h
    cases h with
    | here holds => exact .inl holds
    | later none rest => exact .inr ⟨none, rest⟩
  · rintro (holds | ⟨none, rest⟩)
    · exact .here holds
    · exact .later none rest

theorem first_singleton_iff : First [p] a ↔ p a := by
  simp [first_cons_iff, not_first_nil]

/-- A condition that only one thing meets decides. -/
theorem first_cons_of_iff {b : α} (h : ∀ a, p a ↔ a = b) : First (p :: ps) a ↔ a = b := by
  rw [first_cons_iff, h a]
  exact or_iff_left fun hlater => hlater.1 b ((h b).mpr rfl)

/-- A condition that nothing meets is passed over. -/
theorem first_cons_of_not (h : ∀ b, ¬p b) : First (p :: ps) a ↔ First ps a := by
  rw [first_cons_iff]
  exact ⟨fun hfirst => hfirst.elim (fun holds => (h a holds).elim) And.right,
    fun rest => .inr ⟨h, rest⟩⟩

theorem First.exists_mem (h : First ps a) : ∃ p ∈ ps, p a := by
  induction h with
  | here holds => exact ⟨_, List.mem_cons_self .., holds⟩
  | later _ _ ih =>
    obtain ⟨p, hp, holds⟩ := ih
    exact ⟨p, List.mem_cons_of_mem _ hp, holds⟩

theorem first_append_iff :
    First (ps ++ qs) a ↔ First ps a ∨ (∀ b, ¬First ps b) ∧ First qs a := by
  induction ps with
  | nil => simp [not_first_nil]
  | cons p ps ih =>
    have hnone : (∀ b, ¬First (p :: ps) b) ↔ (∀ b, ¬p b) ∧ ∀ b, ¬First ps b := by
      constructor
      · intro h
        have hp : ∀ b, ¬p b := fun b hb => h b (.here hb)
        exact ⟨hp, fun b hb => h b (.later hp hb)⟩
      · rintro ⟨hp, hps⟩ b hb
        exact hps b ((first_cons_of_not hp).mp hb)
    rw [List.cons_append, first_cons_iff, first_cons_iff, ih, hnone]
    tauto

/-- Conditions that the same things meet have the same first one. -/
theorem first_congr (h : List.Forall₂ (fun p q : α → Prop => ∀ a, p a ↔ q a) ps qs) :
    First ps a ↔ First qs a := by
  induction h with
  | nil => rfl
  | @cons p q ps qs hpq hrest ih =>
    rw [first_cons_iff, first_cons_iff, hpq a, ih]
    simp only [hpq]

/-- The first of several flags that is set. -/
theorem first_map_iff {flags : List (Bool × β)} {g : β → α} :
    First (flags.map fun flag a => flag.1 = true ∧ a = g flag.2) a ↔
      ∃ flag, flags.find? (·.1) = some flag ∧ a = g flag.2 := by
  induction flags with
  | nil => simp [not_first_nil]
  | cons flag flags ih =>
    obtain ⟨set, b⟩ := flag
    cases set with
    | true =>
      rw [List.map_cons, first_cons_of_iff (b := g b) (by simp), List.find?_cons_of_pos rfl]
      simp
    | false =>
      rw [List.map_cons, first_cons_of_not (by simp), ih, List.find?_cons_of_neg (by simp)]

end First

/-! ## What is read from a token -/

/-- The header that is read from a token. -/
def HasHeader (token : String) (h : Header) : Prop :=
  ∃ s, Segments.split token = .ok s ∧ Header.decode s.header = .ok h

/-- The payload that is read from a token. -/
def HasPayload (token : String) (t : IdToken) : Prop :=
  ∃ s, Segments.split token = .ok s ∧ IdToken.decode s.payload = .ok t

/-- The text that is signed in a token, and the signature that is read from it. -/
def HasSignature (token input : String) (signature : List UInt8) : Prop :=
  ∃ s, Segments.split token = .ok s ∧ input = s.header ++ "." ++ s.payload ∧
    Segment.decode s.signature = .ok signature

/-- The keys of a set that may have made a signature: the one that is named, or all. -/
def KeySet.eligible (keys : KeySet) : Option String → List VerificationKey
  | none => keys.toList
  | some kid => (keys.get? kid).toList

/-! ## Objections -/

/-- A segment of a token is not base64. -/
def NotBase64 (token : String) (segment : Segments → String) (e : Error) : Prop :=
  ∃ s problem, Segments.split token = .ok s ∧
    Segment.decode (segment s) = .error (.base64 problem) ∧ e = .malformed (.base64 problem)

/-- A segment of a token is base64, but no document of the shape wanted. -/
def NotDocument {α : Type} (token : String) (segment : Segments → String)
    (read : String → Except Segment.Error α) (e : Error) : Prop :=
  ∃ s octets fault, Segments.split token = .ok s ∧ Segment.decode (segment s) = .ok octets ∧
    read (segment s) = .error (.json fault) ∧ e = .malformed (.json fault)

namespace Client

variable (c : Client) (token : String) (now : Instant)

/-- What can be said against a client and a text before any key is looked at. -/
def textObjections : List (Error → Prop) :=
  [fun e => ¬c.HasProject ∧ e = .projectIdMissing,
   fun e => token = "" ∧ e = .emptyToken,
   fun e => token.toList.count '.' + 1 ≠ 3 ∧
    e = .malformed (.count (token.toList.count '.' + 1)),
   NotBase64 token (·.header), NotDocument token (·.header) Header.decode,
   NotBase64 token (·.payload), NotDocument token (·.payload) IdToken.decode,
   NotBase64 token (·.signature)]

/-- What can be said against the keys of a client and the signature of a token. -/
def keyObjections : List (Error → Prop) :=
  [fun e => (c.keySet now).1 = .error e,
   fun e => ∃ h kid keys, HasHeader token h ∧ h.keyId = some kid ∧ (c.keySet now).1 = .ok keys ∧
    keys.get? kid = none ∧ e = .noMatchingKey kid,
   fun e => ∃ h input signature keys, HasHeader token h ∧ HasSignature token input signature ∧
    (c.keySet now).1 = .ok keys ∧
    (∀ key ∈ keys.eligible h.keyId, key.accepts (Utf8.encode input) signature = false) ∧
    e = .invalidSignature]

/-- What can be said against the claims of a token. -/
def claimObjections : List (Error → Prop) :=
  [fun e => ∃ h t, HasHeader token h ∧ HasPayload token t ∧ h.keyId = none ∧
    e = .claim (if t.aud = customTokenAudience then .customToken else .missingKeyId),
   fun e => ∃ h, HasHeader token h ∧ h.alg ≠ signatureAlgorithm ∧ e = .claim (.algorithm h.alg),
   fun e => ∃ t project, HasPayload token t ∧ c.projectId = some project ∧ t.aud ≠ project ∧
    e = .claim (.audience project t.aud),
   fun e => ∃ t project, HasPayload token t ∧ c.projectId = some project ∧
    t.iss ≠ issuerPrefix ++ project ∧ e = .claim (.issuer (issuerPrefix ++ project) t.iss),
   fun e => ∃ t, HasPayload token t ∧ now.seconds < t.iat ∧ e = .claim (.issuedInFuture t.iat),
   fun e => ∃ t, HasPayload token t ∧ t.exp < now.seconds ∧ e = .claim (.expired t.exp),
   fun e => ∃ t, HasPayload token t ∧ t.sub = "" ∧ e = .claim .emptySubject,
   fun e => ∃ t, HasPayload token t ∧ maxUidLength < t.sub.length ∧ e = .claim .subjectTooLong]

/-- All that can be said against a token, in the order in which it is said. -/
def objections : List (Error → Prop) :=
  c.textObjections token ++ c.keyObjections token now ++ c.claimObjections token now

end Client

/-! ## Texts -/

section Segment

variable {α : Type} {token : String} {s : Segments} {segment : Segments → String}
  {read : String → Except Segment.Error α} {ps : List (Error → Prop)} {e : Error}

/-- A reader of segments fails with the error of base64 if there is one, and else finds fault with
the document. -/
def ReadsDocument (read : String → Except Segment.Error α) : Prop :=
  ∀ text e, read text = .error e ↔ Segment.decode text = .error e ∨
    ∃ octets fault, Segment.decode text = .ok octets ∧ e = .json fault ∧
      read text = .error (.json fault)

theorem readsDocument_header : ReadsDocument Header.decode := by
  intro text e
  constructor
  · intro h
    rcases Segment.decodeJson_eq_error_iff.mp h with hbase | ⟨octets, fault, hoctets, -, rfl⟩
    · exact .inl hbase
    · exact .inr ⟨octets, fault, hoctets, rfl, h⟩
  · rintro (hbase | ⟨octets, fault, hoctets, rfl, h⟩)
    · exact Segment.decodeJson_eq_error_iff.mpr (.inl hbase)
    · exact h

theorem readsDocument_payload : ReadsDocument IdToken.decode := by
  intro text e
  constructor
  · intro h
    rcases IdToken.decode_eq_error h with hbase | ⟨octets, fault, rfl, hoctets⟩
    · exact .inl hbase
    · exact .inr ⟨octets, fault, hoctets, rfl, h⟩
  · rintro (hbase | ⟨octets, fault, hoctets, rfl, h⟩)
    · rw [IdToken.decode, Segment.decodeJson_eq_error_iff.mpr (.inl hbase)]
    · exact h

theorem notBase64_iff (hsplit : Segments.split token = .ok s) :
    NotBase64 token segment e ↔
      ∃ cause, Segment.decode (segment s) = .error cause ∧ e = .malformed cause := by
  rw [NotBase64]
  simp only [hsplit, Except.ok.injEq]
  constructor
  · rintro ⟨_, problem, rfl, hbase, rfl⟩
    exact ⟨_, hbase, rfl⟩
  · rintro ⟨cause, hcause, rfl⟩
    obtain ⟨problem, rfl⟩ := Segment.exists_base64_of_decode_error hcause
    exact ⟨s, problem, rfl, hcause, rfl⟩

/-- The objections against one segment are those of its reader. -/
theorem first_segment_iff (hread : ReadsDocument read) (hsplit : Segments.split token = .ok s) :
    First (NotBase64 token segment :: NotDocument token segment read :: ps) e ↔
      (∃ cause, read (segment s) = .error cause ∧ e = .malformed cause) ∨
        (∃ a, read (segment s) = .ok a) ∧ First ps e := by
  have hdocument : ∀ e, NotDocument token segment read e ↔ ∃ octets fault,
      Segment.decode (segment s) = .ok octets ∧ read (segment s) = .error (.json fault) ∧
        e = .malformed (.json fault) := by
    intro e
    rw [NotDocument]
    simp only [hsplit, Except.ok.injEq]
    constructor
    · rintro ⟨_, octets, fault, rfl, hrest⟩
      exact ⟨octets, fault, hrest⟩
    · rintro ⟨octets, fault, hrest⟩
      exact ⟨s, octets, fault, rfl, hrest⟩
  cases hresult : read (segment s) with
  | error cause =>
    -- The reader has failed, so one of the two objections holds, whichever it is.
    suffices hfirst : First (NotBase64 token segment :: NotDocument token segment read :: ps) e ↔
        e = .malformed cause by
      simp [hfirst]
    rcases (hread _ _).mp hresult with hbase | ⟨octets, fault, hoctets, rfl, -⟩
    · exact first_cons_of_iff fun e => by simp [notBase64_iff hsplit, hbase]
    · rw [first_cons_of_not fun e => by simp [notBase64_iff hsplit, hoctets]]
      exact first_cons_of_iff fun e => by simp [hdocument, hoctets, hresult]
  | ok a =>
    have hbase : ∀ e, ¬NotBase64 token segment e := by
      intro e h
      obtain ⟨cause, hcause, -⟩ := (notBase64_iff hsplit).mp h
      rw [(hread _ _).mpr (.inl hcause)] at hresult
      cases hresult
    rw [first_cons_of_not hbase, first_cons_of_not fun e => by simp [hdocument, hresult]]
    simp

end Segment

/-- The parts of a token are read one after the other. -/
theorem ReceivedToken.ofSegments_eq_error_iff {token : String} {s : Segments} {e : Error}
    (hsplit : Segments.split token = .ok s) :
    ofSegments token s = .error e ↔
      (∃ cause, Header.decode s.header = .error cause ∧ e = .malformed cause) ∨
      (∃ h, Header.decode s.header = .ok h) ∧
        ((∃ cause, IdToken.decode s.payload = .error cause ∧ e = .malformed cause) ∨
        (∃ t, IdToken.decode s.payload = .ok t) ∧
          ∃ cause, Segment.decode s.signature = .error cause ∧ e = .malformed cause) := by
  obtain ⟨rfl, -⟩ := Segments.split_eq_ok_iff.mp hsplit
  rw [ofSegments, s.signedPart?_text]
  cases Header.decode s.header with
  | error cause => simp [eq_comm]
  | ok h =>
    cases IdToken.decode s.payload with
    | error cause => simp [eq_comm]
    | ok t =>
      cases Segment.decode s.signature with
      | error cause => simp [eq_comm]
      | ok signature => simp

namespace Client

variable {c : Client} {token : String} {now : Instant} {e : Error}

/-- A text is not taken up exactly for the first objection against it. -/
theorem receive_eq_error_iff :
    c.receive token = .error e ↔ First (c.textObjections token) e := by
  rw [receive, textObjections]
  cases hproject : c.projectId.filter (· ≠ "") with
  | none =>
    have hnone : ¬c.HasProject := by
      rintro ⟨project, hsome, hne⟩
      have hkept := Option.filter_eq_none_iff.mp hproject project hsome
      exact hkept (by simpa using hne)
    rw [first_cons_of_iff (b := .projectIdMissing) (by simp [hnone])]
    simp [eq_comm]
  | some project =>
    have hsome : c.HasProject := by
      obtain ⟨hsome, hne⟩ : c.projectId = some project ∧ project ≠ "" := by
        simpa [Option.filter_eq_some_iff] using hproject
      exact ⟨project, hsome, hne⟩
    rw [first_cons_of_not fun e h => h.1 hsome]
    by_cases htoken : token = ""
    · rw [first_cons_of_iff (b := .emptyToken) (by simp [htoken])]
      simp [htoken, eq_comm]
    rw [first_cons_of_not fun e h => htoken h.1]
    simp only [htoken, if_false, ReceivedToken.parse]
    cases hsplit : Segments.split token with
    | error cause =>
      obtain ⟨hcount, rfl⟩ := Segments.split_eq_error_iff.mp hsplit
      rw [first_cons_of_iff (b := Error.malformed (.count (token.toList.count '.' + 1)))
        fun e => and_iff_right hcount]
      simp [eq_comm]
    | ok s =>
      have hcount : ¬token.toList.count '.' + 1 ≠ 3 := by
        intro hcount
        rw [Segments.split_eq_error_iff.mpr ⟨hcount, rfl⟩] at hsplit
        cases hsplit
      rw [first_cons_of_not fun e h => hcount h.1, first_segment_iff readsDocument_header hsplit,
        first_segment_iff readsDocument_payload hsplit, first_singleton_iff, notBase64_iff hsplit,
        ← ReceivedToken.ofSegments_eq_error_iff hsplit]
      cases hparts : ReceivedToken.ofSegments token s <;> simp [hparts]

end Client

/-! ## Keys and claims -/

namespace ReceivedToken

variable {token : String} {r : ReceivedToken} {e : Error}

theorem hasHeader_iff (h : parse token = .ok r) {header : Header} :
    HasHeader token header ↔ header = r.header := by
  obtain ⟨s, rfl, hdots, hheader, -, -, -⟩ := parse_eq_ok_iff.mp h
  simp only [HasHeader, Segments.split_text hdots, Except.ok.injEq, exists_eq_left', hheader]
  exact eq_comm

theorem hasPayload_iff (h : parse token = .ok r) {payload : IdToken} :
    HasPayload token payload ↔ payload = r.payload := by
  obtain ⟨s, rfl, hdots, -, hpayload, -, -⟩ := parse_eq_ok_iff.mp h
  simp only [HasPayload, Segments.split_text hdots, Except.ok.injEq, exists_eq_left', hpayload]
  exact eq_comm

theorem hasSignature_iff (h : parse token = .ok r) {input : String} {signature : List UInt8} :
    HasSignature token input signature ↔ input = r.input ∧ signature = r.signature := by
  obtain ⟨s, rfl, hdots, -, -, hsignature, hinput⟩ := parse_eq_ok_iff.mp h
  simp only [HasSignature, Segments.split_text hdots, Except.ok.injEq, exists_eq_left', hsignature,
    hinput]
  exact and_congr_right fun _ => eq_comm

/-- A signature is right exactly if a key accepts it that may have made it. -/
theorem checkSignature_eq_ok_iff_eligible {keys : KeySet} :
    r.checkSignature keys = .ok () ↔ ∃ key ∈ keys.eligible r.header.keyId,
      key.accepts (Utf8.encode r.input) r.signature = true := by
  cases hkid : r.header.keyId with
  | none => simp [checkSignature, hkid, KeySet.eligible, isSignedBy_eq]
  | some kid => simp [checkSignature_eq_ok_iff hkid, KeySet.eligible]

/-- A signature is not right for the first objection against the keys of a client. -/
theorem checkSignature_eq_error_iff {c : Client} {now : Instant} {keys : KeySet}
    (h : parse token = .ok r) (hkeys : (c.keySet now).1 = .ok keys) :
    r.checkSignature keys = .error e ↔ First (c.keyObjections token now) e := by
  have hinvalid : ∀ e, (∃ header input signature keys', HasHeader token header ∧
      HasSignature token input signature ∧ (c.keySet now).1 = .ok keys' ∧
      (∀ key ∈ keys'.eligible header.keyId, key.accepts (Utf8.encode input) signature = false) ∧
      e = Error.invalidSignature) ↔ r.checkSignature keys ≠ .ok () ∧ e = .invalidSignature := by
    intro e
    simp [hasHeader_iff h, hasSignature_iff h, hkeys, checkSignature_eq_ok_iff_eligible]
  have hmissing : ∀ e, (∃ header kid keys', HasHeader token header ∧ header.keyId = some kid ∧
      (c.keySet now).1 = .ok keys' ∧ keys'.get? kid = none ∧ e = Error.noMatchingKey kid) ↔
        ∃ kid, r.header.keyId = some kid ∧ keys.get? kid = none ∧ e = .noMatchingKey kid := by
    intro e
    simp [hasHeader_iff h, hkeys]
  rw [Client.keyObjections, first_cons_of_not (by simp [hkeys])]
  simp only [hinvalid, hmissing]
  cases hkid : r.header.keyId with
  | none =>
    rw [first_cons_of_not (by simp), first_singleton_iff]
    by_cases hany : keys.toList.any r.isSignedBy = true
    · simp [checkSignature, hkid, hany]
    · simp [checkSignature, hkid, hany, eq_comm]
  | some kid =>
    cases hkey : keys.get? kid with
    | none =>
      rw [first_cons_of_iff (b := Error.noMatchingKey kid) (by simp [hkey])]
      simp [checkSignature, hkid, hkey, eq_comm]
    | some key =>
      rw [first_cons_of_not (by simp [hkey]), first_singleton_iff]
      by_cases hsigned : r.isSignedBy key = true
      · simp [checkSignature, hkid, hkey, hsigned]
      · simp [checkSignature, hkid, hkey, hsigned, eq_comm]

/-- Claims are not right for the first objection against them. -/
theorem checkClaims_eq_error_iff {c : Client} {now : Instant} {project : String}
    (h : parse token = .ok r) (hproject : c.projectId = some project) :
    (∃ problem, r.checkClaims project now.seconds = .error problem ∧ e = .claim problem) ↔
      First (c.claimObjections token now) e := by
  have hflags : First (c.claimObjections token now) e ↔
      First ((r.claimChecks project now.seconds).map fun check e =>
        check.1 = true ∧ e = .claim check.2) e := by
    refine first_congr ?_
    simp [Client.claimObjections, claimChecks, unnamedKey, hasHeader_iff h, hasPayload_iff h,
      hproject]
  rw [hflags, first_map_iff, checkClaims]
  cases (r.claimChecks project now.seconds).find? (·.1) <;> simp [eq_comm]

/-- A payload is not handed out for its signature first and then for its claims. -/
theorem judge_eq_error_iff {project : String} {keys : KeySet} {now : Instant} :
    r.judge project keys now = .error e ↔ r.checkSignature keys = .error e ∨
      (∀ e, ¬r.checkSignature keys = .error e) ∧
        ∃ problem, r.checkClaims project now.seconds = .error problem ∧ e = .claim problem := by
  rw [judge]
  cases r.checkSignature keys with
  | error cause => simp
  | ok done =>
    cases r.checkClaims project now.seconds with
    | error problem => simp [eq_comm]
    | ok done => simp

/-- Of a token that names no key, the signature and the audience decide. -/
theorem judge_of_unnamed {project : String} {keys : KeySet} {now : Instant}
    (hkid : r.header.keyId = none) :
    r.judge project keys now = .error
      (if ∃ key ∈ keys.toList, key.accepts (Utf8.encode r.input) r.signature = true then
        .claim (if r.payload.aud = customTokenAudience then .customToken else .missingKeyId)
      else .invalidSignature) := by
  have hclaims : r.checkClaims project now.seconds = .error r.unnamedKey := by
    simp [checkClaims, claimChecks, hkid]
  rw [judge, hclaims, unnamedKey]
  by_cases hany : ∃ key ∈ keys.toList, key.accepts (Utf8.encode r.input) r.signature = true
  · have hsigned : r.checkSignature keys = .ok () :=
      checkSignature_eq_ok_iff_eligible.mpr (by rwa [hkid, KeySet.eligible])
    rw [hsigned, if_pos hany]
  · have hsigned : r.checkSignature keys = .error .invalidSignature := by
      simpa [checkSignature, hkid, isSignedBy_eq] using hany
    rw [hsigned, if_neg hany]

end ReceivedToken

/-! ## The whole -/

theorem CertificateCache.keysOf_error {cache : CertificateCache} {now : Instant}
    {outcome : Except Http.Failure Http.Response} {e : Error}
    (h : cache.keysOf now outcome = .error e) :
    e = .deadlineOutOfRange ∨ ∃ problem, e = .keysUnavailable problem := by
  cases outcome with
  | error failure =>
    cases h
    exact .inr ⟨_, rfl⟩
  | ok response =>
    rw [keysOf, keysIn] at h
    split at h
    · cases h
      exact .inr ⟨_, rfl⟩
    · split at h
      · cases h
        exact .inl rfl
      · split at h
        · cases h
          exact .inr ⟨_, rfl⟩
        · cases h

namespace Client

/-- The errors of a source of keys are its own. -/
theorem keySet_error {c : Client} {now : Instant} {e : Error} (h : (c.keySet now).1 = .error e) :
    e = .deadlineOutOfRange ∨ ∃ problem, e = .keysUnavailable problem := by
  rw [keySet] at h
  cases hsource : c.keySource with
  | fixed keys =>
    rw [hsource] at h
    cases h
  | unavailable reason =>
    rw [hsource] at h
    cases h
    exact .inr ⟨_, rfl⟩
  | certificates cache =>
    rw [hsource] at h
    cases hfresh : cache.fresh? now with
    | some keys =>
      simp only [KeySource.keySet, CertificateCache.keySet, hfresh] at h
      cases h
    | none =>
      simp only [KeySource.keySet, CertificateCache.keySet_of_stale hfresh] at h
      exact CertificateCache.keysOf_error h

/-- No objection against a text is one against a claim. -/
theorem not_first_textObjections_claim {c : Client} {token : String} {problem : ClaimError} :
    ¬First (c.textObjections token) (.claim problem) := by
  intro h
  obtain ⟨p, hp, hholds⟩ := h.exists_mem
  simp only [textObjections, List.mem_cons, List.not_mem_nil, or_false] at hp
  rcases hp with rfl | rfl | rfl | rfl | rfl | rfl | rfl | rfl
  all_goals simp [NotBase64, NotDocument] at hholds

/-- No objection against keys or signature is one against a claim. -/
theorem not_first_keyObjections_claim {c : Client} {token : String} {now : Instant}
    {problem : ClaimError} : ¬First (c.keyObjections token now) (.claim problem) := by
  intro h
  obtain ⟨p, hp, hholds⟩ := h.exists_mem
  simp only [keyObjections, List.mem_cons, List.not_mem_nil, or_false] at hp
  rcases hp with rfl | rfl | rfl
  · rcases keySet_error hholds with heq | ⟨cause, heq⟩
    all_goals cases heq
  · simp at hholds
  · simp at hholds

/-- What is handed on to the signature decides from there. -/
theorem verify_eq_judge {c : Client} {token project : String} {now : Instant} {r : ReceivedToken}
    {keys : KeySet} (hreceive : c.receive token = .ok (project, r))
    (hkeys : (c.keySet now).1 = .ok keys) :
    (c.verify token now).1 = r.judge project keys now := by
  rw [verify, hreceive]
  rcases hset : c.keySet now with ⟨answer, after⟩
  rw [hset] at hkeys
  cases hkeys
  rfl

/-- A token is refused exactly for the first objection against it. -/
theorem verify_eq_error_iff {c : Client} {token : String} {now : Instant} {e : Error} :
    (c.verify token now).1 = .error e ↔ First (c.objections token now) e := by
  rw [objections, List.append_assoc, first_append_iff, first_append_iff]
  simp only [← receive_eq_error_iff]
  rw [verify]
  cases hreceive : c.receive token with
  | error cause => simp
  | ok taken =>
    obtain ⟨project, r⟩ := taken
    obtain ⟨hproject, -, -, hparse⟩ := receive_eq_ok_iff.mp hreceive
    rcases hkeys : c.keySet now with ⟨answer, after⟩
    cases answer with
    | error cause =>
      have hfirst : ∀ e, First (c.keyObjections token now) e ↔ e = cause :=
        fun e => first_cons_of_iff fun e => by simp [hkeys, eq_comm]
      simp [hfirst, eq_comm]
    | ok keys =>
      -- From here on objections are about what was read, and each stage waits for the one before.
      have hanswer : (c.keySet now).1 = .ok keys := by rw [hkeys]
      simp only [← ReceivedToken.checkSignature_eq_error_iff hparse hanswer,
        ← ReceivedToken.checkClaims_eq_error_iff hparse hproject, reduceCtorEq, not_false_eq_true,
        implies_true, true_and, false_or]
      exact ReceivedToken.judge_eq_error_iff

/-- **Of all objections against a token the first in a fixed order is given.** An error about a
claim is given only for a token with a right signature. Of a token that names no key nothing counts
but whether any key of the set accepts the signature and whether the token is meant for a custom
token's audience: neither the order of the keys, nor the algorithm, the other claims, the project
or the time. -/
theorem verify_gives_first_error (c : Client) (token : String) (now : Instant) :
    (∀ e, (c.verify token now).1 = .error e ↔ First (c.objections token now) e) ∧
    (∀ problem, (c.verify token now).1 = .error (.claim problem) →
      ∃ h input signature keys, HasHeader token h ∧ HasSignature token input signature ∧
        (c.keySet now).1 = .ok keys ∧ ∃ key ∈ keys.eligible h.keyId,
          key.accepts (Utf8.encode input) signature = true) ∧
    ∀ h t input signature keys, c.HasProject → HasHeader token h → HasPayload token t →
      HasSignature token input signature → (c.keySet now).1 = .ok keys → h.keyId = none →
        (c.verify token now).1 = .error
          (if ∃ key ∈ keys.toList, key.accepts (Utf8.encode input) signature = true then
            .claim (if t.aud = customTokenAudience then .customToken else .missingKeyId)
          else .invalidSignature) := by
  refine ⟨fun e => verify_eq_error_iff, ?_, ?_⟩
  · intro problem h
    rw [verify_eq_error_iff, objections, List.append_assoc, first_append_iff,
      first_append_iff] at h
    obtain ⟨htext, hrest⟩ := h.resolve_left not_first_textObjections_claim
    obtain ⟨hkey, -⟩ := hrest.resolve_left not_first_keyObjections_claim
    cases hreceive : c.receive token with
    | error cause => exact (htext cause (receive_eq_error_iff.mp hreceive)).elim
    | ok taken =>
      obtain ⟨project, r⟩ := taken
      obtain ⟨-, -, -, hparse⟩ := receive_eq_ok_iff.mp hreceive
      cases hkeys : (c.keySet now).1 with
      | error cause => exact (hkey cause (.here hkeys)).elim
      | ok keys =>
        cases hsigned : r.checkSignature keys with
        | error cause =>
          have hfirst := (ReceivedToken.checkSignature_eq_error_iff hparse hkeys).mp hsigned
          exact (hkey cause hfirst).elim
        | ok done =>
          exact ⟨r.header, r.input, r.signature, keys, (ReceivedToken.hasHeader_iff hparse).mpr rfl,
            (ReceivedToken.hasSignature_iff hparse).mpr ⟨rfl, rfl⟩, rfl,
            ReceivedToken.checkSignature_eq_ok_iff_eligible.mp hsigned⟩
  · rintro h t input signature keys ⟨project, hproject, hne⟩ ⟨s, hsplit, hheader⟩
      ⟨s', hsplit', hpayload⟩ ⟨s'', hsplit'', rfl, hsignature⟩ hkeys hkid
    cases hsplit.symm.trans hsplit'
    cases hsplit.symm.trans hsplit''
    obtain ⟨rfl, hdots⟩ := Segments.split_eq_ok_iff.mp hsplit
    have hparse : ReceivedToken.parse s.text = .ok ⟨h, t, signature, s.signingInput⟩ :=
      ReceivedToken.parse_eq_ok_iff.mpr ⟨s, rfl, hdots, hheader, hpayload, hsignature, rfl⟩
    have htext := (wellFormed_iff.mpr ⟨_, hparse⟩).ne_empty
    rw [verify_eq_judge (receive_eq_ok_iff.mpr ⟨hproject, hne, htext, hparse⟩) hkeys]
    exact ReceivedToken.judge_of_unnamed hkid

end Client

namespace Sample

/-- A second later. -/
def later : Instant := ⟨1000000000, by decide, by decide⟩

/-- A client with the keys of the token. -/
def holder : Client := { client with keySource := .fixed keys }

/-- A token that names no key, without a signature. -/
def unnamed : Segments := { unsigned with header := Segment.encode (Utf8.encode "\x7b\x7d") }

theorem decode_header_unnamed : Header.decode unnamed.header = .ok ⟨"", none, none⟩ := by
  rw [Header.decode, Segment.decodeJson, unnamed, Segment.decode_encode]
  rfl

theorem verifies_nothing (message : List UInt8) : Rsa.verifies key message [] = false := by
  have hkey : Rsa.PublicKey.ofDer? key = some ⟨modulus, 3⟩ := by decide +kernel
  have hsize : (0 == Rsa.octetLength modulus) = false := by decide +kernel
  rw [Rsa.verifies, hkey]
  simp only [Rsa.PublicKey.accepts, List.length_nil, hsize, Bool.and_false, Bool.false_and]

/-- The token has expired. -/
theorem verify_later :
    (holder.verify segments.text later).1 = .error (.claim (.expired 0)) := by
  let received : ReceivedToken :=
    ⟨⟨"RS256", none, some "k"⟩, { payload with uid := "" }, Sha256.bigEndian 256 root,
      segments.signingInput⟩
  have hparse : ReceivedToken.parse segments.text = .ok received :=
    ReceivedToken.parse_eq_ok_iff.mpr ⟨segments, rfl, undotted_segments, decode_header,
      decode_payload, Segment.decode_encode _, rfl⟩
  have hreceive : holder.receive segments.text = .ok ("p", received) :=
    Client.receive_eq_ok_iff.mpr ⟨rfl, by decide, wellFormed_segments.ne_empty, hparse⟩
  have hsigned : received.checkSignature keys = .ok () :=
    (ReceivedToken.checkSignature_eq_ok_iff rfl).mpr ⟨⟨"k", key⟩, rfl, verifies_signature⟩
  rw [Client.verify_eq_judge hreceive rfl, ReceivedToken.judge, hsigned]
  rfl

end Sample

/-- A token that has expired has a right signature; one that names no key and has no signature is
refused for that. -/
theorem Client.verify_gives_first_error_late :
    (∃ h input signature keys, HasHeader Sample.segments.text h ∧
      HasSignature Sample.segments.text input signature ∧
      (Sample.holder.keySet Sample.later).1 = .ok keys ∧
      ∃ key ∈ keys.eligible h.keyId, key.accepts (Utf8.encode input) signature = true) ∧
    (Sample.holder.verify Sample.unnamed.text Sample.later).1 = .error .invalidSignature := by
  have hsplit : Segments.split Sample.unnamed.text = .ok Sample.unnamed :=
    Segments.split_text ⟨Segment.dot_notMem_encode _, Segment.dot_notMem_encode _, by decide⟩
  have hrejects : ∀ message, ¬∃ key ∈ Sample.keys.toList, key.accepts message [] = true := by
    simp [Sample.keys, KeySet.toList, VerificationKey.accepts, Sample.verifies_nothing]
  have hunnamed := (verify_gives_first_error Sample.holder Sample.unnamed.text Sample.later).2.2
    _ _ _ _ _ ⟨"p", rfl, by decide⟩ ⟨_, hsplit, Sample.decode_header_unnamed⟩
    ⟨_, hsplit, Sample.decode_payload⟩ ⟨_, hsplit, rfl, rfl⟩ rfl rfl
  refine ⟨(verify_gives_first_error Sample.holder _ _).2.1 _ Sample.verify_later, ?_⟩
  rwa [if_neg (hrejects _)] at hunnamed

end IdentityTokens
