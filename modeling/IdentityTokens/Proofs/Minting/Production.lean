import IdentityTokens.Client.Minting
import IdentityTokens.Proofs.Token.Documents
import IdentityTokens.Proofs.Token.Joining
import Mathlib.Data.List.Nodup

/-!
# What custom tokens are made of

A token is made exactly when the request is one that is allowed and the signatory answers twice. It
then has the segments of the fixed header, of the payload and of the signature, and a reader takes
from it what was put in.

## Main definitions

* `Signatory.mintedSegments`: the segments of a token.

## Main statements

* `Signatory.mint_eq_ok_iff`: when a token is made, and which.
* `Signatory.mint_reads_back`: what is read from a token.
* `Signatory.mint_member_names`: which names occur in a payload, and how often.
-/

namespace IdentityTokens

theorem isUid_iff {uid : String} : isUid uid = true ↔ 1 ≤ uid.length ∧ uid.length ≤ 128 := by
  simp only [isUid, Bool.and_eq_true, decide_eq_true_eq]
  rfl

theorem isUid_eq_false_iff {uid : String} :
    isUid uid = false ↔ uid.length = 0 ∨ 128 < uid.length := by
  rw [← Bool.not_eq_true, isUid_iff]
  omega

theorem Client.checkRequest_eq_ok_iff {uid : String} {claims : Json.Members} :
    checkRequest uid claims = .ok () ↔ isUid uid = true ∧ CustomToken.reservedIn claims = [] := by
  rw [checkRequest]
  cases huid : isUid uid with
  | false => simp
  | true =>
    cases hreserved : CustomToken.reservedIn claims with
    | nil => simp
    | cons name names => simp

/-- A request is refused for its user first, and for its claims only if not for its user. -/
theorem Client.checkRequest_eq_error_iff {uid : String} {claims : Json.Members} {e : Error} :
    checkRequest uid claims = .error e ↔
      isUid uid = false ∧ e = .invalidUid ∨
        isUid uid = true ∧ CustomToken.reservedIn claims ≠ [] ∧
          e = .reservedClaims (CustomToken.reservedIn claims) := by
  rw [checkRequest]
  cases huid : isUid uid with
  | false => simpa using eq_comm
  | true =>
    cases hreserved : CustomToken.reservedIn claims with
    | nil => simp
    | cons name names => simpa using eq_comm

namespace Signatory

variable {σ : Type} {a : Signatory σ} {s s₁ s₂ : σ} {uid issuer token : String}
  {claims : Json.Members} {now : Instant} {signature : List UInt8}

/-! ## When a token is made -/

/-- The segments of a token. -/
def mintedSegments (issuer uid : String) (claims : Json.Members) (now : Instant)
    (signature : List UInt8) : Segments where
  header := Header.minted.encode
  payload := Segment.encodeJson (CustomToken.issue issuer uid now.seconds claims).toJson
  signature := Segment.encode signature

theorem split_mintedSegments (issuer uid : String) (claims : Json.Members) (now : Instant)
    (signature : List UInt8) :
    Segments.split (mintedSegments issuer uid claims now signature).text =
      .ok (mintedSegments issuer uid claims now signature) :=
  Segments.split_written _ _ _

/-- A request that is refused is refused before the signatory is asked for anything. -/
theorem mint_of_error {e : Error} (hcheck : Client.checkRequest uid claims = .error e) :
    a.mint s uid claims now = (.error e, s) := by
  simp only [mint, hcheck]

/-- A signatory that has no identity to give is asked for nothing else. -/
theorem mint_of_unidentified {e : Error} (hcheck : Client.checkRequest uid claims = .ok ())
    (hemail : a.email s = (.error e, s₁)) : a.mint s uid claims now = (.error e, s₁) := by
  simp only [mint, hcheck, hemail]

/-- Once the signatory has given its identity, its signature decides. -/
theorem mint_of_email (hcheck : Client.checkRequest uid claims = .ok ())
    (hemail : a.email s = (.ok issuer, s₁)) (now : Instant) :
    a.mint s uid claims now =
      ((a.sign s₁ (Utf8.encode (Client.customTokenInput issuer uid claims now))).1.map
          fun signature => (mintedSegments issuer uid claims now signature).text,
        (a.sign s₁ (Utf8.encode (Client.customTokenInput issuer uid claims now))).2) := by
  simp only [mint, hcheck, hemail]
  rcases a.sign s₁ (Utf8.encode (Client.customTokenInput issuer uid claims now)) with
    ⟨_ | signature, s₂⟩
  · rfl
  · rfl

/-- What is signed of a token that is made is its first two segments with the dot between them. -/
theorem mint_of_answers (huid : isUid uid = true) (hreserved : CustomToken.reservedIn claims = [])
    (hemail : a.email s = (.ok issuer, s₁))
    (hsign : a.sign s₁ (Utf8.encode (Client.customTokenInput issuer uid claims now)) =
      (.ok signature, s₂)) :
    a.mint s uid claims now = (.ok (mintedSegments issuer uid claims now signature).text, s₂) := by
  rw [mint_of_email (Client.checkRequest_eq_ok_iff.mpr ⟨huid, hreserved⟩) hemail, hsign]
  rfl

/-- A token is made exactly when the request is allowed and the signatory gives its identity and
then a signature. -/
theorem mint_eq_ok_iff :
    a.mint s uid claims now = (.ok token, s₂) ↔
      isUid uid = true ∧ CustomToken.reservedIn claims = [] ∧
        ∃ issuer s₁ signature, a.email s = (.ok issuer, s₁) ∧
          a.sign s₁ (Utf8.encode (Client.customTokenInput issuer uid claims now)) =
            (.ok signature, s₂) ∧
          token = (mintedSegments issuer uid claims now signature).text := by
  constructor
  · intro h
    cases hcheck : Client.checkRequest uid claims with
    | error e => simp [mint_of_error hcheck] at h
    | ok _ =>
      obtain ⟨huid, hreserved⟩ := Client.checkRequest_eq_ok_iff.mp hcheck
      rcases hemail : a.email s with ⟨identity, s₁⟩
      cases identity with
      | error e => simp [mint_of_unidentified hcheck hemail] at h
      | ok issuer =>
        rcases hsign : a.sign s₁ (Utf8.encode (Client.customTokenInput issuer uid claims now))
          with ⟨outcome, s₃⟩
        cases outcome with
        | error e => simp [mint, hcheck, hemail, hsign] at h
        | ok signature =>
          rw [mint_of_answers huid hreserved hemail hsign] at h
          cases h
          exact ⟨huid, hreserved, issuer, s₁, signature, rfl, hsign, rfl⟩
  · rintro ⟨huid, hreserved, issuer, s₁, signature, hemail, hsign, rfl⟩
    exact mint_of_answers huid hreserved hemail hsign

/-- What both answers of a signatory keep, the making of a token keeps. -/
theorem mint_keeps {kept : σ → Prop} (hemail : ∀ s, kept s → kept (a.email s).2)
    (hsign : ∀ s message, kept s → kept (a.sign s message).2) (hs : kept s) (uid : String)
    (claims : Json.Members) (now : Instant) : kept (a.mint s uid claims now).2 := by
  cases hcheck : Client.checkRequest uid claims with
  | error e => rwa [mint_of_error hcheck]
  | ok _ =>
    have hidentified := hemail s hs
    cases hidentity : a.email s with
    | mk identity s₁ =>
      rw [hidentity] at hidentified
      cases identity with
      | error e => rwa [mint_of_unidentified hcheck hidentity]
      | ok issuer =>
        rw [mint_of_email hcheck hidentity]
        exact hsign s₁ _ hidentified

/-! ## Reading back -/

theorem fitsInt64_seconds (t : Instant) :
    Numeral.fitsInt64 t.seconds = true ∧ Numeral.fitsInt64 (t.seconds + 3600) = true := by
  have hearliest := t.earliest_le
  have hlatest := t.le_latest
  rw [Numeral.fitsInt64_iff, Numeral.fitsInt64_iff, Instant.seconds]
  omega

/-- What is read from the payload of a token. -/
theorem decode_payload (hclaims : CustomToken.Exact claims)
    (hreserved : CustomToken.reservedIn claims = []) (issuer uid : String) (now : Instant) :
    IdToken.decode
        (Segment.encodeJson (CustomToken.issue issuer uid now.seconds claims).toJson) =
      .ok ⟨issuer, customTokenAudience, now.seconds + 3600, now.seconds, issuer, uid, claims⟩ :=
  CustomToken.decode_toJson (t := CustomToken.issue issuer uid now.seconds claims)
    (fitsInt64_seconds now).1 (fitsInt64_seconds now).2 hclaims hreserved

/-- **A token that is made is read back as what was put in**, whoever signs. Where the identifier
of the user has a length that is allowed, no claim is reserved or names a user, and all claims are
exact, there are two segments, of the fixed header and of the payload for the user, such that
whatever signature the signatory gives of these two with a dot between them, and of nothing else, a
token is made of all three. Times are in whole seconds, rounded toward the past. -/
theorem mint_reads_back (a : Signatory σ) (s s₁ : σ) (issuer uid : String) (claims : Json.Members)
    (now : Instant) (huid : 1 ≤ uid.length ∧ uid.length ≤ 128)
    (hreserved : CustomToken.reservedIn claims = []) (hclaims : CustomToken.Exact claims)
    (hemail : a.email s = (.ok issuer, s₁)) :
    ∃ header payload, Header.decode header = .ok ⟨"RS256", some "JWT", none⟩ ∧
      (∃ iat : Int, iat * 1000000000 ≤ now.nanos ∧ now.nanos < (iat + 1) * 1000000000 ∧
        IdToken.decode payload = .ok
          { iss := issuer, sub := issuer, aud := customTokenAudience, uid := uid, iat := iat,
            exp := iat + 3600, claims := claims }) ∧
      ∀ signature s₂,
        a.sign s₁ (Utf8.encode (header ++ "." ++ payload)) = (.ok signature, s₂) →
        ∃ token segment, a.mint s uid claims now = (.ok token, s₂) ∧
          Segments.split token = .ok ⟨header, payload, segment⟩ ∧
          Segment.decode segment = .ok signature := by
  refine ⟨Header.minted.encode,
    Segment.encodeJson (CustomToken.issue issuer uid now.seconds claims).toJson,
    Header.decode_encode Header.minted, ⟨now.seconds, ?_, ?_, ?_⟩, ?_⟩
  · rw [Instant.seconds]
    omega
  · rw [Instant.seconds]
    omega
  · exact decode_payload hclaims hreserved issuer uid now
  · intro signature s₂ hsign
    have hmint := mint_of_answers (isUid_iff.mpr huid) hreserved hemail hsign
    exact ⟨_, _, hmint, split_mintedSegments issuer uid claims now signature,
      Segment.decode_encode signature⟩

namespace Sample

/-- A client that does nothing but sign, with one answer for all messages. -/
def client : Client where
  projectId := none
  signer := .known "signer" [1, 2, 3]
  keySource := .unavailable "none"
  users := .store ⟨[], [], []⟩
  network := .ofAnswers (fun _ => false) []

/-- The last nanosecond before 1970. -/
def dusk : Instant := ⟨-1, by decide, by decide⟩

/-- Claims with the least number that is kept, and with parts. -/
def profile : Json.Members :=
  [("level", .number (.integer (-9223372036854775808))),
   ("roles", .array [.string "\"\u00e4\n", .object [("all", .null)]])]

theorem exact_profile : CustomToken.Exact profile where
  canonical := by
    have hlt : "level" < "roles" := by decide
    simp only [profile, Json.Canonical, Json.CanonicalMembers, Json.CanonicalItems,
      List.pairwise_cons, List.mem_singleton, forall_eq, hlt]
    simp
  integral := by
    simp only [profile, Json.Integral, Json.IntegralMembers, Json.IntegralItems, Json.IsWhole]
    decide
  shallow := by decide
  userless := by decide

end Sample

/-- A client makes a token before 1970. -/
theorem mint_reads_back_dusk :
    (1 ≤ "u".length ∧ "u".length ≤ 128) ∧ CustomToken.reservedIn Sample.profile = [] ∧
      CustomToken.Exact Sample.profile ∧
      Client.signatory.email Sample.client = (.ok "signer", Sample.client) ∧
      ∃ header payload token segment, Header.decode header = .ok ⟨"RS256", some "JWT", none⟩ ∧
        (∃ iat : Int, iat * 1000000000 ≤ Sample.dusk.nanos ∧
          Sample.dusk.nanos < (iat + 1) * 1000000000 ∧
          IdToken.decode payload = .ok
            { iss := "signer", sub := "signer", aud := customTokenAudience, uid := "u",
              iat := iat, exp := iat + 3600, claims := Sample.profile }) ∧
        Client.signatory.sign Sample.client (Utf8.encode (header ++ "." ++ payload)) =
          (.ok [1, 2, 3], Sample.client) ∧
        Client.signatory.mint Sample.client "u" Sample.profile Sample.dusk =
          (.ok token, Sample.client) ∧
        Segments.split token = .ok ⟨header, payload, segment⟩ ∧
        Segment.decode segment = .ok [1, 2, 3] := by
  have huid : 1 ≤ "u".length ∧ "u".length ≤ 128 := by decide
  have hreserved : CustomToken.reservedIn Sample.profile = [] := by decide
  obtain ⟨header, payload, hheader, hpayload, hmint⟩ := mint_reads_back Client.signatory
    Sample.client Sample.client "signer" "u" Sample.profile Sample.dusk huid hreserved
    Sample.exact_profile rfl
  obtain ⟨token, segment, htoken⟩ := hmint [1, 2, 3] Sample.client rfl
  exact ⟨huid, hreserved, Sample.exact_profile, rfl, header, payload, token, segment, hheader,
    hpayload, rfl, htoken⟩

/-! ## Names in the payload -/

/-- The members of the payload, the claims after the standard ones. -/
def mintedMembers (issuer uid : String) (claims : Json.Members) (now : Instant) : Json.Members :=
  (CustomToken.issue issuer uid now.seconds claims).standardMembers ++ claims

theorem names_mintedMembers (issuer uid : String) (claims : Json.Members) (now : Instant) :
    NameMap.names (mintedMembers issuer uid claims now) =
      ["iss", "sub", "aud", "uid", "iat", "exp"] ++ NameMap.names claims := by
  rw [mintedMembers, NameMap.names, List.map_append]
  rfl

theorem nodup_names (hclaims : NameMap.Ascending claims) : (NameMap.names claims).Nodup := by
  rw [NameMap.names, List.nodup_iff_pairwise_ne, List.pairwise_map]
  exact List.Pairwise.imp (fun hlt => ne_of_lt hlt) hclaims

/-- Of the standard names, claims that are not reserved can repeat that of the user only. -/
theorem eq_uid_of_mem {name : String} (hreserved : CustomToken.reservedIn claims = [])
    (hstandard : name ∈ ["iss", "sub", "aud", "uid", "iat", "exp"])
    (hname : name ∈ NameMap.names claims) : name = "uid" := by
  obtain ⟨m, hm, rfl⟩ := List.mem_map.mp hname
  have hmember : m.1 ∈ IdToken.standardNames := by
    simp only [IdToken.standardNames, List.mem_cons] at hstandard ⊢
    tauto
  exact CustomToken.eq_uid_of_standard m.1 hmember
    (CustomToken.reservedIn_eq_nil_iff.mp hreserved m hm)

theorem count_names_le_one {name : String} (hclaims : NameMap.Ascending claims)
    (hreserved : CustomToken.reservedIn claims = []) (hne : name ≠ "uid") (issuer uid : String)
    (now : Instant) : (NameMap.names (mintedMembers issuer uid claims now)).count name ≤ 1 := by
  rw [names_mintedMembers, List.count_append]
  by_cases hstandard : name ∈ ["iss", "sub", "aud", "uid", "iat", "exp"]
  · have hnot : name ∉ NameMap.names claims := fun hname =>
      hne (eq_uid_of_mem hreserved hstandard hname)
    have hdistinct : ["iss", "sub", "aud", "uid", "iat", "exp"].Nodup := by decide
    rw [List.count_eq_zero_of_not_mem hnot]
    exact List.nodup_iff_count_le_one.mp hdistinct name
  · rw [List.count_eq_zero_of_not_mem hstandard, Nat.zero_add]
    exact List.nodup_iff_count_le_one.mp (nodup_names hclaims) name

theorem nodup_names_mintedMembers_iff (hclaims : NameMap.Ascending claims)
    (hreserved : CustomToken.reservedIn claims = []) (issuer uid : String) (now : Instant) :
    (NameMap.names (mintedMembers issuer uid claims now)).Nodup ↔ claims.has "uid" = false := by
  rw [names_mintedMembers, List.nodup_append, CustomToken.has_eq_false_iff]
  constructor
  · rintro ⟨-, -, hdisjoint⟩ m hm
    exact (hdisjoint "uid" (by simp) m.1 (List.mem_map_of_mem hm)).symm
  · intro hnone
    refine ⟨by decide, nodup_names hclaims, ?_⟩
    rintro name hstandard _ hname rfl
    obtain rfl := eq_uid_of_mem hreserved hstandard hname
    obtain ⟨m, hm, heq⟩ := List.mem_map.mp hname
    exact hnone m hm heq

/-- **No accepted claim repeats a standard name but that of the user.** The document in the payload
of a token has every other name at most once. It has the name of the user with the identifier that
was checked, and once more with the value of a claim of that name if there is one; so its names are
distinct exactly when there is none. -/
theorem mint_member_names (a : Signatory σ) (s : σ) (uid token : String) (claims : Json.Members)
    (now : Instant) (hclaims : NameMap.Ascending claims)
    (htoken : (a.mint s uid claims now).1 = .ok token) :
    ∃ segments members, Segments.split token = .ok segments ∧
      segments.payload = Segment.encodeJson (.object members) ∧
      (∀ name, name ≠ "uid" → (NameMap.names members).count name ≤ 1) ∧
      members.filter (·.1 == "uid") = ("uid", .string uid) :: claims.filter (·.1 == "uid") ∧
      ((NameMap.names members).Nodup ↔ claims.has "uid" = false) := by
  have hmint : a.mint s uid claims now = (.ok token, (a.mint s uid claims now).2) :=
    Prod.ext htoken rfl
  obtain ⟨-, hreserved, issuer, s₁, signature, -, -, rfl⟩ := mint_eq_ok_iff.mp hmint
  exact ⟨_, mintedMembers issuer uid claims now,
    split_mintedSegments issuer uid claims now signature, rfl,
    fun name hne => count_names_le_one hclaims hreserved hne issuer uid now, rfl,
    nodup_names_mintedMembers_iff hclaims hreserved issuer uid now⟩

namespace Sample

/-- A claim that is not reserved. -/
def impostor : Json.Members := [("uid", .string "mallory")]

theorem mint_impostor : (Client.signatory.mint client "alice" impostor dusk).1 =
    .ok (mintedSegments "signer" "alice" impostor dusk [1, 2, 3]).text := by
  rw [mint_of_answers (by decide) (by decide) rfl rfl]

end Sample

/-- A client makes a token with a claim of the name of the user. -/
theorem mint_member_names_impostor :
    NameMap.Ascending Sample.impostor ∧
      ∃ token, (Client.signatory.mint Sample.client "alice" Sample.impostor Sample.dusk).1 =
        .ok token ∧
      ∃ segments members, Segments.split token = .ok segments ∧
        segments.payload = Segment.encodeJson (.object members) ∧
        (∀ name, name ≠ "uid" → (NameMap.names members).count name ≤ 1) ∧
        members.filter (·.1 == "uid") =
          ("uid", .string "alice") :: Sample.impostor.filter (·.1 == "uid") ∧
        ((NameMap.names members).Nodup ↔ Sample.impostor.has "uid" = false) :=
  ⟨List.pairwise_singleton _ _, _, Sample.mint_impostor,
    mint_member_names Client.signatory Sample.client "alice" _ Sample.impostor Sample.dusk
      (List.pairwise_singleton _ _) Sample.mint_impostor⟩

/-- The names in a payload need not be distinct, and the user in it need not be the one that was
checked: there is a client that accepts a claim of the name of the user. -/
theorem not_nodup_minted_names :
    ¬∀ (c : Client) (uid token : String) (claims : Json.Members) (now : Instant)
        (segments : Segments) (members : Json.Members), NameMap.Ascending claims →
      (c.customToken uid claims now).1 = .ok token → Segments.split token = .ok segments →
      segments.payload = Segment.encodeJson (.object members) →
      (NameMap.names members).Nodup ∧
        members.filter (·.1 == "uid") = [("uid", .string uid)] := by
  intro h
  obtain ⟨hnodup, -⟩ := h Sample.client "alice" _ Sample.impostor Sample.dusk _
    (mintedMembers "signer" "alice" Sample.impostor Sample.dusk) (List.pairwise_singleton _ _)
    Sample.mint_impostor (split_mintedSegments ..) rfl
  rw [names_mintedMembers] at hnodup
  exact absurd hnodup (by decide)

end Signatory

end IdentityTokens
