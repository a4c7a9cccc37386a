import IdentityTokens.Proofs.Base64.RoundTrip
import IdentityTokens.Proofs.Json.Records
import IdentityTokens.Token.CustomToken
import IdentityTokens.Token.Header
import IdentityTokens.Token.IdToken

/-!
# Reading segments that were written

A header is read from its segment as it was, whatever is in it. The payload of a custom token is
read as that of an ID token, part for part, where the developer's claims keep to what is read
exactly: whole numbers, no deep nesting, and no name that a payload gives a meaning of its own.

## Main definitions

* `CustomToken.Exact`: claims that are read as they were given.

## Main statements

* `Segment.decodeJson_encodeJson`: from a value to its segment.
* `Header.decode_encode`: headers.
* `CustomToken.decode_toJson`: payloads of custom tokens.
-/

namespace IdentityTokens

open Json (Feeds recordMember closeBrace memberBytes)

variable {α : Type}

/-! ## Segments -/

/-- What a reader takes from a value that was written it takes from the segment. -/
theorem Segment.decodeJson_encodeJson {reader : Json.Reader α} {v : Json} {a : α}
    (h : reader v.bytes = .ok (a, [])) : decodeJson reader (encodeJson v) = .ok a := by
  have hdecode : decode (encodeJson v) = .ok v.bytes := decode_encode _
  rw [decodeJson, hdecode]
  simp only [readOctets, Json.document_of_reader h]

/-- A segment that cannot be decoded is not base64. -/
theorem Segment.exists_base64_of_decode_error {segment : String} {e : Error}
    (h : decode segment = .error e) : ∃ cause, e = .base64 cause := by
  rw [decode] at h
  split at h
  · next cause hread =>
    cases h
    exact ⟨cause, rfl⟩
  · cases h

theorem Segment.decodeJson_eq_ok_iff {reader : Json.Reader α} {segment : String} {a : α} :
    decodeJson reader segment = .ok a ↔
      ∃ octets, decode segment = .ok octets ∧ Json.document reader octets = .ok a := by
  rw [decodeJson]
  cases decode segment with
  | error e => simp
  | ok octets =>
    simp only [readOctets, Except.ok.injEq, exists_eq_left']
    cases Json.document reader octets <;> simp

theorem Segment.decodeJson_eq_error_iff {reader : Json.Reader α} {segment : String} {e : Error} :
    decodeJson reader segment = .error e ↔ decode segment = .error e ∨
      ∃ octets f, decode segment = .ok octets ∧ Json.document reader octets = .error f ∧
        e = .json f := by
  rw [decodeJson]
  cases decode segment with
  | error e => simp
  | ok octets =>
    have hread : readOctets reader octets = .error e ↔
        ∃ f, Json.document reader octets = .error f ∧ e = .json f := by
      rw [readOctets]
      cases Json.document reader octets <;> simp [eq_comm]
    simpa using hread

/-! ## Headers -/

namespace Header

/-- A text that may be missing is read as it was: a member that is left out leaves the record as
it is. -/
theorem feeds_textMember {name : String} {put : Header → Option String → Header}
    {seen : List String} {state : Header} (hseen : name ∉ seen)
    (hfind : fields.find? (·.name == name) = some (.of name Json.optionalText put))
    (hnone : put state none = state) (text : Option String) :
    ∃ later, (∀ n ∈ later, n = name ∨ n ∈ seen) ∧
      Feeds closeBrace (recordMember fields) (seen, state) ((textMember name text).map memberBytes)
        (later, put state text) := by
  cases text with
  | none =>
    rw [hnone]
    exact ⟨seen, fun n hn => .inr hn, .nil _⟩
  | some s =>
    refine ⟨name :: seen, fun n hn => List.mem_cons.mp hn, ?_⟩
    exact Json.feeds_field hseen hfind (Json.Field.takes_optionalText name s put state) (.nil _)

/-- A header is read from its segment as it was. -/
theorem decode_encode (h : Header) : decode h.encode = .ok h := by
  obtain ⟨alg, typ, kid⟩ := h
  obtain ⟨seen, hseen, htyp⟩ :=
    @feeds_textMember "typ" _ ["alg"] ⟨alg, none, none⟩ (by decide) rfl rfl typ
  have hkid : "kid" ∉ seen := fun hmem => by simpa using hseen _ hmem
  obtain ⟨later, -, hlast⟩ := @feeds_textMember "kid" _ seen ⟨alg, typ, none⟩ hkid rfl rfl kid
  have hall : Feeds closeBrace (recordMember fields) ([], blank)
      ((("alg", Json.string alg) :: textMember "typ" typ ++ textMember "kid" kid).map memberBytes)
      (later, ⟨alg, typ, kid⟩) := by
    rw [List.cons_append, List.map_cons, List.map_append]
    exact Json.feeds_field (by decide) rfl (Json.Field.takes_text ..) (htyp.append hlast)
  have hread := Json.record_bytes hall []
  rw [List.append_nil] at hread
  exact Segment.decodeJson_encodeJson hread

end Header

/-! ## Payloads -/

namespace CustomToken

/-- Claims that are read from a payload as they were given. Their names ascend, as maps keep them,
also in the objects among their values; every number is whole and of the range that is kept; no
value is nested so deep that the payload around it cannot be read; and none of them is taken for
the user. -/
structure Exact (claims : Json.Members) : Prop where
  canonical : Json.Canonical (.object claims)
  integral : Json.Integral (.object claims)
  shallow : ∀ m ∈ claims, Json.depth m.2 ≤ 126
  userless : claims.has "uid" = false

theorem has_eq_false_iff {claims : Json.Members} {name : String} :
    claims.has name = false ↔ ∀ m ∈ claims, m.1 ≠ name := by
  simp [NameMap.has]

theorem reservedIn_eq_nil_iff {claims : Json.Members} :
    reservedIn claims = [] ↔ ∀ m ∈ claims, m.1 ∉ reservedNames := by
  simp only [reservedIn, List.filter_eq_nil_iff, Bool.not_eq_true, has_eq_false_iff]
  constructor
  · intro h m hm hname
    exact h m.1 hname m hm rfl
  · rintro h name hname m hm rfl
    exact h m hm hname

/-- All names with a meaning of their own but one are reserved. -/
theorem eq_uid_of_standard :
    ∀ name ∈ IdToken.standardNames, name ∉ reservedNames → name = "uid" := by
  decide

theorem Exact.notMem_standardNames {claims : Json.Members} (h : Exact claims)
    (hreserved : reservedIn claims = []) : ∀ m ∈ claims, m.1 ∉ IdToken.standardNames := by
  intro m hm hstandard
  have huid := eq_uid_of_standard m.1 hstandard (reservedIn_eq_nil_iff.mp hreserved m hm)
  exact has_eq_false_iff.mp h.userless m hm huid

/-- The members of a payload that come before the developer's claims. -/
def standardMembers (t : CustomToken) : List (String × Json) :=
  [("iss", .string t.iss), ("sub", .string t.sub), ("aud", .string t.aud), ("uid", .string t.uid),
    ("iat", .number (.integer t.iat)), ("exp", .number (.integer t.exp))]

/-- The payload as that of an ID token: both give the same names the same meaning. -/
def asIdToken (t : CustomToken) : IdToken := ⟨t.iss, t.aud, t.exp, t.iat, t.sub, t.uid, t.claims⟩

variable {t : CustomToken}

/-- The members before the claims have texts and whole numbers for values. -/
theorem eq_of_mem_standardMembers (hiat : Numeral.fitsInt64 t.iat = true)
    (hexp : Numeral.fitsInt64 t.exp = true) {m : String × Json} (hm : m ∈ t.standardMembers) :
    (∃ s, m.2 = .string s) ∨
      ∃ n, m.2 = .number (.integer n) ∧ Numeral.fitsInt64 n = true := by
  simp only [standardMembers, List.mem_cons, List.not_mem_nil, or_false] at hm
  rcases hm with rfl | rfl | rfl | rfl | rfl | rfl
  · exact .inl ⟨t.iss, rfl⟩
  · exact .inl ⟨t.sub, rfl⟩
  · exact .inl ⟨t.aud, rfl⟩
  · exact .inl ⟨t.uid, rfl⟩
  · exact .inr ⟨t.iat, rfl, hiat⟩
  · exact .inr ⟨t.exp, rfl, hexp⟩

theorem feeds_standardMembers (hiat : Numeral.fitsInt64 t.iat = true)
    (hexp : Numeral.fitsInt64 t.exp = true) :
    Feeds closeBrace (recordMember IdToken.fields) ([], IdToken.blank)
      (t.standardMembers.map memberBytes)
      (["exp", "iat", "uid", "aud", "sub", "iss"], { t.asIdToken with claims := [] }) := by
  refine Json.feeds_field (by decide) rfl (Json.Field.takes_text ..) ?_
  refine Json.feeds_field (by decide) rfl (Json.Field.takes_text ..) ?_
  refine Json.feeds_field (by decide) rfl (Json.Field.takes_text ..) ?_
  refine Json.feeds_field (by decide) rfl (Json.Field.takes_text ..) ?_
  refine Json.feeds_field (by decide) rfl (Json.Field.takes_int64 hiat ..) ?_
  refine Json.feeds_field (by decide) rfl (Json.Field.takes_int64 hexp ..) ?_
  exact .nil _

/-- A value of a claim is read as it was given. -/
theorem Exact.readsAs {claims : Json.Members} (h : Exact claims) :
    ∀ m ∈ claims, Json.ReadsAs m.2 m.2 := by
  obtain ⟨-, hcanonical⟩ := Json.canonical_object.mp h.canonical
  have hintegral := Json.integral_object.mp h.integral
  exact fun m hm => Json.readsAs_self (hcanonical m hm) (hintegral m hm)

/-- The named parts of a payload are read as they were, and the claims are passed over. -/
theorem record_toJson (hiat : Numeral.fitsInt64 t.iat = true)
    (hexp : Numeral.fitsInt64 t.exp = true) (hclaims : Exact t.claims)
    (hreserved : reservedIn t.claims = []) :
    IdToken.reader t.toJson.bytes = .ok ({ t.asIdToken with claims := [] }, []) := by
  have hnames := hclaims.notMem_standardNames hreserved
  have hseen : ∀ name ∈ ["exp", "iat", "uid", "aud", "sub", "iss"],
      name ∈ IdToken.standardNames := by decide
  have hfields : ∀ field ∈ IdToken.fields, field.name ∈ IdToken.standardNames := by
    simp [IdToken.fields, IdToken.standardNames, Json.Field.of]
  have hothers : Feeds closeBrace (recordMember IdToken.fields)
      (["exp", "iat", "uid", "aud", "sub", "iss"], { t.asIdToken with claims := [] })
      (t.claims.map memberBytes)
      (["exp", "iat", "uid", "aud", "sub", "iss"], { t.asIdToken with claims := [] }) := by
    refine Json.feeds_others (fun m hm hmem => hnames m hm (hseen _ hmem)) (fun m hm => ?_)
      (fun m hm => ⟨m.2, hclaims.readsAs m hm⟩)
      (fun m hm => (hclaims.shallow m hm).trans (by decide)) _
    refine List.find?_eq_none.mpr fun field hfield heq => ?_
    exact hnames m hm (eq_of_beq heq ▸ hfields field hfield)
  have hall := (feeds_standardMembers hiat hexp).append hothers
  rw [← List.map_append] at hall
  have hread := Json.record_bytes hall []
  rwa [List.append_nil] at hread

/-- The members of a payload are those with a meaning of their own and the claims. -/
theorem openObject_toJson (hiat : Numeral.fitsInt64 t.iat = true)
    (hexp : Numeral.fitsInt64 t.exp = true) (hclaims : Exact t.claims) :
    Json.openObject t.toJson.bytes =
      .ok (NameMap.ofList (t.standardMembers ++ t.claims), []) := by
  have hreads : ∀ m ∈ t.standardMembers ++ t.claims, Json.ReadsAs m.2 m.2 := by
    intro m hm
    rcases List.mem_append.mp hm with hm | hm
    · rcases eq_of_mem_standardMembers hiat hexp hm with ⟨s, hs⟩ | ⟨n, hn, hfits⟩
      · rw [hs]
        exact Json.readsAs_string s
      · rw [hn]
        exact Json.readsAs_integer (Json.isWhole_of_fitsInt64 hfits)
    · exact hclaims.readsAs m hm
  have hdepth : ∀ m ∈ t.standardMembers ++ t.claims, Json.depth m.2 ≤ 126 := by
    intro m hm
    rcases List.mem_append.mp hm with hm | hm
    · rcases eq_of_mem_standardMembers hiat hexp hm with ⟨s, hs⟩ | ⟨n, hn, -⟩
      · rw [hs]
        exact Nat.zero_le _
      · rw [hn]
        exact Nat.zero_le _
    · exact hclaims.shallow m hm
  have hread := Json.openObject_bytes (Json.readsAs_object hreads)
    (Json.depth_object_le.mpr hdepth) Json.endsNumeral_nil
  rwa [List.append_nil] at hread

/-- The payload of a custom token is read as that of an ID token, part for part. -/
theorem decode_toJson (hiat : Numeral.fitsInt64 t.iat = true)
    (hexp : Numeral.fitsInt64 t.exp = true) (hclaims : Exact t.claims)
    (hreserved : reservedIn t.claims = []) :
    IdToken.decode (Segment.encodeJson t.toJson) = .ok t.asIdToken := by
  have hnamed := Segment.decodeJson_encodeJson (record_toJson hiat hexp hclaims hreserved)
  have hmembers := Segment.decodeJson_encodeJson (openObject_toJson hiat hexp hclaims)
  obtain ⟨hascending, -⟩ := Json.canonical_object.mp hclaims.canonical
  have hfront : ∀ m ∈ t.standardMembers, m.1 ∈ IdToken.standardNames := by
    simp [standardMembers, IdToken.standardNames]
  have hwithout := NameMap.Ascending.without_ofList_append hascending hfront
    (hclaims.notMem_standardNames hreserved)
  simp only [IdToken.decode, hnamed, hmembers, hwithout]
  rfl

end CustomToken

end IdentityTokens
