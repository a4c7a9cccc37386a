import IdentityTokens.Proofs.Base64.Canonical
import IdentityTokens.Proofs.Token.NormalForm
import IdentityTokens.Proofs.Verification.Rotation

/-!
# Tokens that were issued

Whoever holds the private key of a project issues tokens: a header that names the key, a payload
for a user of the project, and a signature over the two segments. Here the way from these documents
to their text is followed by the way back, through octets, segments, both readings of the payload,
the signature and the claims. Nothing is lost on it: a client that has the public key accepts the
token and shows what was put into it, whatever else the payload says.

## Main definitions

* `IdToken.Issued`: members that are the payload of a token for a user of a project.

## Main statements

* `IdToken.decode_members`: the payload that members are read as.
* `Client.accepts_issued`: the client accepts the token, with just the padding that segments may
  have.
-/

namespace IdentityTokens

/-! ## Members that are issued -/

namespace Json

theorem Holds.eq_of_find? {members : Members} {name : String} {v w missing : Json}
    (hascending : NameMap.Ascending members) (hfind : NameMap.find? members name = some w)
    (h : Holds members name v missing) : v = w := by
  rw [Holds, valuesUnder_of_ascending hascending, hfind] at h
  simpa [eq_comm] using h

end Json

namespace IdToken

variable {members : Json.Members} {project sub : String} {now : Instant} {iat exp : Int}

/-- The payload that is read from the segment of members says what they say, and has the others of
them as its claims. -/
theorem decode_members (hcanonical : Json.Canonical (.object members))
    (hintegral : Json.Integral (.object members)) (hdepth : Json.depth (.object members) ≤ 127)
    (hadmissible : Admissible members) :
    ∃ t, decode (Segment.encodeJson (.object members)) = .ok t ∧ t.Shows members ∧
      t.claims = NameMap.without members standardNames := by
  obtain ⟨hascending, hvalues⟩ := Json.canonical_object.mp hcanonical
  have hreads : ∀ m ∈ members, Json.ReadsAs m.2 m.2 := fun m hm =>
    Json.readsAs_self (hvalues m hm) (Json.integral_object.mp hintegral m hm)
  obtain ⟨t, hdecode, hshows, hclaims⟩ := decode_written hreads hdepth hadmissible
  rw [NameMap.Ascending.ofList_eq hascending] at hclaims
  exact ⟨t, hdecode, hshows, hclaims⟩

/-- The members of a payload that is issued for a user of a project and accepted at an instant: the
names with a meaning have the values that the verifier wants, an identifier of the user may stand
next to them, and so may anything else, as long as it can be read back. -/
structure Issued (members : Json.Members) (project : String) (now : Instant) (iat exp : Int)
    (sub : String) : Prop where
  canonical : Json.Canonical (.object members)
  integral : Json.Integral (.object members)
  depth_le : Json.depth (.object members) ≤ 127
  iss_eq : NameMap.find? members "iss" = some (.string (issuerPrefix ++ project))
  aud_eq : NameMap.find? members "aud" = some (.string project)
  iat_eq : NameMap.find? members "iat" = some (.number (.integer iat))
  exp_eq : NameMap.find? members "exp" = some (.number (.integer exp))
  sub_eq : NameMap.find? members "sub" = some (.string sub)
  uid_text : ∀ v, NameMap.find? members "uid" = some v → ∃ text, v = .string text
  fits_iat : Numeral.fitsInt64 iat = true
  fits_exp : Numeral.fitsInt64 exp = true
  iat_le : iat ≤ now.seconds
  le_exp : now.seconds ≤ exp
  one_le_sub : 1 ≤ sub.length
  sub_le : sub.length ≤ 128

theorem Issued.ascending (h : Issued members project now iat exp sub) :
    NameMap.Ascending members :=
  (Json.canonical_object.mp h.canonical).1

theorem Issued.admissible (h : Issued members project now iat exp sub) : Admissible members := by
  have hunder := Json.valuesUnder_of_ascending h.ascending
  refine ⟨fun name _ => ?_, fun name hname v hv => ?_, fun name hname v hv => ?_⟩
  · rw [hunder]
    exact Option.length_toList_le
  · rw [hunder, Option.mem_toList] at hv
    simp only [List.mem_cons, List.not_mem_nil, or_false] at hname
    rcases hname with rfl | rfl | rfl | rfl
    · exact ⟨_, Option.some.inj (hv.symm.trans h.iss_eq)⟩
    · exact ⟨_, Option.some.inj (hv.symm.trans h.aud_eq)⟩
    · exact ⟨_, Option.some.inj (hv.symm.trans h.sub_eq)⟩
    · exact h.uid_text v hv
  · rw [hunder, Option.mem_toList] at hv
    simp only [List.mem_cons, List.not_mem_nil, or_false] at hname
    rcases hname with rfl | rfl
    · exact ⟨_, Option.some.inj (hv.symm.trans h.exp_eq), h.fits_exp⟩
    · exact ⟨_, Option.some.inj (hv.symm.trans h.iat_eq), h.fits_iat⟩

/-- What is read from the segment of a payload that was issued. -/
theorem Issued.decode_eq (h : Issued members project now iat exp sub) :
    ∃ t, decode (Segment.encodeJson (.object members)) = .ok t ∧
      { t with uid := t.sub } = (⟨issuerPrefix ++ project, project, exp, iat, sub, sub,
        NameMap.without members standardNames⟩ : IdToken) := by
  obtain ⟨t, hdecode, hshows, hclaims⟩ :=
    decode_members h.canonical h.integral h.depth_le h.admissible
  have hiss := hshows.iss.eq_of_find? h.ascending h.iss_eq
  have haud := hshows.aud.eq_of_find? h.ascending h.aud_eq
  have hexp := hshows.exp.eq_of_find? h.ascending h.exp_eq
  have hiat := hshows.iat.eq_of_find? h.ascending h.iat_eq
  have hsub := hshows.sub.eq_of_find? h.ascending h.sub_eq
  refine ⟨t, hdecode, ?_⟩
  rw [IdToken.mk.injEq]
  exact ⟨Json.string.inj hiss, Json.string.inj haud, Json.Number.integer.inj (Json.number.inj hexp),
    Json.Number.integer.inj (Json.number.inj hiat), Json.string.inj hsub, Json.string.inj hsub,
    hclaims⟩

end IdToken

/-! ## The way of a token -/

namespace Segment

/-- A text with padding behind it that is read has the padding that its segment may have. -/
theorem allowed_of_decode_padded {signature octets : List UInt8} {pads : Nat}
    (h : decode (encode signature ++ String.ofList (List.replicate pads '=')) = .ok octets) :
    pads = 0 ∨ (encode signature).length % 4 = 2 ∧ pads ≤ 2 ∨
      (encode signature).length % 4 = 3 ∧ pads = 1 := by
  obtain ⟨same, htext, hallowed⟩ := decode_eq_ok_iff.mp h
  have hencode := unpadded_of_decode h
  rw [unpadded_encode_append] at hencode
  rw [← hencode] at htext hallowed
  have hlength := congrArg String.length htext
  simp only [String.length_append, String.length_ofList, List.length_replicate] at hlength
  obtain rfl : pads = same := by omega
  exact hallowed

theorem dot_notMem_padded (signature : List UInt8) (pads : Nat) :
    '.' ∉ (encode signature ++ String.ofList (List.replicate pads '=')).toList := by
  rw [String.toList_append, String.toList_ofList, List.mem_append, List.mem_replicate]
  rintro (hencoded | ⟨-, hpad⟩)
  · exact dot_notMem_encode signature hencoded
  · exact absurd hpad (by decide)

end Segment

/-- The segments of a token that is issued under a key, with padding behind the signature. -/
def Segments.issued (typ : Option String) (kid : String) (members : Json.Members)
    (signature : List UInt8) (pads : Nat) : Segments where
  header := Header.encode ⟨signatureAlgorithm, typ, some kid⟩
  payload := Segment.encodeJson (.object members)
  signature := Segment.encode signature ++ String.ofList (List.replicate pads '=')

namespace Segments

variable (typ : Option String) (kid : String) (members : Json.Members) (signature : List UInt8)
  (pads : Nat)

theorem undotted_issued : (issued typ kid members signature pads).Undotted :=
  ⟨Segment.dot_notMem_encode _, Segment.dot_notMem_encode _,
    Segment.dot_notMem_padded signature pads⟩

theorem signingInput_issued : (issued typ kid members signature pads).signingInput =
    IdentityTokens.signingInput (Header.toJson ⟨signatureAlgorithm, typ, some kid⟩)
      (.object members) := rfl

theorem text_issued : (issued typ kid members signature pads).text =
    assemble (IdentityTokens.signingInput (Header.toJson ⟨signatureAlgorithm, typ, some kid⟩)
      (.object members)) signature ++ String.ofList (List.replicate pads '=') := by
  rw [text, signingInput_issued, assemble]
  exact String.append_assoc.symm

end Segments

namespace Client

variable {c : Client} {project kid sub : String} {now : Instant} {keys : KeySet}
  {key : VerificationKey} {members : Json.Members} {iat exp : Int} {signature : List UInt8}

/-- **A token that is issued for a user of a project is accepted by the clients of the project that
have the key**, whatever the type in its header, whatever else the payload says and whichever
signature the key takes for the first two segments. The client shows the members of the payload,
with the subject as the user and the members of other names as claims. It accepts the same token
with padding behind the signature exactly if that is padding which segments may have. -/
theorem accepts_issued (hproject : c.projectId = some project) (hne : project ≠ "")
    (hkeys : (c.keySet now).1 = .ok keys) (hkid : kid ≠ "") (hkey : keys.get? kid = some key)
    (hissued : IdToken.Issued members project now iat exp sub) (typ : Option String)
    (hsigned : key.accepts (Utf8.encode (signingInput
      (Header.toJson ⟨signatureAlgorithm, typ, some kid⟩) (.object members))) signature = true)
    (pads : Nat) :
    (c.verify (assemble (signingInput (Header.toJson ⟨signatureAlgorithm, typ, some kid⟩)
        (.object members)) signature ++ String.ofList (List.replicate pads '=')) now).1 =
      .ok ⟨issuerPrefix ++ project, project, exp, iat, sub, sub,
        NameMap.without members IdToken.standardNames⟩ ↔
    pads = 0 ∨ (Segment.encode signature).length % 4 = 2 ∧ pads ≤ 2 ∨
      (Segment.encode signature).length % 4 = 3 ∧ pads = 1 := by
  have hdots := Segments.undotted_issued typ kid members signature pads
  rw [← Segments.text_issued]
  constructor
  · intro hverify
    obtain ⟨a, -⟩ := verify_eq_ok_iff.mp hverify
    -- The text has one way to be split, so the signature that was decoded is the one put there.
    have hsplit := (congrArg Segments.split a.token_eq).trans (Segments.split_text a.undotted)
    rw [Segments.split_text hdots] at hsplit
    have hsignature := a.signature_eq
    rw [← Except.ok.inj hsplit] at hsignature
    exact Segment.allowed_of_decode_padded hsignature
  · intro hpads
    obtain ⟨t, hdecode, hshown⟩ := hissued.decode_eq
    have hsignature := Segment.decode_eq_ok_iff.mpr ⟨pads, rfl, hpads⟩
    have hparts := hshown
    rw [IdToken.mk.injEq] at hparts
    obtain ⟨hiss, haud, hexp, hiat, hsub, -, -⟩ := hparts
    refine verify_eq_ok_iff.mpr ⟨⟨project, Segments.issued typ kid members signature pads, _, t,
      signature, keys, kid, key, hproject, hne, rfl, hdots, Header.decode_encode _, hdecode,
      hsignature, hkeys, rfl, hkid, hkey, hsigned, rfl, haud, hiss, ?_, ?_, ?_, ?_⟩, hshown.symm⟩
    · rw [hiat]
      exact hissued.iat_le
    · rw [hexp]
      exact hissued.le_exp
    · rw [hsub]
      exact hissued.one_le_sub
    · rw [hsub]
      exact hissued.sub_le

end Client

/-! ## A token with an unusual payload -/

namespace Sample

/-- A payload with a claim and with another name for its user. -/
def issuedMembers : Json.Members :=
  [("admin", .array [.null, .bool true]), ("aud", .string "p"), ("exp", .number (.integer 0)),
   ("iat", .number (.integer 0)), ("iss", .string (issuerPrefix ++ "p")), ("sub", .string "u"),
   ("uid", .string "x")]

/-- The header above it. -/
def issuedHeader : Header := ⟨signatureAlgorithm, some "JWT", some "k"⟩

/-- The digest of the text that is signed. -/
def issuedDigest : List UInt8 :=
  [73, 55, 90, 53, 92, 148, 35, 232, 124, 29, 106, 161, 102, 127, 210, 193,
   1, 137, 71, 35, 28, 73, 74, 203, 5, 87, 53, 166, 132, 165, 209, 205]

/-- The modulus of a key under which the signature of the token is one of that text. -/
def issuedModulus : Nat :=
  root ^ 3 -
    Der.unsigned (0 :: 1 :: List.replicate 202 0xFF ++ 0 :: (Rsa.digestInfo ++ issuedDigest))

/-- The encoded key. -/
def issuedKey : List UInt8 :=
  [0x30, 0x82, 0x01, 0x08, 0x02, 0x82, 0x01, 0x01] ++ Sha256.bigEndian 257 issuedModulus ++
    [0x02, 0x01, 0x03]

/-- A client that has the key. -/
def issuedClient : Client := { client with keySource := .fixed ⟨[("k", issuedKey)], none⟩ }

theorem issued_members : IdToken.Issued issuedMembers "p" epoch 0 0 "u" where
  canonical := Json.canonical_object.mpr ⟨by decide, by simp [issuedMembers, Json.Canonical,
    Json.CanonicalItems]⟩
  integral := Json.integral_object.mpr (by
    simp [issuedMembers, Json.Integral, Json.IntegralItems, Json.IsWhole])
  depth_le := by decide
  iss_eq := rfl
  aud_eq := rfl
  iat_eq := rfl
  exp_eq := rfl
  sub_eq := rfl
  uid_text := fun v h => ⟨"x", (Option.some.inj h).symm⟩
  fits_iat := by decide
  fits_exp := by decide
  iat_le := by decide
  le_exp := by decide
  one_le_sub := by decide
  sub_le := by decide

theorem verifies_issued :
    Rsa.verifies issuedKey
      (Utf8.encode (signingInput issuedHeader.toJson (.object issuedMembers)))
      (Sha256.bigEndian 256 root) = true := by
  have hinput : Utf8.encode (signingInput issuedHeader.toJson (.object issuedMembers)) =
      (Base64.sextets issuedHeader.toJson.bytes).map Base64.urlSafe.octet ++
        46 :: (Base64.sextets (Json.object issuedMembers).bytes).map Base64.urlSafe.octet :=
    Segment.encode_signingInput _ _
  have hhash : Sha256.hash ((Base64.sextets issuedHeader.toJson.bytes).map Base64.urlSafe.octet ++
      46 :: (Base64.sextets (Json.object issuedMembers).bytes).map Base64.urlSafe.octet) =
        issuedDigest := by
    decide +kernel
  have hkey : Rsa.PublicKey.ofDer? issuedKey = some ⟨issuedModulus, 3⟩ := by decide +kernel
  -- The octets are hashed once, so that only powers are left to compute.
  rw [hinput, Rsa.verifies, hkey]
  simp only [Rsa.PublicKey.accepts, Rsa.paddedDigest, hhash]
  decide +kernel

end Sample

namespace Client

open IdentityTokens.Sample (issuedMembers issuedHeader issuedClient root epoch)

/-- The client accepts the token with two characters of padding, and keeps the claim. -/
theorem accepts_issued_padded :
    (issuedClient.verify (assemble (signingInput issuedHeader.toJson (.object issuedMembers))
      (Sha256.bigEndian 256 root) ++ String.ofList (List.replicate 2 '=')) epoch).1 =
        .ok ⟨issuerPrefix ++ "p", "p", 0, 0, "u", "u",
          [("admin", .array [.null, .bool true])]⟩ := by
  have hkeys : (issuedClient.keySet epoch).1 = .ok ⟨[("k", Sample.issuedKey)], none⟩ := rfl
  have hkey : KeySet.get? ⟨[("k", Sample.issuedKey)], none⟩ "k" = some ⟨"k", Sample.issuedKey⟩ :=
    rfl
  have hlength : (Segment.encode (Sha256.bigEndian 256 root)).length % 4 = 2 := by decide +kernel
  exact (accepts_issued rfl (by decide) hkeys (by decide) hkey Sample.issued_members (some "JWT")
    Sample.verifies_issued 2).mpr (.inr (.inl ⟨hlength, Nat.le_refl 2⟩))

end Client

end IdentityTokens
