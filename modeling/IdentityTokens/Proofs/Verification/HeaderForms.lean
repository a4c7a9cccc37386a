import IdentityTokens.Proofs.Json.Roles
import IdentityTokens.Proofs.Token.Documents
import IdentityTokens.Proofs.Verification.Rotation

/-!
# Headers that are no objects

A header is read as a record, and a record may have the form of an array. So a segment that holds
no object can be a header: an array of at most three items, a text for the algorithm and then texts
or `null` for the type and the key. Every other document is refused. Nothing later in verification
asks which form a header had; a token that is accepted with such a header names algorithm and key
all the same, each in its place.

## Main definitions

* `Header.Placed`: a header stands in a document that is an array.

## Main statements

* `Header.decode_eq_ok_iff_placed`: which documents without an object are headers.
* `Header.refused_unless_placed`: which of them are refused, and what an accepted token has.
-/

namespace IdentityTokens

namespace Header

open Json (Role optional)

variable {segment : String} {octets : List UInt8} {v : Json} {h : Header}

/-! ## Arrays -/

/-- What the values of a document do to a header. -/
def roles : List (Role Header) :=
  [.of "alg" Json.asText (fun h alg => { h with alg }) fun h => .string h.alg,
   .of "typ" Json.asOptionalText (fun h typ => { h with typ }) fun h => optional h.typ,
   .of "kid" Json.asOptionalText (fun h kid => { h with kid }) fun h => optional h.kid]

theorem plays_roles : List.Forall₂ Json.Field.Plays fields roles :=
  .cons (Json.Field.plays_of Json.views_textValue ..) <|
  .cons (Json.Field.plays_of Json.views_optionalText ..) <|
  .cons (Json.Field.plays_of Json.views_optionalText ..) .nil

/-- A header stands in a document that is an array: its parts in their order, of which the last
ones may be missing. -/
inductive Placed : Json → Header → Prop where
  | none : Placed (.array []) ⟨"", .none, .none⟩
  | alg (alg : String) : Placed (.array [.string alg]) ⟨alg, .none, .none⟩
  | typ (alg : String) (typ : Option String) :
      Placed (.array [.string alg, optional typ]) ⟨alg, typ, .none⟩
  | kid (alg : String) (typ kid : Option String) :
      Placed (.array [.string alg, optional typ, optional kid]) ⟨alg, typ, kid⟩

theorem takeItems_roles_iff {items : List Json} :
    Json.takeItems roles blank items = some h ↔ Placed (.array items) h := by
  constructor
  · intro htake
    rcases items with _ | ⟨first, items⟩
    · cases htake
      exact .none
    obtain ⟨alg, halg, hmore⟩ := Json.takeItems_of_iff.mp htake
    cases Json.asText_eq_some_iff.mp halg
    rcases items with _ | ⟨second, items⟩
    · cases hmore
      exact .alg alg
    obtain ⟨typ, htyp, hlast⟩ := Json.takeItems_of_iff.mp hmore
    cases Json.asOptionalText_eq_some_iff.mp htyp
    rcases items with _ | ⟨third, items⟩
    · cases hlast
      exact .typ alg typ
    obtain ⟨kid, hkid, hend⟩ := Json.takeItems_of_iff.mp hlast
    cases Json.asOptionalText_eq_some_iff.mp hkid
    rcases items with _ | ⟨fourth, items⟩
    · cases hend
      exact .kid alg typ kid
    · cases hend
  · intro hplaced
    cases hplaced with
    | none => rfl
    | alg alg => rfl
    | typ alg typ => cases typ <;> rfl
    | kid alg typ kid => cases typ <;> cases kid <;> rfl

/-- A document that is no object is a header exactly if the header stands in it as an array. -/
theorem decode_eq_ok_iff_placed (hoctets : Segment.decode segment = .ok octets)
    (hdocument : Json.parse octets = .ok v) (hform : ∀ members, v ≠ .object members) :
    decode segment = .ok h ↔ Placed v h := by
  obtain ⟨rest, hread, hend⟩ := Json.document_eq_ok_iff.mp hdocument
  -- A document that begins with a brace would be an object.
  have hfront : (Json.skipBlank octets).head? ≠ some Json.openBrace := by
    intro hhead
    obtain ⟨t, hblank⟩ := List.head?_eq_some_iff.mp hhead
    obtain ⟨members, hmembers⟩ := Json.exists_object_of_readAny hblank hread
    exact hform members hmembers
  have hrecord : ∀ after, Json.record fields blank octets = .ok (h, after) ↔
      ∃ items, Json.readAny octets = .ok (.array items, after) ∧
        Json.takeItems roles blank items = some h :=
    fun after => Json.record_of_not_object plays_roles hfront
  rw [decode, Segment.decodeJson_eq_ok_iff]
  simp only [hoctets, Except.ok.injEq, exists_eq_left', Json.document_eq_ok_iff, reader, hrecord,
    takeItems_roles_iff, hread, Prod.mk.injEq]
  constructor
  · rintro ⟨-, ⟨items, ⟨rfl, rfl⟩, hplaced⟩, -⟩
    exact hplaced
  · intro hplaced
    have harray : ∃ items, v = .array items := by
      cases hplaced <;> exact ⟨_, rfl⟩
    obtain ⟨items, rfl⟩ := harray
    exact ⟨rest, ⟨items, ⟨rfl, rfl⟩, hplaced⟩, hend⟩

end Header

/-! ## A token with a header in array form -/

namespace Sample

/-- The document in the header as an array. -/
def listedOctets : List UInt8 := Utf8.encode "[\"RS256\",null,\"k\"]"

/-- The segments of the token with that header. -/
def listed : Segments := { segments with header := Segment.encode listedOctets }

/-- The digest of the text that is signed. -/
def listedDigest : List UInt8 :=
  [184, 16, 36, 218, 223, 249, 178, 99, 231, 142, 230, 184, 67, 17, 67, 77,
   203, 67, 94, 67, 108, 216, 45, 132, 154, 225, 107, 44, 45, 190, 4, 81]

/-- The modulus of a key under which the signature of the token is one of that text. -/
def listedModulus : Nat :=
  root ^ 3 -
    Der.unsigned (0 :: 1 :: List.replicate 202 0xFF ++ 0 :: (Rsa.digestInfo ++ listedDigest))

/-- The encoded key. -/
def listedKey : List UInt8 :=
  [0x30, 0x82, 0x01, 0x08, 0x02, 0x82, 0x01, 0x01] ++ Sha256.bigEndian 257 listedModulus ++
    [0x02, 0x01, 0x03]

/-- A client that has the key. -/
def listedClient : Client := { client with keySource := .fixed ⟨[("k", listedKey)], none⟩ }

theorem decode_listed : Segment.decode listed.header = .ok listedOctets :=
  Segment.decode_encode listedOctets

theorem parse_listed :
    Json.parse listedOctets = .ok (.array [.string "RS256", .null, .string "k"]) := by
  rfl

theorem verifies_listed :
    Rsa.verifies listedKey (Utf8.encode (listed.header ++ "." ++ listed.payload))
      (Sha256.bigEndian 256 root) = true := by
  have hinput : Utf8.encode (listed.header ++ "." ++ listed.payload) =
      (Base64.sextets listedOctets).map Base64.urlSafe.octet ++
        46 :: (Base64.sextets payloadOctets).map Base64.urlSafe.octet :=
    Segment.encode_signingInput listedOctets payloadOctets
  have hhash : Sha256.hash ((Base64.sextets listedOctets).map Base64.urlSafe.octet ++
      46 :: (Base64.sextets payloadOctets).map Base64.urlSafe.octet) = listedDigest := by
    decide +kernel
  have hkey : Rsa.PublicKey.ofDer? listedKey = some ⟨listedModulus, 3⟩ := by decide +kernel
  rw [hinput, Rsa.verifies, hkey]
  simp only [Rsa.PublicKey.accepts, Rsa.paddedDigest, hhash]
  decide +kernel

theorem undotted_listed : listed.Undotted :=
  Segments.undotted_written _ _ _

theorem decode_header_listed : Header.decode listed.header = .ok ⟨"RS256", none, some "k"⟩ := by
  rw [Header.decode, Segment.decodeJson, decode_listed]
  rfl

/-- The client accepts the token. -/
theorem verify_listed : (listedClient.verify listed.text epoch).1 = .ok payload :=
  Client.verify_eq_ok_iff.mpr ⟨⟨"p", listed, _, _, Sha256.bigEndian 256 root,
    ⟨[("k", listedKey)], none⟩, "k", ⟨"k", listedKey⟩, rfl, by decide, rfl, undotted_listed,
    decode_header_listed, decode_payload, Segment.decode_encode _, rfl, rfl, by decide, rfl,
    verifies_listed, rfl, rfl, by decide +kernel, by decide, by decide, by decide, by decide⟩, rfl⟩

end Sample

/-! ## All other documents -/

namespace Header

open Json (optional)

/-- **A header that is no object is refused unless it stands in an array**, as text, text or `null`,
text or `null`, of which the last ones may be missing. If a token with such a header is accepted,
then its array has all three items, with the algorithm and the identifier of a key. -/
theorem refused_unless_placed {segment : String} {octets : List UInt8} {v : Json}
    (hoctets : Segment.decode segment = .ok octets) (hdocument : Json.parse octets = .ok v)
    (hform : ∀ members, v ≠ .object members) :
    ((∃ f, decode segment = .error (.json f)) ↔ ∀ h, ¬Placed v h) ∧
    (∀ h, decode segment = .ok h ↔ Placed v h) ∧
    ∀ (c : Client) (token : String) (s : Segments) (now : Instant) (t : IdToken),
      Segments.split token = .ok s → s.header = segment → (c.verify token now).1 = .ok t →
        ∃ typ kid, v = .array [.string signatureAlgorithm, optional typ, .string kid] ∧
          kid ≠ "" := by
  have hplaced : ∀ h, decode segment = .ok h ↔ Placed v h :=
    fun h => decode_eq_ok_iff_placed hoctets hdocument hform
  refine ⟨?_, hplaced, ?_⟩
  · constructor
    · rintro ⟨f, hf⟩ h hstands
      rw [(hplaced h).mpr hstands] at hf
      cases hf
    · intro hnone
      cases hdecode : decode segment with
      | ok h => exact (hnone h ((hplaced h).mp hdecode)).elim
      | error e =>
        rcases Segment.decodeJson_eq_error_iff.mp hdecode with hbase | ⟨-, f, -, -, rfl⟩
        · cases hoctets.symm.trans hbase
        · exact ⟨f, rfl⟩
  · rintro c token s now t hsplit rfl hverify
    obtain ⟨a, -⟩ := Client.verify_eq_ok_iff.mp hverify
    have hsegments : Segments.split token = .ok a.segments :=
      (congrArg Segments.split a.token_eq).trans (Segments.split_text a.undotted)
    cases hsplit.symm.trans hsegments
    have hstands := (hplaced a.header).mp a.header_eq
    have halg := a.alg_eq
    have hkid := a.kid_eq
    generalize a.header = header at hstands halg hkid
    cases hstands with
    | none => cases hkid
    | alg alg => cases hkid
    | typ alg typ => cases hkid
    | kid alg typ kid =>
      cases halg
      cases hkid
      exact ⟨typ, a.kid, rfl, a.kid_ne⟩

/-- An array of numbers is refused, and the array of a token that is accepted has its items. -/
theorem refused_unless_placed_listed :
    (∃ f, decode "WzEsMiwzXQ" = .error (.json f)) ∧
      ∃ typ kid, Json.array [.string "RS256", .null, .string "k"] =
        .array [.string signatureAlgorithm, optional typ, .string kid] ∧ kid ≠ "" :=
  have hnumbers : Segment.decode "WzEsMiwzXQ" = .ok (Utf8.encode "[1,2,3]") := by rfl
  have hparse : Json.parse (Utf8.encode "[1,2,3]") =
      .ok (.array [.number (.integer 1), .number (.integer 2), .number (.integer 3)]) := by rfl
  ⟨(refused_unless_placed hnumbers hparse nofun).1.mpr nofun,
    (refused_unless_placed Sample.decode_listed Sample.parse_listed nofun).2.2 Sample.listedClient
      Sample.listed.text Sample.listed Sample.epoch Sample.payload
      (Segments.split_text Sample.undotted_listed) rfl Sample.verify_listed⟩

/-- Not all headers that are no objects are refused, nor are all tokens with such headers. -/
theorem not_refused_listed :
    (¬∀ segment octets v, Segment.decode segment = .ok octets → Json.parse octets = .ok v →
      (∀ members, v ≠ .object members) → ∃ f, decode segment = .error (.json f)) ∧
    ¬∀ (c : Client) (token : String) (s : Segments) (now : Instant) octets v,
      Segments.split token = .ok s → Segment.decode s.header = .ok octets →
        Json.parse octets = .ok v → (∀ members, v ≠ .object members) →
          ∀ t, (c.verify token now).1 ≠ .ok t := by
  constructor
  · intro h
    obtain ⟨f, hf⟩ := h _ _ _ Sample.decode_listed Sample.parse_listed nofun
    rw [Sample.decode_header_listed] at hf
    cases hf
  · intro h
    exact h _ _ _ _ _ _ (Segments.split_text Sample.undotted_listed) Sample.decode_listed
      Sample.parse_listed nofun _ Sample.verify_listed

end Header

end IdentityTokens
