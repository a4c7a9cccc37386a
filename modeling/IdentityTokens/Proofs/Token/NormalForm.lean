import IdentityTokens.Proofs.Token.Payload

/-!
# Writing what was read

One header has many segments: blanks may stand in its document, members may come in any order, and
there may be some that nobody asks for. The segment that is written for it is one of them, so
writing what was read brings a segment into a normal form. The same holds of the six named parts of
a payload, while its claims are not written.

## Main definitions

* `IdToken.named`: a payload without its claims.
* `Header.rewrite`, `IdToken.rewrite`: the segment that is written for what is read from a segment.

## Main statements

* `IdToken.decode_written`: what is read from members that were written, in any order.
* `IdToken.Shows.unique`: members say one thing only.
* `IdToken.decode_encode`: the named parts are read as they were.
* `Segment.rewriting_is_normal`: what is written for what was read is read as the same.
-/

namespace IdentityTokens

/-! ## Members that were written -/

namespace Json

/-- The members of an object stand in its octets as they were. -/
theorem memberList_bytes {members : List (String × Json)}
    (hreads : ∀ m ∈ members, ReadsAs m.2 m.2) (hdepth : depth (.object members) ≤ maxDepth)
    (rest : List UInt8) : memberList (bytes (.object members) ++ rest) = .ok (members, rest) := by
  have hlength : ∀ m ∈ members, (bytes m.2).length ≤
      (joined (members.map memberBytes) ++ closeBrace :: rest).length + 1 := by
    intro m hm
    have hle := length_bytes_le_of_mem hm
    rw [List.length_append]
    omega
  have hcount : (members.map memberBytes).length <
      (joined (members.map memberBytes) ++ closeBrace :: rest).length + 1 := by
    have hle := count_le_joined (members.map memberBytes) fun w hw => by
      obtain ⟨m, -, rfl⟩ := List.mem_map.mp hw
      simp [memberBytes]
    rw [List.length_append]
    omega
  have hfeeds := feeds_members (depth_object_le.mp hdepth) hlength hreads []
  rw [bytes_object_append, memberList, atValue_cons (by decide), if_pos rfl]
  refine (congrArg _ (sequence_joined (.inr rfl) hfeeds hcount rest)).trans ?_
  simp [Except.map]

theorem eq_of_holds {pairs : List (String × Json)} {name : String} {v w missing : Json}
    (h : Holds pairs name v missing) (hw : w ∈ valuesUnder name pairs) : w = v := by
  rcases h with h | ⟨h, -⟩
  · simpa [h] using hw
  · simp [h] at hw

end Json

namespace IdToken

open Json (Holds valuesUnder)

variable {segment : String} {pairs : List (String × Json)} {t t' : IdToken}

/-- The payload that is read from members that were written says what they say, and its claims are
the last of them under all names without a meaning of their own. -/
theorem decode_written {members : List (String × Json)}
    (hreads : ∀ m ∈ members, Json.ReadsAs m.2 m.2) (hdepth : Json.depth (.object members) ≤ 127)
    (hadmissible : Admissible members) :
    ∃ t, decode (Segment.encodeJson (.object members)) = .ok t ∧ t.Shows members ∧
      t.claims = (NameMap.ofList members).without standardNames := by
  have hmembers := Json.memberList_bytes hreads hdepth []
  rw [List.append_nil] at hmembers
  have hroles := admissible_iff.mp hadmissible
  obtain ⟨seen, state, hfold⟩ := Json.exists_foldlM blank
    (fun name hnone => (List.not_mem_nil hnone).elim) (fun role hrole => (hroles role hrole).1)
    (fun role hrole => (hroles role hrole).2)
  exact ⟨_, decode_eq_ok_iff.mpr ⟨_, members, seen, state, Segment.decode_encode _,
    Json.document_of_reader hmembers, hfold, rfl⟩, shows_of_foldlM hfold, rfl⟩

/-! ## What members say -/

/-- What members say is said by one payload. -/
theorem Shows.unique (h : t.Shows pairs) (h' : t'.Shows pairs) : t = t' := by
  obtain ⟨iss, aud, exp, iat, sub, uid, claims⟩ := t
  obtain ⟨iss', aud', exp', iat', sub', uid', claims'⟩ := t'
  cases h.iss.unique h'.iss
  cases h.aud.unique h'.aud
  cases h.exp.unique h'.exp
  cases h.iat.unique h'.iat
  cases h.sub.unique h'.sub
  cases h.uid.unique h'.uid
  cases h.ascending.eq_of_find? h'.ascending fun name => (h.claims name).trans (h'.claims name).symm
  rfl

/-- Members that a payload says are admissible as soon as its times are numbers of 64 bits. -/
theorem Shows.admissible (h : t.Shows pairs) (hexp : Numeral.fitsInt64 t.exp = true)
    (hiat : Numeral.fitsInt64 t.iat = true) : Admissible pairs where
  once := by
    simp only [standardNames, List.forall_mem_cons]
    exact ⟨h.iss.length_le, h.aud.length_le, h.exp.length_le, h.iat.length_le, h.sub.length_le,
      h.uid.length_le, fun _ hnone => (List.not_mem_nil hnone).elim⟩
  texts := by
    simp only [List.forall_mem_cons]
    exact ⟨fun v hv => ⟨_, Json.eq_of_holds h.iss hv⟩, fun v hv => ⟨_, Json.eq_of_holds h.aud hv⟩,
      fun v hv => ⟨_, Json.eq_of_holds h.sub hv⟩, fun v hv => ⟨_, Json.eq_of_holds h.uid hv⟩,
      fun _ hnone => (List.not_mem_nil hnone).elim⟩
  times := by
    simp only [List.forall_mem_cons]
    exact ⟨fun v hv => ⟨_, Json.eq_of_holds h.exp hv, hexp⟩,
      fun v hv => ⟨_, Json.eq_of_holds h.iat hv, hiat⟩,
      fun _ hnone => (List.not_mem_nil hnone).elim⟩

/-- The times that admissible members say are numbers of 64 bits. -/
theorem Shows.fits (h : t.Shows pairs) (hadmissible : Admissible pairs) :
    Numeral.fitsInt64 t.exp = true ∧ Numeral.fitsInt64 t.iat = true := by
  have htime : ∀ name ∈ ["exp", "iat"], ∀ n : Int,
      Holds pairs name (.number (.integer n)) (.number (.integer 0)) →
        Numeral.fitsInt64 n = true := by
    intro name hname n hholds
    rcases hholds with hvalue | ⟨-, hzero⟩
    · obtain ⟨m, hm, hfits⟩ := hadmissible.times name hname _ (hvalue ▸ List.mem_singleton_self _)
      cases hm
      exact hfits
    · cases hzero
      decide
  exact ⟨htime "exp" (by decide) _ h.exp, htime "iat" (by decide) _ h.iat⟩

/-- The times of every payload that is read are numbers of 64 bits. -/
theorem fits_of_decode (h : decode segment = .ok t) :
    Numeral.fitsInt64 t.exp = true ∧ Numeral.fitsInt64 t.iat = true := by
  obtain ⟨-, pairs, seen, state, -, -, hfold, rfl⟩ := decode_eq_ok_iff.mp h
  exact (shows_of_foldlM hfold).fits (admissible_of_foldlM hfold)

/-! ## The named parts -/

/-- A payload without its claims. -/
def named (t : IdToken) : IdToken := { t with claims := [] }

/-- The members that are written for a payload. -/
def namedMembers (t : IdToken) : List (String × Json) :=
  [("iss", .string t.iss), ("aud", .string t.aud), ("exp", .number (.integer t.exp)),
    ("iat", .number (.integer t.iat))] ++ textMember "sub" t.sub ++ textMember "uid" t.uid

theorem encode_eq (t : IdToken) : t.encode = Segment.encodeJson (.object t.namedMembers) := rfl

theorem mem_textMember {name text : String} {m : String × Json} (h : m ∈ textMember name text) :
    m = (name, .string text) := by
  rw [textMember] at h
  split at h
  · cases h
  · exact List.mem_singleton.mp h

/-- What is written has a meaning of its own, and is a text or one of the two times. -/
theorem of_mem_namedMembers {m : String × Json} (hm : m ∈ t.namedMembers) :
    m.1 ∈ standardNames ∧ ((∃ text, m.2 = .string text) ∨
      m.2 = .number (.integer t.exp) ∨ m.2 = .number (.integer t.iat)) := by
  rw [namedMembers, List.mem_append, List.mem_append] at hm
  rcases hm with (hm | hm) | hm
  · simp only [List.mem_cons, List.not_mem_nil, or_false] at hm
    rcases hm with rfl | rfl | rfl | rfl <;> simp [standardNames]
  · rw [mem_textMember hm]
    simp [standardNames]
  · rw [mem_textMember hm]
    simp [standardNames]

/-- What is written for a payload says what its named parts are. -/
theorem shows_namedMembers (t : IdToken) : t.named.Shows t.namedMembers := by
  refine ⟨?iss, ?aud, ?exp, ?iat, ?sub, ?uid, List.Pairwise.nil, fun name => ?claims⟩
  case claims =>
    by_cases hname : name ∈ standardNames
    · rw [if_pos hname]
      rfl
    · have hnone : valuesUnder name t.namedMembers = [] := by
        rw [valuesUnder, List.map_eq_nil_iff, List.filter_eq_nil_iff]
        intro m hm heq
        exact hname (eq_of_beq heq ▸ (of_mem_namedMembers hm).1)
      rw [if_neg hname, hnone]
      rfl
  -- A text that is empty is not written, and empty is what a missing one counts for.
  all_goals
    by_cases hsub : t.sub = "" <;> by_cases huid : t.uid = "" <;>
      simp [Holds, valuesUnder, named, namedMembers, textMember, hsub, huid]

/-- The named parts of a payload are read from its segment as they were. -/
theorem decode_encode (hexp : Numeral.fitsInt64 t.exp = true)
    (hiat : Numeral.fitsInt64 t.iat = true) : decode t.encode = .ok t.named := by
  have hplain : ∀ m ∈ t.namedMembers, Json.ReadsAs m.2 m.2 ∧ Json.depth m.2 ≤ 126 := by
    intro m hm
    rcases (of_mem_namedMembers hm).2 with ⟨text, htext⟩ | htime | htime
    · rw [htext]
      exact ⟨Json.readsAs_string text, Nat.zero_le _⟩
    · rw [htime]
      exact ⟨Json.readsAs_integer (Json.isWhole_of_fitsInt64 hexp), Nat.zero_le _⟩
    · rw [htime]
      exact ⟨Json.readsAs_integer (Json.isWhole_of_fitsInt64 hiat), Nat.zero_le _⟩
  have hshows := shows_namedMembers t
  obtain ⟨read, hdecode, hread, -⟩ := decode_written (fun m hm => (hplain m hm).1)
    (Json.depth_object_le.mpr fun m hm => (hplain m hm).2) (hshows.admissible hexp hiat)
  rw [encode_eq, hdecode, hread.unique hshows]

end IdToken

/-! ## Normal forms -/

namespace Header

variable {segment written : String} {h : Header}

/-- The segment that is written for the header in a segment. -/
def rewrite (segment : String) : Except Segment.Error String := (decode segment).map encode

theorem rewrite_of_decode (hdecode : decode segment = .ok h) : rewrite segment = .ok h.encode := by
  rw [rewrite, hdecode]
  rfl

/-- Writing changes nothing of the header, and nothing the second time. -/
theorem decode_of_rewrite (hwritten : rewrite segment = .ok written) :
    decode written = decode segment ∧ rewrite written = .ok written := by
  rw [rewrite] at hwritten
  obtain ⟨h, hdecode, rfl⟩ := Json.map_eq_ok hwritten
  rw [hdecode]
  exact ⟨decode_encode h, rewrite_of_decode (decode_encode h)⟩

theorem encode_inj {h h' : Header} (hsame : h.encode = h'.encode) : h = h' := by
  have hread := decode_encode h
  rw [hsame, decode_encode] at hread
  exact (Except.ok.inj hread).symm

end Header

namespace IdToken

variable {segment written : String} {t t' : IdToken}

/-- The segment that is written for the named parts of the payload in a segment. -/
def rewrite (segment : String) : Except Segment.Error String := (decode segment).map encode

theorem rewrite_of_decode (hdecode : decode segment = .ok t) : rewrite segment = .ok t.encode := by
  rw [rewrite, hdecode]
  rfl

/-- Writing changes nothing of the named parts, and nothing the second time. -/
theorem decode_of_rewrite (hwritten : rewrite segment = .ok written) :
    decode written = (decode segment).map named ∧ rewrite written = .ok written := by
  rw [rewrite] at hwritten
  obtain ⟨t, hdecode, rfl⟩ := Json.map_eq_ok hwritten
  obtain ⟨hexp, hiat⟩ := fits_of_decode hdecode
  have hread := decode_encode hexp hiat
  have hagain := rewrite_of_decode hread
  rw [hdecode]
  exact ⟨hread, hagain⟩

/-- Payloads that are read are written alike only if their named parts are the same. -/
theorem named_of_encode_eq {segment' : String} (hdecode : decode segment = .ok t)
    (hdecode' : decode segment' = .ok t') (hsame : t.encode = t'.encode) : t.named = t'.named := by
  obtain ⟨hexp, hiat⟩ := fits_of_decode hdecode
  obtain ⟨hexp', hiat'⟩ := fits_of_decode hdecode'
  have hread := decode_encode hexp hiat
  rw [hsame, decode_encode hexp' hiat'] at hread
  exact (Except.ok.inj hread).symm

end IdToken

/-- **What is written for what was read is read as the same.** A header is read from its segment as
it was, and so are the named parts of a payload, as far as its times are numbers of 64 bits. So
writing what was read from a segment gives one that is read as the same header, or as the same
named parts; writing once more changes nothing; and two segments come to the same one exactly if
they are read as the same header, or as the same named parts. -/
theorem Segment.rewriting_is_normal :
    (∀ h : Header, Header.decode h.encode = .ok h) ∧
    (∀ t : IdToken, Numeral.fitsInt64 t.exp = true → Numeral.fitsInt64 t.iat = true →
      IdToken.decode t.encode = .ok t.named) ∧
    (∀ segment written, Header.rewrite segment = .ok written →
      Header.decode written = Header.decode segment ∧ Header.rewrite written = .ok written) ∧
    (∀ segment written, IdToken.rewrite segment = .ok written →
      IdToken.decode written = (IdToken.decode segment).map IdToken.named ∧
        IdToken.rewrite written = .ok written) ∧
    (∀ segment segment' h h', Header.decode segment = .ok h → Header.decode segment' = .ok h' →
      (Header.rewrite segment = Header.rewrite segment' ↔ h = h')) ∧
    ∀ segment segment' t t', IdToken.decode segment = .ok t → IdToken.decode segment' = .ok t' →
      (IdToken.rewrite segment = IdToken.rewrite segment' ↔ t.named = t'.named) := by
  refine ⟨Header.decode_encode, fun _ => IdToken.decode_encode,
    fun _ _ => Header.decode_of_rewrite, fun _ _ => IdToken.decode_of_rewrite, ?_, ?_⟩
  · intro segment segment' h h' hdecode hdecode'
    rw [Header.rewrite_of_decode hdecode, Header.rewrite_of_decode hdecode', Except.ok.injEq]
    exact ⟨Header.encode_inj, congrArg Header.encode⟩
  · intro segment segment' t t' hdecode hdecode'
    rw [IdToken.rewrite_of_decode hdecode, IdToken.rewrite_of_decode hdecode', Except.ok.injEq]
    -- The claims are not written, so payloads with the same named parts are written alike.
    exact ⟨IdToken.named_of_encode_eq hdecode hdecode', congrArg IdToken.encode⟩

/-- A header in array form and one in an object with other members come to the same segment; the
times of a payload may be the first and the last number of 64 bits. -/
theorem Segment.rewriting_is_normal_extreme :
    IdToken.decode (IdToken.encode ⟨"i", "", 9223372036854775807, -9223372036854775808, "", "u",
      [("x", .null)]⟩) =
        .ok ⟨"i", "", 9223372036854775807, -9223372036854775808, "", "u", []⟩ ∧
    Header.rewrite "WyJSUzI1NiIsbnVsbCwiIl0" =
      Header.rewrite "eyJraWQiOiIiLCJ4IjpbXSwiYWxnIjoiUlMyNTYifQ" ∧
    IdToken.decode "eyJleHAiOjUsInN1YiI6IiIsImFkbWluIjp0cnVlfQ" =
      .ok ⟨"", "", 5, 0, "", "", [("admin", .bool true)]⟩ ∧
    IdToken.decode (IdToken.encode ⟨"", "", 5, 0, "", "", []⟩) =
      .ok ⟨"", "", 5, 0, "", "", []⟩ := by
  obtain ⟨-, htoken, -, hrewrite, hheaders, -⟩ := Segment.rewriting_is_normal
  refine ⟨htoken _ (by decide) (by decide), ?_, by rfl, ?_⟩
  · exact (hheaders _ _ ⟨"RS256", none, some ""⟩ _ (by rfl) (by rfl)).mpr rfl
  · have hpayload : IdToken.decode "eyJleHAiOjUsInN1YiI6IiIsImFkbWluIjp0cnVlfQ" =
        .ok ⟨"", "", 5, 0, "", "", [("admin", .bool true)]⟩ := by rfl
    -- The claims are not written: what is written for both payloads is one text.
    exact (hrewrite _ _ (IdToken.rewrite_of_decode hpayload)).1.trans (by rw [hpayload]; rfl)

end IdentityTokens
