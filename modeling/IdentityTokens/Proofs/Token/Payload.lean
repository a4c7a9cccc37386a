import IdentityTokens.Proofs.Json.Roles
import IdentityTokens.Proofs.Token.Documents

/-!
# Which payloads are read

The payload of a token is read twice from the same octets. The first reading takes the six named
parts, refuses a name that occurs twice, passes over everything else without looking at it closely,
and would take an array as well. The second one takes all members, looks at all of them closely and
keeps the last of each name. Here it is shown what the two together accept and what they give: they
never disagree about a member, and what only one of them accepts is refused.

## Main definitions

* `IdToken.roles`: what the members of a document do to the named parts.
* `IdToken.Admissible`: members of which a payload can be made.
* `IdToken.Shows`: a payload says what members say.

## Main statements

* `IdToken.decode_eq_ok_iff`: a payload is a fold over members and the claims among them.
* `IdToken.reads_exactly_admissible`: which segments are payloads, of what, and how others fail.
-/

namespace IdentityTokens.IdToken

open Json (Role Holds valuesUnder memberList)

/-! ## Named parts -/

/-- What the members of a document do to the named parts of a payload. -/
def roles : List (Role IdToken) :=
  [.of "iss" Json.asText (fun t iss => { t with iss }) fun t => .string t.iss,
   .of "aud" Json.asText (fun t aud => { t with aud }) fun t => .string t.aud,
   .of "exp" Json.asInt64 (fun t exp => { t with exp }) fun t => .number (.integer t.exp),
   .of "iat" Json.asInt64 (fun t iat => { t with iat }) fun t => .number (.integer t.iat),
   .of "sub" Json.asText (fun t sub => { t with sub }) fun t => .string t.sub,
   .of "uid" Json.asText (fun t uid => { t with uid }) fun t => .string t.uid]

theorem plays_roles : List.Forall₂ Json.Field.Plays fields roles :=
  .cons (Json.Field.plays_of Json.views_textValue ..) <|
  .cons (Json.Field.plays_of Json.views_textValue ..) <|
  .cons (Json.Field.plays_of Json.views_int64Value ..) <|
  .cons (Json.Field.plays_of Json.views_int64Value ..) <|
  .cons (Json.Field.plays_of Json.views_textValue ..) <|
  .cons (Json.Field.plays_of Json.views_textValue ..) .nil

theorem apart_roles : Role.Apart roles where
  nodup := by decide
  shows := by
    intro role hrole v change htake state
    simp only [roles, List.mem_cons, List.not_mem_nil, or_false] at hrole
    rcases hrole with rfl | rfl | rfl | rfl | rfl | rfl
    all_goals
      obtain ⟨a, hview, rfl⟩ := Option.map_eq_some_iff.mp htake
      first
      | exact (Json.asText_eq_some_iff.mp hview).symm
      | exact (Json.asInt64_eq_some_iff.mp hview).1.symm
  keeps := by
    intro role hrole other hother hne v change htake state
    simp only [roles, List.mem_cons, List.not_mem_nil, or_false] at hrole hother
    rcases hother with rfl | rfl | rfl | rfl | rfl | rfl
    all_goals
      obtain ⟨a, -, rfl⟩ := Option.map_eq_some_iff.mp htake
      rcases hrole with rfl | rfl | rfl | rfl | rfl | rfl
      all_goals first | rfl | exact (hne rfl).elim

/-! ## What members say -/

/-- Members of which a payload can be made: no name with a meaning of its own occurs twice, and
under such a name stands a text or a whole number of signed 64 bits, as the name wants it. -/
structure Admissible (pairs : List (String × Json)) : Prop where
  once : ∀ name ∈ standardNames, (valuesUnder name pairs).length ≤ 1
  texts : ∀ name ∈ ["iss", "aud", "sub", "uid"], ∀ v ∈ valuesUnder name pairs,
    ∃ text, v = .string text
  times : ∀ name ∈ ["exp", "iat"], ∀ v ∈ valuesUnder name pairs,
    ∃ n, v = .number (.integer n) ∧ Numeral.fitsInt64 n = true

/-- A payload says what members say: each named part is the member of that name, or empty or zero
if there is none, and the claims are the last members of all other names. -/
structure Shows (t : IdToken) (pairs : List (String × Json)) : Prop where
  iss : Holds pairs "iss" (.string t.iss) (.string "")
  aud : Holds pairs "aud" (.string t.aud) (.string "")
  exp : Holds pairs "exp" (.number (.integer t.exp)) (.number (.integer 0))
  iat : Holds pairs "iat" (.number (.integer t.iat)) (.number (.integer 0))
  sub : Holds pairs "sub" (.string t.sub) (.string "")
  uid : Holds pairs "uid" (.string t.uid) (.string "")
  ascending : NameMap.Ascending t.claims
  claims : ∀ name, NameMap.find? t.claims name =
    if name ∈ standardNames then none else (valuesUnder name pairs).getLast?

variable {segment : String} {pairs : List (String × Json)} {state t : IdToken}

theorem isSome_take_text {name : String} {put : IdToken → String → IdToken}
    {shown : IdToken → Json} {v : Json} :
    ((Role.of name Json.asText put shown).take v).isSome ↔ ∃ text, v = .string text := by
  simp only [Role.of, Option.isSome_map, Option.isSome_iff_exists, Json.asText_eq_some_iff]

theorem isSome_take_time {name : String} {put : IdToken → Int → IdToken}
    {shown : IdToken → Json} {v : Json} :
    ((Role.of name Json.asInt64 put shown).take v).isSome ↔
      ∃ n, v = .number (.integer n) ∧ Numeral.fitsInt64 n = true := by
  simp only [Role.of, Option.isSome_map, Option.isSome_iff_exists, Json.asInt64_eq_some_iff]

/-- Members are admissible if no role has two values and every role takes the one it has. -/
theorem admissible_iff : Admissible pairs ↔ ∀ role ∈ roles,
    (valuesUnder role.name pairs).length ≤ 1 ∧
      ∀ v ∈ valuesUnder role.name pairs, (role.take v).isSome := by
  constructor
  · rintro ⟨honce, htexts, htimes⟩ role hrole
    refine ⟨honce _ (List.mem_map_of_mem hrole : role.name ∈ roles.map (·.name)), ?_⟩
    simp only [roles, List.mem_cons, List.not_mem_nil, or_false] at hrole
    rcases hrole with rfl | rfl | rfl | rfl | rfl | rfl
    · exact fun v hv => isSome_take_text.mpr (htexts "iss" (by decide) v hv)
    · exact fun v hv => isSome_take_text.mpr (htexts "aud" (by decide) v hv)
    · exact fun v hv => isSome_take_time.mpr (htimes "exp" (by decide) v hv)
    · exact fun v hv => isSome_take_time.mpr (htimes "iat" (by decide) v hv)
    · exact fun v hv => isSome_take_text.mpr (htexts "sub" (by decide) v hv)
    · exact fun v hv => isSome_take_text.mpr (htexts "uid" (by decide) v hv)
  · intro h
    refine ⟨fun name hname => ?_, ?_, ?_⟩
    · have hmem : name ∈ roles.map (·.name) := hname
      obtain ⟨role, hrole, rfl⟩ := List.mem_map.mp hmem
      exact (h role hrole).1
    · simp only [roles, List.forall_mem_cons] at h ⊢
      obtain ⟨⟨-, hiss⟩, ⟨-, haud⟩, -, -, ⟨-, hsub⟩, ⟨-, huid⟩, -⟩ := h
      exact ⟨fun v hv => isSome_take_text.mp (hiss v hv),
        fun v hv => isSome_take_text.mp (haud v hv), fun v hv => isSome_take_text.mp (hsub v hv),
        fun v hv => isSome_take_text.mp (huid v hv), fun _ hnone => (List.not_mem_nil hnone).elim⟩
    · simp only [roles, List.forall_mem_cons] at h ⊢
      obtain ⟨-, -, ⟨-, hexp⟩, ⟨-, hiat⟩, -⟩ := h
      exact ⟨fun v hv => isSome_take_time.mp (hexp v hv),
        fun v hv => isSome_take_time.mp (hiat v hv), fun _ hnone => (List.not_mem_nil hnone).elim⟩

/-! ## Both readings -/

theorem parse_object_iff {octets : List UInt8} {members : Json.Members} :
    Json.parse octets = .ok (.object members) ↔
      ∃ pairs, Json.document memberList octets = .ok pairs ∧ members = NameMap.ofList pairs := by
  simp only [Json.parse, Json.document_eq_ok_iff, Json.readAny_object_iff]
  constructor
  · rintro ⟨rest, ⟨pairs, hpairs, rfl⟩, hend⟩
    exact ⟨pairs, ⟨rest, hpairs, hend⟩, rfl⟩
  · rintro ⟨pairs, ⟨rest, hpairs, hend⟩, rfl⟩
    exact ⟨rest, ⟨pairs, hpairs, rfl⟩, hend⟩

/-- A payload is a fold over the members of a document, with the claims among them. -/
theorem decode_eq_ok_iff : decode segment = .ok t ↔ ∃ octets pairs seen state,
    Segment.decode segment = .ok octets ∧ Json.document memberList octets = .ok pairs ∧
      pairs.foldlM (Json.takeMember roles) ([], blank) = some (seen, state) ∧
        t = { state with claims := (NameMap.ofList pairs).without standardNames } := by
  have hboth : decode segment = .ok t ↔ ∃ octets state members,
      Segment.decode segment = .ok octets ∧ Json.document reader octets = .ok state ∧
        Json.document Json.openObject octets = .ok members ∧
          t = { state with claims := members.without standardNames } := by
    rw [decode]
    constructor
    · intro h
      split at h
      · cases h
      · next state hstate =>
        split at h
        · cases h
        · next members hmembers =>
          cases h
          obtain ⟨octets, hoctets, hread⟩ := Segment.decodeJson_eq_ok_iff.mp hstate
          obtain ⟨same, hsame, hopen⟩ := Segment.decodeJson_eq_ok_iff.mp hmembers
          -- Both readings have the same octets before them.
          cases hoctets.symm.trans hsame
          exact ⟨octets, state, members, hoctets, hread, hopen, rfl⟩
    · rintro ⟨octets, state, members, hoctets, hread, hopen, rfl⟩
      rw [Segment.decodeJson_eq_ok_iff.mpr ⟨octets, hoctets, hread⟩]
      simp only [Segment.decodeJson_eq_ok_iff.mpr ⟨octets, hoctets, hopen⟩]
  simp only [hboth, Json.document_eq_ok_iff, Json.openObject_eq_ok_iff]
  constructor
  · rintro ⟨octets, state, members, hoctets, ⟨left, hread, -⟩, ⟨rest, ⟨pairs, hpairs, rfl⟩, hend⟩,
      rfl⟩
    -- The second reading has found members, so the first one is a fold over them.
    obtain ⟨-, seen, hfold⟩ := (Json.record_of_memberList plays_roles hpairs).mp hread
    exact ⟨octets, pairs, seen, state, hoctets, ⟨rest, hpairs, hend⟩, hfold, rfl⟩
  · rintro ⟨octets, pairs, seen, state, hoctets, ⟨rest, hpairs, hend⟩, hfold, rfl⟩
    have hread := (Json.record_of_memberList plays_roles hpairs).mpr ⟨rfl, seen, hfold⟩
    exact ⟨octets, state, _, hoctets, ⟨rest, hread, hend⟩, ⟨rest, ⟨pairs, hpairs, rfl⟩, hend⟩, rfl⟩

/-- What is no payload is no base64 or no document of the right shape. -/
theorem decode_eq_error {e : Segment.Error} (h : decode segment = .error e) :
    Segment.decode segment = .error e ∨
      ∃ octets f, e = .json f ∧ Segment.decode segment = .ok octets := by
  have hjson : ∀ {α : Type} {reader : Json.Reader α},
      Segment.decodeJson reader segment = .error e → Segment.decode segment = .error e ∨
        ∃ octets f, e = .json f ∧ Segment.decode segment = .ok octets := by
    intro α reader hread
    rcases Segment.decodeJson_eq_error_iff.mp hread with hbase | ⟨octets, f, hoctets, -, rfl⟩
    · exact .inl hbase
    · exact .inr ⟨octets, f, rfl, hoctets⟩
  rw [decode] at h
  split at h
  · next hread =>
    cases h
    exact hjson hread
  · split at h
    · next hread =>
      cases h
      exact hjson hread
    · cases h

/-- What a payload says is what stands in its document. -/
theorem shows_of_foldlM {seen : List String}
    (h : pairs.foldlM (Json.takeMember roles) ([], blank) = some (seen, state)) :
    Shows { state with claims := (NameMap.ofList pairs).without standardNames } pairs := by
  have hfilled : ∀ role ∈ roles, Holds pairs role.name (role.shown state) (role.shown blank) :=
    fun role hrole => (Json.filled_of_foldlM apart_roles h role hrole).2.holds
  simp only [roles, List.forall_mem_cons] at hfilled
  obtain ⟨hiss, haud, hexp, hiat, hsub, huid, -⟩ := hfilled
  refine ⟨hiss, haud, hexp, hiat, hsub, huid, (NameMap.ascending_ofList pairs).without _, ?_⟩
  intro name
  rw [NameMap.find?_without, Json.find?_ofList_eq_getLast?]

/-- What a payload is read from is admissible. -/
theorem admissible_of_foldlM {seen : List String}
    (h : pairs.foldlM (Json.takeMember roles) ([], blank) = some (seen, state)) :
    Admissible pairs := by
  refine admissible_iff.mpr fun role hrole => ?_
  obtain ⟨-, htakes, hholds⟩ := Json.filled_of_foldlM apart_roles h role hrole
  exact ⟨hholds.length_le, htakes⟩

/-- **A payload is read exactly from admissible members, and says what they say.** -/
theorem reads_exactly_admissible (segment : String) :
    ((∃ t, decode segment = .ok t) ↔ ∃ octets pairs, Segment.decode segment = .ok octets ∧
      Json.document memberList octets = .ok pairs ∧ Admissible pairs) ∧
    (∀ octets pairs t, Segment.decode segment = .ok octets →
      Json.document memberList octets = .ok pairs → decode segment = .ok t → t.Shows pairs) ∧
    (∀ e, decode segment = .error e →
      (∃ cause, e = .base64 cause ∧ Segment.decode segment = .error (.base64 cause)) ∨
        ∃ octets f, e = .json f ∧ Segment.decode segment = .ok octets) ∧
    (∀ octets, Segment.decode segment = .ok octets →
      (∀ members, Json.parse octets ≠ .ok (.object members)) →
        ∃ f, decode segment = .error (.json f)) ∧
    (∀ octets members, Json.parse octets = .ok (.object members) ↔
      ∃ pairs, Json.document memberList octets = .ok pairs ∧ members = NameMap.ofList pairs) ∧
    ∀ fuel depth s n rest, Json.readValue (fuel + 1) depth s = .ok (.number (.integer n), rest) ↔
      ∃ m, Json.signedNumeral .ended (Json.skipBlank s) = .ok (m, rest) ∧ m.Denotes n ∧
        Json.IsWhole n := by
  have hadmissible : (∃ t, decode segment = .ok t) ↔ ∃ octets pairs,
      Segment.decode segment = .ok octets ∧ Json.document memberList octets = .ok pairs ∧
        Admissible pairs := by
    simp only [decode_eq_ok_iff]
    constructor
    · rintro ⟨-, octets, pairs, seen, state, hoctets, hpairs, hfold, -⟩
      exact ⟨octets, pairs, hoctets, hpairs, admissible_of_foldlM hfold⟩
    · rintro ⟨octets, pairs, hoctets, hpairs, hpermitted⟩
      have hroles := admissible_iff.mp hpermitted
      obtain ⟨seen, state, hfold⟩ := Json.exists_foldlM blank
        (fun name hnone => (List.not_mem_nil hnone).elim) (fun role hrole => (hroles role hrole).1)
        (fun role hrole => (hroles role hrole).2)
      exact ⟨_, octets, pairs, seen, state, hoctets, hpairs, hfold, rfl⟩
  refine ⟨hadmissible, ?_, ?_, ?_, fun _ _ => parse_object_iff,
    fun _ _ _ _ _ => Json.readValue_integer_iff⟩
  · intro octets pairs t hoctets hpairs ht
    obtain ⟨same, found, seen, state, hsame, hfound, hfold, rfl⟩ := decode_eq_ok_iff.mp ht
    cases hoctets.symm.trans hsame
    cases hpairs.symm.trans hfound
    exact shows_of_foldlM hfold
  · intro e he
    rcases decode_eq_error he with hbase | hjson
    · obtain ⟨cause, rfl⟩ := Segment.exists_base64_of_decode_error hbase
      exact .inl ⟨cause, rfl, hbase⟩
    · exact .inr hjson
  · intro octets hoctets hnone
    cases hdecode : decode segment with
    | ok t =>
      obtain ⟨same, pairs, seen, state, hsame, hpairs, -, -⟩ := decode_eq_ok_iff.mp hdecode
      cases hoctets.symm.trans hsame
      exact (hnone _ (parse_object_iff.mpr ⟨pairs, hpairs, rfl⟩)).elim
    | error e =>
      rcases decode_eq_error hdecode with hbase | ⟨-, f, rfl, -⟩
      · cases hoctets.symm.trans hbase
      · exact ⟨f, rfl⟩

/-- A payload shows what members say, where a name is spelt with an escape and another one occurs
twice; an array is refused that the reading of the named parts alone would take. -/
theorem reads_exactly_admissible_sample :
    Shows ⟨"", "", 5, 0, "", "", [("claims", .number (.integer 2))]⟩
        [("claims", .number (.integer 1)), ("exp", .number (.integer 5)),
          ("claims", .number (.integer 2))] ∧
      Segment.decodeJson reader "WyJhIl0" = .ok { blank with iss := "a" } ∧
        ∃ f, decode "WyJhIl0" = .error (.json f) :=
  have hmembers : Segment.decode "eyJjbGFpbXMiOjEsIlx1MDA2NXhwIjo1LCJjbGFpbXMiOjJ9" =
      .ok (Utf8.encode "\x7b\"claims\":1,\"\\u0065xp\":5,\"claims\":2\x7d") := by rfl
  have hitems : Segment.decode "WyJhIl0" = .ok (Utf8.encode "[\"a\"]") := by rfl
  have harray : Json.parse (Utf8.encode "[\"a\"]") = .ok (.array [.string "a"]) := by rfl
  ⟨(reads_exactly_admissible _).2.1 _ _ _ hmembers (by rfl) (by rfl), by rfl,
    (reads_exactly_admissible "WyJhIl0").2.2.2.1 _ hitems fun members hobject => by
      rw [harray] at hobject
      cases hobject⟩

end IdentityTokens.IdToken
