import IdentityTokens.Proofs.Number.Numeral
import IdentityTokens.Proofs.Verification.Revocation

/-!
# A revocation takes effect

To revoke the tokens of a user is to send the service a numeral, and a later check is of a numeral
that the service reports. Between the two, an instant is rounded to a second, written in decimal,
carried in two documents, read, and multiplied to milliseconds. Whoever reports the numeral that was
sent makes every check come out as if seconds had been compared: tokens issued before the second of
the revocation are revoked, and no others are.

## Main definitions

* `Http.Response.Reports`: a reply reports a numeral for a user.
* `Http.Response.listing`: a reply that lists accounts.
* `Client.Hears`: a client gets a certain reply when it looks a user up.

## Main statements

* `Http.Response.read_listing`: every list of accounts is read from a reply.
* `UserService.parse_updateRequest`: what is sent.
* `Client.getUser_of_hears`, `Client.verifyNotRevoked_of_hears`: what a reply leads to.
* `Client.revoke_takes_effect`: both together.
-/

namespace IdentityTokens

open Json (EndsNumeral)

/-! ## What is sent -/

/-- The document in the request for a revocation: the user, and the second as a numeral. -/
theorem UserService.parse_updateRequest (s : UserService) (uid : String) (now : Instant) :
    Json.parse (Utf8.encode (s.updateRequest uid (.revokeAt now)).body) =
      .ok (.object [("localId", .string uid),
        ("validSince", .string (Numeral.render now.seconds))]) := by
  have hascending : [("localId", uid), ("validSince", Numeral.render now.seconds)].Pairwise
      (·.1 < ·.1) := by
    simp only [List.pairwise_cons, List.mem_singleton, forall_eq]
    exact ⟨by decide, by simp, .nil⟩
  have hparse := Json.parse_render_texts hascending
  rwa [List.map_cons, List.map_cons, List.map_nil] at hparse

namespace Client

variable {c : Client} {token uid : String} {now : Instant}

/-- A revocation by a service is one exchange. -/
theorem snd_revoke_of_service {service : UserService} (huid : isUid uid = true)
    (husers : c.users = .service service) :
    (c.revoke uid now).2 =
      { c with network := (c.network.send (service.updateRequest uid (.revokeAt now))).2 } := by
  simp only [revoke, huid, if_true, updateUser, husers, Users.updateUser, UserService.updateUser]
  cases (c.network.send (service.updateRequest uid (.revokeAt now))).1 with
  | error failure => rfl
  | ok r => rfl

/-- Once the identifier has passed its check, only the exchange can fail. -/
theorem revoke_ne_invalidUid (huid : isUid uid = true) :
    (c.revoke uid now).1 ≠ .error .invalidUid := by
  cases husers : c.users with
  | store records =>
    simp only [revoke, huid, if_true, updateUser, husers, Users.updateUser]
    exact fun h => by cases h
  | service service =>
    simp only [revoke, huid, if_true, updateUser, husers, Users.updateUser, UserService.updateUser]
    cases (c.network.send (service.updateRequest uid (.revokeAt now))).1 with
    | error failure => exact fun h => by cases h
    | ok r => exact fun h => by cases h

/-- Whoever is the user of a token that was accepted has an identifier that revocations accept. -/
theorem isUid_of_verify {t : IdToken} (h : (c.verify token now).1 = .ok t) :
    isUid t.uid = true := by
  obtain ⟨accepted, rfl⟩ := verify_eq_ok_iff.mp h
  exact isUid_iff.mpr ⟨accepted.one_le_sub, accepted.sub_le⟩

end Client

/-! ## What is reported -/

/-- A reply reports a numeral for a user: the first account that it lists has it. -/
def Http.Response.Reports (r : Http.Response) (validSince : String) : Prop :=
  ∃ account others, r.read Account.listReader = .ok (account :: others) ∧
    account.validSince = some validSince

namespace Account

/-- An account as a service writes it. -/
def toJson (a : Account) : Json :=
  .object (("localId", .string a.localId) ::
    match a.validSince with
    | none => []
    | some validSince => [("validSince", .string validSince)])

theorem integral_toJson (a : Account) : Json.Integral a.toJson := by
  rw [toJson, Json.integral_object]
  intro m hm
  cases hsince : a.validSince with
  | none =>
    simp only [hsince, List.mem_singleton] at hm
    rw [hm]
    exact trivial
  | some validSince =>
    simp only [hsince, List.mem_cons, List.not_mem_nil, or_false] at hm
    rcases hm with rfl | rfl
    · exact trivial
    · exact trivial

theorem reader_bytes (a : Account) (rest : List UInt8) :
    reader (a.toJson.bytes ++ rest) = .ok (a, rest) := by
  obtain ⟨localId, validSince⟩ := a
  have hrecord : ∃ seen, Json.Feeds Json.closeBrace (Json.recordMember fields) ([], (none, none))
      ((("localId", Json.string localId) ::
        match validSince with
        | none => []
        | some validSince => [("validSince", .string validSince)]).map Json.memberBytes)
      (seen, (some localId, validSince)) := by
    cases validSince with
    | none =>
      exact ⟨_, Json.feeds_field (by decide) rfl (Json.Field.takes_text ..) (.nil _)⟩
    | some validSince =>
      exact ⟨_, Json.feeds_field (by decide) rfl (Json.Field.takes_text ..)
        (Json.feeds_field (by decide) rfl (Json.Field.takes_optionalText ..) (.nil _))⟩
  obtain ⟨seen, hfeeds⟩ := hrecord
  rw [reader, toJson]
  exact Json.checked_of_read (Json.record_bytes hfeeds rest) rfl

end Account

namespace Http.Response

/-- A reply that lists accounts. -/
def listing (accounts : List Account) : Response :=
  ⟨200, [], (Json.object [("users", .array (accounts.map Account.toJson))]).bytes⟩

/-- Every list of accounts is read from a reply that lists them. -/
theorem read_listing (accounts : List Account) :
    (listing accounts).read Account.listReader = .ok accounts := by
  have htakes : (Json.Field.of "users" (Json.listOf Account.reader) fun _ accounts =>
      accounts).Takes (.array (accounts.map Account.toJson)) [] accounts := by
    refine Json.Field.takes_of (fun rest _ => ?_) "users" _ []
    exact Json.listOf_bytes (fun a _ => a.integral_toJson) (fun a _ rest _ => a.reader_bytes rest)
      rest
  have hfeeds : Json.Feeds Json.closeBrace (Json.recordMember [.of "users"
      (Json.listOf Account.reader) fun _ accounts => accounts]) ([], [])
      ([("users", .array (accounts.map Account.toJson))].map Json.memberBytes)
      (["users"], accounts) :=
    Json.feeds_field (by decide) rfl htakes (.nil _)
  have hread := Json.record_bytes hfeeds []
  rw [List.append_nil] at hread
  simp only [read, listing, Account.listReader, Json.document_of_reader hread]

end Http.Response

/-! ## What a reply leads to -/

/-- A client gets a reply when it looks a user up. -/
def Client.Hears (c : Client) (uid : String) (r : Http.Response) : Prop :=
  ∃ service, c.users = .service service ∧
    (c.network.send (service.lookupRequest uid)).1 = .ok r

/-- The numeral of a second is read as the second, in milliseconds. -/
theorem Account.validAfterMillis_render {a : Account} {now : Instant}
    (h : a.validSince = some (Numeral.render now.seconds)) :
    a.validAfterMillis = .ok (1000 * now.seconds) := by
  have hread := Numeral.int64_render (Signatory.fitsInt64_seconds now).1
  have hnonempty := Numeral.render_ne_empty now.seconds
  have hfits := fitsInt64_seconds_mul now
  rw [Int.mul_comm]
  simp only [validAfterMillis, h]
  rw [hread]
  simp only [hfits, if_true]

/-- Against a second in milliseconds, seconds are compared. -/
theorem IdToken.verdict_of_second {t : IdToken} {now : Instant} (hiat : t.iat ≤ now.seconds)
    {record : UserRecord} {second : Int} (hrecord : record.validAfterMillis = 1000 * second)
    (hfits : Fits (.ok record)) :
    t.verdict (.ok record) = if t.iat < second then .error .tokenRevoked else .ok t := by
  rw [verdict_eq hiat hfits, exactVerdict, hrecord]
  by_cases hbefore : t.iat < second
  · rw [if_pos hbefore, if_neg (by omega)]
  · rw [if_neg hbefore, if_pos (by omega)]

namespace Client

variable {c : Client} {token uid : String} {now : Instant} {r : Http.Response}

/-- A record of a user whose reply reports the numeral of a second has the second. -/
theorem getUser_of_hears (hhears : c.Hears uid r)
    (hreports : r.Reports (Numeral.render now.seconds)) :
    ∃ record, (c.getUser uid).1 = .ok record ∧ record.validAfterMillis = 1000 * now.seconds := by
  obtain ⟨service, husers, hreply⟩ := hhears
  obtain ⟨account, others, hread, hsince⟩ := hreports
  refine ⟨⟨account.localId, 1000 * now.seconds⟩, ?_, rfl⟩
  rw [getUser_of_service husers]
  simp only [UserService.recordOf, hreply, hread, Account.record,
    Account.validAfterMillis_render hsince, Except.map]

/-- A check that is answered with the numeral of a second compares seconds. -/
theorem verifyNotRevoked_of_hears {later : Instant} {t : IdToken} {after : Client}
    (hverify : c.verify token later = (.ok t, after)) (hhears : after.Hears t.uid r)
    (hreports : r.Reports (Numeral.render now.seconds)) :
    (c.verifyNotRevoked token later).1 =
      if t.iat < now.seconds then .error .tokenRevoked else .ok t := by
  obtain ⟨huid, hiat⟩ := verified_ok hverify
  obtain ⟨record, hrecord, hmillis⟩ := getUser_of_hears hhears hreports
  have hfits : Fits (.ok record) := by
    rintro _ ⟨⟩
    rw [hmillis, Int.mul_comm]
    exact fitsInt64_seconds_mul now
  rw [verifyNotRevoked_of_ok hverify, ← huid, hrecord]
  exact IdToken.verdict_of_second hiat hmillis hfits

/-- **A revocation takes effect in every check that is answered with what was sent.** Whenever some
client has accepted a token, no client refuses to revoke the tokens of its user for the identifier.
For any instant, also before 1970, there are its second and a numeral such that one request with the
user and the numeral is all that a revocation sends. From any reply that reports the numeral, a
client takes the second, in milliseconds; and a check with this reply refuses a valid token of the
user as revoked if it was issued before the second, and accepts it otherwise. -/
theorem revoke_takes_effect {v : Client} {token : String} {verified : Instant} {t : IdToken}
    (h : (v.verify token verified).1 = .ok t) (now : Instant) :
    (∀ c : Client, (c.revoke t.uid now).1 ≠ .error .invalidUid) ∧
    ∃ (second : Int) (numeral : String),
      (second * 1000000000 ≤ now.nanos ∧ now.nanos < (second + 1) * 1000000000) ∧
      (∀ (c : Client) (service : UserService), c.users = .service service →
        ∃ x, (c.revoke t.uid now).2.network.log = c.network.log ++ [x] ∧
          x.request.method = .post ∧ x.request.url = service.url ++ "/setAccountInfo" ∧
          Json.parse (Utf8.encode x.request.body) =
            .ok (.object [("localId", .string t.uid), ("validSince", .string numeral)])) ∧
      ∀ r : Http.Response, r.Reports numeral →
        (∀ (c : Client) (uid : String), c.Hears uid r → ∃ record,
          (c.getUser uid).1 = .ok record ∧ record.validAfterMillis = 1000 * second) ∧
        ∀ (c : Client) (other : String) (later : Instant) (valid : IdToken) (after : Client),
          c.verify other later = (.ok valid, after) → after.Hears valid.uid r →
          (c.verifyNotRevoked other later).1 =
            if valid.iat < second then .error .tokenRevoked else .ok valid := by
  have huid := isUid_of_verify h
  refine ⟨fun c => revoke_ne_invalidUid huid, now.seconds, Numeral.render now.seconds, ?_, ?_, ?_⟩
  · rw [Instant.seconds]
    omega
  · intro c service husers
    rw [snd_revoke_of_service huid husers]
    exact ⟨_, Http.Network.log_send _ _, rfl, rfl, service.parse_updateRequest t.uid now⟩
  · intro r hreports
    refine ⟨fun c uid hhears => getUser_of_hears hhears hreports, ?_⟩
    intro c other later valid after hverify hhears
    exact verifyNotRevoked_of_hears hverify hhears hreports

end Client

namespace Sample

/-- A nanosecond after the first second of 1970. -/
def late : Instant := ⟨1000000001, by decide, by decide⟩

/-- A client that has the keys, with a service that reports a numeral for the user. -/
def warned (numeral : String) : Client where
  projectId := some "p"
  signer := .known "signer" []
  keySource := .fixed keys
  users := .service ⟨address⟩
  network := .ofAnswers (fun _ => true) [.response (.listing [⟨"u", some numeral⟩])]

/-- A client that has the keys, with a service that lists accounts for the user. -/
def answered (accounts : List Account) : Client where
  projectId := some "p"
  signer := .known "signer" []
  keySource := .fixed keys
  users := .service ⟨address⟩
  network := .ofAnswers (fun _ => true) [.response (.listing accounts)]

theorem verify_answered (accounts : List Account) :
    (answered accounts).verify segments.text epoch = (.ok payload, answered accounts) := by
  refine Prod.ext (verify_of_keySet rfl rfl) ?_
  rw [Client.snd_verify]
  cases (answered accounts).receive segments.text <;> rfl

theorem send_answered (accounts : List Account) (uid : String) :
    ((answered accounts).network.send (UserService.lookupRequest ⟨address⟩ uid)).1 =
      .ok (.listing accounts) := by
  have hurl : (Url.parse? (address ++ "/getAccountInfo")).any
      (·.withoutUser.isSendable) = true := by
    decide +kernel
  exact Http.Network.send_ofAnswers hurl rfl []

theorem verify_warned (numeral : String) :
    (warned numeral).verify segments.text epoch = (.ok payload, warned numeral) :=
  verify_answered [⟨"u", some numeral⟩]

theorem hears_warned (numeral : String) :
    (warned numeral).Hears payload.uid (.listing [⟨"u", some numeral⟩]) :=
  ⟨⟨address⟩, rfl, send_answered [⟨"u", some numeral⟩] payload.uid⟩

end Sample

/-- A token that was issued with the epoch is revoked in the second after it, once it is reported
what was sent. -/
theorem Client.revoke_takes_effect_late :
    (Sample.client.verify Sample.segments.text Sample.epoch).1 = .ok Sample.payload ∧
      ∃ x numeral,
        (Sample.client.revoke Sample.payload.uid Sample.late).2.network.log =
          Sample.client.network.log ++ [x] ∧
        Json.parse (Utf8.encode x.request.body) = .ok (.object
          [("localId", .string Sample.payload.uid), ("validSince", .string numeral)]) ∧
        ((Sample.warned numeral).verifyNotRevoked Sample.segments.text Sample.epoch).1 =
          .error .tokenRevoked := by
  obtain ⟨-, second, numeral, ⟨hle, hlt⟩, hsent, hreported⟩ :=
    revoke_takes_effect Sample.verify_token Sample.late
  obtain ⟨x, hlog, -, -, hbody⟩ := hsent Sample.client ⟨userServiceUrl⟩ rfl
  obtain ⟨-, hchecked⟩ := hreported (.listing [⟨"u", some numeral⟩])
    ⟨_, _, Http.Response.read_listing _, rfl⟩
  have hcheck := hchecked _ _ _ _ _ (Sample.verify_warned numeral) (Sample.hears_warned numeral)
  refine ⟨Sample.verify_token, x, numeral, hlog, hbody, hcheck.trans ?_⟩
  change (1000000001 : Int) < (second + 1) * 1000000000 at hlt
  change (if (0 : Int) < second then _ else _) = _
  rw [if_pos (by omega)]

end IdentityTokens
