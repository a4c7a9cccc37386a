import IdentityTokens.Client.Operation
import IdentityTokens.Proofs.Minting.Production
import IdentityTokens.Proofs.NameMap
import IdentityTokens.Proofs.Verification.Rotation

/-!
# Tokens against user records

A token is checked against the record of its user in exact arithmetic, though times are kept in 64
bits: a token that was verified was not issued after the clock, so its time in milliseconds is never
too large, and where it is too small it is before the instant in any record. A check makes one
look-up if the token is valid and none if it is not. It leaves nothing behind that a later check
could take in place of a look-up, so the records that a check sees are what the changes before it
have made of them.

## Main definitions

* `Users.Representable`: all instants in the records fit in 64 bits.
* `Client.LooksUp`: one look-up.
* `Session.ChecksExactly`: what a check comes to.
* `Operation.changed`: what an operation makes of the instants in the records.

## Main statements

* `IdToken.verdict_eq`: the verdict in exact arithmetic.
* `Client.users_verify`, `Client.fetched_verify`: verification looks no record up.
* `Session.checks_exactly_after`: checks after any operations.
-/

namespace IdentityTokens

/-! ## The verdict -/

/-- A reply holds no record with an instant that does not fit in 64 bits. -/
def Fits (reply : Except Error UserRecord) : Prop :=
  ∀ r, reply = .ok r → Numeral.fitsInt64 r.validAfterMillis = true

/-- A time that does not exceed that of some instant does not exceed 64 bits in milliseconds. -/
theorem Instant.millis_le {iat : Int} {now : Instant} (h : iat ≤ now.seconds) :
    iat * 1000 ≤ 9223372036854775807 := by
  have hlatest := now.le_latest
  rw [Instant.seconds] at h
  omega

/-- A time too early for 64 bits of milliseconds is before the instant in any record. -/
theorem UserRecord.lt_of_early {iat : Int} {r : UserRecord}
    (hr : Numeral.fitsInt64 r.validAfterMillis = true) (h : iat * 1000 < -9223372036854775808) :
    iat * 1000 < r.validAfterMillis := by
  obtain ⟨hmin, -⟩ := Numeral.fitsInt64_iff.mp hr
  omega

namespace IdToken

/-- A token that was issued no later than now is revoked exactly if it was issued before the instant
in the record, overflow or not. -/
theorem isRevoked_iff {t : IdToken} {r : UserRecord} {now : Instant}
    (hiat : t.iat ≤ now.seconds) (hr : Numeral.fitsInt64 r.validAfterMillis = true) :
    t.isRevoked r = true ↔ t.iat * 1000 < r.validAfterMillis := by
  rw [isRevoked]
  split
  · exact decide_eq_true_iff
  · next hfits =>
    rw [Numeral.fitsInt64_iff, not_and_or] at hfits
    have hle := Instant.millis_le hiat
    have hearly : t.iat * 1000 < -9223372036854775808 := by omega
    simp [UserRecord.lt_of_early hr hearly]

/-- The verdict in exact arithmetic. -/
def exactVerdict (t : IdToken) : Except Error UserRecord → Except Error IdToken
  | .error e => .error e
  | .ok r => if r.validAfterMillis ≤ t.iat * 1000 then .ok t else .error .tokenRevoked

theorem exactVerdict_eq_ok_iff {t t' : IdToken} {reply : Except Error UserRecord} :
    t.exactVerdict reply = .ok t' ↔
      t = t' ∧ ∃ r, reply = .ok r ∧ r.validAfterMillis ≤ t.iat * 1000 := by
  cases reply with
  | error e => simp [exactVerdict]
  | ok r => by_cases hle : r.validAfterMillis ≤ t.iat * 1000 <;> simp [exactVerdict, hle]

/-- The verdict on a token that was issued no later than now is the exact one, whatever the
reply. -/
theorem verdict_eq {t : IdToken} {now : Instant} (hiat : t.iat ≤ now.seconds)
    {reply : Except Error UserRecord} (hreply : Fits reply) :
    t.verdict reply = t.exactVerdict reply := by
  cases reply with
  | error e => rfl
  | ok r =>
    have hrevoked := isRevoked_iff hiat (hreply r rfl)
    by_cases hle : r.validAfterMillis ≤ t.iat * 1000
    · have hnot : ¬t.isRevoked r = true := fun h => not_lt.mpr hle (hrevoked.mp h)
      simp only [verdict, exactVerdict, if_neg hnot, if_pos hle]
    · have hyes : t.isRevoked r = true := hrevoked.mpr (not_le.mp hle)
      simp only [verdict, exactVerdict, if_pos hyes, if_neg hle]

end IdToken

/-! ## Records that fit -/

/-- All instants in the records fit in 64 bits. -/
def Users.Representable : Users → Prop
  | .service _ => True
  | .store s => ∀ entry ∈ s.cutoffs, Numeral.fitsInt64 entry.2 = true

theorem Account.fits_record {a : Account} {r : UserRecord} (h : a.record = .ok r) :
    Numeral.fitsInt64 r.validAfterMillis = true := by
  rw [record] at h
  cases hmillis : a.validAfterMillis with
  | error e =>
    rw [hmillis] at h
    cases h
  | ok millis =>
    rw [hmillis] at h
    cases h
    simp only [validAfterMillis] at hmillis
    split at hmillis
    · cases hmillis
      rfl
    · cases hmillis
      rfl
    · split at hmillis
      · cases hmillis
      · split at hmillis
        · next hfits =>
          cases hmillis
          exact hfits
        · cases hmillis

theorem UserService.fits_recordOf (uid : String) (outcome : Except Http.Failure Http.Response) :
    Fits (recordOf uid outcome) := by
  intro r h
  unfold recordOf at h
  split at h
  · cases h
  · split at h
    · cases h
    · cases h
    · exact Account.fits_record h

theorem UserStore.fits_getUser {s : UserStore}
    (h : ∀ entry ∈ s.cutoffs, Numeral.fitsInt64 entry.2 = true) (uid : String) :
    Fits (s.getUser uid).1 := by
  intro r hr
  simp only [getUser] at hr
  split at hr
  · cases hr
  · cases hr
    cases hfind : s.cutoffs.find? uid with
    | none => rfl
    | some millis =>
      obtain ⟨before, after, hsplit, -⟩ := List.lookup_eq_some_iff.mp hfind
      exact h (uid, millis) (by simp [hsplit])

namespace Client

variable {c : Client} {token uid : String} {now : Instant}

theorem getUser_of_service {service : UserService} (h : c.users = .service service)
    (uid : String) :
    c.getUser uid =
      (UserService.recordOf uid (c.network.send (service.lookupRequest uid)).1,
        { c with network := (c.network.send (service.lookupRequest uid)).2 }) := by
  simp only [getUser, h, Users.getUser, UserService.getUser]

theorem getUser_of_store {records : UserStore} (h : c.users = .store records) (uid : String) :
    c.getUser uid =
      ((records.getUser uid).1, { c with users := .store (records.getUser uid).2 }) := by
  simp only [getUser, h, Users.getUser]

theorem fits_getUser (hc : c.users.Representable) (uid : String) : Fits (c.getUser uid).1 := by
  cases husers : c.users with
  | service service =>
    rw [getUser_of_service husers]
    exact UserService.fits_recordOf uid _
  | store records =>
    rw [husers] at hc
    rw [getUser_of_store husers]
    exact UserStore.fits_getUser hc uid

/-! ## Look-ups -/

/-- One look-up of a user takes a client to another state, with a reply. Records in memory note the
call; a service is sent one request, and the reply is what came of it. -/
inductive LooksUp (c : Client) (uid : String) : Except Error UserRecord → Client → Prop where
  | stored {records : UserStore} (users : c.users = .store records) :
      LooksUp c uid
        (if records.missing.contains uid then .error (.userNotFound uid)
          else .ok ⟨uid, (records.cutoffs.find? uid).getD 0⟩)
        { c with users := .store { records with calls := records.calls ++ [.getUser uid] } }
  | asked {service : UserService} (users : c.users = .service service) :
      LooksUp c uid
        (UserService.recordOf uid (c.network.send (service.lookupRequest uid)).1)
        { c with network := (c.network.send (service.lookupRequest uid)).2 }

theorem looksUp_getUser (c : Client) (uid : String) :
    c.LooksUp uid (c.getUser uid).1 (c.getUser uid).2 := by
  cases husers : c.users with
  | service service =>
    rw [getUser_of_service husers]
    exact .asked husers
  | store records =>
    rw [getUser_of_store husers]
    exact .stored husers

/-- Between two states no record was looked up: the records are as they were, down to the calls
that they note, and nothing that was sent is a look-up. -/
structure LooksNothingUp (c after : Client) : Prop where
  users_eq : after.users = c.users
  sent : ∃ sent, after.network.log = c.network.log ++ sent ∧
    ∀ x ∈ sent, ∀ (service : UserService) (uid : String), x.request ≠ service.lookupRequest uid

theorem looksNothingUp_refl (c : Client) : c.LooksNothingUp c := ⟨rfl, [], by simp, by simp⟩

/-- Keys are fetched by requests for documents, and records are not. -/
theorem looksNothingUp_keySet (c : Client) (now : Instant) :
    c.LooksNothingUp (c.keySet now).2 := by
  obtain ⟨sent, hlog, -, hkeys⟩ := sends_keySet c now
  refine ⟨rfl, sent, hlog, ?_⟩
  intro x hx service uid heq
  obtain ⟨cache, -, hrequest⟩ := hkeys x hx
  rw [hrequest] at heq
  cases congrArg Http.Request.method heq

/-- Verification looks no record up. -/
theorem looksNothingUp_verify (c : Client) (token : String) (now : Instant) :
    c.LooksNothingUp (c.verify token now).2 := by
  rw [snd_verify]
  cases c.receive token with
  | error e => exact looksNothingUp_refl c
  | ok taken => exact looksNothingUp_keySet c now

/-! ## One check -/

/-- What a check of a token comes to. It succeeds exactly if the token is valid and was not issued
before the instant in the record. A token that is not valid is refused as such, without a look-up.
For one that is, there is one look-up, of the user that is its subject, and the reply decides: an
error is handed on, and otherwise the token is accepted or revoked in exact arithmetic. Milliseconds
are never too large for 64 bits, and revoked where they are too small. -/
structure ChecksExactly (c : Client) (token : String) (now : Instant) : Prop where
  ok_iff : ∀ t, (c.verifyNotRevoked token now).1 = .ok t ↔
    ∃ after r, c.verify token now = (.ok t, after) ∧ (after.getUser t.uid).1 = .ok r ∧
      r.validAfterMillis ≤ t.iat * 1000
  of_error : ∀ e after, c.verify token now = (.error e, after) →
    c.verifyNotRevoked token now = (.error e, after) ∧ c.LooksNothingUp after
  of_ok : ∀ t after, c.verify token now = (.ok t, after) →
    t.uid = t.sub ∧ c.LooksNothingUp after ∧
      ∃ reply last, after.LooksUp t.sub reply last ∧ Fits reply ∧
        c.verifyNotRevoked token now = (t.exactVerdict reply, last)
  verdict_eq : ∀ t after, c.verify token now = (.ok t, after) → ∀ reply, Fits reply →
    t.verdict reply = t.exactVerdict reply
  bounded : ∀ t after, c.verify token now = (.ok t, after) →
    t.iat ≤ now.seconds ∧ t.iat * 1000 ≤ 9223372036854775807 ∧
      (t.iat * 1000 < -9223372036854775808 → ∀ r, Fits (.ok r) →
        t.verdict (.ok r) = .error .tokenRevoked)

/-- What is known of a token that was verified: its subject is the user, and it was not issued after
the clock. -/
theorem verified_ok {t : IdToken} {after : Client} (h : c.verify token now = (.ok t, after)) :
    t.uid = t.sub ∧ t.iat ≤ now.seconds := by
  obtain ⟨accepted, rfl⟩ := verify_eq_ok_iff.mp (congrArg Prod.fst h)
  exact ⟨rfl, accepted.iat_le⟩

theorem verifyNotRevoked_of_error {e : Error} {after : Client}
    (h : c.verify token now = (.error e, after)) :
    c.verifyNotRevoked token now = (.error e, after) := by
  simp only [verifyNotRevoked, h]

theorem verifyNotRevoked_of_ok {t : IdToken} {after : Client}
    (h : c.verify token now = (.ok t, after)) :
    c.verifyNotRevoked token now =
      (t.verdict (after.getUser t.sub).1, (after.getUser t.sub).2) := by
  rw [verifyNotRevoked, h, ← (verified_ok h).1]

theorem looksNothingUp_of_verify {outcome : Except Error IdToken} {after : Client}
    (h : c.verify token now = (outcome, after)) : c.LooksNothingUp after := by
  have hafter := looksNothingUp_verify c token now
  rwa [h] at hafter

/-- A token that is valid leads to one look-up, and the reply to the exact verdict. -/
theorem exactVerdict_of_ok (hc : c.users.Representable) {t : IdToken} {after : Client}
    (h : c.verify token now = (.ok t, after)) :
    Fits (after.getUser t.sub).1 ∧
      c.verifyNotRevoked token now =
        (t.exactVerdict (after.getUser t.sub).1, (after.getUser t.sub).2) := by
  have hfits := fits_getUser ((looksNothingUp_of_verify h).users_eq ▸ hc) t.sub
  refine ⟨hfits, ?_⟩
  rw [verifyNotRevoked_of_ok h, IdToken.verdict_eq (verified_ok h).2 hfits]

theorem verifyNotRevoked_eq_ok_iff (hc : c.users.Representable) (t : IdToken) :
    (c.verifyNotRevoked token now).1 = .ok t ↔
      ∃ after r, c.verify token now = (.ok t, after) ∧ (after.getUser t.uid).1 = .ok r ∧
        r.validAfterMillis ≤ t.iat * 1000 := by
  rcases hverify : c.verify token now with ⟨outcome, after⟩
  cases outcome with
  | error e => simp [verifyNotRevoked_of_error hverify]
  | ok valid =>
    rw [(exactVerdict_of_ok hc hverify).2, IdToken.exactVerdict_eq_ok_iff,
      ← (verified_ok hverify).1]
    constructor
    · rintro ⟨rfl, r, hr, hle⟩
      exact ⟨after, r, rfl, hr, hle⟩
    · rintro ⟨_, r, heq, hr, hle⟩
      cases heq
      exact ⟨rfl, r, hr, hle⟩

/-- A check of a client whose records fit comes to what it must. -/
theorem checksExactly (hc : c.users.Representable) (token : String) (now : Instant) :
    c.ChecksExactly token now where
  ok_iff := verifyNotRevoked_eq_ok_iff hc
  of_error e after h := ⟨verifyNotRevoked_of_error h, looksNothingUp_of_verify h⟩
  of_ok t after h :=
    ⟨(verified_ok h).1, looksNothingUp_of_verify h, _, _, looksUp_getUser after t.sub,
      exactVerdict_of_ok hc h⟩
  verdict_eq t after h reply hreply := IdToken.verdict_eq (verified_ok h).2 hreply
  bounded t after h := by
    have hiat := (verified_ok h).2
    refine ⟨hiat, Instant.millis_le hiat, fun hearly r hr => ?_⟩
    rw [IdToken.verdict_eq hiat hr]
    exact if_neg (not_le.mpr (UserRecord.lt_of_early (hr r rfl) hearly))

end Client

/-! ## Clients in operation -/

/-- The instants in the records, where they are in reach. -/
def Users.cutoffs : Users → NameMap Int
  | .service _ => []
  | .store s => s.cutoffs

/-- The records with other instants in them, and other calls noted. A service is out of reach. -/
def Users.holding (cutoffs : NameMap Int) (calls : List UserCall) : Users → Users
  | .service s => .service s
  | .store s => .store { s with cutoffs, calls }

/-- What an operation makes of the instants in the records and of the clock. A check changes
neither, as little as any operation does that is not about records or the clock. -/
def Operation.changed (state : NameMap Int × Instant) : Operation → NameMap Int × Instant
  | .revoke uid =>
    if isUid uid then (state.1.insert uid (state.2.seconds * 1000), state.2) else state
  | .setCutoff uid millis => (state.1.insert uid millis, state.2)
  | .setClock now => (state.1, now)
  | .check _ | .verify _ | .mint _ _ => state

/-- An instant that is set fits in 64 bits. -/
def Operation.Representable : Operation → Prop
  | .setCutoff _ millis => Numeral.fitsInt64 millis = true
  | _ => True

/-- The records are what the changes have made of the ones at the start, and so is the clock. -/
structure Follows (start : Users) (state : NameMap Int × Instant) (s : Session) : Prop where
  now_eq : s.now = state.2
  users_eq : ∃ calls, s.client.users = start.holding state.1 calls
  fits : ∀ entry ∈ state.1, Numeral.fitsInt64 entry.2 = true

variable {start : Users} {state : NameMap Int × Instant} {s : Session}

theorem Follows.refl (hs : s.client.users.Representable) :
    Follows s.client.users (s.client.users.cutoffs, s.now) s := by
  cases husers : s.client.users with
  | service service => exact ⟨rfl, ⟨[], husers⟩, by simp [Users.cutoffs]⟩
  | store records =>
    rw [husers] at hs
    exact ⟨rfl, ⟨records.calls, husers⟩, hs⟩

theorem Follows.representable (h : Follows start state s) : s.client.users.Representable := by
  obtain ⟨calls, husers⟩ := h.users_eq
  rw [husers]
  cases start with
  | service service => exact trivial
  | store records => exact h.fits

theorem fitsInt64_seconds_mul (t : Instant) : Numeral.fitsInt64 (t.seconds * 1000) = true := by
  have hearliest := t.earliest_le
  have hlatest := t.le_latest
  rw [Numeral.fitsInt64_iff, Instant.seconds]
  omega

/-- Setting an instant that fits keeps the instants fitting. -/
theorem fits_insert {cutoffs : NameMap Int} {millis : Int}
    (h : ∀ entry ∈ cutoffs, Numeral.fitsInt64 entry.2 = true)
    (hmillis : Numeral.fitsInt64 millis = true) (uid : String) :
    ∀ entry ∈ cutoffs.insert uid millis, Numeral.fitsInt64 entry.2 = true := by
  intro entry hentry
  rcases NameMap.mem_insert hentry with rfl | hentry
  · exact hmillis
  · exact h entry hentry

namespace Client

variable {c : Client} {cutoffs : NameMap Int} {calls : List UserCall}

theorem users_getUser (h : c.users = start.holding cutoffs calls) (uid : String) :
    ∃ later, (c.getUser uid).2.users = start.holding cutoffs later := by
  cases start with
  | service service =>
    rw [getUser_of_service h]
    exact ⟨calls, h⟩
  | store records =>
    rw [getUser_of_store h]
    exact ⟨calls ++ [.getUser uid], rfl⟩

/-- A check leaves the instants in the records as they are. -/
theorem users_verifyNotRevoked (h : c.users = start.holding cutoffs calls) (token : String)
    (now : Instant) :
    ∃ later, (c.verifyNotRevoked token now).2.users = start.holding cutoffs later := by
  rcases hverify : c.verify token now with ⟨outcome, after⟩
  have hafter : after.users = start.holding cutoffs calls :=
    (looksNothingUp_of_verify hverify).users_eq.trans h
  cases outcome with
  | error e =>
    rw [verifyNotRevoked_of_error hverify]
    exact ⟨calls, hafter⟩
  | ok t =>
    rw [verifyNotRevoked_of_ok hverify]
    exact users_getUser hafter t.sub

/-- Signing has nothing to do with the records. -/
theorem users_customToken (c : Client) (uid : String) (claims : Json.Members) (now : Instant) :
    (c.customToken uid claims now).2.users = c.users := by
  have hkeeps := @Signatory.mint_keeps Client signatory c (fun after => after.users = c.users)
    (fun _ h => h) (fun _ _ h => h) rfl uid claims now
  exact hkeeps

/-- To revoke is to set the instant in the record to the second of the clock. -/
theorem users_revoke (h : c.users = start.holding cutoffs calls) (uid : String) (now : Instant) :
    ∃ later, (c.revoke uid now).2.users =
      start.holding (Operation.changed (cutoffs, now) (.revoke uid)).1 later := by
  rw [revoke, Operation.changed]
  by_cases huid : isUid uid = true
  · simp only [huid, if_true, updateUser, h]
    cases start with
    | service service => exact ⟨calls, rfl⟩
    | store records => exact ⟨calls ++ [.updateUser uid (some now.seconds)], rfl⟩
  · simp only [huid]
    exact ⟨calls, h⟩

end Client

theorem Users.setCutoff_holding (start : Users) (cutoffs : NameMap Int) (calls : List UserCall)
    (uid : String) (millis : Int) :
    (start.holding cutoffs calls).setCutoff uid millis =
      start.holding (cutoffs.insert uid millis) calls := by
  cases start <;> rfl

/-- One operation changes the records as it says. -/
theorem Follows.operate (h : Follows start state s) {op : Operation} (hop : op.Representable) :
    Follows start (Operation.changed state op) (s.operate op).2 := by
  obtain ⟨cutoffs, clock⟩ := state
  obtain ⟨rfl, ⟨calls, husers⟩, hfits⟩ := h
  cases op with
  | check token => exact ⟨rfl, Client.users_verifyNotRevoked husers token s.now, hfits⟩
  | verify token =>
    have hafter := Client.looksNothingUp_verify s.client token s.now
    exact ⟨rfl, ⟨calls, hafter.users_eq.trans husers⟩, hfits⟩
  | mint uid claims =>
    exact ⟨rfl, ⟨calls, (Client.users_customToken s.client uid claims s.now).trans husers⟩, hfits⟩
  | revoke uid =>
    refine ⟨?_, Client.users_revoke husers uid s.now, ?_⟩
    · simp only [Operation.changed]
      split <;> rfl
    · simp only [Operation.changed]
      split
      · exact fits_insert hfits (fitsInt64_seconds_mul s.now) uid
      · exact hfits
  | setCutoff uid millis =>
    refine ⟨rfl, ⟨calls, ?_⟩, fits_insert hfits hop uid⟩
    rw [Operation.changed, ← Users.setCutoff_holding, ← husers]
    rfl
  | setClock now => exact ⟨rfl, ⟨calls, husers⟩, hfits⟩

/-- Any operations change the records as they say, one after the other. -/
theorem Follows.run (h : Follows start state s) {operations : List Operation}
    (hops : ∀ op ∈ operations, op.Representable) :
    Follows start (operations.foldl Operation.changed state)
      (run Session.operate s operations).2 := by
  induction operations generalizing state s with
  | nil => exact h
  | cons op operations ih =>
    exact ih (h.operate (hops op (by simp))) fun later hlater => hops later (by simp [hlater])

/-- **Checks are exact at any time**, whatever was asked of the client before, however the clock was
set and whatever others have made of the records: what a check comes to is determined by the token,
the keys, the clock and one look-up. The records that it looks up are the ones at the start with the
changes made since, whatever was looked up in between. -/
theorem Session.checks_exactly_after (start : Session)
    (hstart : start.client.users.Representable) (operations : List Operation)
    (hops : ∀ op ∈ operations, op.Representable) :
    (∀ token, (run operate start operations).2.client.ChecksExactly token
      (run operate start operations).2.now) ∧
    (∃ calls, (run operate start operations).2.client.users =
      start.client.users.holding
        (operations.foldl Operation.changed (start.client.users.cutoffs, start.now)).1 calls) ∧
    (run operate start operations).2.now =
      (operations.foldl Operation.changed (start.client.users.cutoffs, start.now)).2 := by
  have hfollows := (Follows.refl hstart).run hops
  exact ⟨fun token => Client.checksExactly hfollows.representable token _, hfollows.users_eq,
    hfollows.now_eq⟩

/-- Other records have no influence on verification, and it has none on them. -/
theorem Client.verify_withUsers (c : Client) (users : Users) (token : String) (now : Instant) :
    ({ c with users } : Client).verify token now =
      ((c.verify token now).1, { (c.verify token now).2 with users }) := by
  have hreceive : ({ c with users } : Client).receive token = c.receive token := rfl
  have hkeys : ({ c with users } : Client).keySet now =
      ((c.keySet now).1, { (c.keySet now).2 with users }) := by
    simp only [keySet]
  rw [verify, verify, hreceive, hkeys]
  cases c.receive token with
  | error e => rfl
  | ok taken => rcases c.keySet now with ⟨_ | _, after⟩ <;> rfl

namespace Sample

/-- The client at the start of 1970, with records in memory that hold nothing yet. -/
def session : Session := ⟨{ client with users := .store ⟨[], [], []⟩ }, epoch⟩

/-- The instant of the user is set to the first millisecond after the token was issued. -/
def cutoff : List Operation := [.setCutoff "u" 1]

end Sample

open Sample (session cutoff) in
/-- A token that was issued a millisecond too early is revoked. -/
theorem Session.checks_exactly_after_cutoff :
    session.client.users.Representable ∧ (∀ op ∈ cutoff, op.Representable) ∧
      ((∀ token, (run operate session cutoff).2.client.ChecksExactly token
          (run operate session cutoff).2.now) ∧
        (∃ calls, (run operate session cutoff).2.client.users =
          session.client.users.holding
            (cutoff.foldl Operation.changed (session.client.users.cutoffs, session.now)).1 calls) ∧
        (run operate session cutoff).2.now =
          (cutoff.foldl Operation.changed (session.client.users.cutoffs, session.now)).2) ∧
      ((run operate session cutoff).2.client.verifyNotRevoked Sample.segments.text
        Sample.epoch).1 = .error .tokenRevoked := by
  have hstart : session.client.users.Representable := by simp [session, Users.Representable]
  have hops : ∀ op ∈ cutoff, op.Representable := by
    simp only [cutoff, List.mem_singleton, forall_eq]
    exact rfl
  have hafter := checks_exactly_after session hstart cutoff hops
  refine ⟨hstart, hops, hafter, ?_⟩
  have hclient : (run operate session cutoff).2.client =
      { Sample.client with users := .store ⟨[("u", 1)], [], []⟩ } := rfl
  have hverify := Client.verify_withUsers Sample.client (.store ⟨[("u", 1)], [], []⟩)
    Sample.segments.text Sample.epoch
  rw [Sample.verify_token, ← hclient] at hverify
  obtain ⟨-, -, reply, last, hlooks, -, hresult⟩ :=
    (hafter.1 Sample.segments.text).of_ok _ _ hverify
  refine (congrArg Prod.fst hresult).trans ?_
  cases hlooks with
  | asked husers => cases husers
  | stored husers =>
    cases husers
    rfl

end IdentityTokens
