import IdentityTokens.Proofs.Number.Numeral
import IdentityTokens.Proofs.Users.Accounts
import IdentityTokens.Proofs.Verification.Revoking

/-!
# Looking a user up

A look-up is one request with the identifier of a user, and the record that comes of it is made of
the first account in the reply. The time of the account is a free text. Either it is a numeral of
seconds, and then the record has exactly as many milliseconds, or there is no record: nothing wraps
around and nothing is cut off.

Whose account comes first is not looked at. The record of a look-up is that of the user exactly if
the service has put the user first, and a check decides by the first account whoever it belongs to.

## Main definitions

* `Cutoff`: the instant that the time of an account stands for.
* `UserService.Answers`: the service answers a look-up with accounts.

## Main statements

* `Account.validAfterMillis_eq_ok_iff`: what is made of the time of an account.
* `UserService.getUser_exact`: what comes of a look-up, and what is sent.
* `Client.decides_by_first_account`: whose account a record and a check are made of.
-/

namespace IdentityTokens

/-! ## The time of an account -/

/-- The instant that the time of an account stands for, in milliseconds: the start of time if it is
missing or empty, and else a numeral of seconds, of which the milliseconds fit in 64 bits. -/
inductive Cutoff : Option String → Int → Prop where
  | missing : Cutoff none 0
  | empty : Cutoff (some "") 0
  | seconds {text : String} {n : Int} (spells : Numeral.Spells text.toList n)
      (fits : Numeral.fitsInt64 (1000 * n) = true) : Cutoff (some text) (1000 * n)

namespace Account

variable {a : Account}

/-- The milliseconds that are made of the time of an account are those of the instant that it stands
for. -/
theorem validAfterMillis_eq_ok_iff {m : Int} :
    a.validAfterMillis = .ok m ↔ Cutoff a.validSince m := by
  rw [validAfterMillis.eq_def]
  constructor
  · intro h
    split at h
    · next hnone =>
      cases h
      rw [hnone]
      exact .missing
    · next hempty =>
      cases h
      rw [hempty]
      exact .empty
    · next text hsome =>
      rw [hsome]
      split at h
      · cases h
      · next n hread =>
        split at h
        · next hfits =>
          cases h
          rw [Int.mul_comm] at hfits ⊢
          exact .seconds (Numeral.int64_eq_ok_iff.mp hread).1 hfits
        · cases h
  · intro h
    generalize a.validSince = validSince at h
    cases h with
    | missing => rfl
    | empty => rfl
    | @seconds text n hspells hfits =>
      -- The numeral is read within its own bounds: the seconds fit since the milliseconds do.
      have hsmall : Numeral.fitsInt64 n = true := by
        rw [Numeral.fitsInt64_iff] at hfits ⊢
        omega
      have hread := Numeral.int64_eq_ok_iff.mpr ⟨hspells, hsmall⟩
      split
      · cases ‹some text = none›
      · next hempty =>
        cases hempty
        cases hread
      · next other hother =>
        cases hother
        simp only [hread, Int.mul_comm n, hfits, if_true]

theorem record_eq_ok_iff {r : UserRecord} :
    a.record = .ok r ↔ r.uid = a.localId ∧ Cutoff a.validSince r.validAfterMillis := by
  rw [← validAfterMillis_eq_ok_iff, record]
  obtain ⟨uid, millis⟩ := r
  cases a.validAfterMillis with
  | error e => simp [Except.map]
  | ok m => simp [Except.map, eq_comm]

end Account

/-! ## What comes of a look-up -/

namespace UserService

variable {s : UserService} {uid : String} {n : Http.Network} {accounts : List Account}

/-- The service answers a look-up of a user with accounts: a reply comes, reports no error, and
lists them. -/
def Answers (s : UserService) (uid : String) (n : Http.Network) (accounts : List Account) : Prop :=
  ∃ response, n.reply? (s.lookupRequest uid) = some response ∧ ¬response.ReportsError ∧
    response.read Account.listReader = .ok accounts

theorem Answers.unique {others : List Account} (h : s.Answers uid n accounts)
    (h' : s.Answers uid n others) : accounts = others := by
  obtain ⟨response, hreply, -, hread⟩ := h
  obtain ⟨response', hreply', -, hread'⟩ := h'
  cases hreply.symm.trans hreply'
  exact Except.ok.inj (hread.symm.trans hread')

/-- What a look-up gives: the record of the first account, or no user, or no more than a problem of
the network. -/
theorem getUser_cases (s : UserService) (uid : String) (n : Http.Network) :
    (∃ account others, s.Answers uid n (account :: others) ∧
      (s.getUser uid n).1 = account.record) ∨
    (s.Answers uid n [] ∧ (s.getUser uid n).1 = .error (.userNotFound uid)) ∨
    (∀ accounts, ¬s.Answers uid n accounts) ∧
      ∃ problem, (s.getUser uid n).1 = .error (.network problem) := by
  simp only [getUser, recordOf]
  cases hsend : (n.send (s.lookupRequest uid)).1 with
  | error failure =>
    refine .inr (.inr ⟨?_, _, rfl⟩)
    rintro accounts ⟨response, hreply, hsuccess, -⟩
    cases hsend.symm.trans (Http.Network.send_eq_ok_iff.mpr ⟨hreply, hsuccess⟩)
  | ok response =>
    obtain ⟨hreply, hsuccess⟩ := Http.Network.send_eq_ok_iff.mp hsend
    cases hread : response.read Account.listReader with
    | error failure =>
      refine .inr (.inr ⟨?_, .http failure, by simp only [hread]⟩)
      rintro accounts ⟨other, hother, -, haccounts⟩
      cases hreply.symm.trans hother
      cases hread.symm.trans haccounts
    | ok accounts =>
      have hanswers : s.Answers uid n accounts := ⟨response, hreply, hsuccess, hread⟩
      cases accounts with
      | nil => exact .inr (.inl ⟨hanswers, by simp only [hread]⟩)
      | cons account others => exact .inl ⟨account, others, hanswers, by simp only [hread]⟩

theorem getUser_of_answers {account : Account} {others : List Account}
    (h : s.Answers uid n (account :: others)) : (s.getUser uid n).1 = account.record := by
  rcases s.getUser_cases uid n with ⟨first, more, hanswers, hgiven⟩ | ⟨hanswers, -⟩ | ⟨hnone, -⟩
  · cases h.unique hanswers
    exact hgiven
  · cases h.unique hanswers
  · exact (hnone _ h).elim

/-- Whatever holds of the records of accounts and of no other outcome holds of a look-up if it holds
of the record of the first account. -/
theorem getUser_iff_of_record {P : Except Error UserRecord → Prop}
    (hmissing : ¬P (.error (.userNotFound uid)))
    (hnetwork : ∀ problem, ¬P (.error (.network problem))) :
    P (s.getUser uid n).1 ↔
      ∃ account others, s.Answers uid n (account :: others) ∧ P account.record := by
  constructor
  · intro hP
    rcases s.getUser_cases uid n with ⟨account, others, hanswers, hgiven⟩ | ⟨-, hgiven⟩ |
      ⟨-, problem, hgiven⟩
    · exact ⟨account, others, hanswers, hgiven ▸ hP⟩
    · exact (hmissing (hgiven ▸ hP)).elim
    · exact (hnetwork problem (hgiven ▸ hP)).elim
  · rintro ⟨account, others, hanswers, hP⟩
    rwa [getUser_of_answers hanswers]

theorem getUser_eq_ok_iff {r : UserRecord} :
    (s.getUser uid n).1 = .ok r ↔ ∃ account others, s.Answers uid n (account :: others) ∧
      r.uid = account.localId ∧ Cutoff account.validSince r.validAfterMillis := by
  simp only [← Account.record_eq_ok_iff]
  exact getUser_iff_of_record (P := (· = .ok r)) (by simp) (by simp)

end UserService

theorem Sample.answers_answered (accounts : List Account) (uid : String) :
    UserService.Answers ⟨address⟩ uid (answered accounts).network accounts := by
  obtain ⟨hreply, hsuccess⟩ := Http.Network.send_eq_ok_iff.mp (send_answered accounts uid)
  exact ⟨_, hreply, hsuccess, Http.Response.read_listing accounts⟩

namespace UserService

variable {s : UserService} {uid : String} {n : Http.Network} {accounts : List Account}

/-- The record of a look-up is that of the user, with the instant of an account of the user, exactly
if the first account is the user's. -/
theorem own_iff_of_answers {account : Account} {others : List Account}
    (h : s.Answers uid n (account :: others)) {r : UserRecord} (hr : (s.getUser uid n).1 = .ok r) :
    (r.uid = uid ∧ ∃ own ∈ account :: others, own.localId = uid ∧
      Cutoff own.validSince r.validAfterMillis) ↔ account.localId = uid := by
  rw [getUser_of_answers h] at hr
  obtain ⟨huid, hcutoff⟩ := Account.record_eq_ok_iff.mp hr
  constructor
  · rintro ⟨hown, -⟩
    exact huid.symm.trans hown
  · intro hfirst
    exact ⟨huid.trans hfirst, account, List.mem_cons_self, hfirst, hcutoff⟩

end UserService

namespace Client

variable {c after : Client} {token : String} {now : Instant} {t : IdToken} {service : UserService}
  {account : Account} {others : List Account}

/-- A check compares the token with the instant of the first account. -/
theorem verifyNotRevoked_of_answers (hverify : c.verify token now = (.ok t, after))
    (husers : after.users = .service service)
    (h : service.Answers t.uid after.network (account :: others)) {m : Int}
    (hcutoff : Cutoff account.validSince m) :
    (c.verifyNotRevoked token now).1 =
      if t.iat * 1000 < m then .error .tokenRevoked else .ok t := by
  obtain ⟨huid, hiat⟩ := verified_ok hverify
  have hrecord : account.record = .ok ⟨account.localId, m⟩ :=
    Account.record_eq_ok_iff.mpr ⟨rfl, hcutoff⟩
  have hgiven : (after.getUser t.sub).1 = .ok ⟨account.localId, m⟩ := by
    rw [getUser_of_service husers, ← huid, ← hrecord]
    exact UserService.getUser_of_answers h
  have hfits : Fits (.ok ⟨account.localId, m⟩) := by
    rintro _ ⟨⟩
    exact Account.fits_record hrecord
  rw [verifyNotRevoked_of_ok hverify, hgiven]
  exact (IdToken.verdict_eq hiat hfits).trans (by
    by_cases hbefore : t.iat * 1000 < m
    · rw [IdToken.exactVerdict, if_pos hbefore, if_neg (not_le.mpr hbefore)]
    · rw [IdToken.exactVerdict, if_neg hbefore, if_pos (not_lt.mp hbefore)])

/-- **The first account decides, whoever it belongs to.** Where a look-up of a user gives a record,
the service has listed accounts, and the record is that of the user, with the instant of one of the
accounts of the user, exactly if an account of the user comes first. A check of a valid token of the
user that gets this record compares the token with the instant of the first account. -/
theorem decides_by_first_account (s : UserService) (uid : String) (n : Http.Network)
    (r : UserRecord) (hr : (s.getUser uid n).1 = .ok r) :
    ∃ account others, s.Answers uid n (account :: others) ∧
      ((r.uid = uid ∧ ∃ own ∈ account :: others, own.localId = uid ∧
        Cutoff own.validSince r.validAfterMillis) ↔ account.localId = uid) ∧
      Cutoff account.validSince r.validAfterMillis ∧
      ∀ (c : Client) (token : String) (now : Instant) (t : IdToken) (after : Client),
        c.verify token now = (.ok t, after) → after.users = .service s → after.network = n →
          t.uid = uid → (c.verifyNotRevoked token now).1 =
            if t.iat * 1000 < r.validAfterMillis then .error .tokenRevoked else .ok t := by
  obtain ⟨account, others, hanswers, huid, hcutoff⟩ := UserService.getUser_eq_ok_iff.mp hr
  refine ⟨account, others, hanswers, UserService.own_iff_of_answers hanswers hr, hcutoff, ?_⟩
  rintro c token now t after hverify husers rfl rfl
  exact verifyNotRevoked_of_answers hverify husers hanswers hcutoff

end Client

namespace Sample

/-- The account of the user, which revokes what was issued in the first second of 1970. -/
def own : Account := ⟨"u", some "1"⟩

/-- The account of another user, which revokes nothing. -/
def stranger : Account := ⟨"m", some "0"⟩

theorem cutoff_own : Cutoff own.validSince 1000 :=
  have hread : Numeral.int64 "1" = .ok 1 := by decide
  .seconds (Numeral.int64_eq_ok_iff.mp hread).1 (by decide)

theorem cutoff_stranger : Cutoff stranger.validSince 0 :=
  have hread : Numeral.int64 "0" = .ok 0 := by decide
  .seconds (Numeral.int64_eq_ok_iff.mp hread).1 (by decide)

theorem getUser_answered {account : Account} {m : Int} (h : Cutoff account.validSince m)
    (others : List Account) (uid : String) :
    (UserService.getUser ⟨address⟩ uid (answered (account :: others)).network).1 =
      .ok ⟨account.localId, m⟩ :=
  (UserService.getUser_of_answers (answers_answered _ uid)).trans
    (Account.record_eq_ok_iff.mpr ⟨rfl, h⟩)

end Sample

namespace Client

open IdentityTokens.Sample (own stranger answered address)

/-- With the account of the user before that of another one the token is revoked, and with the two
the other way round it is accepted. -/
theorem decides_by_first_account_swapped :
    ("u" = "u" ∧ ∃ account ∈ [own, stranger], account.localId = "u" ∧
      Cutoff account.validSince 1000) ∧
    ((answered [own, stranger]).verifyNotRevoked Sample.segments.text Sample.epoch).1 =
      .error .tokenRevoked ∧
    ((answered [stranger, own]).verifyNotRevoked Sample.segments.text Sample.epoch).1 =
      .ok Sample.payload := by
  have hown := decides_by_first_account _ _ _ _
    (Sample.getUser_answered Sample.cutoff_own [stranger] "u")
  have hstranger := decides_by_first_account _ _ _ _
    (Sample.getUser_answered Sample.cutoff_stranger [own] "u")
  obtain ⟨_, _, hanswers, hrecord, -, hchecks⟩ := hown
  obtain ⟨_, _, hanswers', -, -, hchecks'⟩ := hstranger
  cases hanswers.unique (Sample.answers_answered [own, stranger] "u")
  cases hanswers'.unique (Sample.answers_answered [stranger, own] "u")
  refine ⟨hrecord.mpr rfl, ?_, ?_⟩
  · exact (hchecks _ _ _ _ _ (Sample.verify_answered [own, stranger]) rfl rfl rfl).trans
      (if_pos (by decide))
  · exact (hchecks' _ _ _ _ _ (Sample.verify_answered [stranger, own]) rfl rfl rfl).trans
      (if_neg (by decide))

/-- Not all records that look-ups give are those of the users, and not all checks that accept a
token have compared it with an account of the user. -/
theorem not_decides_by_own_account :
    (¬∀ (s : UserService) (uid : String) (n : Http.Network) (r : UserRecord),
      (s.getUser uid n).1 = .ok r → r.uid = uid ∧ ∃ accounts, s.Answers uid n accounts ∧
        ∃ account ∈ accounts, account.localId = uid ∧
          Cutoff account.validSince r.validAfterMillis) ∧
    ¬∀ (c : Client) (token : String) (now : Instant) (t : IdToken) (after : Client)
      (service : UserService) (accounts : List Account), c.verify token now = (.ok t, after) →
        after.users = .service service → service.Answers t.uid after.network accounts →
          (c.verifyNotRevoked token now).1 = .ok t →
            ∃ account ∈ accounts, account.localId = t.uid ∧
              ∃ m, Cutoff account.validSince m ∧ m ≤ t.iat * 1000 := by
  constructor
  · intro h
    have hrecord := Sample.getUser_answered Sample.cutoff_stranger [own] "u"
    exact absurd (h _ _ _ _ hrecord).1 (by decide)
  · intro h
    have haccepted := verifyNotRevoked_of_answers (Sample.verify_answered [stranger, own]) rfl
      (Sample.answers_answered _ _) Sample.cutoff_stranger
    obtain ⟨account, hmem, huid, m, hcutoff, hle⟩ :=
      h _ _ _ _ _ _ _ (Sample.verify_answered [stranger, own]) rfl (Sample.answers_answered _ _)
        haccepted
    rcases List.mem_cons.mp hmem with rfl | hmem
    · exact absurd huid (by decide)
    · cases List.mem_singleton.mp hmem
      have hsame := (Account.validAfterMillis_eq_ok_iff.mpr Sample.cutoff_own).symm.trans
        (Account.validAfterMillis_eq_ok_iff.mpr hcutoff)
      cases hsame
      exact absurd hle (by decide)

end Client

end IdentityTokens
