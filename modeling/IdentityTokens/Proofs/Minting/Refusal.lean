import IdentityTokens.Proofs.Minting.Identity
import IdentityTokens.Proofs.Verification.Revoking

/-!
# What is refused before anyone is asked

A request for a custom token is refused for the identifier of its user, or else for the reserved
names among its claims, and a request for a revocation for the identifier of its user. Who refuses
has asked nobody: no call has been made of the signer or of whoever keeps the records of users, and
the client is as it was, with the log of its exchanges. What is not refused can only fail as the
signer does. Writing documents never fails.

Who is asked is seen from a record of calls. A client is one instance of the parties that it asks;
any parties can be made to write their calls down, and this changes nothing else.

## Main definitions

* `CustomToken.Offending`: the reserved names that claims have.
* `Signatory.Fails`: how a signatory fails that is asked for a token.
* `Parties`: whom a client asks, `Parties.recorded`: the same with a record of the calls.
* `Client.Requested`: what holds of a request for a token.

## Main statements

* `Signatory.mint_eq_error_iff`: how a request for a token fails.
* `Parties.mint_recorded`, `Parties.revoke_recorded`: to write calls down changes nothing else.
* `Client.refuses_before_asking`: refusals of a client.
-/

namespace IdentityTokens

/-! ## Reserved names -/

namespace CustomToken

/-- The reserved names that claims have, as they are reported: in the order of the list of reserved
names, none twice, and those that are the name of a claim. Names within the value of a claim do not
count. -/
structure Offending (claims : Json.Members) (names : List String) : Prop where
  sublist : names.Sublist reservedNames
  nodup : names.Nodup
  mem_iff : ∀ name, name ∈ names ↔ name ∈ reservedNames ∧ ∃ value, (name, value) ∈ claims

variable {claims : Json.Members} {names : List String} {name : String}

theorem nodup_reservedNames : reservedNames.Nodup := by
  decide

theorem mem_reservedIn_iff :
    name ∈ reservedIn claims ↔ name ∈ reservedNames ∧ ∃ value, (name, value) ∈ claims := by
  simp [reservedIn, NameMap.has]

theorem reservedIn_ne_nil_iff : reservedIn claims ≠ [] ↔ ∃ m ∈ claims, m.1 ∈ reservedNames := by
  rw [ne_eq, reservedIn_eq_nil_iff]
  simp only [not_forall, not_not, exists_prop]

/-- There is one list of the reserved names that claims have. -/
theorem offending_iff : Offending claims names ↔ names = reservedIn claims := by
  have hnodup : (reservedIn claims).Nodup := nodup_reservedNames.filter _
  constructor
  · intro h
    -- Parts of a list without repetition are told by their members, since the order is that of
    -- the list.
    have hperm : names.Perm (reservedIn claims) :=
      (List.perm_ext_iff_of_nodup h.nodup hnodup).mpr fun name =>
        (h.mem_iff name).trans mem_reservedIn_iff.symm
    exact (nodup_reservedNames.perm_iff_eq_of_sublist h.sublist List.filter_sublist).mp hperm
  · rintro rfl
    exact ⟨List.filter_sublist, hnodup, fun _ => mem_reservedIn_iff⟩

end CustomToken

/-! ## Requests for tokens -/

namespace Signatory

variable {σ τ : Type} {a : Signatory σ} {s : σ} {uid : String} {claims : Json.Members}
  {now : Instant} {e : Error}

/-- A signatory fails that is asked for a token: it has no identity to give, or, where it has given
one, no signature of the text for the token. -/
inductive Fails (a : Signatory σ) (s : σ) (uid : String) (claims : Json.Members) (now : Instant)
    (e : Error) : Prop where
  | email (failed : (a.email s).1 = .error e)
  | sign {issuer : String} {s₁ : σ} (identified : a.email s = (.ok issuer, s₁))
      (failed : (a.sign s₁ (Utf8.encode (Client.customTokenInput issuer uid claims now))).1 =
        .error e)

theorem fails_iff_of_unidentified {failure : Error} {s₁ : σ}
    (hemail : a.email s = (.error failure, s₁)) : a.Fails s uid claims now e ↔ failure = e := by
  constructor
  · intro h
    cases h with
    | email failed =>
      rw [hemail] at failed
      injection failed
    | sign identified =>
      rw [hemail] at identified
      cases identified
  · intro h
    exact .email (by rw [hemail, h])

theorem fails_iff_of_identified {issuer : String} {s₁ : σ} (hemail : a.email s = (.ok issuer, s₁)) :
    a.Fails s uid claims now e ↔
      (a.sign s₁ (Utf8.encode (Client.customTokenInput issuer uid claims now))).1 = .error e := by
  constructor
  · intro h
    cases h with
    | email failed =>
      rw [hemail] at failed
      cases failed
    | sign identified failed =>
      rw [hemail] at identified
      cases identified
      exact failed
  · intro failed
    exact .sign hemail failed

/-- A request for a token fails exactly if it is refused, or else the signatory fails. -/
theorem mint_eq_error_iff :
    (a.mint s uid claims now).1 = .error e ↔
      Client.checkRequest uid claims = .error e ∨
        Client.checkRequest uid claims = .ok () ∧ a.Fails s uid claims now e := by
  cases hcheck : Client.checkRequest uid claims with
  | error refusal => simp [mint_of_error hcheck]
  | ok _ =>
    cases hemail : a.email s with
    | mk identity s₁ =>
      cases identity with
      | error failure =>
        simp [mint_of_unidentified hcheck hemail, fails_iff_of_unidentified hemail]
      | ok issuer =>
        rw [mint_of_email hcheck hemail, fails_iff_of_identified hemail]
        cases (a.sign s₁ (Utf8.encode (Client.customTokenInput issuer uid claims now))).1 with
        | error failure => simp [Except.map]
        | ok signature => simp [Except.map]

/-- Two signatories that answer alike, up to a view of the state of one of them, make the same
tokens. -/
theorem mint_view {b : Signatory τ} (view : τ → σ)
    (hemail : ∀ t, a.email (view t) = ((b.email t).1, view (b.email t).2))
    (hsign : ∀ t message, a.sign (view t) message =
      ((b.sign t message).1, view (b.sign t message).2)) (t : τ) :
    a.mint (view t) uid claims now =
      ((b.mint t uid claims now).1, view (b.mint t uid claims now).2) := by
  -- The check does not see the state, so both signatories come to the same case.
  cases hcheck : Client.checkRequest uid claims with
  | error refusal => rw [mint_of_error hcheck, mint_of_error hcheck]
  | ok _ =>
    have hidentity := hemail t
    cases hb : b.email t with
    | mk identity t₁ =>
      rw [hb] at hidentity
      cases identity with
      | error failure =>
        rw [mint_of_unidentified hcheck hidentity, mint_of_unidentified hcheck hb]
      | ok issuer =>
        rw [mint_of_email hcheck hidentity, mint_of_email hcheck hb, hsign]

end Signatory

/-! ## The failures of a client's signer -/

namespace SigningService

variable {s : SigningService} {network : Http.Network} {e : Error}
  {outcome : Except Http.Failure Http.Response}

theorem identityOf_eq_error (h : identityOf outcome = .error e) :
    ∃ problem, e = .network problem := by
  cases htold : told? outcome with
  | some identity =>
    rw [identityOf_of_told htold] at h
    cases h
  | none =>
    obtain ⟨problem, hproblem⟩ := identityOf_of_untold htold
    rw [hproblem] at h
    cases h
    exact ⟨problem, rfl⟩

theorem signatureOf_eq_error (h : signatureOf outcome = .error e) :
    ∃ problem, e = .network problem := by
  cases outcome with
  | error failure =>
    cases h
    exact ⟨_, rfl⟩
  | ok response =>
    rw [signatureOf] at h
    split at h
    · cases h
      exact ⟨_, rfl⟩
    · split at h
      · cases h
        exact ⟨_, rfl⟩
      · cases h

theorem email_eq_error (h : (s.email network).1 = .error e) : ∃ problem, e = .network problem := by
  rw [email] at h
  split at h
  · cases h
  · dsimp only at h
    split at h
    · next failed =>
      cases h
      exact identityOf_eq_error failed
    · cases h

theorem sign_eq_error {message : List UInt8} (h : (s.sign message network).1 = .error e) :
    ∃ problem, e = .network problem := by
  rw [sign] at h
  split at h
  · next failed =>
    cases h
    exact email_eq_error (congrArg Prod.fst failed)
  · exact signatureOf_eq_error h

end SigningService

namespace Client

variable {c : Client} {uid : String} {claims : Json.Members} {now : Instant} {e : Error}

theorem signerEmail_eq_error (h : c.signerEmail.1 = .error e) :
    ∃ problem, e = .network problem := by
  cases hsigner : c.signer with
  | known email signature => simp [signerEmail, Signer.email, hsigner] at h
  | holder email key => simp [signerEmail, Signer.email, hsigner] at h
  | service s =>
    simp only [signerEmail, Signer.email, hsigner] at h
    exact SigningService.email_eq_error h

theorem sign_eq_error {message : List UInt8} (h : (c.sign message).1 = .error e) :
    e = .signing ∨ ∃ problem, e = .network problem := by
  cases hsigner : c.signer with
  | known email signature => simp [sign, Signer.sign, hsigner] at h
  | holder email key =>
    simp only [sign, Signer.sign, hsigner, Signer.signWith_eq] at h
    split at h
    · cases h
      exact .inl rfl
    · cases h
  | service s =>
    simp only [sign, Signer.sign, hsigner] at h
    exact .inr (SigningService.sign_eq_error h)

/-- A signer fails for want of a signature or of a server, and for no other cause. -/
theorem cause_of_fails (h : signatory.Fails c uid claims now e) :
    e = .signing ∨ ∃ problem, e = .network problem := by
  cases h with
  | email failed => exact .inr (signerEmail_eq_error failed)
  | sign identified failed => exact sign_eq_error failed

/-- A refusal is told from all failures of the signer. -/
theorem customToken_eq_error_iff (hsigning : e ≠ .signing)
    (hnetwork : ∀ problem, e ≠ .network problem) :
    (c.customToken uid claims now).1 = .error e ↔ checkRequest uid claims = .error e := by
  rw [customToken, Signatory.mint_eq_error_iff, or_iff_left_iff_imp]
  rintro ⟨-, hfails⟩
  rcases cause_of_fails hfails with rfl | ⟨problem, rfl⟩
  · exact absurd rfl hsigning
  · exact absurd rfl (hnetwork problem)

theorem customToken_eq_invalidUid_iff :
    (c.customToken uid claims now).1 = .error .invalidUid ↔
      uid.length = 0 ∨ 128 < uid.length := by
  rw [customToken_eq_error_iff (by simp) (by simp), checkRequest_eq_error_iff, isUid_eq_false_iff]
  simp

theorem customToken_eq_reservedClaims_iff {names : List String} :
    (c.customToken uid claims now).1 = .error (.reservedClaims names) ↔
      (1 ≤ uid.length ∧ uid.length ≤ 128) ∧
        (∃ m ∈ claims, m.1 ∈ CustomToken.reservedNames) ∧ CustomToken.Offending claims names := by
  rw [customToken_eq_error_iff (by simp) (by simp), checkRequest_eq_error_iff, isUid_iff,
    CustomToken.reservedIn_ne_nil_iff, CustomToken.offending_iff]
  simp

/-- Where claims have reserved names, some list of them is reported. -/
theorem exists_reservedClaims_iff (hlength : 1 ≤ uid.length ∧ uid.length ≤ 128) :
    (∃ names, (c.customToken uid claims now).1 = .error (.reservedClaims names)) ↔
      ∃ m ∈ claims, m.1 ∈ CustomToken.reservedNames := by
  simp only [customToken_eq_reservedClaims_iff]
  constructor
  · rintro ⟨names, -, hreserved, -⟩
    exact hreserved
  · intro hreserved
    exact ⟨_, hlength, hreserved, CustomToken.offending_iff.mpr rfl⟩

/-- A request that is not refused fails as the signer does. -/
theorem customToken_eq_error_iff_fails (hlength : 1 ≤ uid.length ∧ uid.length ≤ 128)
    (hunreserved : ∀ m ∈ claims, m.1 ∉ CustomToken.reservedNames) :
    (c.customToken uid claims now).1 = .error e ↔ signatory.Fails c uid claims now e := by
  have hcheck : checkRequest uid claims = .ok () :=
    checkRequest_eq_ok_iff.mpr
      ⟨isUid_iff.mpr hlength, CustomToken.reservedIn_eq_nil_iff.mpr hunreserved⟩
  rw [customToken, Signatory.mint_eq_error_iff, hcheck]
  simp

end Client

/-! ## Whom a client asks -/

/-- Whom a client asks for tokens and for the records of users, by what they answer from a state. -/
structure Parties (σ : Type) where
  signatory : Signatory σ
  getUser : σ → String → Except Error UserRecord × σ
  updateUser : σ → String → UserUpdate → Except Error Unit × σ

namespace Parties

variable {σ α : Type}

/-- A call of one of the parties. -/
inductive Call where
  | email
  | sign (message : List UInt8)
  | getUser (uid : String)
  | updateUser (uid : String) (update : UserUpdate)

/-- The answer to a call, which is written down after the calls so far. -/
def noted (call : Call) (answer : σ → α × σ) (s : σ × List Call) : α × σ × List Call :=
  ((answer s.1).1, (answer s.1).2, s.2 ++ [call])

/-- The same parties, with a record of the calls. -/
def recorded (p : Parties σ) : Parties (σ × List Call) where
  signatory :=
    ⟨noted .email p.signatory.email, fun s message =>
      noted (.sign message) (p.signatory.sign · message) s⟩
  getUser s uid := noted (.getUser uid) (p.getUser · uid) s
  updateUser s uid update := noted (.updateUser uid update) (p.updateUser · uid update) s

/-- A token for a user with claims, made at an instant. -/
def mint (p : Parties σ) (s : σ) (uid : String) (claims : Json.Members) (now : Instant) :
    Except Error String × σ :=
  p.signatory.mint s uid claims now

/-- Revoke the tokens of a user that were issued before the second of an instant. -/
def revoke (p : Parties σ) (s : σ) (uid : String) (now : Instant) : Except Error Unit × σ :=
  if isUid uid then p.updateUser s uid (.revokeAt now) else (.error .invalidUid, s)

/-- To write calls down changes nothing else when a token is made. -/
theorem mint_recorded (p : Parties σ) (s : σ) (past : List Call) (uid : String)
    (claims : Json.Members) (now : Instant) :
    p.mint s uid claims now =
      ((p.recorded.mint (s, past) uid claims now).1,
        (p.recorded.mint (s, past) uid claims now).2.1) :=
  Signatory.mint_view Prod.fst (fun _ => rfl) (fun _ _ => rfl) (s, past)

/-- To write calls down changes nothing else when tokens are revoked. -/
theorem revoke_recorded (p : Parties σ) (s : σ) (past : List Call) (uid : String) (now : Instant) :
    p.revoke s uid now =
      ((p.recorded.revoke (s, past) uid now).1, (p.recorded.revoke (s, past) uid now).2.1) := by
  rw [revoke, revoke]
  cases isUid uid with
  | false => rfl
  | true => rfl

end Parties

namespace Client

/-- A client as the parties that it asks. -/
def parties : Parties Client := ⟨signatory, getUser, updateUser⟩

theorem customToken_eq_mint (c : Client) (uid : String) (claims : Json.Members) (now : Instant) :
    c.customToken uid claims now = parties.mint c uid claims now := rfl

theorem revoke_eq_revoke (c : Client) (uid : String) (now : Instant) :
    c.revoke uid now = parties.revoke c uid now := rfl

/-- What holds of a request for a token, of its result, the client after it and the calls that the
parties of the client got. Only a length that is not allowed makes it a refusal of the identifier;
otherwise reserved names among the claims make it a refusal of these, and the names are listed. In
both cases the client is the same and no party was called. What is left fails as the signer does,
never for a document that cannot be written. -/
structure Requested (c : Client) (uid : String) (claims : Json.Members) (now : Instant)
    (result : Except Error String) (after : Client) (calls : List Parties.Call) : Prop where
  invalidUid_iff : result = .error .invalidUid ↔ uid.length = 0 ∨ 128 < uid.length
  reservedClaims_iff : 1 ≤ uid.length ∧ uid.length ≤ 128 →
    ((∃ names, result = .error (.reservedClaims names)) ↔
      ∃ m ∈ claims, m.1 ∈ CustomToken.reservedNames)
  offending : ∀ names, result = .error (.reservedClaims names) →
    CustomToken.Offending claims names
  idle : uid.length = 0 ∨ 128 < uid.length ∨ (∃ m ∈ claims, m.1 ∈ CustomToken.reservedNames) →
    after = c ∧ calls = []
  failed_iff : 1 ≤ uid.length ∧ uid.length ≤ 128 →
    (∀ m ∈ claims, m.1 ∉ CustomToken.reservedNames) →
      ∀ e, result = .error e ↔ signatory.Fails c uid claims now e
  cause : 1 ≤ uid.length ∧ uid.length ≤ 128 → (∀ m ∈ claims, m.1 ∉ CustomToken.reservedNames) →
    ∀ e, result = .error e → e = .signing ∨ ∃ problem, e = .network problem

variable {c : Client} {uid : String} {claims : Json.Members} {now : Instant}

/-- What is seen where calls are written down is the result and the client after it. -/
theorem customToken_of_recorded {result : Except Error String} {after : Client}
    {calls : List Parties.Call}
    (hrun : parties.recorded.mint (c, []) uid claims now = (result, after, calls)) :
    c.customToken uid claims now = (result, after) := by
  rw [customToken_eq_mint, parties.mint_recorded c [], hrun]

/-- A request that is refused is refused before any call is made. -/
theorem recorded_of_refused (h : uid.length = 0 ∨ 128 < uid.length ∨
    ∃ m ∈ claims, m.1 ∈ CustomToken.reservedNames) :
    ∃ e, parties.recorded.mint (c, []) uid claims now = (.error e, c, []) := by
  cases hcheck : checkRequest uid claims with
  | error e => exact ⟨e, Signatory.mint_of_error hcheck⟩
  | ok _ =>
    obtain ⟨huid, hunreserved⟩ := checkRequest_eq_ok_iff.mp hcheck
    rw [← or_assoc, ← isUid_eq_false_iff, ← CustomToken.reservedIn_ne_nil_iff] at h
    simp [huid, hunreserved] at h

/-- What is seen of a request where calls are written down is as it should be. -/
theorem requested {result : Except Error String} {after : Client} {calls : List Parties.Call}
    (hrun : parties.recorded.mint (c, []) uid claims now = (result, after, calls)) :
    c.Requested uid claims now result after calls := by
  obtain rfl : (c.customToken uid claims now).1 = result :=
    congrArg Prod.fst (customToken_of_recorded hrun)
  refine
    { invalidUid_iff := customToken_eq_invalidUid_iff
      reservedClaims_iff := exists_reservedClaims_iff
      offending := fun names hnames => (customToken_eq_reservedClaims_iff.mp hnames).2.2
      idle := ?_
      failed_iff := fun hlength hunreserved e => customToken_eq_error_iff_fails hlength hunreserved
      cause := ?_ }
  · intro hrefused
    obtain ⟨e, hidle⟩ := @recorded_of_refused c uid claims now hrefused
    rw [hidle] at hrun
    injection hrun with _ hstate
    injection hstate with hafter hcalls
    exact ⟨hafter.symm, hcalls.symm⟩
  · intro hlength hunreserved e he
    exact cause_of_fails ((customToken_eq_error_iff_fails hlength hunreserved).mp he)

theorem revoke_eq_invalidUid_iff :
    (c.revoke uid now).1 = .error .invalidUid ↔ uid.length = 0 ∨ 128 < uid.length := by
  rw [← isUid_eq_false_iff]
  constructor
  · intro h
    by_contra huid
    exact revoke_ne_invalidUid (by simpa using huid) h
  · intro huid
    simp [revoke, huid]

/-- **Requests are refused before anyone is asked**, whoever signs, whoever keeps the records and
whatever the client has been through. A token is refused for the identifier of its user exactly if
this has no characters or more than 128. Else it is refused exactly if a claim has a reserved name,
and the error lists the reserved names of claims. A revocation is refused for the same identifiers
as a token. In all these cases nobody is asked, and the client is as it was, with the log of all
that was sent. A token that is not refused fails exactly as the signer does, for want of a signature
or of a server. -/
theorem refuses_before_asking (c : Client) (uid : String) (claims : Json.Members) (now : Instant) :
    (∃ result after calls, c.customToken uid claims now = (result, after) ∧
      parties.recorded.mint (c, []) uid claims now = (result, after, calls) ∧
      c.Requested uid claims now result after calls) ∧
    ∃ result after calls, c.revoke uid now = (result, after) ∧
      parties.recorded.revoke (c, []) uid now = (result, after, calls) ∧
      (result = .error .invalidUid ↔ uid.length = 0 ∨ 128 < uid.length) ∧
      (result = .error .invalidUid → after = c ∧ calls = []) := by
  constructor
  · rcases hrun : parties.recorded.mint (c, []) uid claims now with ⟨result, after, calls⟩
    exact ⟨result, after, calls, customToken_of_recorded hrun, rfl, requested hrun⟩
  · rcases hrun : parties.recorded.revoke (c, []) uid now with ⟨result, after, calls⟩
    have hrevoke : c.revoke uid now = (result, after) := by
      rw [revoke_eq_revoke, parties.revoke_recorded c [], hrun]
    have hiff := @revoke_eq_invalidUid_iff c uid now
    rw [hrevoke] at hiff
    refine ⟨result, after, calls, hrevoke, rfl, hiff, ?_⟩
    intro h
    have huid : isUid uid = false := isUid_eq_false_iff.mpr (hiff.mp h)
    rw [Parties.revoke, huid] at hrun
    cases hrun
    exact ⟨rfl, rfl⟩

/-- Claims of two reserved names, which are listed the other way round, and of one that has a
reserved name in its value. -/
def Sample.offences : Json.Members :=
  [("c_hash", .null), ("cnf", .null), ("profile", .object [("iss", .null)])]

/-- A client whose service does not know who it is refuses claims, and a user without an
identifier. -/
theorem refuses_before_asking_offences :
    Sample.asking.customToken "u" Sample.offences Signatory.Sample.dusk =
        (.error (.reservedClaims ["cnf", "c_hash"]), Sample.asking) ∧
      Sample.asking.revoke "" Signatory.Sample.dusk = (.error .invalidUid, Sample.asking) := by
  obtain ⟨⟨result, after, calls, htoken, -, hrequested⟩, -⟩ :=
    refuses_before_asking Sample.asking "u" Sample.offences Signatory.Sample.dusk
  obtain ⟨-, revoked, later, _, hrevoke, -, hiff, hidle⟩ :=
    refuses_before_asking Sample.asking "" Sample.offences Signatory.Sample.dusk
  have hreserved : ∃ m ∈ Sample.offences, m.1 ∈ CustomToken.reservedNames := by decide
  obtain ⟨names, rfl⟩ := (hrequested.reservedClaims_iff (by decide)).mpr hreserved
  obtain rfl := CustomToken.offending_iff.mp (hrequested.offending names rfl)
  obtain ⟨rfl, -⟩ := hrequested.idle (.inr (.inr hreserved))
  obtain rfl := hiff.mpr (by decide)
  obtain ⟨rfl, -⟩ := hidle rfl
  exact ⟨htoken, hrevoke⟩

end Client

end IdentityTokens
