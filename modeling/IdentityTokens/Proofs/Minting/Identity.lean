import IdentityTokens.Client.Signing
import IdentityTokens.Proofs.Minting.SigningService

/-!
# The identity of a signing service

A signing service that was not given its identity asks the metadata server for it, once in every
call that needs it, until an answer has a text in it. From then on that text is the identity,
whatever is asked and answered later. So in any run of calls there is at most one identity, and
every token that is made names it twice, in the payload and in the address of the request for its
signature.

The identity is read off what is seen from outside: the first answer with a text in it among all
exchanges so far. One call is summed up in its course, of which there are four kinds; what a call
shows and what it leaves behind follow case by case, and a run follows from its calls.

## Main definitions

* `SigningService.told?`, `SigningService.known`: what an answer tells, and what is known of all.
* `SigningService.Course`: the course of one call.
* `Signed.Proper`: what holds of a call, in view of the identity that was known before it.
* `Signed.Made`: a call has made a token for an identity.
* `SigningService.OneIdentity`: what holds of a run of calls.

## Main statements

* `Client.course`: one call.
* `Client.serves_one_identity`: any run of calls.
-/

namespace IdentityTokens

/-! ## What is known -/

namespace SigningService

/-- The identity that an answer of the metadata server tells: the text of the response without
blank ends, unless nothing is left. -/
def told? (outcome : Except Http.Failure Http.Response) : Option String :=
  match outcome with
  | .error _ => none
  | .ok response =>
    if trimBlank response.text = "" then none else some (trimBlank response.text)

/-- The first identity that is told in some exchanges. -/
def learnt? (s : SigningService) (exchanges : List Http.Exchange) : Option String :=
  exchanges.findSome? fun x => if s.LooksUp x.request then told? x.outcome else none

/-- The identity that is known after some calls: the one that was given, or the first that was
told. -/
def known (s : SigningService) (past : List Signed) : Option String :=
  s.identity.or (s.learnt? (past.flatMap (·.exchanges)))

variable {s : SigningService} {outcome : Except Http.Failure Http.Response} {identity : String}

theorem identityOf_of_told (h : told? outcome = some identity) :
    identityOf outcome = .ok identity := by
  cases outcome with
  | error failure => cases h
  | ok response =>
    by_cases hempty : trimBlank response.text = ""
    · simp [told?, hempty] at h
    · simpa [told?, identityOf, hempty] using h

theorem identityOf_of_untold (h : told? outcome = none) :
    ∃ problem, identityOf outcome = .error (.network problem) := by
  cases outcome with
  | error failure => exact ⟨_, rfl⟩
  | ok response =>
    by_cases hempty : trimBlank response.text = ""
    · simp [identityOf, hempty]
    · simp [told?, hempty] at h

theorem learnt?_append (s : SigningService) (xs ys : List Http.Exchange) :
    s.learnt? (xs ++ ys) = (s.learnt? xs).or (s.learnt? ys) := by
  rw [learnt?, List.findSome?_append]
  rfl

theorem known_concat (s : SigningService) (past : List Signed) (r : Signed) :
    s.known (past ++ [r]) = (s.known past).or (s.learnt? r.exchanges) := by
  rw [known, known, List.flatMap_append, learnt?_append, Option.or_assoc, List.flatMap_singleton]

/-- What is known stays known. -/
theorem known_append {before : List Signed} (h : s.known before = some identity)
    (after : List Signed) : s.known (before ++ after) = some identity := by
  rw [known, List.flatMap_append, learnt?_append, ← Option.or_assoc]
  rw [known] at h
  rw [h, Option.some_or]

end SigningService

/-! ## Calls -/

/-- A call needs the identity, unless it is for a token that is refused. -/
def SigningCall.NeedsIdentity : SigningCall → Prop
  | .email | .sign _ => True
  | .mint uid claims _ => Client.checkRequest uid claims = .ok ()

theorem SigningCall.not_needsIdentity {uid : String} {claims : Json.Members} {now : Instant}
    {e : Error} (h : Client.checkRequest uid claims = .error e) :
    ¬(SigningCall.mint uid claims now).NeedsIdentity := by
  intro hneeds
  have hcheck : Client.checkRequest uid claims = .ok () := hneeds
  rw [hcheck] at h
  cases h

/-- A call of which nothing but an error came. -/
def SigningCall.failed (e : Error) : SigningCall → SigningResult
  | .email => .email (.error e)
  | .sign _ => .signature (.error e)
  | .mint _ _ _ => .token (.error e)

/-- The error that a call has led to. -/
def SigningResult.error? : SigningResult → Option Error
  | .email (.error e) | .signature (.error e) | .token (.error e) => some e
  | .email (.ok _) | .signature (.ok _) | .token (.ok _) => none

theorem SigningCall.error?_failed (call : SigningCall) (e : Error) :
    (call.failed e).error? = some e := by
  cases call <;> rfl

namespace SigningService

/-- The result of a call that needs the identity, and the exchanges that it leads to, once the
identity is known. A signature, alone or for a token, is asked for in one exchange. -/
inductive Answers (s : SigningService) (identity : String) :
    SigningCall → SigningResult → List Http.Exchange → Prop where
  | email : Answers s identity .email (.email (.ok identity)) []
  | sign {message : List UInt8} (outcome : Except Http.Failure Http.Response) :
      Answers s identity (.sign message) (.signature (signatureOf outcome))
        [⟨s.signRequest identity message, outcome⟩]
  | mint {uid : String} {claims : Json.Members} {now : Instant}
      (outcome : Except Http.Failure Http.Response) :
      Answers s identity (.mint uid claims now)
        (.token ((signatureOf outcome).map fun signature =>
          (Signatory.mintedSegments identity uid claims now signature).text))
        [⟨s.signRequest identity
          (Utf8.encode (Client.customTokenInput identity uid claims now)), outcome⟩]

/-- The course of one call, from the identity known before it to that known after it. A refused
token needs none. Where none is known the metadata server is asked first: it tells none and the call
is over, or it tells one and the call goes on with it. -/
inductive Course (s : SigningService) :
    Option String → SigningCall → SigningResult → List Http.Exchange → Option String → Prop where
  | refused {known : Option String} {uid : String} {claims : Json.Members} {now : Instant}
      {e : Error} (refusal : Client.checkRequest uid claims = .error e) :
      Course s known (.mint uid claims now) (.token (.error e)) [] known
  | untold {call : SigningCall} {outcome : Except Http.Failure Http.Response}
      {problem : NetworkProblem} (needs : call.NeedsIdentity) (untold : told? outcome = none) :
      Course s none call (call.failed (.network problem)) [⟨s.identityRequest, outcome⟩] none
  | told {call : SigningCall} {outcome : Except Http.Failure Http.Response} {identity : String}
      {result : SigningResult} {sent : List Http.Exchange} (needs : call.NeedsIdentity)
      (told : told? outcome = some identity) (answers : s.Answers identity call result sent) :
      Course s none call result (⟨s.identityRequest, outcome⟩ :: sent) (some identity)
  | known {call : SigningCall} {identity : String} {result : SigningResult}
      {sent : List Http.Exchange} (needs : call.NeedsIdentity)
      (answers : s.Answers identity call result sent) :
      Course s (some identity) call result sent (some identity)

variable {s : SigningService} {network : Http.Network} {identity : String}

/-- The address of the metadata server does not depend on the identity. -/
@[simp] theorem identityRequest_withIdentity (s : SigningService) (known : Option String) :
    ({ s with identity := known } : SigningService).identityRequest = s.identityRequest := rfl

theorem email_of_untold (h : told? (network.send s.identityRequest).1 = none) :
    ∃ problem, ({ s with identity := none } : SigningService).email network =
      (.error (.network problem), { s with identity := none },
        (network.send s.identityRequest).2) := by
  obtain ⟨problem, hproblem⟩ := identityOf_of_untold h
  exact ⟨problem, by simp only [email, identityRequest_withIdentity, hproblem]⟩

theorem email_of_told (h : told? (network.send s.identityRequest).1 = some identity) :
    ({ s with identity := none } : SigningService).email network =
      (.ok identity, { s with identity := some identity },
        (network.send s.identityRequest).2) := by
  simp only [email, identityRequest_withIdentity, identityOf_of_told h]

end SigningService

namespace Client

open SigningService (told?)

variable {c : Client} {s : SigningService} {call : SigningCall} {identity : String}

/-- Where the metadata server tells no identity, a call that needs it fails. -/
theorem answer_of_untold (hc : c.signer = .service { s with identity := none })
    (hneeds : call.NeedsIdentity)
    (h : told? (c.network.send s.identityRequest).1 = none) :
    ∃ problem, c.answer call =
      (call.failed (.network problem),
        { c with network := (c.network.send s.identityRequest).2 }) := by
  obtain ⟨projectId, signer, keySource, users, network⟩ := c
  subst hc
  obtain ⟨problem, hemail⟩ := SigningService.email_of_untold h
  refine ⟨problem, ?_⟩
  cases call with
  | email => simp only [answer, signerEmail, Signer.email, hemail, SigningCall.failed]
  | sign message =>
    simp only [answer, sign, Signer.sign, SigningService.sign, hemail, SigningCall.failed]
  | mint uid claims now =>
    have hcheck : checkRequest uid claims = .ok () := hneeds
    simp only [answer, customToken, Signatory.mint, hcheck, signatory, signerEmail, Signer.email,
      hemail, SigningCall.failed]

/-- The client after its service was told the identity. -/
def afterTold (c : Client) (s : SigningService) (identity : String) : Client :=
  { c with
    signer := .service { s with identity := some identity }
    network := (c.network.send s.identityRequest).2 }

/-- Where the metadata server tells the identity, a call goes on as if it had been known. -/
theorem answer_of_told (hc : c.signer = .service { s with identity := none })
    (hneeds : call.NeedsIdentity)
    (h : told? (c.network.send s.identityRequest).1 = some identity) :
    c.answer call = (c.afterTold s identity).answer call := by
  obtain ⟨projectId, signer, keySource, users, network⟩ := c
  subst hc
  have hemail := SigningService.email_of_told h
  rw [afterTold]
  cases call with
  | email =>
    simp only [answer, signerEmail, Signer.email, hemail]
    simp only [SigningService.email]
  | sign message =>
    simp only [answer, sign, Signer.sign, SigningService.sign, hemail]
    simp only [SigningService.email]
  | mint uid claims now =>
    have hcheck : checkRequest uid claims = .ok () := hneeds
    simp only [answer, customToken, Signatory.mint, hcheck, signatory, signerEmail, Signer.email,
      hemail]
    simp only [SigningService.email]

theorem answer_email (c : Client) : c.answer .email = (.email c.signerEmail.1, c.signerEmail.2) :=
  rfl

theorem answer_sign (c : Client) (message : List UInt8) :
    c.answer (.sign message) = (.signature (c.sign message).1, (c.sign message).2) := rfl

theorem answer_mint (c : Client) (uid : String) (claims : Json.Members) (now : Instant) :
    c.answer (.mint uid claims now) =
      (.token (c.customToken uid claims now).1, (c.customToken uid claims now).2) := rfl

/-- A service that knows who it is answers calls under this identity, and keeps it. -/
theorem answers_of_identity (hc : c.signer = .service { s with identity := some identity })
    (hneeds : call.NeedsIdentity) :
    ∃ sent, (c.answer call).2.network.log = c.network.log ++ sent ∧
      (c.answer call).2.signer = c.signer ∧
      s.Answers identity call (c.answer call).1 sent := by
  cases call with
  | email =>
    rw [answer_email, signerEmail_of_identity hc rfl]
    exact ⟨[], (List.append_nil _).symm, rfl, .email⟩
  | sign message =>
    obtain ⟨r, hr⟩ : ∃ r, r = s.signRequest identity message := ⟨_, rfl⟩
    rw [answer_sign, sign_of_identity hc rfl hr]
    refine ⟨_, Http.Network.log_send _ _, rfl, ?_⟩
    rw [hr]
    exact .sign _
  | mint uid claims now =>
    obtain ⟨r, hr⟩ : ∃ r, r = s.signRequest identity
      (Utf8.encode (customTokenInput identity uid claims now)) := ⟨_, rfl⟩
    rw [answer_mint, customToken_of_identity hc rfl hneeds hr]
    refine ⟨_, Http.Network.log_send _ _, rfl, ?_⟩
    rw [hr]
    exact .mint _

/-- Every call takes one of the four courses. -/
theorem course {known : Option String} (hc : c.signer = .service { s with identity := known })
    (call : SigningCall) :
    ∃ sent after, (c.answer call).2.network.log = c.network.log ++ sent ∧
      (c.answer call).2.signer = .service { s with identity := after } ∧
      s.Course known call (c.answer call).1 sent after := by
  -- Who needs no identity was refused; for the others, what is known and what is told decide.
  by_cases hneeds : call.NeedsIdentity
  · cases known with
    | some identity =>
      obtain ⟨sent, hlog, hsigner, hanswers⟩ := answers_of_identity hc hneeds
      exact ⟨sent, some identity, hlog, hsigner.trans hc, .known hneeds hanswers⟩
    | none =>
      cases htold : told? (c.network.send s.identityRequest).1 with
      | none =>
        obtain ⟨problem, hanswer⟩ := answer_of_untold hc hneeds htold
        rw [hanswer]
        exact ⟨_, none, Http.Network.log_send _ _, hc, .untold hneeds htold⟩
      | some identity =>
        rw [answer_of_told hc hneeds htold]
        obtain ⟨sent, hlog, hsigner, hanswers⟩ :=
          @answers_of_identity (c.afterTold s identity) s call identity rfl hneeds
        refine ⟨_, some identity, ?_, hsigner, .told hneeds htold hanswers⟩
        rw [hlog, afterTold, Http.Network.log_send, List.append_assoc]
        rfl
  · cases call with
    | email => exact absurd trivial hneeds
    | sign message => exact absurd trivial hneeds
    | mint uid claims now =>
      cases hcheck : checkRequest uid claims with
      | ok _ => exact absurd hcheck hneeds
      | error e =>
        rw [answer_mint, customToken_of_error hcheck]
        exact ⟨[], known, (List.append_nil _).symm, hc, .refused hcheck⟩

end Client

/-! ## What a course comes to -/

/-- The exchanges other than with the metadata server. -/
def SigningService.others (s : SigningService) (exchanges : List Http.Exchange) :
    List Http.Exchange :=
  exchanges.filter fun x => ¬s.LooksUp x.request

namespace Signed

open SigningService (told? Gives)

/-- What holds of a call, in view of the identity that was known before it. A call that needs none
sends nothing. While none is known, a call that needs it asks the metadata server, once and before
all else; if nothing is told, this was the only exchange, and the call fails. Once one is known the
metadata server is not asked. With an identity, the one known or the one told, the call for it gets
it without further exchanges, and a call for a signature asks this identity, and nobody else, for
one of its message. -/
structure Proper (s : SigningService) (known : Option String) (r : Signed) : Prop where
  idle : ¬r.call.NeedsIdentity → r.exchanges = []
  asks : known = none → r.call.NeedsIdentity → ∃ lookup later,
    r.exchanges = lookup :: later ∧ s.LooksUp lookup.request ∧
      (∀ x ∈ later, ¬s.LooksUp x.request) ∧
      (told? lookup.outcome = none →
        later = [] ∧ ∃ problem, r.result.error? = some (.network problem))
  asks_none : known ≠ none → ∀ x ∈ r.exchanges, ¬s.LooksUp x.request
  email : ∀ identity, known.or (s.learnt? r.exchanges) = some identity → r.call = .email →
    r.result = .email (.ok identity) ∧ s.others r.exchanges = []
  sign : ∀ identity, known.or (s.learnt? r.exchanges) = some identity → ∀ message,
    r.call = .sign message → ∃ x result, s.others r.exchanges = [x] ∧
      s.Asks identity message x.request ∧ r.result = .signature result ∧
      ∀ signature, result = .ok signature ↔ Gives x.outcome signature

/-- A call has made a token for an identity. The payload names this identity as issuer and as
subject, and nobody else. One exchange was for the signature: the request was addressed to this
identity, with the first two segments of the token as the message, and the signature that came is
that of the token. -/
def Made (s : SigningService) (identity token : String) (r : Signed) : Prop :=
  ∃ segments members x signature, Segments.split token = .ok segments ∧
    segments.payload = Segment.encodeJson (.object members) ∧
    members.filter (·.1 == "iss") = [("iss", .string identity)] ∧
    members.filter (·.1 == "sub") = [("sub", .string identity)] ∧
    s.others r.exchanges = [x] ∧
    s.Asks identity (Utf8.encode (segments.header ++ "." ++ segments.payload)) x.request ∧
    Gives x.outcome signature ∧ Segment.decode segments.signature = .ok signature

end Signed

/-- Of a member with a reserved name, the claims have no other value. -/
theorem Signatory.filter_mintedMembers {claims : Json.Members} {name : String}
    (hreserved : CustomToken.reservedIn claims = []) (hname : name ∈ CustomToken.reservedNames)
    (issuer uid : String) (now : Instant) :
    (mintedMembers issuer uid claims now).filter (·.1 == name) =
      (CustomToken.issue issuer uid now.seconds claims).standardMembers.filter (·.1 == name) := by
  have hclaims : claims.filter (·.1 == name) = [] := by
    rw [List.filter_eq_nil_iff]
    intro m hm heq
    exact CustomToken.reservedIn_eq_nil_iff.mp hreserved m hm (eq_of_beq heq ▸ hname)
  rw [mintedMembers, List.filter_append, hclaims, List.append_nil]

namespace SigningService

variable {s : SigningService} {known after : Option String} {identity token : String}
  {call : SigningCall} {result : SigningResult} {sent : List Http.Exchange}

/-- Nothing that a call leads to once the identity is known is a look-up. -/
theorem Answers.not_looksUp (h : s.Answers identity call result sent) :
    ∀ x ∈ sent, ¬s.LooksUp x.request := by
  cases h with
  | email => simp
  | sign outcome => simpa using (s.asks_signRequest identity _).not_looksUp
  | mint outcome => simpa using (s.asks_signRequest identity _).not_looksUp

theorem Answers.others_eq (h : s.Answers identity call result sent) : s.others sent = sent := by
  rw [others, List.filter_eq_self]
  intro x hx
  simpa using h.not_looksUp x hx

/-- The identity after a call is the one before it, or else the first that was told. -/
theorem Course.after_eq (h : s.Course known call result sent after) :
    after = known.or (s.learnt? sent) := by
  cases h with
  | refused _ => simp [learnt?]
  | untold _ huntold => simp [learnt?, s.looksUp_identityRequest, huntold]
  | told _ htold _ => simp [learnt?, s.looksUp_identityRequest, htold]
  | known _ hanswers => simp

theorem others_lookup (s : SigningService) (outcome : Except Http.Failure Http.Response)
    (sent : List Http.Exchange) :
    s.others (⟨s.identityRequest, outcome⟩ :: sent) = s.others sent :=
  List.filter_cons_of_neg (by simp [s.looksUp_identityRequest])

/-- A call that needs the identity is answered under the one that is known after it. -/
theorem Course.answers (h : s.Course known call result sent (some identity))
    (hneeds : call.NeedsIdentity) : s.Answers identity call result (s.others sent) := by
  cases h with
  | refused hrefusal => exact absurd hneeds (SigningCall.not_needsIdentity hrefusal)
  | told _ _ hanswers =>
    rw [others_lookup, hanswers.others_eq]
    exact hanswers
  | known _ hanswers => rwa [hanswers.others_eq]

/-- A call to which a token is the answer needs the identity, and one is known after it. -/
theorem Course.of_token (h : s.Course known call (.token (.ok token)) sent after) :
    call.NeedsIdentity ∧ ∃ identity, after = some identity := by
  generalize hresult : SigningResult.token (.ok token) = result at h
  cases h with
  | refused _ => cases hresult
  | untold _ _ =>
    have herror := congrArg SigningResult.error? hresult
    rw [call.error?_failed] at herror
    cases herror
  | told hneeds _ _ => exact ⟨hneeds, _, rfl⟩
  | known hneeds _ => exact ⟨hneeds, _, rfl⟩

/-- The token that a call gets names the identity, and so does the request for its signature. -/
theorem Course.made (h : s.Course known call (.token (.ok token)) sent (some identity)) :
    Signed.Made s identity token ⟨call, .token (.ok token), sent⟩ := by
  obtain ⟨hneeds, -⟩ := h.of_token
  have hanswers := h.answers hneeds
  -- The indices must be variables for the cases; only a call for a token survives `hresult`.
  generalize hresult : SigningResult.token (.ok token) = result at hanswers
  generalize hothers : s.others sent = others at hanswers
  cases hanswers with
  | email => cases hresult
  | sign outcome => cases hresult
  | @mint uid claims now outcome =>
    obtain ⟨-, hreserved⟩ := Client.checkRequest_eq_ok_iff.mp hneeds
    cases hsignature : signatureOf outcome with
    | error e =>
      rw [hsignature] at hresult
      cases hresult
    | ok signature =>
      rw [hsignature] at hresult
      cases hresult
      refine ⟨_, Signatory.mintedMembers identity uid claims now, _, signature,
        Signatory.split_mintedSegments identity uid claims now signature, rfl, ?_, ?_, hothers,
        s.asks_signRequest identity _, signatureOf_eq_ok_iff.mp hsignature,
        Segment.decode_encode signature⟩
      · rw [Signatory.filter_mintedMembers hreserved (by decide)]
        rfl
      · rw [Signatory.filter_mintedMembers hreserved (by decide)]
        rfl

/-- A call is as it should be in view of the identity before it. -/
theorem Course.proper (h : s.Course known call result sent after) :
    Signed.Proper s known ⟨call, result, sent⟩ where
  idle hneeds := by
    cases h with
    | refused _ => rfl
    | untold hneeds' _ => exact absurd hneeds' hneeds
    | told hneeds' _ _ => exact absurd hneeds' hneeds
    | known hneeds' _ => exact absurd hneeds' hneeds
  asks hknown hneeds := by
    cases h with
    | refused hrefusal => exact absurd hneeds (SigningCall.not_needsIdentity hrefusal)
    | untold _ _ =>
      exact ⟨_, [], rfl, s.looksUp_identityRequest, by simp, fun _ =>
        ⟨rfl, _, call.error?_failed _⟩⟩
    | told _ htold hanswers =>
      refine ⟨_, _, rfl, s.looksUp_identityRequest, hanswers.not_looksUp, fun huntold => ?_⟩
      rw [htold] at huntold
      cases huntold
    | known _ _ => cases hknown
  asks_none hknown := by
    cases h with
    | refused _ => simp
    | untold _ _ => exact absurd rfl hknown
    | told _ _ _ => exact absurd rfl hknown
    | known _ hanswers => exact hanswers.not_looksUp
  email identity hidentity hcall := by
    rw [← h.after_eq] at hidentity
    subst hidentity
    cases hcall
    have hanswers := h.answers trivial
    generalize s.others sent = others at hanswers ⊢
    cases hanswers
    exact ⟨rfl, rfl⟩
  sign identity hidentity message hcall := by
    rw [← h.after_eq] at hidentity
    subst hidentity
    cases hcall
    have hanswers := h.answers trivial
    generalize s.others sent = others at hanswers ⊢
    cases hanswers with
    | sign outcome =>
      exact ⟨_, _, rfl, s.asks_signRequest identity message, rfl, fun _ => signatureOf_eq_ok_iff⟩

end SigningService

/-! ## Runs -/

/-- What holds of a run of calls. In the end the service knows the identity that it was given or
the first that it was told, and nothing else has changed of it; what is known once is known for
good. Each call is proper in view of what was known before it. If the identity was given, the
metadata server is never asked. All tokens are made for the one identity that is known in the
end. -/
structure SigningService.OneIdentity (s : SigningService) (shown : List Signed) (last : Client) :
    Prop where
  signer_eq : last.signer = .service { s with identity := s.known shown }
  forever : ∀ before after identity, shown = before ++ after →
    s.known before = some identity → s.known shown = some identity
  proper : ∀ before r after, shown = before ++ r :: after → r.Proper s (s.known before)
  given : s.identity ≠ none → ∀ r ∈ shown, ∀ x ∈ r.exchanges, ¬s.LooksUp x.request
  made : ∀ r ∈ shown, ∀ token, r.result = .token (.ok token) →
    ∃ identity, s.known shown = some identity ∧ r.Made s identity token

namespace Client

variable {c : Client} {s : SigningService}

/-- One call takes a course, and shows it. -/
theorem serve_course {known : Option String}
    (hc : c.signer = .service { s with identity := known }) (call : SigningCall) :
    ∃ r after, (c.serve call).1 = some r ∧ s.Course known r.call r.result r.exchanges after ∧
      (c.serve call).2.signer = .service { s with identity := after } := by
  obtain ⟨sent, after, hlog, hsigner, hcourse⟩ := c.course hc call
  have hsent : (c.answer call).2.network.log.drop c.network.log.length = sent := by
    rw [hlog, List.drop_left]
  refine ⟨⟨call, (c.answer call).1, sent⟩, after, ?_, hcourse, hsigner⟩
  rw [← hsent]
  rfl

/-- One call is as it should be, and so is the client after it, in view of the calls before. -/
theorem serve_proper {past : List Signed}
    (hc : c.signer = .service { s with identity := s.known past }) (call : SigningCall) :
    ∃ r, (c.serve call).1 = some r ∧ r.Proper s (s.known past) ∧
      (∀ token, r.result = .token (.ok token) →
        ∃ identity, s.known (past ++ [r]) = some identity ∧ r.Made s identity token) ∧
      (c.serve call).2.signer = .service { s with identity := s.known (past ++ [r]) } := by
  obtain ⟨⟨call, result, sent⟩, after, hshown, hcourse, hsigner⟩ := serve_course hc call
  have hafter : after = s.known (past ++ [⟨call, result, sent⟩]) := by
    rw [s.known_concat]
    exact hcourse.after_eq
  rw [hafter] at hsigner
  refine ⟨_, hshown, hcourse.proper, ?_, hsigner⟩
  rintro token ⟨⟩
  obtain ⟨-, identity, rfl⟩ := hcourse.of_token
  exact ⟨identity, hafter.symm, hcourse.made⟩

/-- **A signing service has one identity, in every run of calls**, of any length, whatever the
servers answer and whoever calls in between for something else. While it has none, each call that
needs one makes one look-up, and if nothing is told, fails and leaves nothing behind. The first text
that is told, without blank ends and not empty, is the identity from then on, and nobody looks it up
again. Every token names it as issuer and subject, and the request for the signature of the token,
and of nothing else, was addressed to it. -/
theorem serves_one_identity (hc : c.signer = .service s) (calls : List SigningCall) :
    s.OneIdentity (run serve c calls).1 (run serve c calls).2 := by
  have hstart : c.signer = .service { s with identity := s.known [] } := by
    rw [hc, SigningService.known]
    simp [SigningService.learnt?]
  -- The invariant of the run: the service knows exactly what the calls so far make known.
  obtain ⟨hlast, hcalls⟩ := @run_history Client SigningCall Signed serve
    (fun past c => c.signer = .service { s with identity := s.known past })
    (fun past r => r.Proper s (s.known past) ∧ ∀ token, r.result = .token (.ok token) →
      ∃ identity, s.known (past ++ [r]) = some identity ∧ r.Made s identity token)
    (fun past c call h => by
      obtain ⟨r, hshown, -, -, hsigner⟩ := serve_proper h call
      rwa [hshown])
    (fun past c call r h hr => by
      obtain ⟨r', hshown, hproper, hmade, -⟩ := serve_proper h call
      cases hshown.symm.trans hr
      exact ⟨hproper, hmade⟩)
    [] c hstart calls
  rw [List.nil_append] at hlast
  refine ⟨hlast, ?_, fun before r after h => (hcalls before r after h).1, ?_, ?_⟩
  · rintro before after identity h hknown
    rw [h]
    exact SigningService.known_append hknown after
  · intro hgiven r hr
    obtain ⟨before, after, h⟩ := List.append_of_mem hr
    refine (hcalls before r after h).1.asks_none ?_
    simpa [SigningService.known] using fun hnone => absurd hnone hgiven
  · intro r hr token htoken
    obtain ⟨before, after, h⟩ := List.append_of_mem hr
    obtain ⟨identity, hknown, hmade⟩ := (hcalls before r after h).2 token htoken
    refine ⟨identity, ?_, hmade⟩
    rw [h, List.append_cons]
    exact SigningService.known_append hknown after

namespace Sample

/-- A service that does not know who it is. -/
def nameless : SigningService := ⟨"http://[::1]", "http://[::1]", none⟩

/-- A client of the service. A server hangs up, then an identity is told, and then a signature is
given. -/
def asking : Client :=
  ofSigner (.service nameless) [.dropped, .response ⟨200, [], Utf8.encode " me\n"⟩,
    .response (SigningService.signed [1, 2, 3])]

/-- Where the identity is told. -/
def emailUrl : String :=
  "http://[::1]/computeMetadata/v1/instance/service-accounts/default/email"

/-- Where signatures by this identity are given. -/
def signUrl : String := "http://[::1]/v1/projects/-/serviceAccounts/me:signBlob"

/-- The identity is wanted, then a token, then the identity again. -/
def calls : List SigningCall := [.email, .mint "u" [] Signatory.Sample.dusk, .email]

end Sample

/-- The first call fails. The second asks again, and gets a token, after which the third needs no
exchange. -/
theorem serves_one_identity_second :
    Sample.asking.signer = .service Sample.nameless ∧
      Sample.nameless.OneIdentity (run serve Sample.asking Sample.calls).1
        (run serve Sample.asking Sample.calls).2 ∧
      Sample.nameless.known (run serve Sample.asking Sample.calls).1 = some "me" ∧
      ((run serve Sample.asking Sample.calls).1.map fun r => r.exchanges.map (·.request.url)) =
        [[Sample.emailUrl], [Sample.emailUrl, Sample.signUrl], []] ∧
      ((run serve Sample.asking Sample.calls).1.map fun r => r.exchanges.map (·.request.flavour)) =
        [[some "Google"], [some "Google", none], []] ∧
      (run serve Sample.asking Sample.calls).1.map (·.result.error?.isSome) =
        [true, false, false] :=
  ⟨rfl, serves_one_identity rfl Sample.calls, by decide +kernel, by decide +kernel,
    by decide +kernel, by decide +kernel⟩

end Client

end IdentityTokens
