import IdentityTokens.Proofs.Minting.Production

/-!
# What the signing service is asked and answers

What goes to the service and comes from it: a request carries the message that is to be signed, a
reply may give a signature, and a service that knows its identity sends one request for a signature
or a token and none for the identity. A holder of a key, for comparison, hands out the signature
that the key makes.

## Main definitions

* `SigningService.LooksUp`: a request is for the identity.
* `SigningService.Asks`: a request is for a signature of a message by an identity.
* `SigningService.Gives`: a reply gives a signature.
* `SigningService.signed`: the reply that gives a signature and nothing else.

## Main statements

* `Signer.signWith_eq`: the signature of a holder.
* `SigningService.looksUp_iff`, `SigningService.asks_signRequest`, `SigningService.read_members`:
  requests and replies.
* `Client.sign_of_identity`, `Client.customToken_of_identity`: a service that knows who it is.
-/

namespace IdentityTokens

/-! ## Holders of keys -/

namespace Signer

/-- The signature that is made is handed out: as a segment, it is read back. -/
theorem signWith_eq (key message : List UInt8) :
    signWith key message =
      match Rsa.sign? key message with
      | none => .error .signing
      | some signature => .ok signature := by
  rw [signWith]
  cases Rsa.sign? key message with
  | none => rfl
  | some signature => simp only [Segment.decode_encode]

/-- No signature that is made is malformed. -/
theorem signWith_ne_malformed (key message : List UInt8) (e : Segment.Error) :
    signWith key message ≠ .error (.malformed e) := by
  rw [signWith_eq]
  intro h
  cases hsign : Rsa.sign? key message with
  | none =>
    rw [hsign] at h
    cases h
  | some signature =>
    rw [hsign] at h
    cases h

end Signer

/-! ## Requests -/

namespace SigningService

variable {s : SigningService} {identity : String} {message signature : List UInt8}
  {outcome : Except Http.Failure Http.Response}

/-- A request is for the identity: it gets it at the metadata server, under the address of the
default service account, and says of which flavour it is, as such servers want to see. -/
structure LooksUp (s : SigningService) (r : Http.Request) : Prop where
  method_eq : r.method = .get
  url_eq : r.url = s.metadataUrl ++ "/computeMetadata/v1/instance/service-accounts/default/email"
  flavour_eq : r.flavour = some "Google"
  body_eq : r.body = ""

theorem looksUp_iff {r : Http.Request} : s.LooksUp r ↔ r = s.identityRequest := by
  constructor
  · obtain ⟨method, url, flavour, body⟩ := r
    rintro ⟨rfl, rfl, rfl, rfl⟩
    rfl
  · rintro rfl
    exact ⟨rfl, rfl, rfl, rfl⟩

theorem looksUp_identityRequest (s : SigningService) : s.LooksUp s.identityRequest :=
  looksUp_iff.mpr rfl

instance (s : SigningService) (r : Http.Request) : Decidable (s.LooksUp r) :=
  decidable_of_iff _ looksUp_iff.symm

/-- A request is for a signature of a message by an identity: the identity stands in the address,
and the message, in base64, in the document. -/
structure Asks (s : SigningService) (identity : String) (message : List UInt8) (r : Http.Request) :
    Prop where
  method_eq : r.method = .post
  url_eq : r.url = s.serviceUrl ++ "/v1/projects/-/serviceAccounts/" ++ identity ++ ":signBlob"
  document_eq : Json.parse (Utf8.encode r.body) = .ok (.object [("bytesToSign",
    .string (String.ofList (Base64.encodePadded Base64.standard message)))])

theorem asks_signRequest (s : SigningService) (identity : String) (message : List UInt8) :
    s.Asks identity message (s.signRequest identity message) where
  method_eq := rfl
  url_eq := rfl
  document_eq := by
    have hparse := Json.parse_render_texts (List.pairwise_singleton (fun m n => m.1 < n.1)
      ("bytesToSign", String.ofList (Base64.encodePadded Base64.standard message)))
    rwa [List.map_singleton] at hparse

/-- Nobody who asks for a signature looks the identity up. -/
theorem Asks.not_looksUp {r : Http.Request} (h : s.Asks identity message r) : ¬s.LooksUp r :=
  fun hlookup => by cases h.method_eq.symm.trans hlookup.method_eq

/-! ## Replies -/

/-- A reply gives a signature, in base64. -/
def Gives (outcome : Except Http.Failure Http.Response) (signature : List UInt8) : Prop :=
  ∃ response text, outcome = .ok response ∧ response.read signatureText = .ok text ∧
    Base64.decodeText Base64.standard .required text = .ok signature

/-- A signature is taken from a reply exactly if the reply gives it. -/
theorem signatureOf_eq_ok_iff : signatureOf outcome = .ok signature ↔ Gives outcome signature := by
  constructor
  · intro h
    cases outcome with
    | error failure => cases h
    | ok response =>
      rw [signatureOf] at h
      split at h
      · cases h
      · next text htext =>
        split at h
        · cases h
        · next octets hoctets =>
          cases h
          exact ⟨response, text, rfl, htext, hoctets⟩
  · rintro ⟨response, text, rfl, htext, hsignature⟩
    simp only [signatureOf, htext, hsignature]

/-- The member of a reply that holds the signature. -/
def signatureField : Json.Field (Option String) := .of "signature" Json.textValue fun _ s => some s

/-- A signature is read wherever it stands among members of other names. -/
theorem read_members {before after : List (String × Json)} {text : String}
    (hnames : ∀ m ∈ before ++ after, m.1 ≠ "signature")
    (hreads : ∀ m ∈ before ++ after, ∃ w, Json.ReadsAs m.2 w)
    (hdepth : ∀ m ∈ before ++ after, Json.depth m.2 ≤ Json.maxDepth) (status : Nat)
    (fields : List (String × String)) :
    (⟨status, fields, (Json.object (before ++ ("signature", .string text) :: after)).bytes⟩ :
      Http.Response).read signatureText = .ok text := by
  have hfind : ∀ m ∈ before ++ after, [signatureField].find? (·.name == m.1) = none := by
    intro m hm
    have hne := (hnames m hm).symm
    simp [signatureField, Json.Field.of, hne]
  have hbefore : Json.Feeds Json.closeBrace (Json.recordMember [signatureField]) ([], none)
      (before.map Json.memberBytes) ([], none) :=
    Json.feeds_others (by simp) (fun m hm => hfind m (by simp [hm]))
      (fun m hm => hreads m (by simp [hm])) (fun m hm => hdepth m (by simp [hm])) none
  have hafter : Json.Feeds Json.closeBrace (Json.recordMember [signatureField])
      (["signature"], some text) (after.map Json.memberBytes) (["signature"], some text) :=
    Json.feeds_others (fun m hm => by simpa using hnames m (by simp [hm]))
      (fun m hm => hfind m (by simp [hm])) (fun m hm => hreads m (by simp [hm]))
      (fun m hm => hdepth m (by simp [hm])) (some text)
  have hmember : Json.Feeds Json.closeBrace (Json.recordMember [signatureField]) ([], none)
      (Json.memberBytes ("signature", .string text) :: after.map Json.memberBytes)
      (["signature"], some text) :=
    Json.feeds_field (by simp) rfl (Json.Field.takes_text "signature" text _ none) hafter
  have hfeeds := hbefore.append hmember
  rw [← List.map_cons, ← List.map_append] at hfeeds
  have hrecord := Json.record_bytes hfeeds []
  rw [List.append_nil] at hrecord
  have hread : signatureText (Json.object (before ++ ("signature", .string text) :: after)).bytes =
      .ok (text, []) :=
    Json.checked_of_read hrecord rfl
  simp only [Http.Response.read, Json.document_of_reader hread]

/-- The reply that gives a signature and nothing else. -/
def signed (signature : List UInt8) : Http.Response :=
  ⟨200, [], (Json.object [("signature",
    .string (String.ofList (Base64.encodePadded Base64.standard signature)))]).bytes⟩

theorem read_signed (signature : List UInt8) :
    (signed signature).read signatureText =
      .ok (String.ofList (Base64.encodePadded Base64.standard signature)) :=
  @read_members [] [] _ (by simp) (by simp) (by simp) 200 []

end SigningService

/-! ## A service that knows who it is -/

namespace Client

variable {c : Client} {s : SigningService} {identity : String}

/-- A request that is refused is refused before the signer is asked for anything. -/
theorem customToken_of_error {uid : String} {claims : Json.Members} {e : Error}
    (h : checkRequest uid claims = .error e) (c : Client) (now : Instant) :
    c.customToken uid claims now = (.error e, c) :=
  Signatory.mint_of_error h

theorem signerEmail_of_identity (hc : c.signer = .service s) (hs : s.identity = some identity) :
    c.signerEmail = (.ok identity, c) := by
  obtain ⟨projectId, signer, keySource, users, network⟩ := c
  subst hc
  simp only [signerEmail, Signer.email, SigningService.email, hs]

/-- A service that knows who it is sends one request for a signature. -/
theorem sign_of_identity {message : List UInt8} {r : Http.Request} (hc : c.signer = .service s)
    (hs : s.identity = some identity) (hr : r = s.signRequest identity message) :
    c.sign message =
      (SigningService.signatureOf (c.network.send r).1,
        { c with network := (c.network.send r).2 }) := by
  obtain ⟨projectId, signer, keySource, users, network⟩ := c
  subst hc
  simp only [sign, Signer.sign, SigningService.sign, SigningService.email, hs, hr]

/-- A service that knows who it is sends one request for a token, and makes the token of the
signature in the reply. -/
theorem customToken_of_identity {uid : String} {claims : Json.Members} {now : Instant}
    {r : Http.Request} (hc : c.signer = .service s) (hs : s.identity = some identity)
    (hcheck : checkRequest uid claims = .ok ())
    (hr : r = s.signRequest identity (Utf8.encode (customTokenInput identity uid claims now))) :
    c.customToken uid claims now =
      ((SigningService.signatureOf (c.network.send r).1).map fun signature =>
          (Signatory.mintedSegments identity uid claims now signature).text,
        { c with network := (c.network.send r).2 }) := by
  rw [customToken, Signatory.mint_of_email hcheck (signerEmail_of_identity hc hs)]
  simp only [signatory, sign_of_identity hc hs hr]

/-- A client that does nothing but sign, with the answers of its servers. -/
def Sample.ofSigner (signer : Signer) (answers : List Http.Answer) : Client where
  projectId := none
  signer := signer
  keySource := .unavailable "none"
  users := .store ⟨[], [], []⟩
  network := .ofAnswers (fun _ => true) answers

end Client

end IdentityTokens
