import IdentityTokens.Proofs.Keys.Grant
import IdentityTokens.Proofs.Minting.SigningService

/-!
# Signing by a service and signing with a key

The signing service receives messages and returns signatures in padded base64, inside documents; a
holder of a key writes a signature as a segment, without padding. Octets come through both as they
are. So a service that signs with a key, on behalf of an identity that is known, makes the tokens
that a holder of this key makes under this identity, and refuses what the holder refuses.

## Main definitions

* `Http.Exchange.SignsWith`: an exchange in which a service signs with a key.

## Main statements

* `SigningService.signsWith_of_signed`: a service that gives what a key makes signs with the key.
* `Client.customToken_of_signsWith`: the tokens are the same.
-/

namespace IdentityTokens

/-- If a request carries a message in base64, it is answered with the signature that a key makes of
this message, in base64. -/
def Http.Exchange.SignsWith (key : List UInt8) (x : Http.Exchange) : Prop :=
  ∀ text message,
    Json.parse (Utf8.encode x.request.body) = .ok (.object [("bytesToSign", .string text)]) →
    Base64.decodeText Base64.standard .required text = .ok message →
    ∃ signature response, Rsa.sign? key message = some signature ∧ x.outcome = .ok response ∧
      response.read SigningService.signatureText =
        .ok (String.ofList (Base64.encodePadded Base64.standard signature))

namespace SigningService

variable {s : SigningService} {identity : String} {key message signature : List UInt8}
  {x : Http.Exchange}

/-- What a service that signs with a key gives is what the key makes. -/
theorem signatureOf_of_signsWith (hx : x.request = s.signRequest identity message)
    (h : x.SignsWith key) :
    ∃ signature, Rsa.sign? key message = some signature ∧
      signatureOf x.outcome = .ok signature := by
  have hmessage := Base64.decodeText_encodePadded Base64.faithful_standard .required message
  obtain ⟨signature, response, hsign, houtcome, hread⟩ :=
    h _ message (hx ▸ (s.asks_signRequest identity message).document_eq) hmessage
  have hsignature := Base64.decodeText_encodePadded Base64.faithful_standard .required signature
  exact ⟨signature, hsign, signatureOf_eq_ok_iff.mpr ⟨response, _, houtcome, hread, hsignature⟩⟩

/-- A service that gives what a key makes of the message in a request signs with the key. -/
theorem signsWith_of_signed (hx : x.request = s.signRequest identity message)
    (hsign : Rsa.sign? key message = some signature)
    (houtcome : x.outcome = .ok (signed signature)) : x.SignsWith key := by
  intro text octets hdocument hoctets
  rw [hx, (s.asks_signRequest identity message).document_eq] at hdocument
  cases hdocument
  rw [Base64.decodeText_encodePadded Base64.faithful_standard] at hoctets
  cases hoctets
  exact ⟨signature, signed signature, hsign, houtcome, read_signed signature⟩

end SigningService

namespace Client

theorem checkRequest_error {uid : String} {claims : Json.Members} {e : Error}
    (h : checkRequest uid claims = .error e) :
    e = .invalidUid ∨ ∃ names, e = .reservedClaims names := by
  rcases checkRequest_eq_error_iff.mp h with ⟨-, rfl⟩ | ⟨-, -, rfl⟩
  · exact .inl rfl
  · exact .inr ⟨_, rfl⟩

/-- A holder of a key makes the token of its signature. -/
theorem customToken_of_holder {d : Client} {email uid : String} {key : List UInt8}
    {claims : Json.Members} (hd : d.signer = .holder email key)
    (hcheck : checkRequest uid claims = .ok ()) (now : Instant) :
    (d.customToken uid claims now).1 =
      (Signer.signWith key (Utf8.encode (customTokenInput email uid claims now))).map
        fun signature => (Signatory.mintedSegments email uid claims now signature).text := by
  obtain ⟨projectId, signer, keySource, users, network⟩ := d
  subst hd
  rw [customToken, Signatory.mint_of_email hcheck rfl]
  rfl

/-- **Whether a service or the holder of a key signs makes no difference to a token.** Take any
client whose signing service was given its identity, and any client that holds a key under this
identity. If in every exchange of the first, as it makes a token, the service signs with the key
whatever message it reads in the request, then both give the same result: the same token where the
request is one that is allowed, and otherwise the same refusal of the identifier or of claims. No
signature that the holder makes is malformed. -/
theorem customToken_of_signsWith {c d : Client} {s : SigningService} {email : String}
    {key : List UInt8} (hc : c.signer = .service s) (hs : s.identity = some email)
    (hd : d.signer = .holder email key) (uid : String) (claims : Json.Members) (now : Instant)
    (hsigns : ∀ x ∈ (c.customToken uid claims now).2.network.log.drop c.network.log.length,
      x.SignsWith key) :
    (c.customToken uid claims now).1 = (d.customToken uid claims now).1 ∧
      (checkRequest uid claims = .ok () → ∃ token, (c.customToken uid claims now).1 = .ok token) ∧
      (∀ e, checkRequest uid claims = .error e → (c.customToken uid claims now).1 = .error e ∧
        (e = .invalidUid ∨ ∃ names, e = .reservedClaims names)) ∧
      ∀ message e, Signer.signWith key message ≠ .error (.malformed e) := by
  cases hcheck : checkRequest uid claims with
  | error e =>
    have hrefused := customToken_of_error hcheck c now
    refine ⟨?_, (fun h => by cases h), ?_, Signer.signWith_ne_malformed key⟩
    · rw [hrefused, customToken_of_error hcheck]
    · rintro _ ⟨⟩
      exact ⟨congrArg Prod.fst hrefused, checkRequest_error hcheck⟩
  | ok _ =>
    have htoken := @customToken_of_identity c s email uid claims now _ hc hs hcheck rfl
    rw [htoken, Http.Network.log_send, List.drop_left] at hsigns
    obtain ⟨signature, hsign, hgiven⟩ :=
      SigningService.signatureOf_of_signsWith rfl (hsigns _ (List.mem_singleton_self _))
    have hmade : Signer.signWith key (Utf8.encode (customTokenInput email uid claims now)) =
        .ok signature := by
      rw [Signer.signWith_eq, hsign]
    rw [htoken, customToken_of_holder hd hcheck, hgiven, hmade]
    exact ⟨rfl, fun _ => ⟨_, rfl⟩, (fun e h => by cases h), Signer.signWith_ne_malformed key⟩

namespace Sample

open Sha256 (bigEndian)

/-- The two primes of the key. -/
def prime1 : Nat := 2 ^ 1023 + 1493
def prime2 : Nat := 2 ^ 1023 + 1155

/-- The encoded key, with 65537 for its public exponent. -/
def key : List UInt8 :=
  [0x30, 0x82, 0x04, 0x9F, 0x02, 0x01, 0x00, 0x02, 0x82, 0x01, 0x00] ++
    bigEndian 256 (prime1 * prime2) ++ [0x02, 0x03, 0x01, 0x00, 0x01, 0x02, 0x81, 0xFF] ++
    bigEndian 255 ((191 * ((prime1 - 1) * (prime2 - 1)) + 1) / 65537) ++ [0x02, 0x81, 0x81, 0x00] ++
    bigEndian 128 prime1 ++ [0x02, 0x81, 0x81, 0x00] ++ bigEndian 128 prime2 ++
    [0x02, 0x81, 0x80] ++ bigEndian 128 ((56667 * (prime1 - 1) + 1) / 65537) ++
    [0x02, 0x81, 0x80] ++ bigEndian 128 ((55688 * (prime2 - 1) + 1) / 65537) ++
    [0x02, 0x81, 0x80] ++ bigEndian 128 ((297 * prime1 - 1) / 338)

/-- What is signed of a token for a user, at the last nanosecond before 1970. -/
def message : List UInt8 :=
  Utf8.encode (customTokenInput "signer" "u" [] Signatory.Sample.dusk)

theorem isSome_sign : (Rsa.sign? key message).isSome = true := by
  have hmessage := Segment.encode_signingInput (Utf8.encodeChars Header.minted.toJson.renderChars)
    (Utf8.encodeChars
      (CustomToken.issue "signer" "u" Signatory.Sample.dusk.seconds []).toJson.renderChars)
  have heq : message = _ := hmessage
  -- From here on there are octets only, which the kernel hashes faster than the text.
  rw [heq]
  decide +kernel

/-- The service, given its identity. -/
def service : SigningService := ⟨metadataServerUrl, "http://[::1]", some "signer"⟩

/-- A client whose service gives a signature. -/
def delegating (signature : List UInt8) : Client :=
  ofSigner (.service service) [.response (SigningService.signed signature)]

/-- A client that holds the key. -/
def holding : Client := ofSigner (.holder "signer" key) []

theorem signs_delegating {signature : List UInt8} (hsign : Rsa.sign? key message = some signature) :
    ∀ x ∈ ((delegating signature).customToken "u" [] Signatory.Sample.dusk).2.network.log,
      x.SignsWith key := by
  have hcheck : checkRequest "u" [] = .ok () := rfl
  have htoken := @customToken_of_identity (delegating signature) _ _ "u" [] Signatory.Sample.dusk
    (service.signRequest "signer" message) rfl rfl hcheck rfl
  have hurl : (Url.parse? (service.signRequest "signer" message).url).any
      (·.withoutUser.isSendable) = true := by decide +kernel
  have hreply : ((delegating signature).network.send (service.signRequest "signer" message)).1 =
      .ok (SigningService.signed signature) := Http.Network.send_ofAnswers hurl rfl []
  rw [htoken, Http.Network.log_send]
  intro x hx
  rw [List.mem_singleton.mp hx]
  exact SigningService.signsWith_of_signed rfl hsign hreply

end Sample

/-- A service that has the key makes a token, and the holder of the key makes the same. -/
theorem customToken_of_signsWith_signer :
    ∃ signature token,
      (∀ x ∈ ((Sample.delegating signature).customToken "u" [] Signatory.Sample.dusk).2.network.log,
        x.SignsWith Sample.key) ∧
      ((Sample.delegating signature).customToken "u" [] Signatory.Sample.dusk).1 = .ok token ∧
      (Sample.holding.customToken "u" [] Signatory.Sample.dusk).1 = .ok token := by
  obtain ⟨signature, hsign⟩ := Option.isSome_iff_exists.mp Sample.isSome_sign
  have hsigns := Sample.signs_delegating hsign
  obtain ⟨hsame, hallowed, -⟩ := @customToken_of_signsWith (Sample.delegating signature)
    Sample.holding Sample.service "signer" Sample.key rfl rfl rfl "u" [] Signatory.Sample.dusk
    hsigns
  obtain ⟨token, htoken⟩ := hallowed rfl
  exact ⟨signature, token, hsigns, htoken, hsame ▸ htoken⟩

end Client

end IdentityTokens
