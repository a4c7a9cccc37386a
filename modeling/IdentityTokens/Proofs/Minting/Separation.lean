import IdentityTokens.Proofs.Minting.Production
import IdentityTokens.Proofs.Verification.Acceptance

/-!
# Custom tokens are no ID tokens

A custom token names no key in its header, and a token that names none is never accepted, whatever
its payload and whoever signed it. Where the payload can be read, the refusal says that it is a
custom token, but only if a key verifies the signature: the claims are looked at after it.

## Main statements

* `Client.verify_ne_ok_of_unnamed`: tokens that name no key are not accepted.
* `ReceivedToken.judge_minted`: what is found wrong with a custom token.
* `Client.verify_refuses_minted`: custom tokens of any signatory, at any client.
-/

namespace IdentityTokens

/-! ## Tokens that name no key -/

/-- A token whose header names no key is not accepted. -/
theorem Client.verify_ne_ok_of_unnamed {v : Client} {token : String} {now : Instant}
    {segments : Segments} {header : Header} (hsplit : Segments.split token = .ok segments)
    (hheader : Header.decode segments.header = .ok header) (hkid : header.kid = none)
    (t : IdToken) : (v.verify token now).1 ≠ .ok t := by
  intro h
  obtain ⟨accepted, -⟩ := verify_eq_ok_iff.mp h
  have htaken : Segments.split token = .ok accepted.segments :=
    Segments.split_eq_ok_iff.mpr ⟨accepted.token_eq, accepted.undotted⟩
  rw [hsplit] at htaken
  injection htaken with hsegments
  have hdecoded := accepted.header_eq
  rw [← hsegments, hheader] at hdecoded
  injection hdecoded with hsame
  have hnamed := accepted.kid_eq
  rw [← hsame, hkid] at hnamed
  cases hnamed

namespace ReceivedToken

variable {t : ReceivedToken} {keys : KeySet}

/-- Where the header names no key, any key of the set may be the one. -/
theorem checkSignature_of_unnamed (hkid : t.header.keyId = none) :
    t.checkSignature keys =
      if keys.toList.any fun key => key.accepts (Utf8.encode t.input) t.signature then .ok ()
      else .error .invalidSignature := by
  simp only [checkSignature, hkid, ← isSignedBy_eq]

/-- The first thing that is wrong with the claims of a custom token is that it is one. -/
theorem checkClaims_minted (hheader : t.header = .minted)
    (haud : t.payload.aud = customTokenAudience) (project : String) (now : Int) :
    t.checkClaims project now = .error .customToken := by
  have hkid : t.header.keyId.isNone = true := by
    rw [hheader]
    rfl
  have hfind : (t.claimChecks project now).find? (·.1) = some (true, .customToken) := by
    rw [claimChecks, hkid, unnamedKey, if_pos haud]
    rfl
  rw [checkClaims, hfind]

/-- A custom token is told as one exactly when some key verifies its signature. -/
theorem judge_minted (hheader : t.header = .minted) (haud : t.payload.aud = customTokenAudience)
    (project : String) (keys : KeySet) (now : Instant) :
    t.judge project keys now =
      if keys.toList.any fun key => key.accepts (Utf8.encode t.input) t.signature then
        .error (.claim .customToken)
      else .error .invalidSignature := by
  have hkid : t.header.keyId = none := by
    rw [hheader]
    rfl
  rw [judge, checkSignature_of_unnamed hkid]
  cases keys.toList.any fun key => key.accepts (Utf8.encode t.input) t.signature with
  | false => rfl
  | true => rw [checkClaims_minted hheader haud]; rfl

end ReceivedToken

/-! ## Custom tokens -/

open Signatory (mintedSegments)

/-- The parts of a custom token whose claims are exact. -/
theorem ReceivedToken.parse_minted {claims : Json.Members} (hclaims : CustomToken.Exact claims)
    (hreserved : CustomToken.reservedIn claims = []) (issuer uid : String) (made : Instant)
    (signature : List UInt8) :
    parse (mintedSegments issuer uid claims made signature).text = .ok
      { header := .minted
        payload := ⟨issuer, customTokenAudience, made.seconds + 3600, made.seconds, issuer, uid,
          claims⟩
        signature := signature
        input := (mintedSegments issuer uid claims made signature).signingInput } :=
  parse_eq_ok_iff.mpr ⟨_, rfl, Segments.undotted_written _ _ _,
    Header.decode_encode .minted, Signatory.decode_payload hclaims hreserved issuer uid made,
    Segment.decode_encode signature, rfl⟩

/-- What a client that has a project and keys answers to a token that can be taken apart. -/
theorem Client.verify_of_parse {v : Client} {token project : String} {received : ReceivedToken}
    {keys : KeySet} {now : Instant} (hproject : v.projectId = some project) (hne : project ≠ "")
    (htoken : token ≠ "") (hparse : ReceivedToken.parse token = .ok received)
    (hkeys : (v.keySet now).1 = .ok keys) :
    (v.verify token now).1 = received.judge project keys now := by
  have hreceive := receive_eq_ok_iff.mpr ⟨hproject, hne, htoken, hparse⟩
  rcases hset : v.keySet now with ⟨answer, after⟩
  rw [hset] at hkeys
  cases hkeys
  simp only [verify, hreceive, hset]

/-- **A custom token is never accepted as an ID token**, whoever signed it, for whichever user, with
whichever claims and at any time, by any client at any time. If the claims are exact, a client with
a project and a set of keys says that it is a custom token where a key of the set verifies the
signature of the first two segments, and that the signature is wrong where none does. -/
theorem Client.verify_refuses_minted {σ : Type} (a : Signatory σ) (s : σ) (uid token : String)
    (claims : Json.Members) (made : Instant)
    (htoken : (a.mint s uid claims made).1 = .ok token) (v : Client) (now : Instant) :
    (∀ t, (v.verify token now).1 ≠ .ok t) ∧
      (CustomToken.Exact claims → ∀ project keys, v.projectId = some project → project ≠ "" →
        (v.keySet now).1 = .ok keys →
        ∃ segments signature, Segments.split token = .ok segments ∧
          Segment.decode segments.signature = .ok signature ∧
          (v.verify token now).1 =
            if keys.toList.any fun key =>
              key.accepts (Utf8.encode (segments.header ++ "." ++ segments.payload)) signature
            then .error (.claim .customToken) else .error .invalidSignature) := by
  have hmint : a.mint s uid claims made = (.ok token, (a.mint s uid claims made).2) :=
    Prod.ext htoken rfl
  obtain ⟨-, hreserved, issuer, s₁, signature, -, -, rfl⟩ := Signatory.mint_eq_ok_iff.mp hmint
  have hsplit := Signatory.split_mintedSegments issuer uid claims made signature
  refine ⟨verify_ne_ok_of_unnamed hsplit (Header.decode_encode .minted) rfl, ?_⟩
  intro hclaims project keys hproject hne hkeys
  have hparse := ReceivedToken.parse_minted hclaims hreserved issuer uid made signature
  refine ⟨_, signature, hsplit, Segment.decode_encode signature, ?_⟩
  have hnonempty : (mintedSegments issuer uid claims made signature).text ≠ "" := by
    intro h
    have hchars := congrArg String.toList h
    simp [Segments.toList_text] at hchars
  rw [verify_of_parse hproject hne hnonempty hparse hkeys, ReceivedToken.judge_minted rfl rfl]
  rfl

namespace Signatory.Sample

/-- A client of a project, with a key that verifies nothing. -/
def verifier : Client :=
  { client with projectId := some "p", keySource := .fixed ⟨[("k", [])], none⟩ }

end Signatory.Sample

open Signatory.Sample (client verifier profile exact_profile dusk) in
/-- A client with a key that does not verify a custom token calls its signature wrong. -/
theorem Client.verify_refuses_minted_dusk :
    ∃ token, (signatory.mint client "u" profile dusk).1 = .ok token ∧
      (∀ t, (verifier.verify token dusk).1 ≠ .ok t) ∧ CustomToken.Exact profile ∧
      (verifier.verify token dusk).1 = .error .invalidSignature := by
  have htoken : (signatory.mint client "u" profile dusk).1 =
      .ok (mintedSegments "signer" "u" profile dusk [1, 2, 3]).text := by
    rw [Signatory.mint_of_answers (by decide) (by decide) rfl rfl]
  obtain ⟨hnever, hreason⟩ :=
    verify_refuses_minted signatory client "u" _ profile dusk htoken verifier dusk
  obtain ⟨segments, signature, -, -, hresult⟩ :=
    hreason exact_profile "p" ⟨[("k", [])], none⟩ rfl (by decide) rfl
  exact ⟨_, htoken, hnever, exact_profile, hresult⟩

end IdentityTokens
