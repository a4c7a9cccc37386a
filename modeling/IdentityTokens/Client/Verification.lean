import IdentityTokens.Client.Basic
import IdentityTokens.Token.Header
import IdentityTokens.Token.IdToken

/-!
# Verification of ID tokens

A token is taken apart, its signature is held against the public keys, and only then are its
claims looked at. Only the middle step needs anything from outside, and it asks for the whole set
of keys: what it does there does not depend on the token.

## Main definitions

* `ReceivedToken`: a token taken apart.
* `ReceivedToken.checkSignature`: the signature against a set of keys.
* `ReceivedToken.checkClaims`: the claims against a project and a time.
* `Client.verify`: the whole.
-/

namespace IdentityTokens

/-! ## Taking apart -/

/-- A token taken apart: header, payload and signature, and the text that was signed. -/
structure ReceivedToken where
  header : Header
  payload : IdToken
  signature : List UInt8
  input : String

namespace ReceivedToken

/-- The parts of a token with certain segments. -/
def ofSegments (token : String) (s : Segments) : Except Error ReceivedToken :=
  match Header.decode s.header with
  | .error e => .error (.malformed e)
  | .ok header =>
    match IdToken.decode s.payload with
    | .error e => .error (.malformed e)
    | .ok payload =>
      match s.signedPart? token with
      | none => .error .inputOutOfRange
      | some input =>
        match Segment.decode s.signature with
        | .error e => .error (.malformed e)
        | .ok signature => .ok ⟨header, payload, signature, input⟩

/-- The parts of the token in a text. -/
def parse (token : String) : Except Error ReceivedToken :=
  match Segments.split token with
  | .error e => .error (.malformed e)
  | .ok segments => ofSegments token segments

/-! ## The signature -/

/-- Whether a key accepts the signature, which is first brought into the form without padding. -/
def isSignedBy (t : ReceivedToken) (key : VerificationKey) : Bool :=
  key.acceptsText t.input (Segment.encode t.signature)

/-- Whether the signature is right: by the key that the header names, or by any where it names
none. The algorithm that the header names plays no part. -/
def checkSignature (t : ReceivedToken) (keys : KeySet) : Except Error Unit :=
  match t.header.keyId with
  | none => if keys.toList.any t.isSignedBy then .ok () else .error .invalidSignature
  | some kid =>
    match keys.get? kid with
    | none => .error (.noMatchingKey kid)
    | some key => if t.isSignedBy key then .ok () else .error .invalidSignature

/-! ## The claims -/

/-- The problem of a token whose header names no key. -/
def unnamedKey (t : ReceivedToken) : ClaimError :=
  if t.payload.aud = customTokenAudience then .customToken else .missingKeyId

/-- What can be wrong with the claims, each with whether it is, in the order in which it is
looked for. The time is in seconds. -/
def claimChecks (t : ReceivedToken) (project : String) (now : Int) : List (Bool × ClaimError) :=
  [(t.header.keyId.isNone, t.unnamedKey),
   (t.header.alg ≠ signatureAlgorithm, .algorithm t.header.alg),
   (t.payload.aud ≠ project, .audience project t.payload.aud),
   (t.payload.iss ≠ issuerPrefix ++ project, .issuer (issuerPrefix ++ project) t.payload.iss),
   (now < t.payload.iat, .issuedInFuture t.payload.iat),
   (t.payload.exp < now, .expired t.payload.exp),
   (t.payload.sub = "", .emptySubject),
   (maxUidLength < t.payload.sub.length, .subjectTooLong)]

/-- Whether all claims are right; if not, the first problem. -/
def checkClaims (t : ReceivedToken) (project : String) (now : Int) : Except ClaimError Unit :=
  match (t.claimChecks project now).find? (·.1) with
  | none => .ok ()
  | some (_, problem) => .error problem

/-- The payload of a token that is accepted: its subject is the user. -/
def accepted (t : ReceivedToken) : IdToken := { t.payload with uid := t.payload.sub }

/-- The payload of a token, if signature and claims are right. -/
def judge (t : ReceivedToken) (project : String) (keys : KeySet) (now : Instant) :
    Except Error IdToken :=
  match t.checkSignature keys with
  | .error e => .error e
  | .ok () =>
    match t.checkClaims project now.seconds with
    | .error e => .error (.claim e)
    | .ok () => .ok t.accepted

end ReceivedToken

/-! ## The whole -/

namespace Client

/-- The project whose tokens are accepted and the parts of a token, if there are both. -/
def receive (c : Client) (token : String) : Except Error (String × ReceivedToken) :=
  match c.projectId.filter (· ≠ "") with
  | none => .error .projectIdMissing
  | some project =>
    if token = "" then .error .emptyToken
    else
      match ReceivedToken.parse token with
      | .error e => .error e
      | .ok received => .ok (project, received)

/-- The payload of an ID token, if it is one of the project's and is valid at an instant. -/
def verify (c : Client) (token : String) (now : Instant) : Except Error IdToken × Client :=
  match c.receive token with
  | .error e => (.error e, c)
  | .ok (project, received) =>
    match c.keySet now with
    | (.error e, c) => (.error e, c)
    | (.ok keys, c) => (received.judge project keys now, c)

end Client

end IdentityTokens
