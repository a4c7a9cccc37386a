import IdentityTokens.Credentials
import IdentityTokens.Crypto.Rsa
import IdentityTokens.Token.Segment

/-!
# Signers

Who signs custom tokens: a holder of the private key of a service account, a service that signs
for it, or one whose signature is known beforehand. A signer has an identity, which the signing
service learns from the metadata server once and then keeps.

## Main definitions

* `SigningService`: the service, with the identity once it is known.
* `Signer`: the kinds of signer.
* `Signer.email`: the identity.
* `Signer.sign`: a signature.
-/

namespace IdentityTokens

/-! ## The signing service -/

/-- The service that signs for service accounts, and the server that knows which one is ours. -/
structure SigningService where
  metadataUrl : String
  serviceUrl : String
  identity : Option String
deriving DecidableEq, Repr

namespace SigningService

/-- The service at its usual address, before the identity is known. -/
def usual : SigningService := ⟨metadataServerUrl, signingServiceUrl, none⟩

/-- The request for the identity. -/
def identityRequest (s : SigningService) : Http.Request :=
  { Http.Request.get
      (s.metadataUrl ++ "/computeMetadata/v1/instance/service-accounts/default/email") with
    flavour := some "Google" }

/-- The identity that a request has led to: the text of the response without blank ends. -/
def identityOf (outcome : Except Http.Failure Http.Response) : Except Error String :=
  match outcome with
  | .error failure => .error (.network (.http failure))
  | .ok response =>
    let identity := trimBlank response.text
    if identity = "" then .error (.network .noServiceAccount) else .ok identity

/-- The identity, asked for only while it is not known. -/
def email (s : SigningService) (network : Http.Network) :
    Except Error String × SigningService × Http.Network :=
  match s.identity with
  | some identity => (.ok identity, s, network)
  | none =>
    let (outcome, network) := network.send s.identityRequest
    match identityOf outcome with
    | .error e => (.error e, s, network)
    | .ok identity => (.ok identity, { s with identity := some identity }, network)

/-- The request for a signature by an identity. -/
def signRequest (s : SigningService) (identity : String) (message : List UInt8) : Http.Request :=
  .post (s.serviceUrl ++ "/v1/projects/-/serviceAccounts/" ++ identity ++ ":signBlob")
    (.object [("bytesToSign",
      .string (String.ofList (Base64.encodePadded Base64.standard message)))])

/-- The signature in a response, still in text form. -/
def signatureText : Json.Reader String :=
  Json.checked
    (Json.record [.of "signature" Json.textValue fun _ (s : String) => some s] none) id

/-- The signature that a request has led to. -/
def signatureOf (outcome : Except Http.Failure Http.Response) : Except Error (List UInt8) :=
  match outcome with
  | .error failure => .error (.network (.http failure))
  | .ok response =>
    match response.read signatureText with
    | .error failure => .error (.network (.http failure))
    | .ok text =>
      match Base64.decodeText Base64.standard .required text with
      | .error e => .error (.network (.badSignature e))
      | .ok signature => .ok signature

/-- A signature by the identity. -/
def sign (s : SigningService) (message : List UInt8) (network : Http.Network) :
    Except Error (List UInt8) × SigningService × Http.Network :=
  match s.email network with
  | (.error e, s, network) => (.error e, s, network)
  | (.ok identity, s, network) =>
    let (outcome, network) := network.send (s.signRequest identity message)
    (signatureOf outcome, s, network)

end SigningService

/-! ## Signers -/

/-- Who signs: one whose signature is known beforehand, the holder of an encoded key, or the
signing service. -/
inductive Signer where
  | known (email : String) (signature : List UInt8)
  | holder (email : String) (key : List UInt8)
  | service (s : SigningService)
deriving DecidableEq, Repr

namespace Signer

/-- The holder of an armoured key. -/
def ofKeyFile (privateKey : List UInt8) (email : String) : Except Error Signer :=
  match RsaKeyFile.read? privateKey with
  | none => .error (.credentials .badPrivateKey)
  | some key => .ok (.holder email key)

/-- The holder of the key of a service account. -/
def ofServiceAccount (a : ServiceAccount) : Except Error Signer :=
  if a.canSign then ofKeyFile (Utf8.encode a.privateKey) a.clientEmail
  else .error (.credentials .cannotSign)

/-- The signature of the holder of a key. It is made as a segment, of which the octets are taken. -/
def signWith (key message : List UInt8) : Except Error (List UInt8) :=
  match Rsa.sign? key message with
  | none => .error .signing
  | some signature =>
    match Segment.decode (Segment.encode signature) with
    | .error e => .error (.malformed e)
    | .ok signature => .ok signature

/-- The identity of a signer. -/
def email (s : Signer) (network : Http.Network) : Except Error String × Signer × Http.Network :=
  match s with
  | .known email _ | .holder email _ => (.ok email, s, network)
  | .service remote =>
    let (email, remote, network) := remote.email network
    (email, .service remote, network)

/-- A signature of a message. -/
def sign (s : Signer) (message : List UInt8) (network : Http.Network) :
    Except Error (List UInt8) × Signer × Http.Network :=
  match s with
  | .known _ signature => (.ok signature, s, network)
  | .holder _ key => (signWith key message, s, network)
  | .service remote =>
    let (signature, remote, network) := remote.sign message network
    (signature, .service remote, network)

end Signer

end IdentityTokens
