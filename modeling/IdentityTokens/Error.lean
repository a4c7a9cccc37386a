import IdentityTokens.Authority
import IdentityTokens.Crypto.Certificate
import IdentityTokens.Http.Exchange
import IdentityTokens.Number.Numeral
import IdentityTokens.Text.Quoted
import IdentityTokens.Token.Segment

/-!
# Errors

Everything that can go wrong when a client is set up, verifies a token, makes one, or speaks to
its servers. An error holds its cause; the wording is a function of it.

## Main definitions

* `ClaimError`: what can be wrong with the claims of a token whose signature is right.
* `Error`: all errors.
* `Error.kind`: what a caller can do about an error.
* `Error.message`: the wording.
-/

namespace IdentityTokens

/-! ## Claims -/

/-- What is wrong with the claims of a token, in the order in which it is looked for. -/
inductive ClaimError where
  | customToken
  | missingKeyId
  | algorithm (actual : String)
  | audience (expected actual : String)
  | issuer (expected actual : String)
  | issuedInFuture (iat : Int)
  | expired (exp : Int)
  | emptySubject
  | subjectTooLong
deriving DecidableEq, Repr

/-- Advice for a token of another project. -/
def projectAdvice : String :=
  "make sure the ID token comes from the same Firebase project as the credential used to " ++
    "authenticate this SDK"

/-- Advice for a token that cannot be one of the authority's. -/
def retrievalAdvice : String :=
  "see https://firebase.google.com/docs/auth/admin/verify-id-tokens for details on how to " ++
    "retrieve a valid ID token"

/-- A claim that differs from the one expected. -/
def differs (claim expected actual : String) : String :=
  "ID token has invalid " ++ claim ++ "; expected " ++ expected ++ " but got " ++
    Quoted.quote actual

/-- The wording of a problem with a claim. -/
def ClaimError.message : ClaimError → String
  | .customToken => "expected an ID token but got a custom token"
  | .missingKeyId => "ID token has no 'kid' header"
  | .algorithm actual =>
    differs "algorithm" ("'" ++ signatureAlgorithm ++ "'") actual ++ "; " ++ retrievalAdvice
  | .audience expected actual =>
    differs "'aud' (audience) claim" (Quoted.quote expected) actual ++ "; " ++ projectAdvice ++
      "; " ++ retrievalAdvice
  | .issuer expected actual =>
    differs "'iss' (issuer) claim" (Quoted.quote expected) actual ++ "; " ++ projectAdvice ++
      "; " ++ retrievalAdvice
  | .issuedInFuture iat => "ID token issued at future timestamp: " ++ Numeral.render iat
  | .expired exp => "ID token has expired at: " ++ Numeral.render exp
  | .emptySubject => "ID token has empty 'sub' (subject) claim; " ++ retrievalAdvice
  | .subjectTooLong =>
    "ID token has a 'sub' (subject) claim longer than " ++ toString maxUidLength ++
      " characters; " ++ retrievalAdvice

/-! ## Causes -/

/-- What is wrong with the key of a service account. -/
inductive CredentialsProblem where
  | badDocument
  | unreadableFile
  | badPrivateKey
  | cannotSign
deriving DecidableEq, Repr

/-- The wording of a problem with credentials. -/
def CredentialsProblem.message : CredentialsProblem → String
  | .badDocument => "invalid service account JSON"
  | .unreadableFile => "service account file not readable"
  | .badPrivateKey => "invalid service account private key"
  | .cannotSign => "service account key lacks private_key or client_email"

/-- Why there are no public keys. -/
inductive KeysProblem where
  | http (failure : Http.Failure)
  | certificate (problem : Certificate.Problem)
  | refused (reason : String)
deriving DecidableEq, Repr

/-- The wording of the absence of keys. -/
def KeysProblem.message : KeysProblem → String
  | .http failure => failure.message
  | .certificate problem => problem.message
  | .refused reason => reason

/-- Why a server was of no use. -/
inductive NetworkProblem where
  | http (failure : Http.Failure)
  | noServiceAccount
  | badSignature (e : Base64.Error)
deriving DecidableEq, Repr

/-- The wording of a problem with a server. -/
def NetworkProblem.message : NetworkProblem → String
  | .http failure => failure.message
  | .noServiceAccount => "metadata server returned no service account"
  | .badSignature e => e.message

/-- Why a time in a user record cannot be used. -/
inductive CutoffProblem where
  | numeral (e : Numeral.Error)
  | outOfRange (seconds : String)
deriving DecidableEq, Repr

/-- The wording of a problem with a time. -/
def CutoffProblem.message : CutoffProblem → String
  | .numeral e => e.message
  | .outOfRange seconds => "validSince out of range: " ++ seconds

/-! ## Errors -/

/-- Everything that can go wrong. The last two cases are a deadline that no instant can express,
and a signed text that does not lie in its token. -/
inductive Error where
  | invalidUid
  | reservedClaims (names : List String)
  | projectIdMissing
  | emptyToken
  | credentials (problem : CredentialsProblem)
  | malformed (e : Segment.Error)
  | noMatchingKey (kid : String)
  | invalidSignature
  | claim (e : ClaimError)
  | tokenRevoked
  | userNotFound (uid : String)
  | keysUnavailable (problem : KeysProblem)
  | signing
  | network (problem : NetworkProblem)
  | unclassified (problem : CutoffProblem)
  | deadlineOutOfRange
  | inputOutOfRange
deriving DecidableEq, Repr

/-- What an error is about. -/
inductive ErrorKind where
  | inputValidation
  | structuralDecode
  | cryptoVerification
  | claim
  | revocation
  | notFound
  | unavailable
  | internal
deriving DecidableEq, Repr

namespace Error

/-- What an error is about. -/
def kind : Error → ErrorKind
  | .invalidUid | .reservedClaims _ | .projectIdMissing | .emptyToken | .credentials _ =>
    .inputValidation
  | .malformed _ => .structuralDecode
  | .noMatchingKey _ | .invalidSignature => .cryptoVerification
  | .claim _ => .claim
  | .tokenRevoked => .revocation
  | .userNotFound _ => .notFound
  | .keysUnavailable _ | .network _ => .unavailable
  | .signing | .unclassified _ | .deadlineOutOfRange | .inputOutOfRange => .internal

/-- The wording for the use of reserved names. -/
def reservedMessage : List String → String
  | [name] => "developer claim " ++ Quoted.quote name ++ " is reserved and cannot be specified"
  | names =>
    "developer claims " ++ Quoted.quote (String.intercalate ", " names) ++
      " are reserved and cannot be specified"

/-- The wording of an error. -/
def message : Error → String
  | .invalidUid =>
    "uid must be non-empty, and not longer than " ++ toString maxUidLength ++ " characters"
  | .reservedClaims names => reservedMessage names
  | .projectIdMissing => "project id not available"
  | .emptyToken => "id token must be a non-empty string"
  | .credentials problem => "credentials error: " ++ problem.message
  | .malformed e => "malformed token: " ++ e.message
  | .noMatchingKey kid => "no public key matches key id " ++ Quoted.quote kid
  | .invalidSignature => "failed to verify token signature"
  | .claim e => e.message
  | .tokenRevoked => "ID token has been revoked"
  | .userNotFound uid => "no user record found for uid " ++ Quoted.quote uid
  | .keysUnavailable problem => "public keys unavailable: " ++ problem.message
  | .signing => "signing error: <signing>"
  | .network problem => "network error: " ++ problem.message
  | .unclassified problem => "unclassified error: " ++ problem.message
  | .deadlineOutOfRange => "deadline out of range"
  | .inputOutOfRange => "signed text out of range"

end Error

end IdentityTokens
