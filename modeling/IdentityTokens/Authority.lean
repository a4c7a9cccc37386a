/-!
# The authority

The names and addresses that the issuer of ID tokens has fixed, and the bounds it sets.
-/

namespace IdentityTokens

/-- The audience of custom tokens. -/
def customTokenAudience : String :=
  "https://identitytoolkit.googleapis.com/google.identity.identitytoolkit.v1.IdentityToolkit"

/-- The address of the certificates under which ID tokens are signed. -/
def idTokenCertificatesUrl : String :=
  "https://www.googleapis.com/robot/v1/metadata/x509/securetoken@system.gserviceaccount.com"

/-- The issuer of ID tokens, up to the project. -/
def issuerPrefix : String := "https://securetoken.google.com/"

/-- The signature algorithm of all tokens. -/
def signatureAlgorithm : String := "RS256"

/-- The lifetime of a custom token in seconds. -/
def customTokenLifetime : Int := 3600

/-- The most characters that the identifier of a user may have. -/
def maxUidLength : Nat := 128

/-- Whether a text can be the identifier of a user. -/
def isUid (uid : String) : Bool := 1 ≤ uid.length && uid.length ≤ maxUidLength

/-- The address of the server that knows the identity of the machine. -/
def metadataServerUrl : String := "http://metadata.google.internal"

/-- The address of the service that signs for service accounts. -/
def signingServiceUrl : String := "https://iam.googleapis.com"

/-- The address of the service that keeps user records. -/
def userServiceUrl : String := "https://www.googleapis.com/identitytoolkit/v3/relyingparty"

end IdentityTokens
