import IdentityTokens.Authority
import IdentityTokens.Json.Basic

/-!
# Custom tokens

The payload of a token that a service account makes for a user. The developer may add claims of
any name that the authority has not reserved.

## Main definitions

* `CustomToken`: a payload.
* `CustomToken.issue`: the payload for a user at a time.
* `CustomToken.reservedIn`: the reserved names among claims.
-/

namespace IdentityTokens

/-- The payload of a custom token. Times are seconds since the start of 1970. -/
structure CustomToken where
  iss : String
  sub : String
  aud : String
  uid : String
  iat : Int
  exp : Int
  claims : Json.Members
deriving Repr

namespace CustomToken

/-- The names that developers may not use, in the order in which their use is reported. -/
def reservedNames : List String :=
  ["acr", "amr", "at_hash", "aud", "auth_time", "azp", "cnf", "c_hash", "exp", "firebase", "iat",
   "iss", "jti", "nbf", "nonce", "sub"]

/-- The reserved names among claims. -/
def reservedIn (claims : Json.Members) : List String := reservedNames.filter claims.has

/-- The payload for a user, made by an issuer at a time. The issuer is its own subject. -/
def issue (issuer uid : String) (iat : Int) (claims : Json.Members) : CustomToken where
  iss := issuer
  sub := issuer
  aud := customTokenAudience
  uid := uid
  iat := iat
  exp := iat + customTokenLifetime
  claims := claims

/-- A payload as a document: the standard members, then the claims next to them. -/
def toJson (t : CustomToken) : Json :=
  .object ([("iss", .string t.iss), ("sub", .string t.sub), ("aud", .string t.aud),
    ("uid", .string t.uid), ("iat", .number (.integer t.iat)),
    ("exp", .number (.integer t.exp))] ++ t.claims)

end CustomToken

end IdentityTokens
