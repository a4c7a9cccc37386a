import IdentityTokens.Json.Record
import IdentityTokens.Token.Segment

/-!
# ID tokens

The payload of an ID token. Six names have a meaning of their own and a type; every other member
of the document is a claim of the application. The payload is read twice, once for each.

## Main definitions

* `IdToken`: a payload.
* `IdToken.decode`: the payload in a segment.
* `IdToken.toJson`: the six named parts of a payload as a document.
-/

namespace IdentityTokens

/-- The payload of an ID token. Times are seconds since the start of 1970. -/
structure IdToken where
  iss : String
  aud : String
  exp : Int
  iat : Int
  sub : String
  uid : String
  claims : Json.Members
deriving Repr

namespace IdToken

/-- The payload in which nothing is given. -/
def blank : IdToken := ⟨"", "", 0, 0, "", "", []⟩

/-- The names with a meaning of their own. -/
def standardNames : List String := ["iss", "aud", "exp", "iat", "sub", "uid"]

/-- The fields with a meaning of their own. Any of them may be missing. -/
def fields : List (Json.Field IdToken) :=
  [.of "iss" Json.textValue fun t iss => { t with iss },
   .of "aud" Json.textValue fun t aud => { t with aud },
   .of "exp" Json.int64Value fun t exp => { t with exp },
   .of "iat" Json.int64Value fun t iat => { t with iat },
   .of "sub" Json.textValue fun t sub => { t with sub },
   .of "uid" Json.textValue fun t uid => { t with uid }]

/-- The named parts of a payload at the front of a document. -/
def reader : Json.Reader IdToken := Json.record fields blank

/-- The payload in a segment: its named parts, and all members of other names. -/
def decode (segment : String) : Except Segment.Error IdToken :=
  match Segment.decodeJson reader segment with
  | .error e => .error e
  | .ok token =>
    match Segment.decodeJson Json.openObject segment with
    | .error e => .error e
    | .ok members => .ok { token with claims := members.without standardNames }

/-- A member for a text that is not empty. -/
def textMember (name s : String) : List (String × Json) :=
  if s = "" then [] else [(name, .string s)]

/-- The named parts of a payload as a document. The last two are left out where they are empty. -/
def toJson (t : IdToken) : Json :=
  .object ([("iss", .string t.iss), ("aud", .string t.aud), ("exp", .number (.integer t.exp)),
    ("iat", .number (.integer t.iat))] ++ textMember "sub" t.sub ++ textMember "uid" t.uid)

/-- The segment of the named parts of a payload. -/
def encode (t : IdToken) : String := Segment.encodeJson t.toJson

end IdToken

end IdentityTokens
