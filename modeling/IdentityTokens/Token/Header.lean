import IdentityTokens.Authority
import IdentityTokens.Json.Record
import IdentityTokens.Token.Segment

/-!
# Headers

The first segment of a token: the signature algorithm, the type of the token and the identifier
of the key that made the signature.

## Main definitions

* `Header`: a header.
* `Header.decode`: the header in a segment.
* `Header.toJson`: a header as a document.
* `Header.minted`: the header of every custom token.
-/

namespace IdentityTokens

/-- The header of a token. Nothing in it is to be trusted before the token is verified. -/
structure Header where
  alg : String
  typ : Option String
  kid : Option String
deriving DecidableEq, Repr

namespace Header

/-- The header in which nothing is given. -/
def blank : Header := ⟨"", none, none⟩

/-- The fields of a header. Any of them may be missing. -/
def fields : List (Json.Field Header) :=
  [.of "alg" Json.textValue fun h alg => { h with alg },
   .of "typ" Json.optionalText fun h typ => { h with typ },
   .of "kid" Json.optionalText fun h kid => { h with kid }]

/-- A header at the front of a document. -/
def reader : Json.Reader Header := Json.record fields blank

/-- The header in a segment. -/
def decode (segment : String) : Except Segment.Error Header := Segment.decodeJson reader segment

/-- A member for a text that is there. -/
def textMember (name : String) : Option String → List (String × Json)
  | none => []
  | some s => [(name, .string s)]

/-- A header as a document. What is not given is left out. -/
def toJson (h : Header) : Json :=
  .object (("alg", .string h.alg) :: textMember "typ" h.typ ++ textMember "kid" h.kid)

/-- The segment of a header. -/
def encode (h : Header) : String := Segment.encodeJson h.toJson

/-- The header of custom tokens: no key is named. -/
def minted : Header := ⟨signatureAlgorithm, some "JWT", none⟩

/-- The identifier of the key. An empty one counts as missing. -/
def keyId (h : Header) : Option String := h.kid.filter (· ≠ "")

end Header

end IdentityTokens
