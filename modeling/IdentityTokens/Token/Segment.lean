import IdentityTokens.Json.Printer
import IdentityTokens.Json.Reader
import IdentityTokens.Text.Base64
import IdentityTokens.Text.Split

/-!
# Segments

The compact form of a signed token: three segments with dots between them, for the header, the
payload and the signature. A segment is base64 in the alphabet without `+` and `/`; it is written
without padding and read with or without. Header and payload are JSON documents.

## Main definitions

* `Segments`: the three segments of a token.
* `Segments.split`: the segments of a text.
* `Segments.signingInput`: the text that is signed.
* `Segments.signedPart?`: the same, cut out of a token.
* `Segment.encode`, `Segment.decode`: octets as a segment and back.
* `Segment.encodeJson`, `Segment.decodeJson`: JSON documents as a segment and back.
* `assemble`: a token from the text that was signed and its signature.
-/

namespace IdentityTokens

/-! ## One segment -/

namespace Segment

/-- Why a text is no token or a part of it is no segment of the kind wanted. -/
inductive Error where
  | count (segments : Nat)
  | base64 (e : Base64.Error)
  | json (f : Json.Fault)
deriving DecidableEq, Repr

/-- The wording of each reason. -/
def Error.message : Error → String
  | .count segments =>
    "incorrect number of segments; expected 3 but got " ++ toString segments
  | .base64 e => "invalid base64url segment: " ++ e.message
  | .json f => "invalid JSON segment: " ++ f.message

/-- The segment of octets. -/
def encode (octets : List UInt8) : String := String.ofList (Base64.encode Base64.urlSafe octets)

/-- The octets of a segment. -/
def decode (segment : String) : Except Error (List UInt8) :=
  match Base64.decodeText Base64.urlSafe .optional segment with
  | .error e => .error (.base64 e)
  | .ok octets => .ok octets

/-- The segment of a JSON value. -/
def encodeJson (v : Json) : String := encode (Utf8.encodeChars v.renderChars)

variable {α : Type}

/-- What a reader takes from the document in octets. -/
def readOctets (reader : Json.Reader α) (octets : List UInt8) : Except Error α :=
  match Json.document reader octets with
  | .error f => .error (.json f)
  | .ok a => .ok a

/-- What a reader takes from the document in a segment. -/
def decodeJson (reader : Json.Reader α) (segment : String) : Except Error α :=
  match decode segment with
  | .error e => .error e
  | .ok octets => readOctets reader octets

end Segment

/-! ## Tokens -/

/-- The three segments of a token. -/
structure Segments where
  header : String
  payload : String
  signature : String
deriving DecidableEq, Repr

namespace Segments

/-- The segments of a text, of which there must be three. -/
def split (token : String) : Except Segment.Error Segments :=
  match token.toList.splitOn '.' with
  | [header, payload, signature] =>
    .ok ⟨String.ofList header, String.ofList payload, String.ofList signature⟩
  | parts => .error (.count parts.length)

/-- The text that is signed: the first two segments. -/
def signingInput (s : Segments) : String := s.header ++ "." ++ s.payload

/-- The text that is signed, cut out of a token: as many octets from its front as the first two
segments and the dot between them have. -/
def signedPart? (s : Segments) (token : String) : Option String :=
  (Utf8.takeOctets? ((Utf8.encode s.header).length + 1 + (Utf8.encode s.payload).length)
    token.toList).map String.ofList

end Segments

/-- The text that is signed for a header and a payload. -/
def signingInput (header payload : Json) : String :=
  Segment.encodeJson header ++ "." ++ Segment.encodeJson payload

/-- The token of a text that was signed and its signature. -/
def assemble (input : String) (signature : List UInt8) : String :=
  input ++ "." ++ Segment.encode signature

end IdentityTokens
