import IdentityTokens.Http.Exchange
import IdentityTokens.Instant
import IdentityTokens.Number.Numeral
import IdentityTokens.Text.Blank

/-!
# How long a response may be kept

The directive `max-age` of the header `Cache-Control`: a number of seconds. Directives stand
between commas, and one that is not a usable `max-age` does not count.

## Main definitions

* `CacheControl.directiveAge?`: the number in one directive.
* `CacheControl.maxAge?`: the number in the value of the header.
* `CacheControl.lifetime?`: the lifetime that a response grants.
-/

namespace IdentityTokens.CacheControl

/-- Whether two texts are the same up to the case of ASCII letters. -/
def sameName (a b : List Char) : Bool := a.map Char.toLower == b.map Char.toLower

/-- The number of seconds in a directive: after `max-age` and an equals sign, perhaps in double
quotes, as an unsigned number of 32 bits. -/
def directiveAge? (directive : List Char) : Option Int :=
  match splitOnce '=' (trimEnds isBlank directive) with
  | none => none
  | some (name, value) =>
    if sameName (trimEnds isBlank name) "max-age".toList then
      (Numeral.word32 (trimEnds (· == '"') (trimEnds isBlank value))).toOption
    else none

/-- The number of seconds in the first usable directive. -/
def maxAge? (value : List Char) : Option Int := (value.splitOn ',').findSome? directiveAge?

/-- Whether a header is text: visible ASCII, spaces and tabs. -/
def isVisible (c : Char) : Bool := (0x20 ≤ c.toNat && c.toNat ≤ 0x7E) || c == '\t'

/-- The lifetime that a response grants. Only the first header of the name counts. -/
def lifetime? (r : Http.Response) : Option Duration :=
  match r.field? "cache-control" with
  | none => none
  | some value =>
    if value.toList.all isVisible then (maxAge? value.toList).map Duration.ofSeconds else none

end IdentityTokens.CacheControl
