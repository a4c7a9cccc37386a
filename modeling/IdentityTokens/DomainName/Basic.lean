import IdentityTokens.DomainName.Direction
import IdentityTokens.DomainName.Joining
import IdentityTokens.DomainName.Mapping
import IdentityTokens.DomainName.Punycode

/-!
# Domain names

A domain name in any characters, and its one form in ASCII: characters are replaced by those that
names keep, the text is composed, and each label with other characters is written in letters and
digits after `xn--`. A label that comes with `xn--` must be what some label is written as.

## Main definitions

* `DomainName.Label`: a label as it is shown and as it is written.
* `DomainName.Label.read?`: the label of a text.
* `DomainName.toAscii?`: the written form of a domain name.
-/

namespace IdentityTokens.DomainName

/-! ## Labels -/

/-- A label as it is shown and as it is written. -/
structure Label where
  shown : List Char
  written : List Char
deriving DecidableEq, Repr

/-- What a label is written after that has characters other than ASCII. -/
def mark : List Char := "xn--".toList

/-- Whether all characters are ASCII. -/
def isAscii (cs : List Char) : Bool := cs.all (·.toNat < 0x80)

/-- Whether a character may not stand in a domain name. -/
def isForbidden (c : Char) : Bool :=
  c.toNat ≤ 0x20 || c.toNat = 0x7F || "%#/:<>?@[\\]^|".toList.contains c

/-- How long a label with other characters may be. -/
def maxShown : Nat := 1000
/-- How long the written form of one may be, without what stands before it. -/
def maxWritten : Nat := 2000

namespace Label

/-- The text of a label from its written form without what stands before it. The form must be that
of a composed text of characters that names keep, not all of ASCII. -/
def decode? (cs : List Char) : Option (List Char) :=
  if cs.getLast?.all (· = '-') ∨ maxWritten < cs.length then none
  else
    match Punycode.decode? cs with
    | none => none
    | some text =>
      if text.all isKept ∧ compose text = text then some text else none

/-- The label of a text of which the characters are replaced and composed. -/
def ofText? (cs : List Char) : Option Label :=
  if mark.isPrefixOf cs then (decode? (cs.drop mark.length)).map (⟨·, cs⟩)
  else if isAscii cs then some ⟨cs, cs⟩
  else some ⟨cs, mark ++ Punycode.encode cs⟩

/-- Whether a label holds only what labels may hold, each in its place. -/
def isValid (label : Label) : Bool :=
  !label.shown.any isForbidden && !label.shown.head?.any isMark && joinersOk label.shown &&
    (isAscii label.shown || label.shown.length ≤ maxShown)

/-- The label of a text, if it is valid. -/
def read? (cs : List Char) : Option Label := (ofText? cs).filter isValid

end Label

/-! ## Names -/

/-- The labels of a domain name. -/
def labels? (cs : List Char) : Option (List Label) :=
  match map? cs with
  | none => none
  | some mapped =>
    match ((compose mapped).splitOn '.').mapM Label.read? with
    | none => none
    | some labels => if directionsOk (labels.map (·.shown)) then some labels else none

/-- The written form of a domain name. -/
def toAscii? (cs : List Char) : Option (List Char) :=
  (labels? cs).map fun labels => List.intercalate ['.'] (labels.map (·.written))

end IdentityTokens.DomainName
