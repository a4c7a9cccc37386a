import IdentityTokens.DomainName.MappingTable
import IdentityTokens.Number.Digits
import IdentityTokens.Text.Ranges

/-!
# What becomes of characters in domain names

The first step from a text to a domain name: each character is kept, replaced, left out or refused.

## Main definitions

* `DomainName.Replacement`: characters in a row that are replaced after one rule.
* `DomainName.mapChar?`: what becomes of one character.
* `DomainName.isKept`: whether that is the character itself.
-/

namespace IdentityTokens.DomainName

/-- How characters in a row are replaced: by others in a row, or each by a text of its own. -/
inductive Replacement where
  | shifted (first last step target : Nat)
  | listed (first : Nat) (targets : List (List Nat))
deriving Repr

namespace Replacement

/-- The replacement that a word says. -/
def ofWord? (word : List Char) : Option Replacement :=
  let number := Digits.value? 16
  match word.splitOn '>' with
  | [source, target] =>
    let shift (bounds : List (List Char)) (step : Nat) : Option Replacement :=
      match bounds.mapM number, number target with
      | some [first, last], some target => some (.shifted first last step target)
      | _, _ => none
    if source.contains '-' then shift (source.splitOn '-') 1
    else if source.contains '~' then shift (source.splitOn '~') 2
    else
      match number source, (target.splitOn ',').mapM fun t => (t.splitOn '.').mapM number with
      | some first, some targets => some (.listed first targets)
      | _, _ => none
  | _ => none

/-- What a character is replaced by, if the rule is about it. -/
def target? (r : Replacement) (n : Nat) : Option (List Nat) :=
  match r with
  | .shifted first last step target =>
    if first ≤ n ∧ n ≤ last ∧ (n - first) % step = 0 then some [target + (n - first)] else none
  | .listed first targets => if first ≤ n then targets[n - first]? else none

end Replacement

/-- All replacements. -/
def replacements : List Replacement :=
  replacementWords.flatMap fun line => (line.toList.splitOn ' ').filterMap Replacement.ofWord?

/-- What becomes of a character: a text, or nothing if it is not allowed. -/
def mapChar? (c : Char) : Option (List Char) :=
  match replacements.findSome? (·.target? c.toNat) with
  | some target => some (target.map Char.ofNat)
  | none =>
    if inRanges ignoredRanges c then some []
    else if inRanges disallowedRanges c then none
    else some [c]

/-- What becomes of a text, if all its characters are allowed. -/
def map? (cs : List Char) : Option (List Char) := (cs.mapM mapChar?).map List.flatten

/-- Whether a character stays as it is. -/
def isKept (c : Char) : Bool := mapChar? c = some [c]

end IdentityTokens.DomainName
