import IdentityTokens.NameMap
import IdentityTokens.Number.Binary64

/-!
# JSON values

The values of JSON documents. A number is a whole number where its literal denotes one in the
range of 64 bits, and a binary64 number otherwise. The members of an object stand in the order of
their names, each name once: a repeated name keeps its last value.

## Main definitions

* `Json`: the values.
* `Json.Members`: the members of an object.
* `Json.Canonical`: every object in a value has its members in strictly ascending order.
-/

namespace IdentityTokens

/-- A number: whole, or a sign with a binary64 magnitude. -/
inductive Json.Number where
  | integer (n : Int)
  | fraction (negative : Bool) (magnitude : Binary64)
deriving DecidableEq, Repr

/-- A JSON value. -/
inductive Json where
  | null
  | bool (b : Bool)
  | number (n : Json.Number)
  | string (s : String)
  | array (items : List Json)
  | object (members : List (String × Json))
deriving Repr

namespace Json

/-- The members of an object, by name. -/
abbrev Members := NameMap Json

/-! ## The order of members -/

mutual

/-- Every object in the value has its members in strictly ascending order of their names. -/
def Canonical : Json → Prop
  | .array items => CanonicalItems items
  | .object members => members.Pairwise (·.1 < ·.1) ∧ CanonicalMembers members
  | _ => True

/-- Every item is canonical. -/
def CanonicalItems : List Json → Prop
  | [] => True
  | v :: rest => Canonical v ∧ CanonicalItems rest

/-- The value of every member is canonical. -/
def CanonicalMembers : List (String × Json) → Prop
  | [] => True
  | (_, v) :: rest => Canonical v ∧ CanonicalMembers rest

end

mutual

/-- How deep arrays and objects are nested in a value. -/
def depth : Json → Nat
  | .array items => depthItems items + 1
  | .object members => depthMembers members + 1
  | _ => 0

/-- The greatest depth among items. -/
def depthItems : List Json → Nat
  | [] => 0
  | v :: rest => max (depth v) (depthItems rest)

/-- The greatest depth among the values of members. -/
def depthMembers : List (String × Json) → Nat
  | [] => 0
  | (_, v) :: rest => max (depth v) (depthMembers rest)

end

end Json

end IdentityTokens
