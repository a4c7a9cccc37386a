import IdentityTokens.Json.Basic
import IdentityTokens.Proofs.Json.Number

/-!
# Values by their parts

Induction over JSON values, where what holds of all items or members may be used for the array or
object that they make, and the predicates on values said in the same way: of every item, and of the
value of every member.

## Main definitions

* `Json.Integral`: every number in a value is a whole number of the range that is kept.

## Main statements

* `Json.inductionOn`: induction over values.
* `Json.canonical_object`, `Json.integral_object`, `Json.depth_object_le`: the members of an
  object.
-/

namespace IdentityTokens.Json

/-! ## Whole numbers only -/

mutual

/-- Every number in the value is a whole number of the range that is kept. -/
def Integral : Json → Prop
  | .number (.integer n) => IsWhole n
  | .number (.fraction _ _) => False
  | .array items => IntegralItems items
  | .object members => IntegralMembers members
  | _ => True

/-- Every number in the items is a whole number of the range that is kept. -/
def IntegralItems : List Json → Prop
  | [] => True
  | v :: rest => Integral v ∧ IntegralItems rest

/-- Every number in the values of the members is a whole number of the range that is kept. -/
def IntegralMembers : List (String × Json) → Prop
  | [] => True
  | (_, v) :: rest => Integral v ∧ IntegralMembers rest

end

/-! ## Induction -/

/-- Induction over values: what holds of the parts may be used for the whole. -/
theorem inductionOn {motive : Json → Prop} (null : motive .null) (bool : ∀ b, motive (.bool b))
    (number : ∀ n, motive (.number n)) (string : ∀ s, motive (.string s))
    (array : ∀ items, (∀ v ∈ items, motive v) → motive (.array items))
    (object : ∀ members, (∀ m ∈ members, motive m.2) → motive (.object members)) (v : Json) :
    motive v := by
  refine @Json.rec motive (fun items => ∀ v ∈ items, motive v)
    (fun members => ∀ m ∈ members, motive m.2) (fun m => motive m.2) null bool number string array
    object ?_ ?_ ?_ ?_ (fun _ _ h => h) v
  · intro w hw
    cases hw
  · intro w rest hw hrest u hu
    rcases List.mem_cons.mp hu with rfl | hu
    · exact hw
    · exact hrest u hu
  · intro m hm
    cases hm
  · intro m rest hm hrest u hu
    rcases List.mem_cons.mp hu with rfl | hu
    · exact hm
    · exact hrest u hu

/-! ## Predicates by their parts -/

theorem canonical_array {items : List Json} :
    Canonical (.array items) ↔ ∀ v ∈ items, Canonical v := by
  rw [Canonical]
  induction items with
  | nil => simp [CanonicalItems]
  | cons v rest ih => simp [CanonicalItems, ih]

theorem canonical_object {members : List (String × Json)} :
    Canonical (.object members) ↔
      members.Pairwise (·.1 < ·.1) ∧ ∀ m ∈ members, Canonical m.2 := by
  have hmembers : CanonicalMembers members ↔ ∀ m ∈ members, Canonical m.2 := by
    induction members with
    | nil => simp [CanonicalMembers]
    | cons m rest ih => simp [CanonicalMembers, ih]
  rw [Canonical, hmembers]

theorem integral_array {items : List Json} :
    Integral (.array items) ↔ ∀ v ∈ items, Integral v := by
  rw [Integral]
  induction items with
  | nil => simp [IntegralItems]
  | cons v rest ih => simp [IntegralItems, ih]

theorem integral_object {members : List (String × Json)} :
    Integral (.object members) ↔ ∀ m ∈ members, Integral m.2 := by
  rw [Integral]
  induction members with
  | nil => simp [IntegralMembers]
  | cons m rest ih => simp [IntegralMembers, ih]

theorem depth_array_le {items : List Json} {d : Nat} :
    depth (.array items) ≤ d + 1 ↔ ∀ v ∈ items, depth v ≤ d := by
  rw [depth, Nat.add_le_add_iff_right]
  induction items with
  | nil => simp [depthItems]
  | cons v rest ih => simp only [depthItems, Nat.max_le, ih, List.mem_cons, forall_eq_or_imp]

theorem depth_object_le {members : List (String × Json)} {d : Nat} :
    depth (.object members) ≤ d + 1 ↔ ∀ m ∈ members, depth m.2 ≤ d := by
  rw [depth, Nat.add_le_add_iff_right]
  induction members with
  | nil => simp [depthMembers]
  | cons m rest ih => simp only [depthMembers, Nat.max_le, ih, List.mem_cons, forall_eq_or_imp]

end IdentityTokens.Json
