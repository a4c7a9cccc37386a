import Mathlib.Data.List.Perm.Basic

/-!
# Lists in another order

Every entry of a list has a key. A list may be put into another order in such a way that entries of
different keys pass each other and those of one key do not. Then the same entries stand in it, and
what is found under a key is found at the same entry.

## Main definitions

* `Rearranged key l l'`: `l'` is `l` in another order of this kind.

## Main statements

* `Rearranged.perm`: the same entries, as often.
* `Rearranged.findSome?_reverse`: the last entry of a key that has something.
-/

namespace IdentityTokens

variable {α β κ : Type} [DecidableEq κ] {key : α → κ} {l l' : List α}

/-- Two lists have the same entries under each key, in the same order. -/
def Rearranged (key : α → κ) (l l' : List α) : Prop :=
  ∀ k, l.filter (key · = k) = l'.filter (key · = k)

namespace Rearranged

theorem symm (h : Rearranged key l l') : Rearranged key l' l := fun k => (h k).symm

/-- Two neighbours of different keys may change places. -/
theorem swap {a b : α} (hne : key a ≠ key b) (l : List α) :
    Rearranged key (a :: b :: l) (b :: a :: l) := by
  intro k
  by_cases ha : key a = k
  · have hb : key b ≠ k := fun hb => hne (ha.trans hb.symm)
    simp [ha, hb]
  · simp [List.filter_cons, ha]

theorem perm (h : Rearranged key l l') : l.Perm l' := by
  classical
  refine List.perm_iff_count.mpr fun a => ?_
  have hcount : ∀ m : List α, (m.filter (key · = key a)).count a = m.count a :=
    fun m => List.count_filter (by simp)
  rw [← hcount l, ← hcount l', h]

/-- Where only entries of one key have something, it is found at the same entry. -/
theorem findSome?_reverse {f : α → Option β} {k : κ} (hf : ∀ a, key a ≠ k → f a = none)
    (h : Rearranged key l l') : l.reverse.findSome? f = l'.reverse.findSome? f := by
  have honly : ∀ m : List α, (m.filter (key · = k)).findSome? f = m.findSome? f := by
    intro m
    induction m with
    | nil => rfl
    | cons a m ih =>
      by_cases ha : key a = k
      · simp [ha, List.findSome?_cons, ih]
      · simp [ha, ih, hf a ha]
  rw [← honly, ← honly l'.reverse, List.filter_reverse, List.filter_reverse, h]

end Rearranged

end IdentityTokens
