/-!
# Cutting a text in two

## Main definitions

* `splitOnce sep cs`: what stands before and after the first separator.

## Main statements

* `splitOnce_eq_some_iff`: the two parts give back the text, and the first has no separator.
* `splitOnce_eq_none_iff`: only a text without a separator is not cut.
-/

namespace IdentityTokens

/-- The characters before and after the first separator. -/
def splitOnce (sep : Char) : List Char → Option (List Char × List Char)
  | [] => none
  | c :: rest =>
    if c = sep then some ([], rest)
    else (splitOnce sep rest).map fun (before, after) => (c :: before, after)

theorem splitOnce_eq_none_iff {sep : Char} {cs : List Char} :
    splitOnce sep cs = none ↔ sep ∉ cs := by
  induction cs with
  | nil => simp [splitOnce]
  | cons c rest ih =>
    by_cases h : c = sep
    · simp [splitOnce, h]
    · simp [splitOnce, h, ih, Ne.symm h]

theorem splitOnce_eq_some_iff {sep : Char} {cs before after : List Char} :
    splitOnce sep cs = some (before, after) ↔ sep ∉ before ∧ cs = before ++ sep :: after := by
  induction cs generalizing before with
  | nil => simp [splitOnce]
  | cons c rest ih =>
    by_cases h : c = sep
    · subst h
      cases before with
      | nil => simp [splitOnce, eq_comm]
      | cons b bs =>
        simp only [splitOnce, if_true, Option.some.injEq, Prod.mk.injEq, List.mem_cons, not_or,
          List.cons_append, List.cons.injEq]
        constructor
        · rintro ⟨h, -⟩; cases h
        · rintro ⟨⟨hne, -⟩, rfl, -⟩; exact absurd rfl hne
    · cases before with
      | nil =>
        simp only [splitOnce, h, if_false, Option.map_eq_some_iff, List.nil_append,
          List.cons.injEq, false_and, and_false, iff_false]
        rintro ⟨p, -, hp⟩
        cases hp
      | cons b bs =>
        simp only [splitOnce, h, if_false, Option.map_eq_some_iff, Prod.exists, Prod.mk.injEq,
          List.cons.injEq, List.mem_cons, not_or, List.cons_append]
        constructor
        · rintro ⟨x, y, hxy, ⟨rfl, rfl⟩, rfl⟩
          obtain ⟨h1, h2⟩ := ih.1 hxy
          exact ⟨⟨Ne.symm h, h1⟩, rfl, h2⟩
        · rintro ⟨⟨-, h1⟩, rfl, h2⟩
          exact ⟨bs, after, ih.2 ⟨h1, h2⟩, ⟨rfl, rfl⟩, rfl⟩

end IdentityTokens
