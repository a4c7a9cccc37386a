import IdentityTokens.Proofs.Json.Kinds
import IdentityTokens.Proofs.NameMap
import Mathlib.Data.List.Induction

/-!
# What stands in a document

An object as a map has lost the order of its members and all but the last of each name. Readers of
a known shape see more, so what they make of a document is said in terms of its members as they
stand. Here these are listed, for the members of an object and the items of an array, and the value
that the open reader gives is shown to be made of them.

## Main definitions

* `Json.memberList`: the members of an object as they stand.
* `Json.valuesUnder`, `Json.Holds`: the values and the value of a name among members.
* `Json.nested`: a value in an array or an object.

## Main statements

* `Json.readAny_object_iff`, `Json.openObject_eq_ok_iff`: the members of an object are the last of
  each name.
* `Json.readAny_array_iff`: the items of an array.
-/

namespace IdentityTokens.Json

variable {s t rest : List UInt8} {v : Json} {pairs : List (String × Json)}

/-! ## Members -/

/-- The members of an object as they follow each other, with repeated names. -/
def memberList : Reader (List (String × Json)) :=
  atValue fun b rest =>
    if b = openBrace then
      (sequence closeBrace (nextMember (rest.length + 1) (maxDepth - 1)) (rest.length + 1) true []
        rest).map fun (pairs, rest) => (pairs.reverse, rest)
    else refuse (b :: rest)

/-- The values under a name, as they follow each other. -/
def valuesUnder (name : String) (pairs : List (String × Json)) : List Json :=
  (pairs.filter (·.1 == name)).map (·.2)

/-- Under a name counts the last value of those that stand there. -/
theorem find?_ofList_eq_getLast? (name : String) (pairs : List (String × Json)) :
    NameMap.find? (NameMap.ofList pairs) name = (valuesUnder name pairs).getLast? := by
  rw [NameMap.find?_ofList, valuesUnder]
  induction pairs using List.reverseRecOn with
  | nil => rfl
  | append_singleton pairs m ih =>
    obtain ⟨n, v⟩ := m
    rw [List.reverse_append, List.reverse_singleton, List.singleton_append, List.lookup_cons,
      List.filter_append, List.map_append]
    by_cases h : name = n
    · simp [h]
    · have hne : (name == n) = false := by simp [h]
      simp [hne, Ne.symm h, ih]

theorem valuesUnder_cons_self (name : String) (v : Json) (pairs : List (String × Json)) :
    valuesUnder name ((name, v) :: pairs) = v :: valuesUnder name pairs := by
  simp [valuesUnder]

theorem valuesUnder_cons_of_ne {name other : String} (h : other ≠ name) (v : Json)
    (pairs : List (String × Json)) :
    valuesUnder name ((other, v) :: pairs) = valuesUnder name pairs := by
  simp [valuesUnder, h]

/-- In a map the value of a name stands under it alone. -/
theorem valuesUnder_of_ascending {members : Members} (h : NameMap.Ascending members)
    (name : String) : valuesUnder name members = (NameMap.find? members name).toList := by
  induction members with
  | nil => rfl
  | cons m members ih =>
    obtain ⟨n, v⟩ := m
    obtain ⟨hfirst, hmore⟩ := List.pairwise_cons.mp h
    by_cases hname : name = n
    · subst hname
      have hnone : valuesUnder name members = [] := by
        rw [valuesUnder, List.map_eq_nil_iff, List.filter_eq_nil_iff]
        intro m hm heq
        exact lt_irrefl name (eq_of_beq heq ▸ hfirst m hm)
      rw [valuesUnder_cons_self, hnone, NameMap.find?_cons, if_pos rfl]
      rfl
    · rw [valuesUnder_cons_of_ne (Ne.symm hname), NameMap.find?_cons, if_neg hname]
      exact ih hmore

/-- The value of a name is the only one that stands under it, or another one if there is none. -/
def Holds (pairs : List (String × Json)) (name : String) (v missing : Json) : Prop :=
  valuesUnder name pairs = [v] ∨ valuesUnder name pairs = [] ∧ v = missing

theorem Holds.length_le {name : String} {missing : Json} (h : Holds pairs name v missing) :
    (valuesUnder name pairs).length ≤ 1 := by
  rcases h with h | ⟨h, -⟩ <;> simp [h]

theorem Holds.unique {name : String} {w missing : Json} (h : Holds pairs name v missing)
    (h' : Holds pairs name w missing) : v = w := by
  rcases h with h | ⟨h, rfl⟩ <;> rcases h' with h' | ⟨h', rfl⟩
  · exact (List.cons.inj (h.symm.trans h')).1
  · cases h.symm.trans h'
  · cases h.symm.trans h'
  · rfl

theorem memberList_eq_ok_iff :
    memberList s = .ok (pairs, rest) ↔ ∃ t, skipBlank s = openBrace :: t ∧
      Spans closeBrace (readMember (t.length + 1) (maxDepth - 1)) true t pairs rest := by
  rw [memberList, atValue_eq_ok_iff]
  constructor
  · rintro ⟨b, t, hblank, h⟩
    split at h
    · next hbrace =>
      subst hbrace
      obtain ⟨⟨last, after⟩, hpairs, heq⟩ := map_eq_ok h
      cases heq
      obtain ⟨more, hspans, -, rfl⟩ := sequence_nextMember_iff.mp hpairs
      rw [List.append_nil, List.reverse_reverse]
      exact ⟨t, hblank, hspans⟩
    · exact (refuse_ne_ok _ h).elim
  · rintro ⟨t, hblank, hspans⟩
    obtain ⟨hcount, -⟩ := hspans.settled_members
    have hpairs := sequence_nextMember_iff.mpr
      ⟨pairs, hspans, by omega, (List.append_nil _).symm⟩
    refine ⟨openBrace, t, hblank, ?_⟩
    rw [if_pos rfl, hpairs]
    simp only [Except.map, List.reverse_reverse]

/-- An object is made of its members: the last of each name counts. -/
theorem readAny_object_iff {members : Members} :
    readAny s = .ok (.object members, rest) ↔
      ∃ pairs, memberList s = .ok (pairs, rest) ∧ members = NameMap.ofList pairs := by
  have hless := length_skipBlank_le s
  simp only [memberList_eq_ok_iff]
  constructor
  · intro h
    rcases readValue_cases h with ⟨t, less, items, -, -, hv, -⟩ |
      ⟨t, less, pairs, hblank, hdepth, hv, hspans, -⟩ | ⟨b, t, -, -, hscalar⟩
    · cases hv
    · cases hv
      cases hdepth
      obtain ⟨-, hsame⟩ := hspans.settled_members
      exact ⟨pairs, ⟨t, hblank, hsame _ (Nat.lt_succ_self _)⟩, rfl⟩
    · exact ((readScalar_not_nested hscalar).2 _ rfl).elim
  · rintro ⟨pairs, ⟨t, hblank, hspans⟩, rfl⟩
    rw [hblank, List.length_cons] at hless
    obtain ⟨hcount, hsame⟩ := hspans.settled_members
    have hpairs := sequence_nextMember_iff.mpr
      ⟨pairs, hsame s.length (by omega), by omega, (List.append_nil _).symm⟩
    rw [readAny, maxDepth, readValue_object hblank]
    exact (congrArg (Except.map _) hpairs).trans (by simp only [Except.map, List.reverse_reverse])

/-- A document that begins with a brace is an object. -/
theorem exists_object_of_readAny (hblank : skipBlank s = openBrace :: t)
    (h : readAny s = .ok (v, rest)) : ∃ members, v = .object members := by
  rcases readValue_cases h with ⟨u, -, -, hbracket, -⟩ | ⟨-, -, pairs, -, -, hv, -⟩ |
    ⟨b, u, hother, hne, -⟩
  · cases hblank.symm.trans hbracket
  · exact ⟨_, hv⟩
  · obtain ⟨rfl, -⟩ := List.cons.inj (hother.symm.trans hblank)
    exact (hne.2 rfl).elim

theorem openObject_eq_ok_iff {members : Members} :
    openObject s = .ok (members, rest) ↔
      ∃ pairs, memberList s = .ok (pairs, rest) ∧ members = NameMap.ofList pairs := by
  have hfront : ∀ {t : List UInt8} {pairs : List (String × Json)},
      skipBlank s = openBrace :: t →
      (memberList (openBrace :: t) = .ok (pairs, rest) ↔ memberList s = .ok (pairs, rest)) := by
    intro t pairs hblank
    simp only [memberList_eq_ok_iff, hblank, skipBlank_of_cons hblank]
  rw [openObject, atValue_eq_ok_iff]
  constructor
  · rintro ⟨b, t, hblank, h⟩
    split at h
    · next hbrace =>
      subst hbrace
      split at h
      · cases h
      · next found after hany =>
        cases h
        obtain ⟨pairs, hpairs, rfl⟩ := readAny_object_iff.mp hany
        exact ⟨pairs, (hfront hblank).mp hpairs, rfl⟩
      · cases h
    · exact (refuse_ne_ok _ h).elim
  · rintro ⟨pairs, hpairs, rfl⟩
    obtain ⟨t, hblank, -⟩ := memberList_eq_ok_iff.mp hpairs
    refine ⟨openBrace, t, hblank, ?_⟩
    rw [if_pos rfl, readAny_object_iff.mpr ⟨pairs, (hfront hblank).mpr hpairs, rfl⟩]

/-! ## Items -/

/-- A value in an array or an object that is not nested itself. -/
def nested : Reader Json := fun s => readValue (s.length + 1) (maxDepth - 1) s

theorem readAny_array_iff {items : List Json} :
    readAny s = .ok (.array items, rest) ↔ ∃ t, skipBlank s = openBracket :: t ∧
      Spans closeBracket nested true t items rest := by
  have hsettled : ∀ {fuel t v after}, readValue fuel (maxDepth - 1) t = .ok (v, after) →
      after.length < t.length ∧ ∀ more, t.length < more →
        readValue more (maxDepth - 1) t = .ok (v, after) :=
    fun h => settled_readValue _ _ h
  constructor
  · intro h
    rcases readValue_cases h with ⟨t, less, items, hblank, hdepth, hv, hspans, -⟩ |
      ⟨t, less, pairs, -, -, hv, -⟩ | ⟨b, t, -, -, hscalar⟩
    · cases hv
      cases hdepth
      refine ⟨t, hblank, (hspans.imp (fun {u a after} _ hread => ?_) (Nat.le_refl _)).1⟩
      obtain ⟨hlt, hsame⟩ := hsettled hread
      exact ⟨hlt, hsame _ (Nat.lt_succ_self _)⟩
    · cases hv
    · exact ((readScalar_not_nested hscalar).1 _ rfl).elim
  · rintro ⟨t, hblank, hspans⟩
    have hless := length_skipBlank_le s
    rw [hblank, List.length_cons] at hless
    have hvalues : ∀ {u v after}, u.length ≤ t.length → nested u = .ok (v, after) →
        after.length < u.length ∧ readValue s.length (maxDepth - 1) u = .ok (v, after) := by
      intro u v after hu hread
      obtain ⟨hlt, hsame⟩ := hsettled hread
      exact ⟨hlt, hsame _ (by omega)⟩
    obtain ⟨hread, hcount⟩ := hspans.imp hvalues (Nat.le_refl _)
    have hitems := sequence_nextItem_iff.mpr ⟨items, hread, by omega, (List.append_nil _).symm⟩
    rw [readAny, maxDepth, readValue_array hblank]
    exact (congrArg (Except.map _) hitems).trans (by simp only [Except.map, List.reverse_reverse])

end IdentityTokens.Json
