import IdentityTokens.NameMap
import Mathlib.Data.List.Dedup
import Mathlib.Data.List.Forall2
import Mathlib.Data.List.Induction
import Mathlib.Data.String.Basic

/-!
# Laws of maps from names

A map made of pairs has its names in strictly ascending order, and under each name the value of
the last pair of that name. A check of the values fails with the first value that fails it.

## Main statements

* `NameMap.ascending_ofList`: the order of the names.
* `NameMap.find?_ofList`: the last pair of a name counts.
* `NameMap.names_ofList_perm`: each name is there once.
* `NameMap.Ascending.ofList_eq`: pairs that are in order are the map made of them.
* `NameMap.checkAll_eq_ok_iff`, `NameMap.checkAll_eq_error_iff`: checks of all values.
* `NameMap.find?_ofListChecked`: look-up after a check.
-/

namespace IdentityTokens.NameMap

variable {α β ε : Type}

/-! ## Order -/

/-- The names ascend strictly, so that none stands twice. -/
def Ascending (m : NameMap α) : Prop := m.Pairwise (·.1 < ·.1)

theorem mem_insert {m : NameMap α} {name : String} {a : α} {entry : String × α}
    (h : entry ∈ m.insert name a) : entry = (name, a) ∨ entry ∈ m := by
  induction m with
  | nil => simpa [insert] using h
  | cons first rest ih =>
    obtain ⟨n, b⟩ := first
    simp only [insert] at h
    split at h
    · simpa using h
    · split at h
      · rcases List.mem_cons.mp h with h | h
        · exact .inl h
        · exact .inr (by simp [h])
      · rcases List.mem_cons.mp h with h | h
        · exact .inr (by simp [h])
        · rcases ih h with h | h
          · exact .inl h
          · exact .inr (by simp [h])

theorem Ascending.insert {m : NameMap α} (hm : m.Ascending) (name : String) (a : α) :
    (m.insert name a).Ascending := by
  induction m with
  | nil => exact List.pairwise_singleton _ _
  | cons first rest ih =>
    obtain ⟨n, b⟩ := first
    obtain ⟨hfirst, hrest⟩ := List.pairwise_cons.mp hm
    simp only [NameMap.insert]
    split
    · next hlt =>
      refine List.pairwise_cons.mpr ⟨?_, hm⟩
      intro entry hentry
      rcases List.mem_cons.mp hentry with rfl | hentry
      · exact hlt
      · exact hlt.trans (hfirst entry hentry)
    · next hnlt =>
      split
      · next heq =>
        subst heq
        exact List.pairwise_cons.mpr ⟨hfirst, hrest⟩
      · next hne =>
        have hgt : n < name := lt_of_le_of_ne (not_lt.mp hnlt) (Ne.symm hne)
        refine List.pairwise_cons.mpr ⟨?_, ih hrest⟩
        intro entry hentry
        rcases mem_insert hentry with rfl | hentry
        · exact hgt
        · exact hfirst entry hentry

theorem ofList_concat (pairs : List (String × α)) (name : String) (a : α) :
    ofList (pairs ++ [(name, a)]) = (ofList pairs).insert name a := by
  rw [ofList, List.foldl_append]
  rfl

theorem ascending_ofList (pairs : List (String × α)) : (ofList pairs).Ascending := by
  induction pairs using List.reverseRecOn with
  | nil => exact List.Pairwise.nil
  | append_singleton pairs pair ih =>
    rw [ofList_concat]
    exact ih.insert pair.1 pair.2

theorem ofList_singleton (name : String) (a : α) : ofList [(name, a)] = [(name, a)] := rfl

/-! ## Look-up -/

/-- In a map made of pairs the last pair of a name counts. -/
theorem find?_ofList (pairs : List (String × α)) (name : String) :
    (ofList pairs).find? name = pairs.reverse.lookup name := by
  induction pairs using List.reverseRecOn with
  | nil => rfl
  | append_singleton pairs pair ih =>
    obtain ⟨n, a⟩ := pair
    rw [ofList_concat, find?_insert, ih, List.reverse_append, List.reverse_singleton,
      List.singleton_append, List.lookup_cons]
    by_cases h : name = n
    · simp [h]
    · have hne : (name == n) = false := by simp [h]
      simp [h, hne]

/-- The last pair of a name is the one after which the name does not come again. -/
theorem lookup_reverse_eq_some_iff {pairs : List (String × α)} {name : String} {a : α} :
    pairs.reverse.lookup name = some a ↔
      ∃ before after, pairs = before ++ (name, a) :: after ∧ ∀ p ∈ after, p.1 ≠ name := by
  rw [List.lookup_eq_some_iff]
  constructor
  · rintro ⟨after, before, hsplit, hafter⟩
    refine ⟨before.reverse, after.reverse, ?_, fun p hp => ?_⟩
    · rw [← List.reverse_reverse pairs, hsplit]
      simp
    · exact Ne.symm (by simpa using hafter p (List.mem_reverse.mp hp))
  · rintro ⟨before, after, rfl, hafter⟩
    refine ⟨after.reverse, before.reverse, by simp, fun p hp => ?_⟩
    simpa using Ne.symm (hafter p (List.mem_reverse.mp hp))

/-- Where names ascend, to be found is to stand in the list. -/
theorem Ascending.find?_eq_some_iff {m : NameMap α} (hm : m.Ascending) {name : String} {a : α} :
    m.find? name = some a ↔ (name, a) ∈ m := by
  induction m with
  | nil => simp
  | cons first rest ih =>
    obtain ⟨n, b⟩ := first
    obtain ⟨hfirst, hrest⟩ := List.pairwise_cons.mp hm
    rw [find?_cons]
    by_cases h : name = n
    · subst h
      have hnot : (name, a) ∉ rest := fun hmem => lt_irrefl name (hfirst _ hmem)
      simp [hnot, eq_comm]
    · simp [h, ih hrest]

/-- Where names ascend, the last pair of a name is the only one. -/
theorem Ascending.lookup_reverse {m : NameMap α} (hm : m.Ascending) {name : String} {a : α} :
    m.reverse.lookup name = some a ↔ (name, a) ∈ m := by
  induction m using List.reverseRecOn with
  | nil => simp
  | append_singleton m last ih =>
    obtain ⟨n, b⟩ := last
    obtain ⟨hinit, -, hlast⟩ := List.pairwise_append.mp hm
    rw [List.reverse_append, List.reverse_singleton, List.singleton_append, List.lookup_cons]
    by_cases h : name = n
    · subst h
      have hnot : (name, a) ∉ m := fun hmem => lt_irrefl name (hlast _ hmem (name, b) (by simp))
      simp [hnot, eq_comm]
    · have hne : (name == n) = false := by simp [h]
      simp [hne, h, ih hinit]

/-! ## The same pairs -/

theorem Ascending.nodup {m : NameMap α} (hm : m.Ascending) : m.Nodup := by
  refine List.Pairwise.imp (fun hlt heq => ?_) hm
  exact lt_irrefl _ (heq ▸ hlt)

/-- Two maps are the same as soon as the same pairs stand in them. -/
theorem Ascending.eq_of_mem_iff {m m' : NameMap α} (hm : m.Ascending) (hm' : m'.Ascending)
    (h : ∀ entry, entry ∈ m ↔ entry ∈ m') : m = m' := by
  have hperm := (List.perm_ext_iff_of_nodup hm.nodup hm'.nodup).mpr h
  refine hperm.eq_of_pairwise (fun a b _ _ hab hba => ?_) hm hm'
  exact absurd hba (lt_asymm hab)

/-- Two maps are the same as soon as the same is found in them. -/
theorem Ascending.eq_of_find? {m m' : NameMap α} (hm : m.Ascending) (hm' : m'.Ascending)
    (h : ∀ name, m.find? name = m'.find? name) : m = m' := by
  refine hm.eq_of_mem_iff hm' ?_
  rintro ⟨name, a⟩
  rw [← hm.find?_eq_some_iff, h, hm'.find?_eq_some_iff]

theorem mem_ofList {pairs : List (String × α)} {name : String} {a : α} :
    (name, a) ∈ ofList pairs ↔ pairs.reverse.lookup name = some a := by
  rw [← (ascending_ofList pairs).find?_eq_some_iff, find?_ofList]

/-- Pairs that are in order already are the map that is made of them. -/
theorem Ascending.ofList_eq {m : NameMap α} (hm : m.Ascending) : ofList m = m :=
  (ascending_ofList m).eq_of_mem_iff hm fun _ => mem_ofList.trans hm.lookup_reverse

theorem mem_without {m : NameMap α} {names : List String} {entry : String × α} :
    entry ∈ m.without names ↔ entry ∈ m ∧ entry.1 ∉ names := by
  simp [without]

/-- What is taken out is not found any more, and all else is found as before. -/
theorem find?_without (m : NameMap α) (names : List String) (name : String) :
    (m.without names).find? name = if name ∈ names then none else m.find? name := by
  induction m with
  | nil => simp [NameMap.without]
  | cons first rest ih =>
    obtain ⟨n, a⟩ := first
    rw [NameMap.without] at ih ⊢
    by_cases hn : n ∈ names
    · rw [List.filter_cons_of_neg (by simpa using hn), ih, find?_cons]
      by_cases hname : name = n
      · simp [hname, hn]
      · simp [hname]
    · rw [List.filter_cons_of_pos (by simpa using hn), find?_cons, find?_cons, ih]
      by_cases hname : name = n
      · simp [hname, hn]
      · simp [hname]

theorem Ascending.without {m : NameMap α} (hm : m.Ascending) (names : List String) :
    (m.without names).Ascending :=
  hm.filter _

/-- Pairs of some names put before a map that has none of these names can be taken out again. -/
theorem Ascending.without_ofList_append {m : NameMap α} (hm : m.Ascending) {names : List String}
    {front : List (String × α)} (hfront : ∀ entry ∈ front, entry.1 ∈ names)
    (hnames : ∀ entry ∈ m, entry.1 ∉ names) : (ofList (front ++ m)).without names = m := by
  refine ((ascending_ofList _).without names).eq_of_mem_iff hm ?_
  rintro ⟨name, a⟩
  have hlookup : name ∉ names → front.reverse.lookup name = none := fun hname =>
    List.lookup_eq_none_iff.mpr fun entry hentry => by
      have hmem := hfront entry (List.mem_reverse.mp hentry)
      simp only [bne_iff_ne, ne_eq]
      rintro rfl
      exact hname hmem
  rw [mem_without, mem_ofList, List.reverse_append, List.lookup_append]
  constructor
  · rintro ⟨hfind, hname⟩
    rw [hlookup hname, Option.or_none] at hfind
    exact hm.lookup_reverse.mp hfind
  · intro hmem
    rw [hlookup (hnames _ hmem), Option.or_none]
    exact ⟨hm.lookup_reverse.mpr hmem, hnames _ hmem⟩

/-! ## Names -/

theorem mem_names_ofList {pairs : List (String × α)} {name : String} :
    name ∈ (ofList pairs).names ↔ name ∈ pairs.map (·.1) := by
  have hlookup : (∃ a, pairs.reverse.lookup name = some a) ↔ ∃ p ∈ pairs, p.1 = name := by
    rw [← Option.isSome_iff_exists, List.lookup_isSome_iff]
    simp [@eq_comm _ name]
  rw [names, List.mem_map, List.mem_map, ← hlookup]
  constructor
  · rintro ⟨⟨n, a⟩, hmem, rfl⟩
    exact ⟨a, mem_ofList.mp hmem⟩
  · rintro ⟨a, ha⟩
    exact ⟨(name, a), mem_ofList.mpr ha, rfl⟩

theorem find?_eq_none_iff {m : NameMap α} {name : String} :
    m.find? name = none ↔ name ∉ m.names := by
  rw [find?, List.lookup_eq_none_iff, names, List.mem_map, not_exists]
  refine forall_congr' fun p => ?_
  rw [not_and, bne_iff_ne, ne_comm]

theorem Ascending.nodup_names {m : NameMap α} (hm : m.Ascending) : m.names.Nodup :=
  List.pairwise_map.mpr (hm.imp fun hlt => ne_of_lt hlt)

/-- A map made of pairs has each of their names once. -/
theorem names_ofList_perm (pairs : List (String × α)) :
    (ofList pairs).names.Perm (pairs.map (·.1)).dedup := by
  refine (List.perm_ext_iff_of_nodup (ascending_ofList pairs).nodup_names
    (List.nodup_dedup _)).mpr fun name => ?_
  rw [mem_names_ofList, List.mem_dedup]

theorem map_insert (f : String → α → β) (m : NameMap α) (name : String) (a : α) :
    (m.insert name a).map (fun p => (p.1, f p.1 p.2)) =
      NameMap.insert name (f name a) (m.map fun p => (p.1, f p.1 p.2)) := by
  induction m with
  | nil => rfl
  | cons entry m ih =>
    simp only [insert, List.map_cons]
    split
    · rfl
    · split
      · rfl
      · rw [List.map_cons, ih]

/-- Values may be replaced before the map is made of them or after. -/
theorem ofList_map (f : String → α → β) (pairs : List (String × α)) :
    ofList (pairs.map fun p => (p.1, f p.1 p.2)) =
      (ofList pairs).map fun p => (p.1, f p.1 p.2) := by
  induction pairs using List.reverseRecOn with
  | nil => rfl
  | append_singleton pairs p ih =>
    rw [List.map_append, List.map_singleton, ofList_concat, ofList_concat, map_insert, ih]

/-! ## Checks -/

/-- A check of all values gives, pair for pair, what it makes of them. -/
theorem checkAll_eq_ok_iff {check : α → Except ε β} {pairs : List (String × α)}
    {out : List (String × β)} :
    checkAll check pairs = .ok out ↔
      List.Forall₂ (fun p q => p.1 = q.1 ∧ check p.2 = .ok q.2) pairs out := by
  induction pairs generalizing out with
  | nil => cases out <;> simp [checkAll]
  | cons pair rest ih =>
    obtain ⟨name, a⟩ := pair
    simp only [checkAll]
    cases hcheck : check a with
    | error e =>
      constructor
      · intro h
        cases h
      · rintro (_ | ⟨⟨-, h⟩, -⟩)
        rw [hcheck] at h
        cases h
    | ok b =>
      cases hrest : checkAll check rest with
      | error e =>
        constructor
        · intro h
          cases h
        · rintro (_ | ⟨-, h⟩)
          rw [ih.mpr h] at hrest
          cases hrest
      | ok checked =>
        constructor
        · intro h
          cases h
          exact .cons ⟨rfl, hcheck⟩ (ih.mp hrest)
        · rintro (_ | ⟨⟨hname, hb⟩, h⟩)
          rw [hcheck] at hb
          rw [ih.mpr h] at hrest
          cases hb
          cases hrest
          cases hname
          rfl

/-- A check of all values fails with the first value that fails it. -/
theorem checkAll_eq_error_iff {check : α → Except ε β} {pairs : List (String × α)} {e : ε} :
    checkAll check pairs = .error e ↔
      ∃ before name a after, pairs = before ++ (name, a) :: after ∧ check a = .error e ∧
        ∀ p ∈ before, ∃ b, check p.2 = .ok b := by
  induction pairs with
  | nil => simp [checkAll]
  | cons pair rest ih =>
    obtain ⟨name, a⟩ := pair
    simp only [checkAll]
    cases hcheck : check a with
    | error e' =>
      constructor
      · intro h
        cases h
        exact ⟨[], name, a, rest, rfl, hcheck, by simp⟩
      · rintro ⟨before, n, x, after, hsplit, hx, hbefore⟩
        cases before with
        | nil =>
          cases hsplit
          rw [hcheck] at hx
          cases hx
          rfl
        | cons p before =>
          cases hsplit
          obtain ⟨b, hb⟩ := hbefore (name, a) (by simp)
          rw [hcheck] at hb
          cases hb
    | ok b =>
      have hmap : (checkAll check rest).map ((name, b) :: ·) = .error e ↔
          checkAll check rest = .error e := by
        cases checkAll check rest <;> simp [Except.map]
      rw [hmap, ih]
      constructor
      · rintro ⟨before, n, x, after, rfl, hx, hbefore⟩
        refine ⟨(name, a) :: before, n, x, after, rfl, hx, ?_⟩
        intro p hp
        rcases List.mem_cons.mp hp with rfl | hp
        · exact ⟨b, hcheck⟩
        · exact hbefore p hp
      · rintro ⟨before, n, x, after, hsplit, hx, hbefore⟩
        cases before with
        | nil =>
          cases hsplit
          rw [hcheck] at hx
          cases hx
        | cons p before =>
          cases hsplit
          exact ⟨before, n, x, after, rfl, hx, fun p hp => hbefore p (by simp [hp])⟩

theorem lookup_eq_some_iff_of_forall₂ {check : α → Except ε β} {pairs : List (String × α)}
    {out : List (String × β)}
    (h : List.Forall₂ (fun p q => p.1 = q.1 ∧ check p.2 = .ok q.2) pairs out)
    {name : String} {b : β} :
    out.lookup name = some b ↔ ∃ a, pairs.lookup name = some a ∧ check a = .ok b := by
  induction h with
  | nil => simp
  | @cons p q pairs out hpq _ ih =>
    obtain ⟨n, a⟩ := p
    obtain ⟨m, c⟩ := q
    obtain ⟨rfl, hc⟩ : n = m ∧ check a = .ok c := hpq
    by_cases hname : name = n
    · subst hname
      simp [hc]
    · have hne : (name == n) = false := by simp [hname]
      simp only [List.lookup_cons, hne]
      exact ih

theorem names_of_forall₂ {check : α → Except ε β} {pairs : List (String × α)}
    {out : List (String × β)}
    (h : List.Forall₂ (fun p q => p.1 = q.1 ∧ check p.2 = .ok q.2) pairs out) :
    out.map (·.1) = pairs.map (·.1) := by
  induction h with
  | nil => rfl
  | cons hpq _ ih => rw [List.map_cons, List.map_cons, ih, hpq.1]

/-- A map is made after a check of what the check makes of the values, pair for pair. -/
theorem ofListChecked_eq_ok_iff {check : α → Except ε β} {pairs : List (String × α)}
    {m : NameMap β} : ofListChecked check pairs = .ok m ↔ ∃ out,
      List.Forall₂ (fun p q => p.1 = q.1 ∧ check p.2 = .ok q.2) pairs out ∧ m = ofList out := by
  simp only [← checkAll_eq_ok_iff]
  rw [ofListChecked]
  cases checkAll check pairs <;> simp [Except.map, eq_comm]

theorem ofListChecked_singleton {check : α → Except ε β} {a : α} {b : β} (h : check a = .ok b)
    (name : String) : ofListChecked check [(name, a)] = .ok [(name, b)] := by
  rw [ofListChecked, checkAll, h]
  rfl

/-- After a check the last pair of a name counts, with what the check makes of its value. -/
theorem find?_ofListChecked {check : α → Except ε β} {pairs : List (String × α)} {m : NameMap β}
    (h : ofListChecked check pairs = .ok m) {name : String} {b : β} :
    m.find? name = some b ↔ ∃ a, pairs.reverse.lookup name = some a ∧ check a = .ok b := by
  obtain ⟨out, hpairs, rfl⟩ := ofListChecked_eq_ok_iff.mp h
  rw [find?_ofList]
  exact lookup_eq_some_iff_of_forall₂ (List.forall₂_reverse_iff.mpr hpairs)

/-- A check of all values succeeds exactly when every value passes it. -/
theorem exists_ofListChecked_ok {check : α → Except ε β} {pairs : List (String × α)} :
    (∃ m, ofListChecked check pairs = .ok m) ↔ ∀ p ∈ pairs, ∃ b, check p.2 = .ok b := by
  rw [ofListChecked]
  cases hall : checkAll check pairs with
  | error e =>
    obtain ⟨before, name, a, after, rfl, ha, -⟩ := checkAll_eq_error_iff.mp hall
    constructor
    · rintro ⟨m, hm⟩
      cases hm
    · intro h
      obtain ⟨b, hb⟩ := h (name, a) (by simp)
      rw [ha] at hb
      cases hb
  | ok out =>
    refine ⟨fun _ => ?_, fun _ => ⟨ofList out, rfl⟩⟩
    intro p hp
    obtain ⟨i, hi, rfl⟩ := List.getElem_of_mem hp
    have hpairs := checkAll_eq_ok_iff.mp hall
    exact ⟨_, ((List.forall₂_iff_get.mp hpairs).2 i hi (hpairs.length_eq ▸ hi)).2⟩

/-- A check that fails is one that some value fails. -/
theorem exists_mem_of_ofListChecked_error {check : α → Except ε β} {pairs : List (String × α)}
    {e : ε} (h : ofListChecked check pairs = .error e) :
    ∃ name a, (name, a) ∈ pairs ∧ check a = .error e := by
  rw [ofListChecked] at h
  cases hall : checkAll check pairs with
  | error e' =>
    rw [hall] at h
    cases h
    obtain ⟨before, name, a, after, rfl, ha, -⟩ := checkAll_eq_error_iff.mp hall
    exact ⟨name, a, by simp, ha⟩
  | ok out =>
    rw [hall] at h
    cases h

theorem ascending_ofListChecked {check : α → Except ε β} {pairs : List (String × α)} {m : NameMap β}
    (h : ofListChecked check pairs = .ok m) : m.Ascending := by
  obtain ⟨out, -, rfl⟩ := ofListChecked_eq_ok_iff.mp h
  exact ascending_ofList out

end IdentityTokens.NameMap
