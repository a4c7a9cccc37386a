/-!
# Maps from names

Finite maps from texts, as lists of pairs in ascending order of their names. Names compare by
scalar values, which is the order of their UTF-8 octets.

## Main definitions

* `NameMap α`: maps from names to values of `α`.
* `NameMap.insert`, `NameMap.find?`, `NameMap.has`, `NameMap.without`: the operations.
* `NameMap.ofList`: the map of a list of pairs, in which the last pair of a name counts.
* `NameMap.ofListChecked`: the same after a check of every pair.
-/

namespace IdentityTokens

/-- Maps from names. -/
abbrev NameMap (α : Type) := List (String × α)

namespace NameMap

variable {α β ε : Type}

/-- The value of a name. -/
def find? (m : NameMap α) (name : String) : Option α := m.lookup name

/-- Whether a name occurs. -/
def has (m : NameMap α) (name : String) : Bool := m.any (·.1 == name)

/-- The names. -/
def names (m : NameMap α) : List String := m.map (·.1)

/-- The map with `name` set to `a`, at the place that the order of names gives it. -/
def insert (name : String) (a : α) : NameMap α → NameMap α
  | [] => [(name, a)]
  | (n, b) :: m =>
    if name < n then (name, a) :: (n, b) :: m
    else if name = n then (name, a) :: m
    else (n, b) :: insert name a m

/-- The map of pairs, given as they follow each other. -/
def ofList (pairs : List (String × α)) : NameMap α :=
  pairs.foldl (fun m (name, a) => m.insert name a) []

/-- The map without the names listed. -/
def without (m : NameMap α) (names : List String) : NameMap α :=
  m.filter fun entry => !names.contains entry.1

/-- Pairs with their values checked, or the fault of the first value that fails. -/
def checkAll (check : α → Except ε β) : List (String × α) → Except ε (List (String × β))
  | [] => .ok []
  | (name, a) :: rest =>
    match check a with
    | .error e => .error e
    | .ok b => (checkAll check rest).map ((name, b) :: ·)

/-- The map of pairs after their values are checked. A value that a later pair replaces is
checked all the same. -/
def ofListChecked (check : α → Except ε β) (pairs : List (String × α)) :
    Except ε (NameMap β) :=
  (checkAll check pairs).map ofList

/-! ## Look-up -/

@[simp] theorem find?_nil (name : String) : find? ([] : NameMap α) name = none := rfl

@[simp] theorem find?_cons (n k : String) (b : α) (m : NameMap α) :
    find? ((n, b) :: m) k = if k = n then some b else m.find? k := by
  by_cases h : k = n
  · simp [find?, h]
  · have hb : (k == n) = false := by simp [h]
    simp [find?, List.lookup_cons, hb, h]

/-- Setting a name changes its value and no other. -/
theorem find?_insert (m : NameMap α) (name k : String) (a : α) :
    (m.insert name a).find? k = if k = name then some a else m.find? k := by
  induction m with
  | nil => simp [insert]
  | cons entry rest ih =>
    obtain ⟨n, b⟩ := entry
    simp only [insert]
    split
    · simp
    · split
      · next heq => subst heq; by_cases h : k = name <;> simp [h]
      · next hne =>
        rw [find?_cons, find?_cons, ih]
        by_cases h : k = n
        · simp [h, Ne.symm hne]
        · simp [h]

end NameMap

end IdentityTokens
