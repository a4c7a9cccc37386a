import IdentityTokens.Proofs.Json.Members
import Mathlib.Data.List.Forall2

/-!
# Records of any document

A record is read from the octets of a document; here it is said what it is in terms of the values
that the open reader finds there. Each field has a role: which values it takes and what they change.
For an object the record is a fold over the members as they stand, whatever their order; for an
array it is the items in the places of the fields.

From the fold follows what a record says of its document, place by place. It is read exactly if no
name of a place occurs twice and every value under such a name has the right shape, and then each
place shows the value under its name, or is as it was.

## Main definitions

* `Json.Role`: what the values of one field do to a record.
* `Json.Field.TakesAt`, `Json.Field.Plays`: a field does so at one place, and at every place.
* `Json.Role.Filled`: a place of a record shows what stands in the document.

## Main statements

* `Json.record_of_spans`, `Json.recordItems_of_spans`: the record that entries make.
* `Json.record_of_memberList`: a record from the members of an object.
* `Json.filled_of_foldlM`, `Json.exists_foldlM`: what the fold over the members says.
* `Json.record_of_not_object`: a record from anything but an object.
-/

namespace IdentityTokens.Json

variable {σ α : Type} {s t rest : List UInt8} {fuel depth : Nat} {v : Json}
  {pairs : List (String × Json)}

/-! ## Roles -/

/-- What the values of a field do to a record: the name of the field, the change that a value of the
right shape makes, and the value that the record shows in its place. -/
structure Role (σ : Type) where
  name : String
  take : Json → Option (σ → σ)
  shown : σ → Json

/-- A field has a role: it takes the values of the role where any value can be read. -/
def Field.Plays (field : Field σ) (role : Role σ) : Prop :=
  field.name = role.name ∧
    ∀ state, Views (field.set state) fun v => (role.take v).map fun change => change state

/-- The role of a field that puts what it reads into the record. -/
def Role.of (name : String) (view : Json → Option α) (put : σ → α → σ) (shown : σ → Json) :
    Role σ where
  name := name
  take := fun v => (view v).map fun a state => put state a
  shown := shown

theorem Field.plays_of {reader : Reader α} {view : Json → Option α} (h : Views reader view)
    (name : String) (put : σ → α → σ) (shown : σ → Json) :
    (Field.of name reader put).Plays (Role.of name view put shown) := by
  refine ⟨rfl, fun state fuel depth s after rest => ?_⟩
  simp only [Field.of, Role.of, Option.map_map]
  constructor
  · intro hset
    obtain ⟨⟨a, left⟩, hread, heq⟩ := map_eq_ok hset
    cases heq
    obtain ⟨v, hv, hview⟩ := (h fuel depth s a left).mp hread
    exact ⟨v, hv, by rw [hview]; rfl⟩
  · rintro ⟨v, hv, hmap⟩
    obtain ⟨a, hview, rfl⟩ := Option.map_eq_some_iff.mp hmap
    rw [(h fuel depth s a rest).mpr ⟨v, hv, hview⟩]
    rfl

/-- Where a value is read, a field that has a role takes it by its role. -/
theorem Field.Plays.set_iff {field : Field σ} {role : Role σ} (h : field.Plays role)
    (hread : readValue (fuel + 1) depth s = .ok (v, rest)) {state after : σ} {left : List UInt8} :
    field.set state s = .ok (after, left) ↔
      left = rest ∧ ∃ change, role.take v = some change ∧ after = change state := by
  rw [h.2 state fuel depth s after left, hread]
  simp only [Option.map_eq_some_iff, Except.ok.injEq, Prod.mk.injEq]
  constructor
  · rintro ⟨v, ⟨rfl, rfl⟩, change, htake, rfl⟩
    exact ⟨rfl, change, htake, rfl⟩
  · rintro ⟨rfl, change, htake, rfl⟩
    exact ⟨v, ⟨rfl, rfl⟩, change, htake, rfl⟩

/-- Where a value stands in octets, a field takes it by its role. -/
def Field.TakesAt (v : Json) (s rest : List UInt8) (field : Field σ) (role : Role σ) : Prop :=
  field.name = role.name ∧ ∀ state after left, field.set state s = .ok (after, left) ↔
    left = rest ∧ ∃ change, role.take v = some change ∧ after = change state

theorem Field.Plays.takesAt {field : Field σ} {role : Role σ} (h : field.Plays role)
    (hread : readValue (fuel + 1) depth s = .ok (v, rest)) : field.TakesAt v s rest role :=
  ⟨h.1, fun _ _ _ => h.set_iff hread⟩

/-! ## Objects -/

/-- One member of a record, with the names that were read before. -/
def takeMember (roles : List (Role σ)) (seen : List String × σ) (m : String × Json) :
    Option (List String × σ) :=
  if seen.1.contains m.1 then none
  else
    match roles.find? (·.name == m.1) with
    | none => some seen
    | some role => (role.take m.2).map fun change => (m.1 :: seen.1, change seen.2)

variable {fields : List (Field σ)} {roles : List (Role σ)} {seen last : List String}
  {state default after : σ}

theorem find?_rel {R : Field σ → Role σ → Prop} (hname : ∀ field role, R field role →
    field.name = role.name) (h : List.Forall₂ R fields roles) (name : String) :
    Option.Rel R (fields.find? (·.name == name)) (roles.find? (·.name == name)) := by
  induction h with
  | nil => exact .none
  | @cons field role fields roles hfirst hrest ih =>
    rw [List.find?_cons, List.find?_cons, hname field role hfirst]
    split
    · exact .some hfirst
    · exact ih

/-- Where the value of a member stands, the record takes the member by its role. -/
theorem recordMember_of_takesAt {name : String} {colon after : List UInt8}
    (hname : memberName readText t = .ok (name, colon)) (hskip : skipAny colon = .ok after)
    (h : List.Forall₂ (Field.TakesAt v colon after) fields roles) (before middle : List String × σ)
    (left : List UInt8) :
    recordMember fields before t = .ok (middle, left) ↔
      left = after ∧ takeMember roles before (name, v) = some middle := by
  obtain ⟨quoted, hquoted, hcolon⟩ := memberName_eq_ok_iff.mp hname
  rw [recordMember, hquoted, takeMember]
  simp only [hcolon]
  by_cases hseen : before.1.contains name = true
  · rw [if_pos hseen, if_pos hseen]
    simp
  rw [if_neg hseen, if_neg hseen]
  have hfind := find?_rel (fun _ _ h => h.1) h name
  cases hfield : fields.find? (·.name == name) with
  | none =>
    cases hrole : roles.find? (·.name == name) with
    | some role =>
      rw [hfield, hrole] at hfind
      cases hfind
    | none =>
      -- A member of no field is passed over: a value that is read never fails to be.
      simp only [hskip, Except.map, Except.ok.injEq, Prod.mk.injEq, Option.some.injEq]
      exact ⟨fun ⟨hstate, hleft⟩ => ⟨hleft.symm, hstate⟩,
        fun ⟨hleft, hstate⟩ => ⟨hstate, hleft.symm⟩⟩
  | some field =>
    cases hrole : roles.find? (·.name == name) with
    | none =>
      rw [hfield, hrole] at hfind
      cases hfind
    | some role =>
      rw [hfield, hrole] at hfind
      cases hfind with
      | some htakes =>
        simp only [Option.map_eq_some_iff]
        constructor
        · intro hset
          obtain ⟨⟨state, end_⟩, htaken, heq⟩ := map_eq_ok hset
          cases heq
          obtain ⟨rfl, change, htake, rfl⟩ := (htakes.2 _ _ _).mp htaken
          exact ⟨rfl, change, htake, rfl⟩
        · rintro ⟨rfl, change, htake, rfl⟩
          rw [(htakes.2 _ _ _).mpr ⟨rfl, change, htake, rfl⟩]
          rfl

/-- Where a member is read, the record takes it by its role. -/
theorem recordMember_iff (h : List.Forall₂ Field.Plays fields roles) (before : List String × σ)
    (t : List UInt8) (m : String × Json) (after : List UInt8)
    (hread : readMember (fuel + 1) depth t = .ok (m, after)) (middle : List String × σ)
    (left : List UInt8) :
    recordMember fields before t = .ok (middle, left) ↔
      left = after ∧ takeMember roles before m = some middle := by
  obtain ⟨colon, hname, hv⟩ := readMember_eq_ok_iff.mp hread
  exact recordMember_of_takesAt hname (skipAny_of_readValue hv).2
    (h.imp fun _ _ hplays => hplays.takesAt hv) before middle left

/-- A record is a fold over members, if it takes them one by one. -/
theorem record_of_spans {reader : Reader (String × Json)}
    (hmember : ∀ before u m after, reader u = .ok (m, after) → ∀ middle left,
      recordMember fields before u = .ok (middle, left) ↔
        left = after ∧ takeMember roles before m = some middle)
    (hblank : skipBlank s = openBrace :: t) (hspans : Spans closeBrace reader true t pairs rest)
    (hcount : pairs.length ≤ t.length) {left : List UInt8} :
    record fields default s = .ok (after, left) ↔
      left = rest ∧ ∃ seen, pairs.foldlM (takeMember roles) ([], default) = some (seen, after) := by
  have hloop : ∀ {last : List String × σ} {left : List UInt8},
      sequence closeBrace (recordMember fields) (t.length + 1) true ([], default) t =
          .ok (last, left) ↔
        pairs.length < t.length + 1 ∧ left = rest ∧
          pairs.foldlM (takeMember roles) ([], default) = some last :=
    sequence_of_spans hmember hspans
  rw [record, atValue_eq_ok_iff]
  constructor
  · rintro ⟨b, u, hcons, hread⟩
    obtain ⟨rfl, rfl⟩ := List.cons.inj (hblank.symm.trans hcons)
    rw [if_pos rfl] at hread
    obtain ⟨⟨⟨seen, state⟩, end_⟩, hlast, heq⟩ := map_eq_ok hread
    cases heq
    obtain ⟨-, rfl, hfold⟩ := hloop.mp hlast
    exact ⟨rfl, seen, hfold⟩
  · rintro ⟨rfl, seen, hfold⟩
    refine ⟨openBrace, t, hblank, ?_⟩
    rw [if_pos rfl, hloop.mpr ⟨Nat.lt_succ_of_le hcount, rfl, hfold⟩]
    rfl

/-- A record is a fold over the members that stand in an object. -/
theorem record_of_memberList (h : List.Forall₂ Field.Plays fields roles)
    (hmembers : memberList s = .ok (pairs, rest)) {left : List UInt8} :
    record fields default s = .ok (after, left) ↔
      left = rest ∧ ∃ seen, pairs.foldlM (takeMember roles) ([], default) = some (seen, after) := by
  obtain ⟨t, hblank, hspans⟩ := memberList_eq_ok_iff.mp hmembers
  obtain ⟨hcount, -⟩ := hspans.settled_members
  exact record_of_spans (recordMember_iff h) hblank hspans (by omega)

/-! ## What a record says of an object -/

/-- The roles of a record have places of their own: no two have one name, each shows the value that
it has taken last, and none changes what another shows. -/
structure Role.Apart (roles : List (Role σ)) : Prop where
  nodup : (roles.map (·.name)).Nodup
  shows : ∀ role ∈ roles, ∀ v change, role.take v = some change →
    ∀ state, role.shown (change state) = v
  keeps : ∀ role ∈ roles, ∀ other ∈ roles, other.name ≠ role.name →
    ∀ v change, other.take v = some change → ∀ state, role.shown (change state) = role.shown state

/-- A place of a record is filled from members: the values under its name have the right shape, and
it shows the only one, or what it showed before if there is none. -/
structure Role.Filled (role : Role σ) (pairs : List (String × Json)) (before after : σ) : Prop where
  takes : ∀ v ∈ valuesUnder role.name pairs, (role.take v).isSome
  holds : Holds pairs role.name (role.shown after) (role.shown before)

/-- Where a role takes all that it shows, a place is filled as soon as it shows what stands in the
members. -/
theorem Role.filled_iff_holds {role : Role σ} {before after : σ}
    (hshown : ∀ state, (role.take (role.shown state)).isSome) :
    role.Filled pairs before after ↔
      Holds pairs role.name (role.shown after) (role.shown before) := by
  refine ⟨Role.Filled.holds, fun hholds => ⟨fun v hv => ?_, hholds⟩⟩
  rcases hholds with hone | ⟨hnone, -⟩
  · rw [hone, List.mem_singleton] at hv
    exact hv ▸ hshown after
  · rw [hnone] at hv
    cases hv

theorem Role.Apart.find?_eq (h : Role.Apart roles) {role : Role σ} (hrole : role ∈ roles) :
    roles.find? (·.name == role.name) = some role := by
  have hnodup := h.nodup
  clear h
  induction roles with
  | nil => cases hrole
  | cons first roles ih =>
    rw [List.map_cons, List.nodup_cons] at hnodup
    rcases List.mem_cons.mp hrole with rfl | hmem
    · simp
    · have hne : first.name ≠ role.name := by
        intro heq
        exact hnodup.1 (heq ▸ List.mem_map_of_mem hmem)
      rw [List.find?_cons_of_neg (by simpa using hne)]
      exact ih hmem hnodup.2

/-- What a record makes of one member: its name was not read before, and it is the name of no role,
or the role of that name takes the value. -/
theorem takeMember_eq_some_iff {name : String} {before middle : List String × σ} :
    takeMember roles before (name, v) = some middle ↔ name ∉ before.1 ∧
      (roles.find? (·.name == name) = none ∧ middle = before ∨
        ∃ role change, roles.find? (·.name == name) = some role ∧ role.take v = some change ∧
          middle = (name :: before.1, change before.2)) := by
  rw [takeMember]
  by_cases hseen : name ∈ before.1
  · simp [hseen]
  · rw [if_neg (by simpa using hseen)]
    cases roles.find? (·.name == name) with
    | none => simp [hseen, eq_comm]
    | some role => simp [hseen, @eq_comm _ middle]

/-- In a record that was read from members every place is filled from them, and no name that was
read before stands in them. -/
theorem filled_of_foldlM (h : Role.Apart roles)
    (hfold : pairs.foldlM (takeMember roles) (seen, state) = some (last, after)) :
    ∀ role ∈ roles, (role.name ∈ seen → valuesUnder role.name pairs = []) ∧
      role.Filled pairs state after := by
  induction pairs generalizing seen state with
  | nil =>
    cases hfold
    exact fun role _ => ⟨fun _ => rfl, ⟨fun v hv => (List.not_mem_nil hv).elim, .inr ⟨rfl, rfl⟩⟩⟩
  | cons m pairs ih =>
    obtain ⟨name, v⟩ := m
    rw [List.foldlM_cons, Option.bind_eq_bind, Option.bind_eq_some_iff] at hfold
    obtain ⟨⟨middle, next⟩, htake, hmore⟩ := hfold
    intro role hrole
    obtain ⟨hread, htakes, hholds⟩ := ih hmore role hrole
    obtain ⟨hnew, ⟨hnone, hsame⟩ | ⟨taker, change, htaker, hchange, hnext⟩⟩ :=
      takeMember_eq_some_iff.mp htake
    · cases hsame
      have hne : name ≠ role.name := by
        rintro rfl
        simpa using List.find?_eq_none.mp hnone role hrole
      rw [← valuesUnder_cons_of_ne hne v] at hread htakes
      rw [Holds, ← valuesUnder_cons_of_ne hne v] at hholds
      exact ⟨hread, htakes, hholds⟩
    · cases hnext
      by_cases hname : name = role.name
      · subst hname
        rw [h.find?_eq hrole] at htaker
        cases htaker
        -- The name counts as read from here on, so no later member changes this place.
        have hempty := hread (List.mem_cons_self ..)
        have hshown : role.shown after = v := by
          rcases hholds with hone | ⟨-, hkept⟩
          · rw [hempty] at hone
            cases hone
          · rw [hkept]
            exact h.shows role hrole v change hchange state
        have hvalues : valuesUnder role.name ((role.name, v) :: pairs) = [v] := by
          rw [valuesUnder_cons_self, hempty]
        refine ⟨fun hmem => (hnew hmem).elim, fun w hw => ?_, .inl (hshown ▸ hvalues)⟩
        rw [hvalues, List.mem_singleton] at hw
        rw [hw, hchange]
        rfl
      · have hkeeps : role.shown (change state) = role.shown state := by
          have hother : taker.name = name := by simpa using List.find?_some htaker
          exact h.keeps role hrole taker (List.mem_of_find?_eq_some htaker) (hother ▸ hname) v
            change hchange state
        rw [← valuesUnder_cons_of_ne hname v] at hread htakes
        rw [Holds, ← valuesUnder_cons_of_ne hname v, hkeeps] at hholds
        exact ⟨fun hmem => hread (List.mem_cons_of_mem _ hmem), htakes, hholds⟩

/-- A record is read from members if no name that was read before stands in them, no name of a role
stands in them twice, and every value under such a name has the right shape. -/
theorem exists_foldlM (state : σ) (hseen : ∀ name ∈ seen, valuesUnder name pairs = [])
    (honce : ∀ role ∈ roles, (valuesUnder role.name pairs).length ≤ 1)
    (hshape : ∀ role ∈ roles, ∀ v ∈ valuesUnder role.name pairs, (role.take v).isSome) :
    ∃ last after, pairs.foldlM (takeMember roles) (seen, state) = some (last, after) := by
  induction pairs generalizing seen state with
  | nil => exact ⟨seen, state, rfl⟩
  | cons m pairs ih =>
    obtain ⟨name, v⟩ := m
    have hsub : ∀ other,
        (valuesUnder other pairs).Sublist (valuesUnder other ((name, v) :: pairs)) :=
      fun other => ((List.sublist_cons_self _ _).filter _).map _
    have hnew : name ∉ seen := by
      intro hmem
      have hempty := hseen name hmem
      rw [valuesUnder_cons_self] at hempty
      cases hempty
    have hrest : ∀ {seen : List String} (state : σ), (∀ name ∈ seen, valuesUnder name pairs = []) →
        ∃ last after, pairs.foldlM (takeMember roles) (seen, state) = some (last, after) :=
      fun state hseen => ih state hseen
        (fun role hrole => (hsub _).length_le.trans (honce role hrole))
        (fun role hrole v hv => hshape role hrole v ((hsub _).subset hv))
    have hbefore : ∀ other ∈ seen, valuesUnder other pairs = [] :=
      fun other hmem => List.sublist_nil.mp (hseen other hmem ▸ hsub other)
    rw [List.foldlM_cons, Option.bind_eq_bind]
    cases hfind : roles.find? (·.name == name) with
    | none =>
      rw [takeMember_eq_some_iff.mpr ⟨hnew, .inl ⟨hfind, rfl⟩⟩]
      exact hrest state hbefore
    | some role =>
      have hname : role.name = name := by simpa using List.find?_some hfind
      have hmem := List.mem_of_find?_eq_some hfind
      subst hname
      have hcount := honce role hmem
      have hv := hshape role hmem v
      rw [valuesUnder_cons_self] at hcount hv
      obtain ⟨change, hchange⟩ := Option.isSome_iff_exists.mp (hv (List.mem_cons_self ..))
      rw [takeMember_eq_some_iff.mpr ⟨hnew, .inr ⟨role, change, hfind, hchange, rfl⟩⟩]
      refine hrest (change state) fun other hother => ?_
      rcases List.mem_cons.mp hother with rfl | hother
      · exact List.length_eq_zero_iff.mp (by simpa using hcount)
      · exact hbefore other hother

/-! ## Arrays -/

/-- The items of a record in the places of its fields, the last of which may be missing. -/
def takeItems : List (Role σ) → σ → List Json → Option σ
  | _, state, [] => some state
  | [], _, _ :: _ => none
  | role :: roles, state, v :: items =>
    match role.take v with
    | none => none
    | some change => takeItems roles (change state) items

/-- The item in the place of a field is one that the field has a view of. -/
theorem takeItems_of_iff {name : String} {view : Json → Option α} {put : σ → α → σ}
    {shown : σ → Json} {items : List Json} :
    takeItems (Role.of name view put shown :: roles) state (v :: items) = some after ↔
      ∃ a, view v = some a ∧ takeItems roles (put state a) items = some after := by
  simp only [takeItems, Role.of]
  cases view v <;> simp

theorem recordItems_of_close {field : Field σ} {first : Bool}
    (h : skipBlank s = closeBracket :: rest) :
    recordItems (field :: fields) first state s = .ok (state, rest) := by
  simp only [recordItems, h, if_true]

/-- Where an item begins, the first field takes it. -/
theorem recordItems_of_entry {field : Field σ} {first : Bool}
    (h : EntryAt closeBracket first s t) :
    recordItems (field :: fields) first state s = .ok (after, rest) ↔
      ∃ middle left, field.set state t = .ok (middle, left) ∧
        recordItems fields false middle left = .ok (after, rest) := by
  cases hset : field.set state t <;> cases h with
  | first hblank hne => simp [recordItems, hblank, hne, hset, Prod.ext_iff]
  | next hcomma hcommane hblank hne =>
    simp [recordItems, hcomma, hcommane, hblank, hne, hset, Prod.ext_iff]

/-- What a record in array form has done: it has ended at the bracket, or has taken a value in the
place of its first field and gone on. -/
theorem recordItems_cons_iff {field : Field σ} {first : Bool} :
    recordItems (field :: fields) first state s = .ok (after, rest) ↔
      (skipBlank s = closeBracket :: rest ∧ after = state) ∨
        ∃ t middle left, EntryAt closeBracket first s t ∧ field.set state t = .ok (middle, left) ∧
          recordItems fields false middle left = .ok (after, rest) := by
  have htaken : ∀ {t}, EntryAt closeBracket first s t →
      recordItems (field :: fields) first state s = .ok (after, rest) →
      ∃ t middle left, EntryAt closeBracket first s t ∧ field.set state t = .ok (middle, left) ∧
        recordItems fields false middle left = .ok (after, rest) := by
    intro t ht h
    obtain ⟨middle, left, hset, hmore⟩ := (recordItems_of_entry ht).mp h
    exact ⟨t, middle, left, ht, hset, hmore⟩
  constructor
  · intro h
    cases hblank : skipBlank s with
    | nil =>
      simp only [recordItems, hblank] at h
      cases h
    | cons b u =>
      by_cases hclose : b = closeBracket
      · subst hclose
        rw [recordItems_of_close hblank] at h
        cases h
        exact .inl ⟨rfl, rfl⟩
      refine .inr ?_
      cases first with
      | true => exact htaken (.first hblank hclose) h
      | false =>
        by_cases hcomma : b = commaOctet
        · subst hcomma
          cases hmore : skipBlank u with
          | nil =>
            simp only [recordItems, hblank, hclose, hmore, Bool.false_eq_true, if_false,
              if_true] at h
            cases h
          | cons c w =>
            by_cases hc : c = closeBracket
            · simp only [recordItems, hblank, hclose, hmore, hc, Bool.false_eq_true, if_false,
                if_true] at h
              cases h
            · exact htaken (.next hblank hclose hmore hc) h
        · simp only [recordItems, hblank, hclose, hcomma, Bool.false_eq_true, if_false] at h
          cases h
  · rintro (⟨hclosed, rfl⟩ | ⟨t, middle, left, ht, hset, hmore⟩)
    · exact recordItems_of_close hclosed
    · exact (recordItems_of_entry ht).mpr ⟨middle, left, hset, hmore⟩

/-- After the fields of a record only the closing bracket follows. -/
theorem recordItems_nil_iff {first : Bool} :
    recordItems ([] : List (Field σ)) first state s = .ok (after, rest) ↔
      skipBlank s = closeBracket :: rest ∧ after = state := by
  rw [recordItems]
  cases hblank : skipBlank s with
  | nil => simp
  | cons b u =>
    by_cases hclose : b = closeBracket
    · simp [hclose, eq_comm, and_comm]
    · simp [hclose]

/-- A record in array form takes the items that stand there in the places of its fields. -/
theorem recordItems_of_spans {reader : Reader Json} {items : List Json} {first : Bool}
    (h : ∀ u v after, reader u = .ok (v, after) →
      List.Forall₂ (Field.TakesAt v u after) fields roles)
    (hspans : Spans closeBracket reader first s items rest) {left : List UInt8} :
    recordItems fields first state s = .ok (after, left) ↔
      left = rest ∧ takeItems roles state items = some after := by
  induction hspans generalizing fields roles state with
  | nil hclosed =>
    rw [takeItems, Option.some.injEq]
    cases fields with
    | nil =>
      rw [recordItems_nil_iff, hclosed]
      simp [eq_comm]
    | cons field fields =>
      rw [recordItems_of_close hclosed]
      simp [eq_comm, and_comm]
  | cons hbegins hreads hmore ih =>
    cases h _ _ _ hreads with
    | nil =>
      rw [recordItems_nil_iff, takeItems]
      simp [hbegins.not_closed]
    | @cons field role fields roles hfirst _ =>
      have hrest : ∀ u v after, reader u = .ok (v, after) →
          List.Forall₂ (Field.TakesAt v u after) fields roles :=
        fun u v after hu => (List.forall₂_cons.mp (h u v after hu)).2
      rw [recordItems_of_entry hbegins, takeItems]
      constructor
      · rintro ⟨middle, next, hset, hitems⟩
        obtain ⟨rfl, change, htake, rfl⟩ := (hfirst.2 _ _ _).mp hset
        simp only [htake]
        exact (ih hrest).mp hitems
      · rintro ⟨rfl, htake⟩
        split at htake
        · cases htake
        · next change hchange =>
          exact ⟨_, _, (hfirst.2 _ _ _).mpr ⟨rfl, change, hchange, rfl⟩,
            (ih hrest).mpr ⟨rfl, htake⟩⟩

/-- A record in array form takes the items in the places of its fields. -/
theorem recordItems_iff (h : List.Forall₂ Field.Plays fields roles) {first : Bool} :
    recordItems fields first state s = .ok (after, rest) ↔
      ∃ items, Spans closeBracket nested first s items rest ∧
        takeItems roles state items = some after := by
  constructor
  · intro hread
    induction h generalizing first state s with
    | nil =>
      obtain ⟨hclosed, rfl⟩ := recordItems_nil_iff.mp hread
      exact ⟨[], .nil hclosed, rfl⟩
    | @cons field role fields roles hplays hrest ih =>
      rcases recordItems_cons_iff.mp hread with ⟨hclosed, rfl⟩ | ⟨t, middle, left, ht, hset, hmore⟩
      · exact ⟨[], .nil hclosed, rfl⟩
      · obtain ⟨v, hv, hchange⟩ := (hplays.2 state t.length (maxDepth - 1) t middle left).mp hset
        obtain ⟨change, htake, rfl⟩ := Option.map_eq_some_iff.mp hchange
        obtain ⟨items, hspans, hitems⟩ := ih hmore
        exact ⟨v :: items, .cons ht hv hspans, by simp only [takeItems, htake, hitems]⟩
  · rintro ⟨items, hspans, htake⟩
    have htakes : ∀ u v after, nested u = .ok (v, after) →
        List.Forall₂ (Field.TakesAt v u after) fields roles :=
      fun u v after hu => h.imp fun _ _ hplays => hplays.takesAt hu
    exact (recordItems_of_spans htakes hspans).mpr ⟨rfl, htake⟩

/-- From anything but an object a record is read exactly if it is an array of values in the places
of its fields. -/
theorem record_of_not_object (h : List.Forall₂ Field.Plays fields roles)
    (hform : (skipBlank s).head? ≠ some openBrace) :
    record fields default s = .ok (after, rest) ↔
      ∃ items, readAny s = .ok (.array items, rest) ∧
        takeItems roles default items = some after := by
  simp only [readAny_array_iff]
  rw [record, atValue_eq_ok_iff]
  constructor
  · rintro ⟨b, t, hblank, hread⟩
    rw [hblank] at hform
    split at hread
    · next hbrace => exact (hform (congrArg some hbrace)).elim
    · split at hread
      · next hbracket =>
        obtain ⟨items, hspans, htake⟩ := (recordItems_iff h).mp hread
        exact ⟨items, ⟨t, hbracket ▸ hblank, hspans⟩, htake⟩
      · exact (refuse_ne_ok _ hread).elim
  · rintro ⟨items, ⟨t, hblank, hspans⟩, htake⟩
    refine ⟨openBracket, t, hblank, ?_⟩
    rw [if_neg (by decide), if_pos rfl]
    exact (recordItems_iff h).mpr ⟨items, hspans, htake⟩

end IdentityTokens.Json
