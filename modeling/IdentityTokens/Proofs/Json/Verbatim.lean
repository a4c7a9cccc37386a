import IdentityTokens.Proofs.Json.Records
import IdentityTokens.Proofs.Json.Roles

/-!
# Documents as they stand

Of the members of one name the open reader keeps the last, and so its values do not tell what a
reader of a known shape makes of a document: that one refuses a name that is there twice. Here a
document is read with all members of its objects, in their order, and what the readers of known
shapes make of it is a function of the value that is read so. The functions are put together as the
readers are: from texts records, from records lists, from lists other records.

Nothing is assumed about the writing of a document, its blanks, its escapes or the order of its
members. It is only assumed that the open reader reads it at all; readers of a known shape pass over
some values that this one refuses, such as a number out of all range.

## Main definitions

* `Json.readVerbatim`, `Json.verbatim`: a value and a document with all members as they stand.
* `Json.settle`: the value in which of each name the last member is kept.
* `Json.Tells`: a view tells what a reader makes of a value.
* `Json.asRecord`, `Json.asList`: the views of records and lists.

## Main statements

* `Json.parse_eq_ok_iff_verbatim`: which documents are read, and what of them is kept.
* `Json.verbatim_bytes`: a value that was written is read as it was, with all members.
* `Json.tells_record`, `Json.tells_listOf`, `Json.tells_checked`: what readers make of a value.
* `Json.document_iff_of_tells`: what they make of a document.
* `Json.document_textMap_iff`: which documents are maps of texts, and what is in them.
-/

namespace IdentityTokens.Json

variable {σ α : Type} {s t rest : List UInt8} {fuel depth : Nat} {v w : Json}

/-! ## Reading all members -/

/-- The entries that follow an opening bracket, up to the closing one. -/
def entriesUpTo (close : UInt8) (reader : Reader α) : Reader (List α) := fun s =>
  let entry (kept : List α) : Reader (List α) := fun t =>
    (reader t).map fun read => (read.1 :: kept, read.2)
  (sequence close entry (s.length + 1) true [] s).map fun (kept, rest) => (kept.reverse, rest)

/-- A value with the members of its objects as they stand. The number bounds how deep arrays and
objects may be nested. -/
def readVerbatim : Nat → Reader Json
  | 0 => atValue fun b rest =>
    if b = openBracket ∨ b = openBrace then .error .malformed else readScalar (b :: rest)
  | depth + 1 => atValue fun b rest =>
    if b = openBracket then
      (entriesUpTo closeBracket (readVerbatim depth) rest).map
        fun (items, rest) => (.array items, rest)
    else if b = openBrace then
      (entriesUpTo closeBrace (memberOf (readVerbatim depth)) rest).map
        fun (members, rest) => (.object members, rest)
    else readScalar (b :: rest)

/-- A whole document with the members of its objects as they stand. -/
def verbatim (s : List UInt8) : Except Fault Json := document (readVerbatim maxDepth) s

theorem entriesUpTo_iff {close : UInt8} {reader : Reader α} {entries : List α} :
    entriesUpTo close reader s = .ok (entries, rest) ↔
      Spans close reader true s entries rest ∧ entries.length < s.length + 1 := by
  have hloop : ∀ {last : List α} {rest : List UInt8}, sequence close (fun kept t =>
      (reader t).map fun read => (read.1 :: kept, read.2)) (s.length + 1) true [] s =
        .ok (last, rest) ↔ ∃ entries, Spans close reader true s entries rest ∧
          entries.length < s.length + 1 ∧ last = entries.reverse ++ [] :=
    sequence_keeping_iff fun _ _ => rfl
  rw [entriesUpTo]
  constructor
  · intro h
    obtain ⟨⟨kept, after⟩, hkept, heq⟩ := map_eq_ok h
    cases heq
    obtain ⟨entries, hspans, hcount, rfl⟩ := hloop.mp hkept
    rw [List.append_nil, List.reverse_reverse]
    exact ⟨hspans, hcount⟩
  · rintro ⟨hspans, hcount⟩
    rw [hloop.mpr ⟨entries, hspans, hcount, (List.append_nil _).symm⟩]
    simp only [Except.map, List.reverse_reverse]

/-- What a value is that has been read, by its first octet. -/
theorem readVerbatim_iff :
    readVerbatim depth s = .ok (v, rest) ↔
      (∃ t less items, skipBlank s = openBracket :: t ∧ depth = less + 1 ∧ v = .array items ∧
        Spans closeBracket (readVerbatim less) true t items rest ∧ items.length < t.length + 1) ∨
      (∃ t less members, skipBlank s = openBrace :: t ∧ depth = less + 1 ∧ v = .object members ∧
        Spans closeBrace (memberOf (readVerbatim less)) true t members rest ∧
          members.length < t.length + 1) ∨
      ∃ b t, skipBlank s = b :: t ∧ (b ≠ openBracket ∧ b ≠ openBrace) ∧
        readScalar (b :: t) = .ok (v, rest) := by
  constructor
  · intro h
    cases depth with
    | zero =>
      rw [readVerbatim, atValue_eq_ok_iff] at h
      obtain ⟨b, t, hblank, h⟩ := h
      split at h
      · cases h
      · next hother => exact .inr (.inr ⟨b, t, hblank, not_or.mp hother, h⟩)
    | succ less =>
      rw [readVerbatim, atValue_eq_ok_iff] at h
      obtain ⟨b, t, hblank, h⟩ := h
      split at h
      · next hbracket =>
        obtain ⟨⟨items, after⟩, hitems, heq⟩ := map_eq_ok h
        cases heq
        exact .inl ⟨t, less, items, hbracket ▸ hblank, rfl, rfl, entriesUpTo_iff.mp hitems⟩
      split at h
      · next hbrace =>
        obtain ⟨⟨members, after⟩, hmembers, heq⟩ := map_eq_ok h
        cases heq
        exact .inr (.inl ⟨t, less, members, hbrace ▸ hblank, rfl, rfl,
          entriesUpTo_iff.mp hmembers⟩)
      · next hbracket hbrace => exact .inr (.inr ⟨b, t, hblank, ⟨hbracket, hbrace⟩, h⟩)
  · rintro (⟨t, less, items, hblank, rfl, rfl, hspans⟩ |
      ⟨t, less, members, hblank, rfl, rfl, hspans⟩ | ⟨b, t, hblank, ⟨hbracket, hbrace⟩, hscalar⟩)
    · rw [readVerbatim, atValue_eq_ok_iff]
      refine ⟨_, t, hblank, ?_⟩
      rw [if_pos rfl, entriesUpTo_iff.mpr hspans]
      rfl
    · rw [readVerbatim, atValue_eq_ok_iff]
      refine ⟨_, t, hblank, ?_⟩
      rw [if_neg (by decide), if_pos rfl, entriesUpTo_iff.mpr hspans]
      rfl
    · cases depth with
      | zero =>
        rw [readVerbatim, atValue_eq_ok_iff]
        exact ⟨b, t, hblank, by rwa [if_neg (not_or.mpr ⟨hbracket, hbrace⟩)]⟩
      | succ less =>
        rw [readVerbatim, atValue_eq_ok_iff]
        exact ⟨b, t, hblank, by rwa [if_neg hbracket, if_neg hbrace]⟩

/-! ## What is kept -/

mutual

/-- The value in which of each name the last member is kept. -/
def settle : Json → Json
  | .array items => .array (settleItems items)
  | .object members => .object (NameMap.ofList (settleMembers members))
  | v => v

/-- The items, each settled. -/
def settleItems : List Json → List Json
  | [] => []
  | v :: rest => settle v :: settleItems rest

/-- The members, the value of each settled. -/
def settleMembers : List (String × Json) → List (String × Json)
  | [] => []
  | (name, v) :: rest => (name, settle v) :: settleMembers rest

end

theorem settle_array (items : List Json) : settle (.array items) = .array (items.map settle) := by
  have hitems : settleItems items = items.map settle := by
    induction items with
    | nil => rfl
    | cons v items ih => rw [settleItems, ih, List.map_cons]
  rw [settle, hitems]

theorem settle_object (members : List (String × Json)) :
    settle (.object members) =
      .object (NameMap.ofList (members.map fun m => (m.1, settle m.2))) := by
  have hmembers : settleMembers members = members.map fun m => (m.1, settle m.2) := by
    induction members with
    | nil => rfl
    | cons m members ih => rw [settleMembers, ih, List.map_cons]
  rw [settle, hmembers]

theorem settle_scalar (hform : (∀ items, v ≠ .array items) ∧ ∀ members, v ≠ .object members) :
    settle v = v := by
  cases v with
  | array items => exact (hform.1 items rfl).elim
  | object members => exact (hform.2 members rfl).elim
  | _ => rfl

/-- Where a value is read with all members, the open reader reads it with the last ones. -/
theorem readValue_of_readVerbatim (h : readVerbatim depth s = .ok (v, rest))
    (hfuel : s.length < fuel) : readValue fuel depth s = .ok (settle v, rest) := by
  induction depth using Nat.strong_induction_on generalizing fuel s v rest with
  | _ depth ih =>
    obtain ⟨fuel, rfl⟩ := Nat.exists_eq_add_one.mpr (by omega : 0 < fuel)
    have hless := length_skipBlank_le s
    rcases readVerbatim_iff.mp h with ⟨t, less, items, hblank, rfl, rfl, hspans, -⟩ |
      ⟨t, less, members, hblank, rfl, rfl, hspans, -⟩ | ⟨b, t, hblank, hother, hscalar⟩
    · rw [hblank, List.length_cons] at hless
      have hitem : ∀ {u v after}, u.length ≤ t.length → readVerbatim less u = .ok (v, after) →
          after.length < u.length ∧
            ∃ w, readValue fuel less u = .ok (w, after) ∧ settle v = w := by
        intro u v after hu hv
        -- An item is no longer than what stands between the brackets, so the fuel is enough.
        have hread : readValue fuel less u = .ok (settle v, after) :=
          ih less (Nat.lt_succ_self _) hv (by omega)
        exact ⟨(skipAny_of_readValue hread).1, _, hread, rfl⟩
      obtain ⟨hcount, settled, hsettled, hrel⟩ := hspans.rel _ hitem (Nat.le_refl _)
      have hlength := hrel.length_eq
      rw [← List.forall₂_map_left_iff (R := Eq), List.forall₂_eq_eq_eq] at hrel
      have hitems := sequence_nextItem_iff.mpr
        ⟨settled, hsettled, by omega, (List.append_nil _).symm⟩
      rw [readValue_array hblank, settle_array, hrel]
      exact (congrArg (Except.map _) hitems).trans (by simp only [Except.map, List.reverse_reverse])
    · rw [hblank, List.length_cons] at hless
      have hmember : ∀ {u m after}, u.length ≤ t.length →
          memberOf (readVerbatim less) u = .ok (m, after) → after.length < u.length ∧
            ∃ m', readMember fuel less u = .ok (m', after) ∧ (m.1, settle m.2) = m' := by
        rintro u ⟨name, v⟩ after hu hm
        obtain ⟨colon, hname, hv⟩ := memberOf_eq_ok_iff.mp hm
        have hlt := length_lt_of_memberName (memberName_of_readText hname)
        have hread : readValue fuel less colon = .ok (settle v, after) :=
          ih less (Nat.lt_succ_self _) hv (by omega)
        exact ⟨(skipAny_of_readValue hread).1.trans hlt, _,
          readMember_eq_ok_iff.mpr ⟨colon, hname, hread⟩, rfl⟩
      obtain ⟨hcount, settled, hsettled, hrel⟩ := hspans.rel _ hmember (Nat.le_refl _)
      have hlength := hrel.length_eq
      rw [← List.forall₂_map_left_iff (R := Eq), List.forall₂_eq_eq_eq] at hrel
      have hmembers := sequence_nextMember_iff.mpr
        ⟨settled, hsettled, by omega, (List.append_nil _).symm⟩
      rw [readValue_object hblank, settle_object, hrel]
      exact (congrArg (Except.map _) hmembers).trans
        (by simp only [Except.map, List.reverse_reverse])
    · rw [readValue_scalar hblank hother.1 hother.2, hscalar,
        settle_scalar (readScalar_not_nested hscalar)]

/-- Where the open reader reads a value, it is read with all members. -/
theorem exists_readVerbatim (h : readValue fuel depth s = .ok (v, rest)) :
    ∃ w, readVerbatim depth s = .ok (w, rest) ∧ settle w = v := by
  induction depth using Nat.strong_induction_on generalizing fuel s v rest with
  | _ depth ih =>
    cases fuel with
    | zero => cases h
    | succ fuel =>
      rcases readValue_cases h with ⟨t, less, items, hblank, rfl, rfl, hspans, -⟩ |
        ⟨t, less, members, hblank, rfl, rfl, hspans, -⟩ | ⟨b, t, hblank, hother, hscalar⟩
      · have hitem : ∀ {u v after}, u.length ≤ t.length → readValue fuel less u = .ok (v, after) →
            after.length < u.length ∧
              ∃ w, readVerbatim less u = .ok (w, after) ∧ v = settle w := by
          intro u v after _ hv
          obtain ⟨w, hw, hsettle⟩ := ih less (Nat.lt_succ_self _) hv
          exact ⟨(skipAny_of_readValue hv).1, w, hw, hsettle.symm⟩
        obtain ⟨hcount, found, hfound, hrel⟩ := hspans.rel _ hitem (Nat.le_refl _)
        have hlength := hrel.length_eq
        rw [← List.forall₂_map_right_iff (R := Eq), List.forall₂_eq_eq_eq] at hrel
        refine ⟨.array found, readVerbatim_iff.mpr (.inl ⟨t, less, found, hblank, rfl, rfl, hfound,
          by omega⟩), ?_⟩
        rw [settle_array, hrel]
      · have hmember : ∀ {u m after}, u.length ≤ t.length →
            readMember fuel less u = .ok (m, after) → after.length < u.length ∧
              ∃ m', memberOf (readVerbatim less) u = .ok (m', after) ∧
                m = (m'.1, settle m'.2) := by
          rintro u ⟨name, v⟩ after _ hm
          obtain ⟨colon, hname, hv⟩ := readMember_eq_ok_iff.mp hm
          have hlt := length_lt_of_memberName (memberName_of_readText hname)
          obtain ⟨w, hw, hsettle⟩ := ih less (Nat.lt_succ_self _) hv
          exact ⟨(skipAny_of_readValue hv).1.trans hlt, (name, w),
            memberOf_eq_ok_iff.mpr ⟨colon, hname, hw⟩, by rw [hsettle]⟩
        obtain ⟨hcount, found, hfound, hrel⟩ := hspans.rel _ hmember (Nat.le_refl _)
        have hlength := hrel.length_eq
        rw [← List.forall₂_map_right_iff (R := Eq), List.forall₂_eq_eq_eq] at hrel
        refine ⟨.object found, readVerbatim_iff.mpr (.inr (.inl ⟨t, less, found, hblank, rfl, rfl,
          hfound, by omega⟩)), ?_⟩
        rw [settle_object, hrel]
      · exact ⟨v, readVerbatim_iff.mpr (.inr (.inr ⟨b, t, hblank, hother,
          (readValue_scalar hblank hother.1 hother.2).symm.trans h⟩)),
          settle_scalar (readScalar_not_nested hscalar)⟩

/-- The value of a document is what is kept of the document as it stands. -/
theorem parse_eq_ok_iff_verbatim : parse s = .ok v ↔ ∃ w, verbatim s = .ok w ∧ settle w = v := by
  simp only [parse, verbatim, document_eq_ok_iff]
  constructor
  · rintro ⟨rest, hread, hend⟩
    obtain ⟨w, hw, hsettle⟩ := exists_readVerbatim hread
    exact ⟨w, ⟨rest, hw, hend⟩, hsettle⟩
  · rintro ⟨w, ⟨rest, hw, hend⟩, rfl⟩
    exact ⟨rest, readValue_of_readVerbatim hw (Nat.lt_succ_self _), hend⟩

/-! ## Values that were written -/

/-- Entries that were written with commas between them are kept as they were. -/
theorem entriesUpTo_joined {close : UInt8} (hclose : IsCloser close) {reader : Reader α}
    {octets : α → List UInt8} {entries : List α} (hopens : ∀ a ∈ entries, Opens close (octets a))
    (hreads : ∀ a ∈ entries, ∀ rest, EndsNumeral rest → reader (octets a ++ rest) = .ok (a, rest))
    (rest : List UInt8) :
    entriesUpTo close reader (joined (entries.map octets) ++ close :: rest) =
      .ok (entries, rest) := by
  have hfeeds : ∀ kept, Feeds close (fun kept t =>
      (reader t).map fun read => (read.1 :: kept, read.2)) kept (entries.map octets)
        (entries.reverse ++ kept) := by
    induction entries with
    | nil => exact .nil
    | cons a entries ih =>
      intro kept
      have hmore := ih (fun b hb => hopens b (List.mem_cons_of_mem _ hb))
        (fun b hb => hreads b (List.mem_cons_of_mem _ hb)) (a :: kept)
      rw [List.reverse_cons, List.append_assoc]
      refine .cons (hopens a List.mem_cons_self) (fun rest hrest => ?_) hmore
      rw [hreads a List.mem_cons_self rest hrest]
      rfl
  have hcount := count_le_joined (entries.map octets) fun w hw => by
    obtain ⟨a, ha, rfl⟩ := List.mem_map.mp hw
    obtain ⟨b, t, hcons, -, -⟩ := hopens a ha
    simp [hcons]
  have hless : (entries.map octets).length <
      (joined (entries.map octets) ++ close :: rest).length + 1 := by
    rw [List.length_append]
    omega
  have hkept := sequence_joined hclose (hfeeds []) hless rest
  exact (congrArg (Except.map _) hkept).trans (by simp [Except.map])

/-- A value without parts is read where the open reader reads it. -/
theorem readVerbatim_of_scalar
    (hform : (∀ items, v ≠ .array items) ∧ ∀ members, v ≠ .object members)
    (h : readValue fuel depth s = .ok (v, rest)) : readVerbatim depth s = .ok (v, rest) := by
  obtain ⟨w, hw, rfl⟩ := exists_readVerbatim h
  cases w with
  | array items => exact (hform.1 _ (settle_array items)).elim
  | object members => exact (hform.2 _ (settle_object members)).elim
  | _ => exact hw

/-- A value that was written is read as it was, in the order of its members and with names that are
there twice, as long as its numbers are whole. -/
theorem readVerbatim_bytes (hintegral : Integral v) (hdepth : v.depth ≤ depth)
    (hrest : EndsNumeral rest) : readVerbatim depth (bytes v ++ rest) = .ok (v, rest) := by
  induction v using inductionOn generalizing depth rest with
  | null =>
    exact readVerbatim_of_scalar (by simp) (readsAs_null hdepth (Nat.le_refl _) hrest)
  | bool b =>
    exact readVerbatim_of_scalar (by simp) (readsAs_bool b hdepth (Nat.le_refl _) hrest)
  | number n =>
    cases n with
    | integer n =>
      exact readVerbatim_of_scalar (by simp)
        (readsAs_integer hintegral hdepth (Nat.le_refl _) hrest)
    | fraction negative x => exact absurd hintegral (by simp [Integral])
  | string text =>
    exact readVerbatim_of_scalar (by simp) (readsAs_string text hdepth (Nat.le_refl _) hrest)
  | array items ih =>
    have hpos : 0 < depth := by
      rw [Json.depth] at hdepth
      omega
    obtain ⟨less, rfl⟩ := Nat.exists_eq_add_one.mpr hpos
    have hitems := integral_array.mp hintegral
    have hless := depth_array_le.mp hdepth
    have hentries : entriesUpTo closeBracket (readVerbatim less)
        (joined (items.map bytes) ++ closeBracket :: rest) = .ok (items, rest) :=
      entriesUpTo_joined (.inl rfl) (fun v hv => opens_bytes (.inl rfl) (hitems v hv))
        (fun v hv _ hrest => ih v hv (hitems v hv) (hless v hv) hrest) rest
    rw [readVerbatim, atValue_eq_ok_iff]
    refine ⟨_, _, skipBlank_array items rest, ?_⟩
    rw [if_pos rfl, hentries]
    rfl
  | object members ih =>
    have hpos : 0 < depth := by
      rw [Json.depth] at hdepth
      omega
    obtain ⟨less, rfl⟩ := Nat.exists_eq_add_one.mpr hpos
    have hmembers := integral_object.mp hintegral
    have hless := depth_object_le.mp hdepth
    have hmember : ∀ m ∈ members, ∀ rest, EndsNumeral rest →
        memberOf (readVerbatim less) (memberBytes m ++ rest) = .ok (m, rest) :=
      fun m hm rest hrest => memberOf_eq_ok_iff.mpr ⟨_, memberName_memberBytes m rest,
        ih m hm (hmembers m hm) (hless m hm) hrest⟩
    have hentries : entriesUpTo closeBrace (memberOf (readVerbatim less))
        (joined (members.map memberBytes) ++ closeBrace :: rest) = .ok (members, rest) :=
      entriesUpTo_joined (.inr rfl) (fun m _ => opens_memberBytes (.inr rfl) m) hmember rest
    rw [readVerbatim, atValue_eq_ok_iff]
    refine ⟨_, _, skipBlank_object members rest, ?_⟩
    rw [if_neg (by decide), if_pos rfl, hentries]
    rfl

theorem verbatim_bytes (hintegral : Integral v) (hdepth : v.depth ≤ maxDepth) :
    verbatim (bytes v) = .ok v := by
  have hread := readVerbatim_bytes hintegral hdepth endsNumeral_nil
  rw [List.append_nil] at hread
  exact document_of_reader hread

/-! ## What readers make of values -/

/-- A view tells what a reader makes of a value that stands in a document. -/
def Tells (view : Json → Option α) (reader : Reader α) : Prop :=
  ∀ ⦃depth s v rest⦄, readVerbatim depth s = .ok (v, rest) → ∀ a left,
    reader s = .ok (a, left) ↔ left = rest ∧ view v = some a

/-- A view of values without parts tells what its reader makes of them. -/
theorem Views.tells {reader : Reader α} {view : Json → Option α} (h : Views reader view)
    (hsettle : ∀ v, view (settle v) = view v) : Tells view reader := by
  intro depth s v rest hv a left
  rw [h s.length depth s a left, readValue_of_readVerbatim hv (Nat.lt_succ_self _)]
  simp only [Except.ok.injEq, Prod.mk.injEq]
  constructor
  · rintro ⟨w, ⟨rfl, rfl⟩, hview⟩
    exact ⟨rfl, hsettle v ▸ hview⟩
  · rintro ⟨rfl, hview⟩
    exact ⟨settle v, ⟨rfl, rfl⟩, (hsettle v).trans hview⟩

theorem Tells.map {β : Type} {reader : Reader α} {view : Json → Option α} (h : Tells view reader)
    (f : α → β) :
    Tells (fun v => (view v).map f) fun s => (reader s).map fun (a, rest) => (f a, rest) := by
  intro depth s v rest hv b left
  rw [Option.map_eq_some_iff]
  constructor
  · intro hread
    obtain ⟨⟨a, after⟩, ha, heq⟩ := map_eq_ok hread
    cases heq
    obtain ⟨rfl, hview⟩ := (h hv _ _).mp ha
    exact ⟨rfl, a, hview, rfl⟩
  · rintro ⟨rfl, a, hview, rfl⟩
    simp only [(h hv _ _).mpr ⟨rfl, hview⟩, Except.map]

theorem tells_textValue : Tells asText textValue :=
  views_textValue.tells fun v => by cases v <;> rfl

theorem tells_optionalText : Tells asOptionalText optionalText :=
  views_optionalText.tells fun v => by cases v <;> rfl

/-- The items of a list, each in the view of one reader. -/
def asList (view : Json → Option α) : Json → Option (List α)
  | .array items => items.mapM view
  | _ => none

/-- The record in a value: a fold over the members of an object, or the items of an array in the
places of the fields. -/
def asRecord (roles : List (Role σ)) (default : σ) : Json → Option σ
  | .object members => (members.foldlM (takeMember roles) ([], default)).map (·.2)
  | .array items => takeItems roles default items
  | _ => none

/-- The record in an object is the one of which every place is filled from the members, where a
record is no more than its places show. -/
theorem asRecord_object_iff {roles : List (Role σ)} {default after : σ}
    {members : List (String × Json)} (h : Role.Apart roles)
    (hshown : ∀ a b : σ, (∀ role ∈ roles, role.shown a = role.shown b) → a = b) :
    asRecord roles default (.object members) = some after ↔
      ∀ role ∈ roles, role.Filled members default after := by
  rw [asRecord, Option.map_eq_some_iff]
  constructor
  · rintro ⟨⟨seen, state⟩, hfold, rfl⟩ role hrole
    exact (filled_of_foldlM h hfold role hrole).2
  · intro hfilled
    obtain ⟨seen, state, hfold⟩ := exists_foldlM default
      (fun name hnone => (List.not_mem_nil hnone).elim)
      (fun role hrole => (hfilled role hrole).holds.length_le)
      (fun role hrole => (hfilled role hrole).takes)
    have hsame : state = after := hshown _ _ fun role hrole =>
      (filled_of_foldlM h hfold role hrole).2.holds.unique (hfilled role hrole).holds
    exact ⟨(seen, state), hfold, hsame⟩

/-- A field has a role wherever a value stands in a document. -/
def Field.Acts (field : Field σ) (role : Role σ) : Prop :=
  field.name = role.name ∧
    ∀ state, Tells (fun v => (role.take v).map fun change => change state) (field.set state)

theorem Field.acts_of {reader : Reader α} {view : Json → Option α} (h : Tells view reader)
    (name : String) (put : σ → α → σ) (shown : σ → Json) :
    (Field.of name reader put).Acts (Role.of name view put shown) := by
  refine ⟨rfl, fun state => ?_⟩
  simp only [Role.of, Option.map_map]
  exact h.map (put state)

theorem Field.Acts.takesAt {field : Field σ} {role : Role σ} (h : field.Acts role)
    (hread : readVerbatim depth s = .ok (v, rest)) : field.TakesAt v s rest role := by
  refine ⟨h.1, fun state after left => ?_⟩
  rw [h.2 state hread, Option.map_eq_some_iff]
  simp only [@eq_comm _ after]

theorem tells_record {fields : List (Field σ)} {roles : List (Role σ)}
    (h : List.Forall₂ Field.Acts fields roles) (default : σ) :
    Tells (asRecord roles default) (record fields default) := by
  intro depth s v rest hv after left
  rcases readVerbatim_iff.mp hv with ⟨t, less, items, hblank, -, rfl, hspans, -⟩ |
    ⟨t, less, members, hblank, -, rfl, hspans, hcount⟩ | ⟨b, t, hblank, hother, hscalar⟩
  · have hitems : recordItems fields true default t = .ok (after, left) ↔
        left = rest ∧ takeItems roles default items = some after :=
      recordItems_of_spans (fun u v after hu => h.imp fun _ _ hacts => hacts.takesAt hu) hspans
    rw [record, atValue_eq_ok_iff, asRecord, ← hitems]
    constructor
    · rintro ⟨b, u, hcons, hread⟩
      obtain ⟨rfl, rfl⟩ := List.cons.inj (hblank.symm.trans hcons)
      rwa [if_neg (by decide), if_pos rfl] at hread
    · intro hread
      exact ⟨_, t, hblank, by rwa [if_neg (by decide), if_pos rfl]⟩
  · have hmember : ∀ before u m after, memberOf (readVerbatim less) u = .ok (m, after) →
        ∀ middle left, recordMember fields before u = .ok (middle, left) ↔
          left = after ∧ takeMember roles before m = some middle := by
      rintro before u ⟨name, v⟩ after hm middle left
      obtain ⟨colon, hname, hread⟩ := memberOf_eq_ok_iff.mp hm
      have hskip := (skipAny_of_readValue
        (readValue_of_readVerbatim hread (Nat.lt_succ_self _))).2
      exact recordMember_of_takesAt hname hskip (h.imp fun _ _ hacts => hacts.takesAt hread) before
        middle left
    rw [record_of_spans hmember hblank hspans (Nat.le_of_lt_succ hcount), asRecord,
      Option.map_eq_some_iff]
    simp
  · have hform := readScalar_not_nested hscalar
    refine iff_of_false (fun hread => ?_) ?_
    · obtain ⟨c, u, hcons, hread⟩ := atValue_eq_ok_iff.mp hread
      obtain ⟨rfl, rfl⟩ := List.cons.inj (hblank.symm.trans hcons)
      rw [if_neg hother.2, if_neg hother.1] at hread
      exact refuse_ne_ok _ hread
    · rintro ⟨-, hview⟩
      cases v with
      | array items => exact hform.1 items rfl
      | object members => exact hform.2 members rfl
      | _ => cases hview

/-! ## Documents -/

/-- What a reader makes of a document is told by the value that stands there. -/
theorem document_iff_of_tells {reader : Reader α} {view : Json → Option α} (h : Tells view reader)
    (hv : verbatim s = .ok v) {a : α} : document reader s = .ok a ↔ view v = some a := by
  obtain ⟨rest, hread, hend⟩ := document_eq_ok_iff.mp hv
  rw [document_eq_ok_iff]
  constructor
  · rintro ⟨left, ha, -⟩
    exact ((h hread _ _).mp ha).2
  · intro hview
    exact ⟨rest, (h hread _ _).mpr ⟨rfl, hview⟩, hend⟩

/-! ## Maps of texts -/

/-- A text is read exactly where a value is, if the value is this text. -/
theorem textValue_iff_verbatim {text : String} :
    textValue s = .ok (text, rest) ↔ readVerbatim depth s = .ok (.string text, rest) := by
  constructor
  · intro h
    obtain ⟨v, hv, hview⟩ := (views_textValue s.length depth s text rest).mp h
    cases asText_eq_some_iff.mp hview
    exact readVerbatim_of_scalar (by simp) hv
  · intro h
    exact (tells_textValue h text rest).mpr ⟨rfl, rfl⟩

/-- The members of a map of texts are those of an object whose values are the texts. -/
theorem spans_texts_iff {pairs : List (String × String)} :
    Spans closeBrace (memberOf textValue) true s pairs rest ↔
      Spans closeBrace (memberOf (readVerbatim depth)) true s
        (pairs.map fun m => (m.1, .string m.2)) rest := by
  refine Spans.map_iff ?_
  rintro t ⟨name, text⟩ after
  rw [memberOf_eq_ok_iff, memberOf_eq_ok_iff]
  exact exists_congr fun colon => and_congr_right fun _ => textValue_iff_verbatim

/-- A map of texts is the members that follow an opening brace. -/
theorem textMap_eq : textMap = atValue fun b t =>
    if b = openBrace then entriesUpTo closeBrace (memberOf textValue) t else refuse (b :: t) := by
  rw [textMap]
  refine congrArg atValue (funext fun b => funext fun t => ?_)
  refine if_congr Iff.rfl (congrArg (Except.map _) ?_) rfl
  refine congrArg (sequence closeBrace · (t.length + 1) true [] t) ?_
  funext kept u
  rw [memberOf]
  cases memberName readText u with
  | error e => rfl
  | ok named => cases hvalue : textValue named.2 <;> simp [hvalue, Except.map]

theorem textMap_iff_verbatim {pairs : List (String × String)} :
    textMap s = .ok (pairs, rest) ↔
      readVerbatim (depth + 1) s = .ok (.object (pairs.map fun m => (m.1, .string m.2)), rest) := by
  rw [textMap_eq, atValue_eq_ok_iff, readVerbatim_iff]
  constructor
  · rintro ⟨b, t, hblank, hread⟩
    split at hread
    · next hbrace =>
      obtain ⟨hspans, hcount⟩ := entriesUpTo_iff.mp hread
      exact .inr (.inl ⟨t, depth, _, hbrace ▸ hblank, rfl, rfl, spans_texts_iff.mp hspans,
        by rwa [List.length_map]⟩)
    · exact (refuse_ne_ok _ hread).elim
  · rintro (⟨_, _, _, -, -, hform, -⟩ | ⟨t, less, members, hblank, hless, hform, hspans, hcount⟩ |
      ⟨_, _, -, -, hscalar⟩)
    · cases hform
    · cases hless
      cases hform
      rw [List.length_map] at hcount
      refine ⟨openBrace, t, hblank, ?_⟩
      rw [if_pos rfl]
      exact entriesUpTo_iff.mpr ⟨spans_texts_iff.mpr hspans, hcount⟩
    · exact ((readScalar_not_nested hscalar).2 _ rfl).elim

/-- A map of texts is read from a document exactly if the document is an object, and the values of
its members, in their order, are the texts. -/
theorem document_textMap_iff {pairs : List (String × String)} :
    document textMap s = .ok pairs ↔
      verbatim s = .ok (.object (pairs.map fun m => (m.1, .string m.2))) := by
  rw [verbatim, document_eq_ok_iff, document_eq_ok_iff]
  exact exists_congr fun rest => and_congr_left fun _ => textMap_iff_verbatim

end IdentityTokens.Json
