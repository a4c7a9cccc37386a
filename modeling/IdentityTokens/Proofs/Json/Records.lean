import IdentityTokens.Json.Record
import IdentityTokens.Proofs.Json.RoundTrip

/-!
# Reading records that were written

A record is read from the octets of an object member by member: a field takes its value and changes
the record, and a value under a name that belongs to no field is passed over. What a field takes is
said field by field, so that a record with other fields needs other such statements and no other
proof.

## Main definitions

* `Json.Field.Takes`: a field turns a record into another one at a value.

## Main statements

* `Json.feeds_field`, `Json.feeds_others`: one member of a field, and members of no field.
* `Json.record_bytes`: a record from the members of an object.
* `Json.openObject_bytes`: the members of an object.
* `Json.listOf_bytes`: a list.
* `Json.parse_render`: a value from its text.
-/

namespace IdentityTokens.Json

variable {σ α : Type} {rest : List UInt8}

/-! ## Values of one shape -/

theorem atValue_cons {choose : UInt8 → List UInt8 → Except Fault (α × List UInt8)} {b : UInt8}
    (hb : isBlankOctet b = false) (s : List UInt8) : atValue choose (b :: s) = choose b s := by
  simp [atValue, skipBlank, hb]

theorem textValue_bytes (s : String) (rest : List UInt8) :
    textValue (bytes (.string s) ++ rest) = .ok (s, rest) := by
  rw [bytes_string, textBytes_append, textValue, atValue_cons (by decide), if_pos rfl,
    readText_quoted]

theorem optionalText_bytes (s : String) (rest : List UInt8) :
    optionalText (bytes (.string s) ++ rest) = .ok (some s, rest) := by
  have hread := textValue_bytes s rest
  rw [bytes_string, textBytes_append] at hread ⊢
  rw [optionalText, atValue_cons (by decide), if_neg (by decide), hread]
  rfl

theorem isWhole_of_fitsInt64 {n : Int} (h : Numeral.fitsInt64 n = true) : IsWhole n := by
  obtain ⟨hmin, hmax⟩ := Numeral.fitsInt64_iff.mp h
  exact ⟨hmin, by omega⟩

theorem int64Value_bytes {n : Int} (hn : Numeral.fitsInt64 n = true) (hrest : EndsNumeral rest) :
    int64Value (bytes (.number (.integer n)) ++ rest) = .ok (n, rest) := by
  obtain ⟨b, t, hcons, hb⟩ := integerBytes_eq_cons n
  have hblank : isBlankOctet b = false := by
    rcases hb with rfl | hb
    · decide
    · exact isBlankOctet_of_isDigit hb
  have hread := readNumber_digits (isWhole_of_fitsInt64 hn) hrest
  rw [bytes_integer, hcons, List.cons_append] at *
  rw [int64Value, atValue_cons hblank, if_pos hb, hread]
  simp only [hn, if_true]

/-! ## Fields -/

/-- At the octets of a value a field turns a record into another one. -/
def Field.Takes (field : Field σ) (v : Json) (state after : σ) : Prop :=
  ∀ ⦃rest : List UInt8⦄, EndsNumeral rest → field.set state (bytes v ++ rest) = .ok (after, rest)

theorem Field.takes_of {reader : Reader α} {v : Json} {a : α}
    (h : ∀ rest, EndsNumeral rest → reader (bytes v ++ rest) = .ok (a, rest)) (name : String)
    (put : σ → α → σ) (state : σ) : (Field.of name reader put).Takes v state (put state a) := by
  intro rest hrest
  simp only [Field.of, h rest hrest, Except.map]

theorem Field.takes_text (name s : String) (put : σ → String → σ) (state : σ) :
    (Field.of name textValue put).Takes (.string s) state (put state s) :=
  Field.takes_of (fun rest _ => textValue_bytes s rest) name put state

theorem Field.takes_optionalText (name s : String) (put : σ → Option String → σ) (state : σ) :
    (Field.of name optionalText put).Takes (.string s) state (put state (some s)) :=
  Field.takes_of (fun rest _ => optionalText_bytes s rest) name put state

theorem Field.takes_int64 {n : Int} (hn : Numeral.fitsInt64 n = true) (name : String)
    (put : σ → Int → σ) (state : σ) :
    (Field.of name int64Value put).Takes (.number (.integer n)) state (put state n) :=
  Field.takes_of (fun _ hrest => int64Value_bytes hn hrest) name put state

/-! ## Members -/

variable {fields : List (Field σ)} {seen : List String} {state after : σ}

/-- The member of a field that was not read before, with the members after it. -/
theorem feeds_field {name : String} {v : Json} {field : Field σ} {words : List (List UInt8)}
    {last : List String × σ} (hseen : name ∉ seen)
    (hfind : fields.find? (·.name == name) = some field) (htakes : field.Takes v state after)
    (hmore : Feeds closeBrace (recordMember fields) (name :: seen, after) words last) :
    Feeds closeBrace (recordMember fields) (seen, state) (memberBytes (name, v) :: words) last := by
  refine .cons (opens_memberBytes (.inr rfl) _) (fun rest hrest => ?_) hmore
  have hcontains : seen.contains name = false := by simpa using hseen
  rw [memberBytes, List.append_assoc, recordMember, quotedName_textBytes]
  simp only [hcontains, List.cons_append, nameColon_colon, hfind, htakes hrest, Except.map]
  rfl

theorem readAny_bytes {v w : Json} (hreads : ReadsAs v w) (hdepth : depth v ≤ maxDepth)
    (hrest : EndsNumeral rest) : readAny (bytes v ++ rest) = .ok (w, rest) := by
  refine hreads hdepth ?_ hrest
  rw [List.length_append]
  omega

/-- Members under names of no field, as long as their values can be read, change nothing. -/
theorem feeds_others {members : List (String × Json)}
    (hseen : ∀ m ∈ members, m.1 ∉ seen)
    (hfind : ∀ m ∈ members, fields.find? (·.name == m.1) = none)
    (hreads : ∀ m ∈ members, ∃ w, ReadsAs m.2 w)
    (hdepth : ∀ m ∈ members, depth m.2 ≤ maxDepth) (state : σ) :
    Feeds closeBrace (recordMember fields) (seen, state) (members.map memberBytes)
      (seen, state) := by
  induction members with
  | nil => exact .nil _
  | cons m members ih =>
    have hmore := ih (fun w hw => hseen w (by simp [hw])) (fun w hw => hfind w (by simp [hw]))
      (fun w hw => hreads w (by simp [hw])) (fun w hw => hdepth w (by simp [hw]))
    refine .cons (opens_memberBytes (.inr rfl) m) (fun rest hrest => ?_) hmore
    have hcontains : seen.contains m.1 = false := by simpa using hseen m (by simp)
    obtain ⟨w, hw⟩ := hreads m (by simp)
    have hskip := skipAny_of_readAny (readAny_bytes hw (hdepth m (by simp)) hrest)
    rw [memberBytes, List.append_assoc, recordMember, quotedName_textBytes]
    simp only [hcontains, List.cons_append, nameColon_colon, hfind m (by simp), hskip, Except.map]
    rfl

/-! ## Objects -/

/-- A record is read from the octets of an object whose members it takes one after the other. -/
theorem record_bytes {members : List (String × Json)} {default : σ}
    (h : Feeds closeBrace (recordMember fields) ([], default) (members.map memberBytes)
      (seen, after)) (rest : List UInt8) :
    record fields default (bytes (.object members) ++ rest) = .ok (after, rest) := by
  have hcount : (members.map memberBytes).length <
      (joined (members.map memberBytes) ++ closeBrace :: rest).length + 1 := by
    have hle := count_le_joined (members.map memberBytes) fun w hw => by
      obtain ⟨m, -, rfl⟩ := List.mem_map.mp hw
      simp [memberBytes]
    rw [List.length_append]
    omega
  rw [bytes_object_append, record, atValue_cons (by decide), if_pos rfl,
    sequence_joined (.inr rfl) h hcount]
  rfl

theorem checked_of_read {reader : Reader σ} {check : σ → Option α} {s : List UInt8} {a : α}
    (hread : reader s = .ok (state, rest)) (hcheck : check state = some a) :
    checked reader check s = .ok (a, rest) := by
  simp only [checked, hread, hcheck]

theorem openObject_bytes {members read : List (String × Json)}
    (hreads : ReadsAs (.object members) (.object read))
    (hdepth : depth (.object members) ≤ maxDepth) (hrest : EndsNumeral rest) :
    openObject (bytes (.object members) ++ rest) = .ok (read, rest) := by
  have hany := readAny_bytes hreads hdepth hrest
  rw [bytes_object_append] at hany ⊢
  rw [openObject, atValue_cons (by decide), if_pos rfl, hany]

/-! ## Lists -/

/-- A list is read from the octets of an array whose items are read one by one. -/
theorem listOf_bytes {item : Reader α} {write : α → Json} {items : List α}
    (hintegral : ∀ a ∈ items, Integral (write a))
    (hreads : ∀ a ∈ items, ∀ rest, EndsNumeral rest →
      item (bytes (write a) ++ rest) = .ok (a, rest))
    (rest : List UInt8) :
    listOf item (bytes (.array (items.map write)) ++ rest) = .ok (items, rest) := by
  have hfeeds : ∀ acc : List α, Feeds closeBracket
      (fun taken s => (item s).map fun read => (read.1 :: taken, read.2)) acc
      ((items.map write).map bytes) (items.reverse ++ acc) := by
    induction items with
    | nil =>
      intro acc
      exact .nil acc
    | cons a items ih =>
      intro acc
      have hmore := ih (fun b hb => hintegral b (by simp [hb]))
        (fun b hb => hreads b (by simp [hb])) (a :: acc)
      rw [List.reverse_cons, List.append_assoc]
      refine .cons (opens_bytes (.inl rfl) (hintegral a (by simp))) (fun rest hrest => ?_) hmore
      rw [hreads a (by simp) rest hrest]
      rfl
  have hcount : ((items.map write).map bytes).length <
      (joined ((items.map write).map bytes) ++ closeBracket :: rest).length + 1 := by
    have hle := count_le_joined ((items.map write).map bytes) fun w hw => by
      obtain ⟨v, hv, rfl⟩ := List.mem_map.mp hw
      obtain ⟨a, ha, rfl⟩ := List.mem_map.mp hv
      obtain ⟨b, t, hcons, -, -⟩ := opens_bytes (.inl rfl) (hintegral a ha)
      simp [hcons]
    rw [List.length_append]
    omega
  have hloop := sequence_joined (.inl rfl) (hfeeds []) hcount rest
  rw [List.append_nil] at hloop
  rw [bytes_array_append, listOf, atValue_cons (by decide), if_pos rfl]
  refine (congrArg (Except.map fun read => (read.1.reverse, read.2)) hloop).trans ?_
  simp only [Except.map, List.reverse_reverse]

/-! ## Documents -/

/-- A document is what a reader takes when nothing is left. -/
theorem document_of_reader {reader : Reader α} {s : List UInt8} {a : α}
    (h : reader s = .ok (a, [])) : document reader s = .ok a := by
  rw [document, h]
  rfl

/-- A value that has its members in order is the value of its own text. -/
theorem parse_render {v : Json} (hcanonical : Canonical v) (hintegral : Integral v)
    (hdepth : depth v ≤ maxDepth) : parse (Utf8.encode v.render) = .ok v := by
  have hread := readAny_bytes (readsAs_self hcanonical hintegral) hdepth endsNumeral_nil
  have hoctets : Utf8.encode v.render = bytes v := by
    rw [Utf8.encode, render, String.toList_ofList, bytes]
  rw [List.append_nil] at hread
  rw [parse, hoctets, document_of_reader hread]

/-- An object with texts for values is the value of its own text if its members are in order. -/
theorem parse_render_texts {texts : List (String × String)} (h : texts.Pairwise (·.1 < ·.1)) :
    parse (Utf8.encode (Json.object (texts.map fun m => (m.1, .string m.2))).render) =
      .ok (.object (texts.map fun m => (m.1, .string m.2))) := by
  apply parse_render
  · refine canonical_object.mpr ⟨List.pairwise_map.mpr h, ?_⟩
    intro m hm
    obtain ⟨text, -, rfl⟩ := List.mem_map.mp hm
    exact trivial
  · refine integral_object.mpr ?_
    intro m hm
    obtain ⟨text, -, rfl⟩ := List.mem_map.mp hm
    exact trivial
  · refine depth_object_le.mpr ?_
    intro m hm
    obtain ⟨text, -, rfl⟩ := List.mem_map.mp hm
    exact Nat.zero_le _

end IdentityTokens.Json
