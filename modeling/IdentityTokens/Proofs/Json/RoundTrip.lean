import IdentityTokens.Proofs.Json.Skipping
import IdentityTokens.Proofs.Json.Text
import IdentityTokens.Proofs.Json.Values
import IdentityTokens.Proofs.NameMap

/-!
# Reading values that were written

A value in which every number is whole is read from its octets as it was, as long as it is not
nested too deep, and what follows it is left. Only the order of members can differ: an object is
read with its members in the order of their names, each name once.

## Main definitions

* `Json.bytes`: the octets of a value.
* `Json.ReadsAs`: the octets of a value are read as some value.

## Main statements

* `Json.readsAs_array`, `Json.readsAs_object`: from the parts to the whole.
* `Json.readsAs_self`: values that have their members in order.
-/

namespace IdentityTokens.Json

variable {rest : List UInt8} {fuel d : Nat}

/-! ## Octets of values -/

/-- The octets of a value. -/
def bytes (v : Json) : List UInt8 := Utf8.encodeChars v.renderChars

/-- The octets of a member. -/
def memberBytes (m : String × Json) : List UInt8 := textBytes m.1 ++ colonOctet :: bytes m.2

theorem bytes_null : bytes .null = [0x6E, 0x75, 0x6C, 0x6C] := by decide

theorem bytes_true : bytes (.bool true) = [0x74, 0x72, 0x75, 0x65] := by decide

theorem bytes_false : bytes (.bool false) = [0x66, 0x61, 0x6C, 0x73, 0x65] := by decide

theorem bytes_integer (n : Int) : bytes (.number (.integer n)) = integerBytes n := rfl

theorem bytes_string (s : String) : bytes (.string s) = textBytes s := encodeChars_renderText s

theorem bytes_array (items : List Json) :
    bytes (.array items) = openBracket :: joined (items.map bytes) ++ [closeBracket] := by
  have hitems : Utf8.encodeChars (renderItems items) = joined (items.map bytes) := by
    induction items with
    | nil => rfl
    | cons v items ih =>
      cases items with
      | nil => simp [renderItems, joined, bytes]
      | cons w items =>
        rw [renderItems, Utf8.encodeChars_append, Utf8.encodeChars_cons, ih]
        simp [joined, bytes, Utf8.encodeChar, commaOctet]
  rw [bytes, renderChars, List.cons_append, Utf8.encodeChars_cons, Utf8.encodeChars_append, hitems]
  rfl

theorem encodeChars_member (name : String) (v : Json) :
    Utf8.encodeChars (renderText name ++ ':' :: renderChars v) = memberBytes (name, v) := by
  rw [Utf8.encodeChars_append, Utf8.encodeChars_cons, encodeChars_renderText]
  rfl

theorem bytes_object (members : List (String × Json)) :
    bytes (.object members) = openBrace :: joined (members.map memberBytes) ++ [closeBrace] := by
  have hmembers : Utf8.encodeChars (renderMembers members) =
      joined (members.map memberBytes) := by
    induction members with
    | nil => rfl
    | cons m members ih =>
      obtain ⟨name, v⟩ := m
      cases members with
      | nil =>
        rw [renderMembers, encodeChars_member]
        simp [joined]
      | cons m members =>
        rw [renderMembers, Utf8.encodeChars_append, encodeChars_member, Utf8.encodeChars_cons, ih]
        simp [joined, Utf8.encodeChar, commaOctet]
  rw [bytes, renderChars, List.cons_append, Utf8.encodeChars_cons, Utf8.encodeChars_append,
    hmembers]
  rfl

theorem bytes_array_append (items : List Json) (rest : List UInt8) :
    bytes (.array items) ++ rest =
      openBracket :: (joined (items.map bytes) ++ closeBracket :: rest) := by
  simp [bytes_array]

theorem bytes_object_append (members : List (String × Json)) (rest : List UInt8) :
    bytes (.object members) ++ rest =
      openBrace :: (joined (members.map memberBytes) ++ closeBrace :: rest) := by
  simp [bytes_object]

/-! ## First octets -/

theorem ne_of_isDigit {b c : UInt8} (hb : isDigit b = true) (hc : isDigit c = false) : b ≠ c := by
  rintro rfl
  rw [hb] at hc
  cases hc

theorem isBlankOctet_of_isDigit {b : UInt8} (h : isDigit b = true) : isBlankOctet b = false := by
  simp only [isBlankOctet, Bool.or_eq_false_iff, beq_eq_false_iff_ne]
  exact ⟨⟨⟨ne_of_isDigit h (by decide), ne_of_isDigit h (by decide)⟩,
    ne_of_isDigit h (by decide)⟩, ne_of_isDigit h (by decide)⟩

theorem opens_of_isCloser {close b : UInt8} (hclose : IsCloser close)
    (hb : isBlankOctet b = false ∧ b ≠ closeBracket ∧ b ≠ closeBrace) (t : List UInt8) :
    Opens close (b :: t) := by
  obtain ⟨hblank, hbracket, hbrace⟩ := hb
  rcases hclose with rfl | rfl
  · exact ⟨b, t, rfl, hblank, hbracket⟩
  · exact ⟨b, t, rfl, hblank, hbrace⟩

theorem opens_bytes {close : UInt8} (hclose : IsCloser close) {v : Json} (hv : Integral v) :
    Opens close (bytes v) := by
  cases v with
  | null =>
    rw [bytes_null]
    exact opens_of_isCloser hclose (by decide) _
  | bool b =>
    cases b
    · rw [bytes_false]
      exact opens_of_isCloser hclose (by decide) _
    · rw [bytes_true]
      exact opens_of_isCloser hclose (by decide) _
  | number n =>
    cases n with
    | integer n =>
      obtain ⟨b, t, hcons, hb⟩ := integerBytes_eq_cons n
      rw [bytes_integer, hcons]
      refine opens_of_isCloser hclose ?_ t
      rcases hb with rfl | hb
      · decide
      · exact ⟨isBlankOctet_of_isDigit hb, ne_of_isDigit hb (by decide),
          ne_of_isDigit hb (by decide)⟩
    | fraction negative x => exact absurd hv (by simp [Integral])
  | string s =>
    rw [bytes_string]
    exact opens_of_isCloser hclose (by decide) _
  | array items =>
    rw [bytes_array]
    exact opens_of_isCloser hclose (by decide) _
  | object members =>
    rw [bytes_object]
    exact opens_of_isCloser hclose (by decide) _

theorem opens_memberBytes {close : UInt8} (hclose : IsCloser close) (m : String × Json) :
    Opens close (memberBytes m) :=
  opens_of_isCloser hclose (by decide) _

/-! ## Names -/

theorem textBytes_append (name : String) (rest : List UInt8) :
    textBytes name ++ rest = quoteOctet :: (bodyOctets name.toList ++ quoteOctet :: rest) := by
  simp [textBytes]

theorem quotedName_textBytes (name : String) (rest : List UInt8) :
    quotedName readText (textBytes name ++ rest) = .ok (name, rest) := by
  rw [textBytes_append, quotedName, if_pos rfl, readText_quoted]

theorem nameColon_colon (rest : List UInt8) : nameColon (colonOctet :: rest) = .ok rest := by
  simp [nameColon, skipBlank, isBlankOctet, colonOctet]

theorem memberName_memberBytes (m : String × Json) (rest : List UInt8) :
    memberName readText (memberBytes m ++ rest) = .ok (m.1, bytes m.2 ++ rest) := by
  rw [memberBytes, List.append_assoc, memberName, quotedName_textBytes]
  simp only [List.cons_append, nameColon_colon, Except.map]

/-! ## Bounds -/

theorem length_le_flatMap {w : List UInt8} {words : List (List UInt8)} (h : w ∈ words) :
    w.length ≤ (words.flatMap (commaOctet :: ·)).length := by
  induction words with
  | nil => cases h
  | cons x words ih =>
    rw [List.flatMap_cons, List.length_append, List.length_cons]
    rcases List.mem_cons.mp h with rfl | h
    · omega
    · have hle := ih h
      omega

theorem length_le_joined {w : List UInt8} {words : List (List UInt8)} (h : w ∈ words) :
    w.length ≤ (joined words).length := by
  cases words with
  | nil => cases h
  | cons x words =>
    rw [joined, List.length_append]
    rcases List.mem_cons.mp h with rfl | h
    · omega
    · have hle := length_le_flatMap h
      omega

/-- There are no more entries than octets of them, as none is empty. -/
theorem count_le_joined (words : List (List UInt8)) (h : ∀ w ∈ words, w ≠ []) :
    words.length ≤ (joined words).length := by
  cases words with
  | nil => simp
  | cons w words =>
    have hfirst := List.length_pos_iff.mpr (h w (by simp))
    have hmore : ∀ words : List (List UInt8),
        words.length ≤ (words.flatMap (commaOctet :: ·)).length := by
      intro words
      induction words with
      | nil => simp
      | cons x words ih =>
        rw [List.flatMap_cons, List.length_append, List.length_cons, List.length_cons]
        omega
    have hle := hmore words
    rw [joined, List.length_append, List.length_cons]
    omega

theorem length_bytes_le_of_mem {members : List (String × Json)} {m : String × Json}
    (h : m ∈ members) : (bytes m.2).length ≤ (joined (members.map memberBytes)).length := by
  have hle := length_le_joined (List.mem_map_of_mem (f := memberBytes) h)
  rw [memberBytes, List.length_append, List.length_cons] at hle
  omega

theorem skipBlank_array (items : List Json) (rest : List UInt8) :
    skipBlank (bytes (.array items) ++ rest) =
      openBracket :: (joined (items.map bytes) ++ closeBracket :: rest) := by
  rw [bytes_array_append, skipBlank]
  rfl

theorem skipBlank_object (members : List (String × Json)) (rest : List UInt8) :
    skipBlank (bytes (.object members) ++ rest) =
      openBrace :: (joined (members.map memberBytes) ++ closeBrace :: rest) := by
  rw [bytes_object_append, skipBlank]
  rfl

/-- A bound on the work for an array leaves one for its items, and for how many they are. -/
theorem less_of_array {items : List Json} (hintegral : ∀ v ∈ items, Integral v)
    (h : (bytes (.array items)).length ≤ fuel) :
    ∃ less, fuel = less + 1 ∧ (∀ v ∈ items, (bytes v).length ≤ less) ∧
      (items.map bytes).length < less := by
  rw [bytes_array, List.length_append, List.length_cons, List.length_singleton] at h
  refine ⟨fuel - 1, by omega, ?_, ?_⟩
  · intro v hv
    have hle := length_le_joined (List.mem_map_of_mem (f := bytes) hv)
    omega
  · have hle := count_le_joined (items.map bytes) fun w hw => by
      obtain ⟨v, hv, rfl⟩ := List.mem_map.mp hw
      obtain ⟨b, t, hcons, -, -⟩ := opens_bytes (.inl rfl) (hintegral v hv)
      simp [hcons]
    omega

/-- A bound on the work for an object leaves one for its members in the same way. -/
theorem less_of_object {members : List (String × Json)}
    (h : (bytes (.object members)).length ≤ fuel) :
    ∃ less, fuel = less + 1 ∧ (∀ m ∈ members, (bytes m.2).length ≤ less) ∧
      (members.map memberBytes).length < less := by
  rw [bytes_object, List.length_append, List.length_cons, List.length_singleton] at h
  refine ⟨fuel - 1, by omega, ?_, ?_⟩
  · intro m hm
    have hle := length_bytes_le_of_mem hm
    omega
  · have hle := count_le_joined (members.map memberBytes) fun w hw => by
      obtain ⟨m, -, rfl⟩ := List.mem_map.mp hw
      simp [memberBytes]
    omega

/-! ## Reading back -/

/-- The octets of a value are read as a value, where the bounds on depth and work are kept and what
follows cannot continue a numeral. -/
def ReadsAs (v w : Json) : Prop :=
  ∀ ⦃fuel d : Nat⦄ ⦃rest : List UInt8⦄, depth v ≤ d → (bytes v).length ≤ fuel → EndsNumeral rest →
    readValue fuel d (bytes v ++ rest) = .ok (w, rest)

/-- A value without parts is read where its scalar is. -/
theorem readsAs_of_readScalar {v : Json} {b : UInt8} {t : List UInt8} (hbytes : bytes v = b :: t)
    (hb : isBlankOctet b = false ∧ b ≠ openBracket ∧ b ≠ openBrace)
    (hread : ∀ rest, EndsNumeral rest → readScalar (b :: (t ++ rest)) = .ok (v, rest)) :
    ReadsAs v v := by
  intro fuel d rest _ hfuel hrest
  rw [hbytes, List.length_cons] at hfuel
  obtain ⟨fuel, rfl⟩ := Nat.exists_eq_add_one.mpr (by omega : 0 < fuel)
  have hskip : skipBlank (bytes v ++ rest) = b :: (t ++ rest) := by
    simp [hbytes, skipBlank, hb.1]
  rw [readValue_scalar hskip hb.2.1 hb.2.2, hread rest hrest]

theorem readsAs_null : ReadsAs .null .null :=
  readsAs_of_readScalar bytes_null (by decide) fun _ _ => rfl

theorem readsAs_bool (b : Bool) : ReadsAs (.bool b) (.bool b) := by
  cases b
  · exact readsAs_of_readScalar bytes_false (by decide) fun _ _ => rfl
  · exact readsAs_of_readScalar bytes_true (by decide) fun _ _ => rfl

theorem readsAs_string (s : String) : ReadsAs (.string s) (.string s) := by
  refine readsAs_of_readScalar (bytes_string s) (by decide) fun rest _ => ?_
  have hread := readText_quoted s rest
  change (readText (bodyOctets s.toList ++ [quoteOctet] ++ rest)).map _ = _
  rw [List.append_assoc, List.singleton_append, hread]
  rfl

theorem readsAs_integer {n : Int} (hn : IsWhole n) :
    ReadsAs (.number (.integer n)) (.number (.integer n)) := by
  obtain ⟨b, t, hcons, hb⟩ := integerBytes_eq_cons n
  have hkind : b = minusOctet ∨ isDigit b := hb
  have hother : isBlankOctet b = false ∧ b ≠ openBracket ∧ b ≠ openBrace ∧ b ≠ 0x6E ∧
      b ≠ 0x74 ∧ b ≠ 0x66 ∧ b ≠ quoteOctet := by
    rcases hb with rfl | hb
    · decide
    · exact ⟨isBlankOctet_of_isDigit hb, ne_of_isDigit hb (by decide),
        ne_of_isDigit hb (by decide), ne_of_isDigit hb (by decide), ne_of_isDigit hb (by decide),
        ne_of_isDigit hb (by decide), ne_of_isDigit hb (by decide)⟩
  obtain ⟨hblank, hbracket, hbrace, hn', ht', hf', hquote⟩ := hother
  refine readsAs_of_readScalar hcons ⟨hblank, hbracket, hbrace⟩ fun rest hrest => ?_
  have hread := readNumber_digits hn hrest
  rw [hcons, List.cons_append] at hread
  rw [readScalar, if_neg hn', if_neg ht', if_neg hf', if_neg hquote, if_pos hkind, hread]
  rfl

/-- The items of an array are taken one after the other, and stand in reverse order after it. -/
theorem feeds_items {items : List Json} (hd : ∀ v ∈ items, depth v ≤ d)
    (hfuel : ∀ v ∈ items, (bytes v).length ≤ fuel) (hopens : ∀ v ∈ items, Integral v)
    (hreads : ∀ v ∈ items, ReadsAs v v) (acc : List Json) :
    Feeds closeBracket (nextItem fuel d) acc (items.map bytes) (items.reverse ++ acc) := by
  induction items generalizing acc with
  | nil => exact .nil acc
  | cons v items ih =>
    have hmore := ih (fun w hw => hd w (by simp [hw])) (fun w hw => hfuel w (by simp [hw]))
      (fun w hw => hopens w (by simp [hw])) (fun w hw => hreads w (by simp [hw])) (v :: acc)
    rw [List.reverse_cons, List.append_assoc]
    refine .cons (opens_bytes (.inl rfl) (hopens v (by simp))) (fun rest hrest => ?_) hmore
    rw [nextItem, hreads v (by simp) (hd v (by simp)) (hfuel v (by simp)) hrest]
    rfl

/-- The members of an object are taken one after the other in the same way. -/
theorem feeds_members {members : List (String × Json)} (hd : ∀ m ∈ members, depth m.2 ≤ d)
    (hfuel : ∀ m ∈ members, (bytes m.2).length ≤ fuel) (hreads : ∀ m ∈ members, ReadsAs m.2 m.2)
    (acc : List (String × Json)) :
    Feeds closeBrace (nextMember fuel d) acc (members.map memberBytes)
      (members.reverse ++ acc) := by
  induction members generalizing acc with
  | nil => exact .nil acc
  | cons m members ih =>
    have hmore := ih (fun w hw => hd w (by simp [hw])) (fun w hw => hfuel w (by simp [hw]))
      (fun w hw => hreads w (by simp [hw])) (m :: acc)
    rw [List.reverse_cons, List.append_assoc]
    refine .cons (opens_memberBytes (.inr rfl) m) (fun rest hrest => ?_) hmore
    rw [nextMember, memberName_memberBytes]
    simp only [hreads m (by simp) (hd m (by simp)) (hfuel m (by simp)) hrest]
    rfl

theorem readsAs_array {items : List Json} (hintegral : ∀ v ∈ items, Integral v)
    (hreads : ∀ v ∈ items, ReadsAs v v) : ReadsAs (.array items) (.array items) := by
  intro fuel d rest hd hfuel _
  obtain ⟨fuel, rfl, hitem, hcount⟩ := less_of_array hintegral hfuel
  obtain ⟨d, rfl⟩ := Nat.exists_eq_add_one.mpr (by rw [depth] at hd; omega : 0 < d)
  have hfeeds := feeds_items (depth_array_le.mp hd) hitem hintegral hreads []
  rw [readValue_array (skipBlank_array items rest), sequence_joined (.inl rfl) hfeeds hcount]
  simp [Except.map]

/-- An object is read with its members in the order of their names. -/
theorem readsAs_object {members : List (String × Json)} (hreads : ∀ m ∈ members, ReadsAs m.2 m.2) :
    ReadsAs (.object members) (.object (NameMap.ofList members)) := by
  intro fuel d rest hd hfuel _
  obtain ⟨fuel, rfl, hmember, hcount⟩ := less_of_object hfuel
  obtain ⟨d, rfl⟩ := Nat.exists_eq_add_one.mpr (by rw [depth] at hd; omega : 0 < d)
  have hfeeds := feeds_members (depth_object_le.mp hd) hmember hreads []
  rw [readValue_object (skipBlank_object members rest), sequence_joined (.inr rfl) hfeeds hcount]
  simp [Except.map]

/-- A value that has its members in order and only whole numbers is read as it was. -/
theorem readsAs_self {v : Json} (hcanonical : Canonical v) (hintegral : Integral v) :
    ReadsAs v v := by
  induction v using inductionOn with
  | null => exact readsAs_null
  | bool b => exact readsAs_bool b
  | number n =>
    cases n with
    | integer n => exact readsAs_integer hintegral
    | fraction negative x => exact absurd hintegral (by simp [Integral])
  | string s => exact readsAs_string s
  | array items ih =>
    have hitems := integral_array.mp hintegral
    refine readsAs_array hitems fun v hv => ?_
    exact ih v hv (canonical_array.mp hcanonical v hv) (hitems v hv)
  | object members ih =>
    obtain ⟨hascending, hvalues⟩ := canonical_object.mp hcanonical
    have hreads := readsAs_object fun m hm =>
      ih m hm (hvalues m hm) (integral_object.mp hintegral m hm)
    rwa [NameMap.Ascending.ofList_eq hascending] at hreads

end IdentityTokens.Json
