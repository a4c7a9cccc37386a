import IdentityTokens.Proofs.Token.Documents

/-!
# Values in segments

Any value can be written as a segment, but only values that are not nested too deep can be read
back. The items of an array and the members of an object are read from the left, so the reader goes
through all that is nested less deep, and stops at the bracket that is one too many.

## Main definitions

* `Json.RefusedBelow`: a value is refused where the bound on depth is below its own depth.

## Main statements

* `Json.refusedBelow_self`: values that have their members in order.
* `Segment.reads_back_unless_deep`: what comes back from the segment of a value.
-/

namespace IdentityTokens

namespace Json

variable {s t rest : List UInt8} {fuel d : Nat} {items : List Json}
  {members : List (String × Json)}

/-! ## The first part that is too deep -/

/-- If some entry exceeds a bound then there is a first one, with all before it within the bound. -/
theorem exists_first_above {α : Type} {f : α → Nat} {entries : List α}
    (h : ¬∀ a ∈ entries, f a ≤ d) :
    ∃ before a after, entries = before ++ a :: after ∧ (∀ b ∈ before, f b ≤ d) ∧ d < f a := by
  have hsome : (entries.find? fun a => d < f a).isSome := by
    simpa using h
  obtain ⟨a, hfind⟩ := Option.isSome_iff_exists.mp hsome
  obtain ⟨habove, before, after, hsplit, hbefore⟩ := List.find?_eq_some_iff_append.mp hfind
  exact ⟨before, a, after, hsplit, by simpa using hbefore, by simpa using habove⟩

/-! ## Reading up to it -/

/-- Where nothing more may be nested, an array or an object is refused at its bracket. -/
theorem readValue_exhausted {b : UInt8} (h : skipBlank s = b :: t)
    (hb : b = openBracket ∨ b = openBrace) :
    readValue (fuel + 1) 0 s = .error .malformed := by
  simp only [readValue, h, hb, if_true]

/-- The octets of a value are refused, where the bound on depth is below its own depth, the bound on
work is kept and what follows cannot continue a numeral. -/
def RefusedBelow (v : Json) : Prop :=
  ∀ ⦃fuel d : Nat⦄ ⦃rest : List UInt8⦄, d < depth v → (bytes v).length ≤ fuel → EndsNumeral rest →
    readValue fuel d (bytes v ++ rest) = .error .malformed

theorem refusedBelow_array (hintegral : ∀ v ∈ items, Integral v)
    (hreads : ∀ v ∈ items, ReadsAs v v) (hrefused : ∀ v ∈ items, RefusedBelow v) :
    RefusedBelow (.array items) := by
  intro fuel d rest hd hfuel _
  obtain ⟨fuel, rfl, hitem, hcount⟩ := less_of_array hintegral hfuel
  have hskip := skipBlank_array items rest
  cases d with
  | zero => exact readValue_exhausted hskip (.inl rfl)
  | succ d =>
    obtain ⟨before, v, after, rfl, hbefore, habove⟩ :=
      exists_first_above (mt depth_array_le.mpr (not_le.mpr hd))
    have hfeeds := feeds_items hbefore (fun w hw => hitem w (by simp [hw]))
      (fun w hw => hintegral w (by simp [hw])) (fun w hw => hreads w (by simp [hw])) []
    have hv : v ∈ before ++ v :: after := by simp
    -- All items before the first one that is too deep are read, and there the loop stops.
    have hfails : ∀ rest, EndsNumeral rest →
        nextItem fuel d (before.reverse ++ []) (bytes v ++ rest) = .error .malformed := by
      intro rest hrest
      rw [nextItem, hrefused v hv habove (hitem v hv) hrest]
      rfl
    have hopens := opens_bytes (.inl rfl) (hintegral v hv)
    rw [List.map_append, List.map_cons] at hcount hskip
    rw [List.length_append, List.length_cons] at hcount
    rw [readValue_array hskip,
      sequence_joined_error (.inl rfl) hfeeds hopens hfails (after.map bytes) (by omega) rest]
    rfl

theorem refusedBelow_object (hreads : ∀ m ∈ members, ReadsAs m.2 m.2)
    (hrefused : ∀ m ∈ members, RefusedBelow m.2) : RefusedBelow (.object members) := by
  intro fuel d rest hd hfuel _
  obtain ⟨fuel, rfl, hmember, hcount⟩ := less_of_object hfuel
  have hskip := skipBlank_object members rest
  cases d with
  | zero => exact readValue_exhausted hskip (.inr rfl)
  | succ d =>
    obtain ⟨before, m, after, rfl, hbefore, habove⟩ :=
      exists_first_above (mt depth_object_le.mpr (not_le.mpr hd))
    have hfeeds := feeds_members hbefore (fun w hw => hmember w (by simp [hw]))
      (fun w hw => hreads w (by simp [hw])) []
    have hm : m ∈ before ++ m :: after := by simp
    have hfails : ∀ rest, EndsNumeral rest →
        nextMember fuel d (before.reverse ++ []) (memberBytes m ++ rest) = .error .malformed := by
      intro rest hrest
      rw [nextMember, memberName_memberBytes]
      simp only [hrefused m hm habove (hmember m hm) hrest]
      rfl
    have hopens := opens_memberBytes (.inr rfl) m
    rw [List.map_append, List.map_cons] at hcount hskip
    rw [List.length_append, List.length_cons] at hcount
    rw [readValue_object hskip,
      sequence_joined_error (.inr rfl) hfeeds hopens hfails (after.map memberBytes) (by omega) rest]
    rfl

/-- A value that has its members in order and only whole numbers is refused below its depth. -/
theorem refusedBelow_self {v : Json} (hcanonical : Canonical v) (hintegral : Integral v) :
    RefusedBelow v := by
  induction v using inductionOn with
  | array items ih =>
    have hitems := integral_array.mp hintegral
    have hordered := canonical_array.mp hcanonical
    exact refusedBelow_array hitems (fun v hv => readsAs_self (hordered v hv) (hitems v hv))
      fun v hv => ih v hv (hordered v hv) (hitems v hv)
  | object members ih =>
    have hmembers := integral_object.mp hintegral
    obtain ⟨-, hordered⟩ := canonical_object.mp hcanonical
    exact refusedBelow_object (fun m hm => readsAs_self (hordered m hm) (hmembers m hm))
      fun m hm => ih m hm (hordered m hm) (hmembers m hm)
  | null => exact fun _ _ _ hd => absurd hd (Nat.not_lt_zero _)
  | bool b => exact fun _ _ _ hd => absurd hd (Nat.not_lt_zero _)
  | number n => exact fun _ _ _ hd => absurd hd (Nat.not_lt_zero _)
  | string s => exact fun _ _ _ hd => absurd hd (Nat.not_lt_zero _)

/-- The document of a value that has its members in order and only whole numbers. -/
theorem document_bytes {v : Json} (hcanonical : Canonical v) (hintegral : Integral v) :
    document readAny (bytes v) = if depth v ≤ maxDepth then .ok v else .error .malformed := by
  split
  · next hdepth =>
    have hread := readAny_bytes (readsAs_self hcanonical hintegral) hdepth endsNumeral_nil
    rw [List.append_nil] at hread
    exact document_of_reader hread
  · next hdepth =>
    have hread := refusedBelow_self hcanonical hintegral (not_le.mp hdepth)
      (Nat.le_succ (bytes v).length) endsNumeral_nil
    rw [List.append_nil] at hread
    rw [document, readAny, hread]

end Json

/-! ## Segments -/

namespace Segment

/-- **A value comes back from its segment exactly as it was unless it is nested more than 127
deep**: then the segment is refused as no JSON. The value may be any, of any size, with its members
in the order in which maps keep them, as long as its numbers are whole and of the range that is
kept. -/
theorem reads_back_unless_deep {v : Json} (hcanonical : Json.Canonical v)
    (hintegral : Json.Integral v) :
    decodeJson Json.readAny (encodeJson v) =
      if Json.depth v ≤ 127 then .ok v else .error (.json .malformed) := by
  have hdecode : decode (encodeJson v) = .ok v.bytes := decode_encode _
  rw [decodeJson, hdecode]
  by_cases hdepth : Json.depth v ≤ 127
  · simp only [readOctets, Json.document_bytes hcanonical hintegral, Json.maxDepth, hdepth,
      if_true]
  · simp only [readOctets, Json.document_bytes hcanonical hintegral, Json.maxDepth, hdepth,
      if_false]

/-- The greatest whole number, in so many objects of one member. -/
def Sample.tower : Nat → Json
  | 0 => .number (.integer 18446744073709551615)
  | n + 1 => .object [("\n", tower n)]

open Segment.Sample (tower)

theorem canonical_tower (n : Nat) : (tower n).Canonical := by
  induction n with
  | zero => exact trivial
  | succ n ih => exact Json.canonical_object.mpr ⟨by simp, by simpa using ih⟩

theorem integral_tower (n : Nat) : (tower n).Integral := by
  induction n with
  | zero => exact ⟨by decide, by decide⟩
  | succ n ih => exact Json.integral_object.mpr (by simpa using ih)

theorem depth_tower (n : Nat) : (tower n).depth = n := by
  induction n with
  | zero => rfl
  | succ n ih => simp [tower, Json.depth, Json.depthMembers, ih]

/-- The greatest whole number comes back from 127 objects and not from 128. -/
theorem reads_back_unless_deep_tower :
    ((tower 127).Canonical ∧ (tower 127).Integral ∧
      decodeJson Json.readAny (encodeJson (tower 127)) = .ok (tower 127)) ∧
    (tower 128).Canonical ∧ (tower 128).Integral ∧
      decodeJson Json.readAny (encodeJson (tower 128)) = .error (.json .malformed) := by
  have hback := reads_back_unless_deep (canonical_tower 127) (integral_tower 127)
  have hdeep := reads_back_unless_deep (canonical_tower 128) (integral_tower 128)
  rw [depth_tower] at hback hdeep
  exact ⟨⟨canonical_tower 127, integral_tower 127, hback⟩, canonical_tower 128,
    integral_tower 128, hdeep⟩

end Segment

end IdentityTokens
