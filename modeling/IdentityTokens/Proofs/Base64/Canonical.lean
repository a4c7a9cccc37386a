import IdentityTokens.Proofs.Base64.RoundTrip
import IdentityTokens.Proofs.Text.Utf8
import Mathlib.Data.List.DropRight

/-!
# Which texts are read as base64

What was written is read back; here is the other half: nothing else is read. A text that is read is
the text that was written of its octets, with no more padding after it than the reader allows. So
octets have one text, up to the padding, and two texts that are read differ in their octets as soon
as they differ in more than their padding.

## Main definitions

* `Base64.Alphabet.Exact`: no octet but that of its symbol has a value.
* `Segment.symbols`: the symbols of segments.
* `Segment.unpadded`: a segment without the padding at its end.

## Main statements

* `Base64.decode_eq_ok_iff`, `Base64.decodeText_eq_ok_iff`: which texts are read, and as what.
* `Segment.decode_eq_ok_iff`: the same for segments, with the padding by numbers.
* `Segment.reads_exactly_written`: all of it for segments.
-/

namespace IdentityTokens

namespace Base64

/-! ## Alphabets -/

/-- An alphabet in which an octet has a value only where it is the octet of the value's symbol. -/
def Alphabet.Exact (a : Alphabet) : Prop :=
  ∀ octet v, a.value? octet = some v → v < 64 ∧ a.octet v = octet

theorem exact_urlSafe : urlSafe.Exact := by
  have hall : ∀ n < 256, ∀ v ∈ urlSafe.value? (UInt8.ofNat n),
      v < 64 ∧ urlSafe.octet v = UInt8.ofNat n := by
    decide +kernel
  intro octet v hv
  have hoctet := hall octet.toNat octet.toNat_lt v
  rw [UInt8.ofNat_toNat] at hoctet
  exact hoctet hv

variable {a : Alphabet} {padding : Padding}

theorem Alphabet.Exact.of_valueAt (ha : a.Exact) {offset v : Nat} {octet : UInt8}
    (h : valueAt a offset octet = .ok v) : v < 64 ∧ a.octet v = octet := by
  refine ha octet v ?_
  rw [valueAt] at h
  split at h
  · next hv =>
    cases h
    exact hv
  · cases h

/-! ## The last group -/

/-- After a padding sign there are only padding signs. -/
theorem eq_pads_of_readTail {base index first : Nat} {octets : List UInt8} {values : List Nat}
    {pads : Nat} (h : readTail a base index (some first) octets = .ok (values, pads)) :
    values = [] ∧ octets = List.replicate pads padOctet := by
  induction octets generalizing index first values pads with
  | nil =>
    cases h
    exact ⟨rfl, rfl⟩
  | cons octet octets ih =>
    simp only [readTail] at h
    split at h
    · next hpad =>
      split at h
      · cases h
      · cases hmore : readTail a base (index + 1) (some first) octets with
        | error e => simp [hmore, Except.map] at h
        | ok read =>
          obtain ⟨more, rest⟩ := read
          simp only [Option.getD_some, hmore, Except.map, Except.ok.injEq, Prod.mk.injEq] at h
          obtain ⟨rfl, rfl⟩ := h
          obtain ⟨rfl, rfl⟩ := ih hmore
          exact ⟨rfl, by rw [hpad, List.replicate_succ]⟩
    · cases h

/-- A last group that is read consists of the symbols of its values and of padding signs, the first
of which is the third sign of the group at least. -/
theorem eq_octets_of_readTail (ha : a.Exact) {base index : Nat} {octets : List UInt8}
    {values : List Nat} {pads : Nat}
    (h : readTail a base index none octets = .ok (values, pads)) :
    (∀ v ∈ values, v < 64) ∧ octets = values.map a.octet ++ List.replicate pads padOctet := by
  induction octets generalizing index values pads with
  | nil =>
    cases h
    exact ⟨by simp, rfl⟩
  | cons octet octets ih =>
    simp only [readTail] at h
    split at h
    · next hpad =>
      split at h
      · cases h
      · cases hmore : readTail a base (index + 1) (some index) octets with
        | error e => simp [hmore, Except.map] at h
        | ok read =>
          obtain ⟨more, rest⟩ := read
          simp only [Option.getD_none, hmore, Except.map, Except.ok.injEq, Prod.mk.injEq] at h
          obtain ⟨rfl, rfl⟩ := h
          obtain ⟨rfl, rfl⟩ := eq_pads_of_readTail hmore
          exact ⟨by simp, by rw [hpad, List.replicate_succ]; rfl⟩
    · cases hvalue : valueAt a (base + index) octet with
      | error e => simp [hvalue] at h
      | ok v =>
        cases hmore : readTail a base (index + 1) none octets with
        | error e => simp [hvalue, hmore, Except.map] at h
        | ok read =>
          obtain ⟨more, rest⟩ := read
          simp only [hvalue, hmore, Except.map, Except.ok.injEq, Prod.mk.injEq] at h
          obtain ⟨rfl, rfl⟩ := h
          obtain ⟨hlt, rfl⟩ := ha.of_valueAt hvalue
          obtain ⟨hmorelt, rfl⟩ := ih hmore
          exact ⟨by simpa [hlt] using hmorelt, rfl⟩

/-- Three octets made of four values have these values. -/
theorem sextets_cons {u v w x : Nat} (hu : u < 64) (hv : v < 64) (hw : w < 64) (hx : x < 64)
    (octets : List UInt8) :
    sextets (UInt8.ofNat (u * 4 + v / 16) :: UInt8.ofNat (v % 16 * 16 + w / 4) ::
      UInt8.ofNat (w % 4 * 64 + x) :: octets) = u :: v :: w :: x :: sextets octets := by
  simp only [sextets, List.cons.injEq]
  rw [Utf8.toNat_octet (by omega), Utf8.toNat_octet (by omega), Utf8.toNat_octet (by omega)]
  refine ⟨by omega, by omega, by omega, by omega, trivial⟩

/-- The octets of a last group have its values, of which there are as many as the octets need. -/
theorem sextets_of_tailOctets {base : Nat} {values : List Nat} {octets : List UInt8}
    (hvalues : ∀ v ∈ values, v < 64) (h : tailOctets a base values = .ok octets) :
    values = sextets octets ∧ values.length = octets.length + 1 ∧ octets.length ≤ 3 := by
  rw [tailOctets.eq_def] at h
  split at h
  · next u v =>
    obtain ⟨hu, hv⟩ : u < 64 ∧ v < 64 := by simpa using hvalues
    split at h
    · next hbits =>
      cases h
      refine ⟨?_, rfl, by simp⟩
      simp only [sextets, List.cons.injEq]
      rw [Utf8.toNat_octet (by omega)]
      refine ⟨by omega, by omega, trivial⟩
    · cases h
  · next u v w =>
    obtain ⟨hu, hv, hw⟩ : u < 64 ∧ v < 64 ∧ w < 64 := by simpa using hvalues
    split at h
    · next hbits =>
      cases h
      refine ⟨?_, rfl, by simp⟩
      simp only [sextets, List.cons.injEq]
      rw [Utf8.toNat_octet (by omega), Utf8.toNat_octet (by omega)]
      refine ⟨by omega, by omega, by omega, trivial⟩
    · cases h
  · next u v w x =>
    obtain ⟨hu, hv, hw, hx⟩ : u < 64 ∧ v < 64 ∧ w < 64 ∧ x < 64 := by simpa using hvalues
    cases h
    exact ⟨(sextets_cons hu hv hw hx []).symm, rfl, by simp⟩
  · cases h

theorem eq_of_decodeTail (ha : a.Exact) {base : Nat} {tail octets : List UInt8}
    (hfour : tail.length ≤ 4) (h : decodeTail a padding base tail = .ok octets) :
    ∃ pads, padding.Allows octets pads ∧
      tail = (sextets octets).map a.octet ++ List.replicate pads padOctet := by
  cases tail with
  | nil =>
    cases h
    exact ⟨0, ⟨Nat.zero_le _, fun _ => rfl⟩, rfl⟩
  | cons octet tail =>
    simp only [decodeTail] at h
    split at h
    · cases h
    · next values pads hread =>
      split at h
      · cases h
      · next htwo =>
        split at h
        · cases h
        · next hcomplete =>
          obtain ⟨hlt, htail⟩ := eq_octets_of_readTail ha hread
          obtain ⟨rfl, hlength, hthree⟩ := sextets_of_tailOctets hlt h
          have hsum : octets.length + 1 + pads ≤ 4 := by
            rw [htail, List.length_append, List.length_map, List.length_replicate] at hfour
            omega
          refine ⟨pads, ⟨by omega, fun hrequired => ?_⟩, htail⟩
          have hfull : (octets.length + 1 + pads) % 4 = 0 := by
            by_contra hpartial
            exact hcomplete ⟨hrequired, by rwa [hlength]⟩
          omega

/-! ## Whole texts -/

/-- Reading goes group by group, and each group that is read is the one that was written. -/
theorem eq_of_decodeFrom (ha : a.Exact) {base : Nat} {symbols octets : List UInt8}
    (h : decodeFrom a padding base symbols = .ok octets) :
    ∃ pads, padding.Allows octets pads ∧
      symbols = (sextets octets).map a.octet ++ List.replicate pads padOctet := by
  fun_induction decodeFrom a padding base symbols generalizing octets with
  | case1 => cases h
  | case2 => cases h
  | case3 => cases h
  | case4 => cases h
  | case5 base p q r s t rest u v w x hs hr hq hp ih =>
    cases hmore : decodeFrom a padding (base + 4) (t :: rest) with
    | error e => simp [hmore, Except.map] at h
    | ok more =>
      simp only [hmore, Except.map, Except.ok.injEq] at h
      subst h
      obtain ⟨pads, hpads, hrest⟩ := ih hmore
      obtain ⟨hu, rfl⟩ := ha.of_valueAt hp
      obtain ⟨hv, rfl⟩ := ha.of_valueAt hq
      obtain ⟨hw, rfl⟩ := ha.of_valueAt hr
      obtain ⟨hx, rfl⟩ := ha.of_valueAt hs
      refine ⟨pads, Padding.allows_cons_iff.mpr hpads, ?_⟩
      rw [sextets_cons hu hv hw hx, hrest]
      rfl
  | case6 base tail hshort =>
    refine eq_of_decodeTail ha ?_ h
    rcases tail with _ | ⟨p, _ | ⟨q, _ | ⟨r, _ | ⟨s, _ | ⟨t, rest⟩⟩⟩⟩⟩
    · simp
    · simp
    · simp
    · simp
    · simp
    · exact (hshort p q r s t rest rfl).elim

/-- A text is read as certain octets exactly when it is theirs, with padding that is allowed. -/
theorem decode_eq_ok_iff (hfaithful : a.Faithful) (hexact : a.Exact)
    {symbols octets : List UInt8} :
    decode a padding symbols = .ok octets ↔
      ∃ pads, padding.Allows octets pads ∧
        symbols = (sextets octets).map a.octet ++ List.replicate pads padOctet := by
  constructor
  · intro h
    rw [decode] at h
    split at h
    · cases h
    · exact eq_of_decodeFrom hexact h
  · rintro ⟨pads, hpads, rfl⟩
    exact decode_octets_sextets hfaithful hpads

/-- The same for texts: what is not written in the alphabet is not read. -/
theorem decodeText_eq_ok_iff (hfaithful : a.Faithful) (hexact : a.Exact) {s : String}
    {octets : List UInt8} :
    decodeText a padding s = .ok octets ↔
      ∃ pads, padding.Allows octets pads ∧
        s = String.ofList (encode a octets ++ List.replicate pads '=') := by
  constructor
  · intro h
    obtain ⟨pads, hpads, hsymbols⟩ := (decode_eq_ok_iff hfaithful hexact).mp h
    refine ⟨pads, hpads, Utf8.encode_injective ?_⟩
    rw [hsymbols, Utf8.encode, String.toList_ofList, Utf8.encodeChars_append,
      encodeChars_encode hfaithful, encodeChars_padding]
  · rintro ⟨pads, hpads, rfl⟩
    exact decodeText_encode_append hfaithful hpads

end Base64

namespace Segment

/-! ## Segments -/

/-- The symbols of segments, in the order of their values. -/
def symbols : List Char :=
  "ABCDEFGHIJKLMNOPQRSTUVWXYZabcdefghijklmnopqrstuvwxyz0123456789-_".toList

/-- A segment without the padding at its end. -/
def unpadded (segment : String) : String := String.ofList (segment.toList.rdropWhile (· == '='))

theorem mem_symbols_of_mem_encode {octets : List UInt8} {c : Char}
    (h : c ∈ (encode octets).toList) : c ∈ symbols := by
  have hall : ∀ v < 64, Base64.urlSafe.symbol v ∈ symbols := by decide +kernel
  rw [encode, String.toList_ofList, Base64.encode_eq_map_sextets] at h
  obtain ⟨v, hv, rfl⟩ := List.mem_map.mp h
  exact hall v (Base64.lt_of_mem_sextets hv)

theorem length_encode (octets : List UInt8) :
    (encode octets).length = (4 * octets.length + 2) / 3 := by
  rw [encode, String.length_ofList, Base64.encode_eq_map_sextets, List.length_map,
    Base64.length_sextets]

/-- How much padding a segment may have, by the number of its symbols. -/
theorem allows_iff {octets : List UInt8} {pads : Nat} :
    Base64.Padding.optional.Allows octets pads ↔
      pads = 0 ∨ (encode octets).length % 4 = 2 ∧ pads ≤ 2 ∨
        (encode octets).length % 4 = 3 ∧ pads = 1 := by
  have hallows : Base64.Padding.optional.Allows octets pads ↔
      pads ≤ (3 - octets.length % 3) % 3 :=
    ⟨fun h => h.le, fun h => ⟨h, fun hrequired => by cases hrequired⟩⟩
  have hlast : octets.length % 3 = 0 ∨ octets.length % 3 = 1 ∨ octets.length % 3 = 2 := by omega
  rw [hallows, length_encode]
  rcases hlast with hlast | hlast | hlast
  · have hsymbols : (4 * octets.length + 2) / 3 % 4 = 0 := by omega
    rw [hlast, hsymbols]
    omega
  · have hsymbols : (4 * octets.length + 2) / 3 % 4 = 2 := by omega
    rw [hlast, hsymbols]
    omega
  · have hsymbols : (4 * octets.length + 2) / 3 % 4 = 3 := by omega
    rw [hlast, hsymbols]
    omega

/-- A segment is read as certain octets exactly when it is theirs, with padding that completes its
last group or less. -/
theorem decode_eq_ok_iff {segment : String} {octets : List UInt8} :
    decode segment = .ok octets ↔
      ∃ pads, segment = encode octets ++ String.ofList (List.replicate pads '=') ∧
        (pads = 0 ∨ (encode octets).length % 4 = 2 ∧ pads ≤ 2 ∨
          (encode octets).length % 4 = 3 ∧ pads = 1) := by
  have hread : decode segment = .ok octets ↔
      Base64.decodeText Base64.urlSafe .optional segment = .ok octets := by
    rw [decode]
    cases Base64.decodeText Base64.urlSafe .optional segment <;> simp
  rw [hread, Base64.decodeText_eq_ok_iff Base64.faithful_urlSafe Base64.exact_urlSafe]
  simp only [allows_iff, encode, String.ofList_append, and_comm]

theorem unpadded_encode_append (octets : List UInt8) (pads : Nat) :
    unpadded (encode octets ++ String.ofList (List.replicate pads '=')) = encode octets := by
  have hnone : (encode octets).toList.rdropWhile (· == '=') = (encode octets).toList := by
    refine List.rdropWhile_eq_self_iff.mpr fun hne heq => ?_
    exact padding_notMem_encode octets (eq_of_beq heq ▸ List.getLast_mem hne)
  have hpads : ((encode octets).toList ++ List.replicate pads '=').rdropWhile (· == '=') =
      (encode octets).toList := by
    induction pads with
    | zero => rw [List.replicate_zero, List.append_nil, hnone]
    | succ pads ih =>
      rw [List.replicate_succ', ← List.append_assoc, List.rdropWhile_concat_pos _ _ _ rfl, ih]
  rw [unpadded, String.toList_append, String.toList_ofList, hpads, String.ofList_toList]

/-- A segment that is read is, without its padding, the one that was written of its octets. -/
theorem unpadded_of_decode {segment : String} {octets : List UInt8}
    (h : decode segment = .ok octets) : unpadded segment = encode octets := by
  obtain ⟨pads, rfl, -⟩ := decode_eq_ok_iff.mp h
  exact unpadded_encode_append octets pads

/-- **Segments are read as what was written, and nothing else is read.** The segment of any octets
is read as these octets and consists of the 64 symbols, none of which is the padding sign or the
dot. A text is read as certain octets exactly when it is their segment, followed by no padding, by
at most two signs where two symbols are left over, or by one sign where three are; every other text
is refused as no base64. So two texts that are read have the same octets exactly when they are the
same without the padding at their ends. -/
theorem reads_exactly_written :
    (∀ octets, decode (encode octets) = .ok octets ∧
      (∀ c ∈ (encode octets).toList, c ∈ symbols ∧ c ≠ '=' ∧ c ≠ '.')) ∧
    (∀ segment octets, decode segment = .ok octets ↔
      ∃ pads, segment = encode octets ++ String.ofList (List.replicate pads '=') ∧
        (pads = 0 ∨ (encode octets).length % 4 = 2 ∧ pads ≤ 2 ∨
          (encode octets).length % 4 = 3 ∧ pads = 1)) ∧
    (∀ segment, (∃ octets, decode segment = .ok octets) ∨
      ∃ fault, decode segment = .error (.base64 fault)) ∧
    (∀ segment other octets others, decode segment = .ok octets → decode other = .ok others →
      (octets = others ↔ unpadded segment = unpadded other)) := by
  refine ⟨fun octets => ⟨decode_encode octets, fun c hc => ?_⟩, fun _ _ => decode_eq_ok_iff,
    fun segment => ?_, fun segment other octets others h hother => ?_⟩
  · refine ⟨mem_symbols_of_mem_encode hc, ?_, ?_⟩
    · rintro rfl
      exact padding_notMem_encode octets hc
    · rintro rfl
      exact dot_notMem_encode octets hc
  · rw [decode]
    cases Base64.decodeText Base64.urlSafe .optional segment with
    | error fault => exact .inr ⟨fault, rfl⟩
    | ok octets => exact .inl ⟨octets, rfl⟩
  · rw [unpadded_of_decode h, unpadded_of_decode hother]
    constructor
    · exact congrArg encode
    · intro heq
      have hread := decode_encode octets
      rw [heq, decode_encode] at hread
      exact (Except.ok.inj hread).symm

/-- One octet has two symbols, with or without the padding that completes them. -/
theorem reads_exactly_written_padded :
    decode "_w" = .ok [255] ∧ decode "_w==" = .ok [255] ∧
      ([(255 : UInt8)] = [255] ↔ unpadded "_w" = unpadded "_w==") :=
  have hbare : decode "_w" = .ok [255] := by rfl
  have hpadded : decode "_w==" = .ok [255] := by rfl
  ⟨hbare, hpadded, reads_exactly_written.2.2.2 "_w" "_w==" [255] [255] hbare hpadded⟩

end Segment

end IdentityTokens
