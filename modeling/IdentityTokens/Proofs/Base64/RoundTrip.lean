import IdentityTokens.Token.Segment

/-!
# Reading what was written in base64

The symbols of octets, read back, are those octets, with any padding that the reader allows. Writing
is seen here as the choice of a six-bit value for each symbol, so that an alphabet enters by three
facts about its symbols only.

## Main definitions

* `Base64.Padding.Allows`: how much padding may follow the symbols of octets.

## Main statements

* `Base64.decode_octets_sextets`: symbols that were written are read back.
* `Base64.decodeText_encodePadded`: the same for texts with full padding.
* `Segment.decode_encode`: the same for segments.
* `Segment.padding_notMem_encode`: a segment that was written has no padding.
-/

namespace IdentityTokens.Base64

/-! ## Alphabets -/

/-- An alphabet whose symbols are ASCII, stand for their values, and are not the padding sign. -/
structure Alphabet.Faithful (a : Alphabet) : Prop where
  ascii : ∀ v < 64, (a.symbol v).toNat < 128
  value_octet : ∀ v < 64, a.value? (a.octet v) = some v
  octet_ne_pad : ∀ v < 64, a.octet v ≠ padOctet

theorem faithful_urlSafe : urlSafe.Faithful where
  ascii := by decide
  value_octet := by decide
  octet_ne_pad := by decide

theorem faithful_standard : standard.Faithful where
  ascii := by decide
  value_octet := by decide
  octet_ne_pad := by decide

variable {a : Alphabet}

theorem Alphabet.Faithful.encodeChar_symbol (ha : a.Faithful) {v : Nat} (hv : v < 64) :
    Utf8.encodeChar (a.symbol v) = [a.octet v] := by
  simp [Utf8.encodeChar, ha.ascii v hv, Alphabet.octet]

theorem Alphabet.Faithful.valueAt_octet (ha : a.Faithful) (offset : Nat) {v : Nat} (hv : v < 64) :
    valueAt a offset (a.octet v) = .ok v := by
  simp [valueAt, ha.value_octet v hv]

/-! ## Six-bit values -/

/-- The six-bit values of the symbols of octets. -/
def sextets : List UInt8 → List Nat
  | [] => []
  | [x] => [x.toNat / 4, x.toNat % 4 * 16]
  | [x, y] => [x.toNat / 4, x.toNat % 4 * 16 + y.toNat / 16, y.toNat % 16 * 4]
  | x :: y :: z :: rest =>
    (x.toNat / 4) :: (x.toNat % 4 * 16 + y.toNat / 16) :: (y.toNat % 16 * 4 + z.toNat / 64) ::
      (z.toNat % 64) :: sextets rest

theorem encode_eq_map_sextets (a : Alphabet) (octets : List UInt8) :
    encode a octets = (sextets octets).map a.symbol := by
  fun_induction encode a octets with
  | case1 => rfl
  | case2 => rfl
  | case3 => rfl
  | case4 x y z rest ih => simp only [sextets, List.map_cons, ih]

theorem lt_of_mem_sextets {octets : List UInt8} {v : Nat} (h : v ∈ sextets octets) : v < 64 := by
  fun_induction sextets octets with
  | case1 => cases h
  | case2 x =>
    have hx := x.toNat_lt
    simp only [List.mem_cons, List.not_mem_nil, or_false] at h
    omega
  | case3 x y =>
    have hx := x.toNat_lt
    have hy := y.toNat_lt
    simp only [List.mem_cons, List.not_mem_nil, or_false] at h
    omega
  | case4 x y z rest ih =>
    have hx := x.toNat_lt
    have hy := y.toNat_lt
    have hz := z.toNat_lt
    simp only [List.mem_cons] at h
    rcases h with h | h | h | h | h
    · omega
    · omega
    · omega
    · omega
    · exact ih h

theorem length_sextets (octets : List UInt8) :
    (sextets octets).length = (4 * octets.length + 2) / 3 := by
  fun_induction sextets octets with
  | case1 => rfl
  | case2 => simp
  | case3 => simp
  | case4 x y z rest ih =>
    simp only [List.length_cons, ih]
    omega

/-- The octets of the text that is written. -/
theorem encodeChars_encode (ha : a.Faithful) (octets : List UInt8) :
    Utf8.encodeChars (encode a octets) = (sextets octets).map a.octet := by
  have hsymbols : ∀ values : List Nat, (∀ v ∈ values, v < 64) →
      Utf8.encodeChars (values.map a.symbol) = values.map a.octet := by
    intro values
    induction values with
    | nil => intro _; rfl
    | cons v values ih =>
      intro hv
      rw [List.map_cons, Utf8.encodeChars_cons, ha.encodeChar_symbol (hv v (by simp)),
        ih fun w hw => hv w (by simp [hw])]
      rfl
  rw [encode_eq_map_sextets]
  exact hsymbols _ fun v hv => lt_of_mem_sextets hv

/-! ## Reading back -/

/-- A number of padding signs may follow the symbols of octets: no more than complete the last
group, and just these where it must be complete. -/
structure Padding.Allows (padding : Padding) (octets : List UInt8) (pads : Nat) : Prop where
  le : pads ≤ (3 - octets.length % 3) % 3
  eq_of_required : padding = .required → pads = (3 - octets.length % 3) % 3

variable {padding : Padding} {pads : Nat}

/-- Three octets more in front leave the last group as it is. -/
theorem Padding.allows_cons_iff {x y z : UInt8} {rest : List UInt8} :
    padding.Allows (x :: y :: z :: rest) pads ↔ padding.Allows rest pads := by
  have hlength : (x :: y :: z :: rest).length % 3 = rest.length % 3 := by
    simp only [List.length_cons]
    omega
  constructor
  · rintro ⟨hle, heq⟩
    rw [hlength] at hle heq
    exact ⟨hle, heq⟩
  · rintro ⟨hle, heq⟩
    rw [← hlength] at hle heq
    exact ⟨hle, heq⟩

theorem Padding.allows_zero (octets : List UInt8) : Padding.optional.Allows octets 0 :=
  ⟨Nat.zero_le _, fun h => by cases h⟩

theorem Padding.allows_full (padding : Padding) (octets : List UInt8) :
    padding.Allows octets ((3 - octets.length % 3) % 3) :=
  ⟨Nat.le_refl _, fun _ => rfl⟩

theorem readTail_pads (base index : Nat) (first : Option Nat) (h : 2 ≤ index ∨ pads = 0) :
    readTail a base index first (List.replicate pads padOctet) = .ok ([], pads) := by
  induction pads generalizing index first with
  | zero => rfl
  | succ pads ih =>
    have hindex : ¬index < 2 := by omega
    have hmore := ih (index + 1) (some (first.getD index)) (.inl (by omega))
    simp [List.replicate_succ, readTail, hindex, hmore, Except.map]

/-- A group of symbols is read as the values of the symbols. -/
theorem readTail_octets (ha : a.Faithful) (base : Nat) (values : List Nat) :
    ∀ index, (∀ v ∈ values, v < 64) → 2 ≤ index + values.length ∨ pads = 0 →
      readTail a base index none (values.map a.octet ++ List.replicate pads padOctet) =
        .ok (values, pads) := by
  induction values with
  | nil => intro index _ h; exact readTail_pads base index none h
  | cons v values ih =>
    intro index hv h
    have hlt : v < 64 := hv v (by simp)
    have hmore := ih (index + 1) (fun w hw => hv w (by simp [hw])) (by
      rw [List.length_cons] at h
      omega)
    simp [readTail, ha.octet_ne_pad v hlt, ha.valueAt_octet _ hlt, hmore, Except.map]

theorem decodeFrom_of_length_le {tail : List UInt8} (h : tail.length ≤ 4) (base : Nat) :
    decodeFrom a padding base tail = decodeTail a padding base tail := by
  rcases tail with _ | ⟨_, _ | ⟨_, _ | ⟨_, _ | ⟨_, _ | ⟨_, tail⟩⟩⟩⟩⟩
  · rfl
  · rfl
  · rfl
  · rfl
  · rfl
  · simp only [List.length_cons] at h
    omega

/-- The last group is read back whatever its length is. -/
theorem decodeFrom_last (ha : a.Faithful) (padding : Padding) (base : Nat) (values : List Nat)
    (pads : Nat) (hvalues : ∀ v ∈ values, v < 64) (htwo : 2 ≤ values.length)
    (hfour : values.length + pads ≤ 4)
    (hpadding : padding = .required → (values.length + pads) % 4 = 0) :
    decodeFrom a padding base (values.map a.octet ++ List.replicate pads padOctet) =
      tailOctets a base values := by
  rw [decodeFrom_of_length_le (by simpa using hfour)]
  cases values with
  | nil => simp at htwo
  | cons v values =>
    have hread : readTail a base 0 none
        ((v :: values).map a.octet ++ List.replicate pads padOctet) = .ok (v :: values, pads) :=
      readTail_octets ha base (v :: values) 0 hvalues (.inl (by omega))
    rw [List.map_cons, List.cons_append] at hread ⊢
    simp only [decodeTail, hread]
    rw [if_neg (by omega), if_neg fun h => h.2 (hpadding h.1)]

/-- A full group that is not the last is read, and reading goes on after it. -/
theorem decodeFrom_group (ha : a.Faithful) (padding : Padding) (base : Nat) {u v w x : Nat}
    (hu : u < 64) (hv : v < 64) (hw : w < 64) (hx : x < 64) {rest : List UInt8}
    (hrest : rest ≠ []) :
    decodeFrom a padding base (a.octet u :: a.octet v :: a.octet w :: a.octet x :: rest) =
      (decodeFrom a padding (base + 4) rest).map fun octets =>
        UInt8.ofNat (u * 4 + v / 16) :: UInt8.ofNat (v % 16 * 16 + w / 4) ::
          UInt8.ofNat (w % 4 * 64 + x) :: octets := by
  cases rest with
  | nil => exact absurd rfl hrest
  | cons t rest => simp [decodeFrom, ha.valueAt_octet, hu, hv, hw, hx]

theorem ofNat_eq_of_toNat_eq {n : Nat} {x : UInt8} (h : n = x.toNat) : UInt8.ofNat n = x := by
  rw [h, UInt8.ofNat_toNat]

theorem decodeFrom_octets_sextets (ha : a.Faithful) {octets : List UInt8}
    (hpads : padding.Allows octets pads) :
    ∀ base, decodeFrom a padding base
      ((sextets octets).map a.octet ++ List.replicate pads padOctet) = .ok octets := by
  fun_induction sextets octets with
  | case1 =>
    intro base
    have hnone : pads = 0 := by simpa using hpads.le
    subst hnone
    rfl
  | case2 x =>
    intro base
    have hx := x.toNat_lt
    obtain ⟨hle, heq⟩ := hpads
    simp only [List.length_singleton] at hle heq
    have hlast := decodeFrom_last ha padding base [x.toNat / 4, x.toNat % 4 * 16] pads
      (by simp; omega) (by simp)
      (by simp only [List.length_cons, List.length_nil]; omega) (fun h => by simp [heq h])
    refine Eq.trans hlast ?_
    rw [tailOctets, if_pos (by omega)]
    rw [ofNat_eq_of_toNat_eq (x := x) (by omega)]
  | case3 x y =>
    intro base
    have hx := x.toNat_lt
    have hy := y.toNat_lt
    obtain ⟨hle, heq⟩ := hpads
    simp only [List.length_cons, List.length_nil] at hle heq
    have hlast := decodeFrom_last ha padding base
      [x.toNat / 4, x.toNat % 4 * 16 + y.toNat / 16, y.toNat % 16 * 4] pads
      (by simp; omega) (by simp)
      (by simp only [List.length_cons, List.length_nil]; omega) (fun h => by simp [heq h])
    refine Eq.trans hlast ?_
    rw [tailOctets, if_pos (by omega)]
    rw [ofNat_eq_of_toNat_eq (x := x) (by omega), ofNat_eq_of_toNat_eq (x := y) (by omega)]
  | case4 x y z rest ih =>
    intro base
    have hx := x.toNat_lt
    have hy := y.toNat_lt
    have hz := z.toNat_lt
    have hfirst : UInt8.ofNat (x.toNat / 4 * 4 + (x.toNat % 4 * 16 + y.toNat / 16) / 16) = x :=
      ofNat_eq_of_toNat_eq (by omega)
    have hsecond : UInt8.ofNat ((x.toNat % 4 * 16 + y.toNat / 16) % 16 * 16 +
        (y.toNat % 16 * 4 + z.toNat / 64) / 4) = y :=
      ofNat_eq_of_toNat_eq (by omega)
    have hthird : UInt8.ofNat ((y.toNat % 16 * 4 + z.toNat / 64) % 4 * 64 + z.toNat % 64) = z :=
      ofNat_eq_of_toNat_eq (by omega)
    have hmore := Padding.allows_cons_iff.mp hpads
    by_cases hrest : rest = []
    · subst hrest
      have hnone : pads = 0 := by simpa using hmore.le
      subst hnone
      have hlast := decodeFrom_last ha padding base
        [x.toNat / 4, x.toNat % 4 * 16 + y.toNat / 16, y.toNat % 16 * 4 + z.toNat / 64,
          z.toNat % 64] 0 (by simp; omega) (by simp) (by simp) (by simp)
      refine Eq.trans hlast ?_
      rw [tailOctets, hfirst, hsecond, hthird]
    · have hleft : (sextets rest).map a.octet ++ List.replicate pads padOctet ≠ [] := by
        intro h
        have hlength := length_sextets rest
        have hpos := List.length_pos_iff.mpr hrest
        rw [List.map_eq_nil_iff.mp (List.append_eq_nil_iff.mp h).1, List.length_nil] at hlength
        omega
      simp only [List.map_cons, List.cons_append]
      rw [decodeFrom_group ha _ _ (by omega) (by omega) (by omega) (by omega) hleft, ih hmore,
        hfirst, hsecond, hthird]
      rfl

/-- No number of symbols that is written leaves one over, and padding is never a stray symbol. -/
theorem strayLast_octets_sextets (octets : List UInt8) (pads : Nat) :
    strayLast a ((sextets octets).map a.octet ++ List.replicate pads padOctet) = none := by
  cases pads with
  | zero =>
    have hlength : (sextets octets).length % 4 ≠ 1 := by
      rw [length_sextets]
      omega
    simp only [strayLast, List.replicate_zero, List.append_nil, List.length_map]
    split
    · rfl
    · rw [if_neg fun h => hlength h.1]
  | succ pads =>
    have hlast : ((sextets octets).map a.octet ++ List.replicate (pads + 1) padOctet).getLast? =
        some padOctet := by
      rw [List.replicate_succ', ← List.append_assoc, List.getLast?_concat]
    simp only [strayLast, hlast, ne_eq, not_true_eq_false, false_and, and_false, if_false]

/-- Symbols that were written are read back, with any padding that is allowed. -/
theorem decode_octets_sextets (ha : a.Faithful) {octets : List UInt8}
    (hpads : padding.Allows octets pads) :
    decode a padding ((sextets octets).map a.octet ++ List.replicate pads padOctet) =
      .ok octets := by
  simp only [decode, strayLast_octets_sextets]
  exact decodeFrom_octets_sextets ha hpads 0

theorem encodeChars_padding (pads : Nat) :
    Utf8.encodeChars (List.replicate pads '=') = List.replicate pads padOctet := by
  induction pads with
  | zero => rfl
  | succ pads ih =>
    rw [List.replicate_succ, List.replicate_succ, Utf8.encodeChars_cons, ih]
    rfl

theorem decodeText_encode_append (ha : a.Faithful) {octets : List UInt8}
    (hpads : padding.Allows octets pads) :
    decodeText a padding (String.ofList (encode a octets ++ List.replicate pads '=')) =
      .ok octets := by
  rw [decodeText, Utf8.encode, String.toList_ofList, Utf8.encodeChars_append,
    encodeChars_encode ha, encodeChars_padding, decode_octets_sextets ha hpads]

/-- What is written without padding is read back where padding may be left out. -/
theorem decodeText_encode (ha : a.Faithful) (octets : List UInt8) :
    decodeText a .optional (String.ofList (encode a octets)) = .ok octets := by
  have hread := decodeText_encode_append ha (Padding.allows_zero octets)
  rwa [List.replicate_zero, List.append_nil] at hread

/-- What is written with padding is read back, whether padding may be left out or not. -/
theorem decodeText_encodePadded (ha : a.Faithful) (padding : Padding) (octets : List UInt8) :
    decodeText a padding (String.ofList (encodePadded a octets)) = .ok octets :=
  decodeText_encode_append ha (padding.allows_full octets)

/-- A character that is no symbol of an alphabet is not written. -/
theorem notMem_encode {c : Char} (hc : ∀ v < 64, a.symbol v ≠ c) (octets : List UInt8) :
    c ∉ encode a octets := by
  rw [encode_eq_map_sextets]
  intro h
  obtain ⟨v, hv, heq⟩ := List.mem_map.mp h
  exact hc v (lt_of_mem_sextets hv) heq

end IdentityTokens.Base64

namespace IdentityTokens.Segment

/-- A segment that was written is read back. -/
theorem decode_encode (octets : List UInt8) : decode (encode octets) = .ok octets := by
  rw [decode, encode, Base64.decodeText_encode Base64.faithful_urlSafe]

theorem encodeChars_encode (octets : List UInt8) :
    Utf8.encodeChars (encode octets).toList =
      (Base64.sextets octets).map Base64.urlSafe.octet := by
  rw [encode, String.toList_ofList]
  exact Base64.encodeChars_encode Base64.faithful_urlSafe octets

/-- The octets of the text that is signed. -/
theorem encode_signingInput (header payload : List UInt8) :
    Utf8.encode (encode header ++ "." ++ encode payload) =
      (Base64.sextets header).map Base64.urlSafe.octet ++
        46 :: (Base64.sextets payload).map Base64.urlSafe.octet := by
  simp only [Utf8.encode, String.toList_append, Utf8.encodeChars_append, encodeChars_encode,
    List.append_assoc]
  rfl

theorem dot_notMem_encode (octets : List UInt8) : '.' ∉ (encode octets).toList := by
  rw [encode, String.toList_ofList]
  exact Base64.notMem_encode (by decide) octets

theorem padding_notMem_encode (octets : List UInt8) : '=' ∉ (encode octets).toList := by
  rw [encode, String.toList_ofList]
  exact Base64.notMem_encode (by decide) octets

end IdentityTokens.Segment
