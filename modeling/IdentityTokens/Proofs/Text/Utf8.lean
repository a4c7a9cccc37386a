import IdentityTokens.Text.Utf8

/-!
# Reading what was written in UTF-8

The machine that decodes takes the octets of a character, one after the other, to that character,
and is then where it started. So the octets of a text are well-formed, and are those of this text.

## Main statements

* `Utf8.decodeFrom_encodeChar`: the octets of one character.
* `Utf8.decode?_encode`: a text that was written is read back.
* `Utf8.le_of_mem_encodeChar`: which octets the characters beyond ASCII have.
-/

namespace IdentityTokens.Utf8

theorem toNat_octet {n : Nat} (h : n < 256) : (UInt8.ofNat n).toNat = n :=
  UInt8.toNat_ofNat_of_lt h

/-! ## Octets of a character -/

/-- The scalar values leave out the surrogates. -/
theorem scalar_bounds (c : Char) :
    c.toNat < 0xD800 ∨ 0xDFFF < c.toNat ∧ c.toNat < 0x110000 := c.valid

theorem encodeChar_of_ascii {c : Char} (h : c.toNat < 0x80) :
    encodeChar c = [UInt8.ofNat c.toNat] := by
  simp [encodeChar, h]

/-- No octet of a character beyond ASCII is that of an ASCII character. -/
theorem le_of_mem_encodeChar {c : Char} {octet : UInt8} (hc : 0x80 ≤ c.toNat)
    (h : octet ∈ encodeChar c) : 0x80 ≤ octet.toNat := by
  have hscalar := scalar_bounds c
  simp only [encodeChar] at h
  rw [if_neg (by omega)] at h
  split at h
  · simp only [List.mem_cons, List.not_mem_nil, or_false] at h
    rcases h with rfl | rfl <;> rw [toNat_octet (by omega)] <;> omega
  · split at h
    · simp only [List.mem_cons, List.not_mem_nil, or_false] at h
      rcases h with rfl | rfl | rfl <;> rw [toNat_octet (by omega)] <;> omega
    · simp only [List.mem_cons, List.not_mem_nil, or_false] at h
      rcases h with rfl | rfl | rfl | rfl <;> rw [toNat_octet (by omega)] <;> omega

/-! ## One step of the machine -/

/-- The last octet of a character completes it. -/
theorem next_last {bits low high n : Nat} {octet : UInt8} (c : Char) (hoctet : octet.toNat = n)
    (hlow : low ≤ n) (hhigh : n ≤ high) (hbits : bits * 64 + n % 64 = c.toNat) :
    (⟨bits, 0, low, high⟩ : Pending).next octet = .char c := by
  simp only [Pending.next, hoctet, hbits, Char.ofNat_toNat]
  rw [if_pos ⟨hlow, hhigh⟩]

/-- An octet inside a character adds six bits. -/
theorem next_more {bits after low high n more : Nat} {octet : UInt8} (hoctet : octet.toNat = n)
    (hlow : low ≤ n) (hhigh : n ≤ high) (hbits : bits * 64 + n % 64 = more) :
    (⟨bits, after + 1, low, high⟩ : Pending).next octet = .more ⟨more, after, 0x80, 0xBF⟩ := by
  simp only [Pending.next, hoctet, hbits]
  rw [if_pos ⟨hlow, hhigh⟩]

theorem lead_two {n : Nat} {octet : UInt8} (hoctet : octet.toNat = 0xC0 + n) (hlow : 2 ≤ n)
    (hhigh : n < 0x20) : lead octet = .more ⟨n, 0, 0x80, 0xBF⟩ := by
  simp only [lead, hoctet]
  rw [if_neg (by omega), if_neg (by omega), if_pos (by omega), Nat.add_sub_cancel_left]

theorem lead_three {n : Nat} {octet : UInt8} (hoctet : octet.toNat = 0xE0 + n)
    (hhigh : n < 0x10) : lead octet =
      .more ⟨n, 1, if n = 0 then 0xA0 else 0x80, if n = 13 then 0x9F else 0xBF⟩ := by
  have hfirst : 0xE0 + n = 0xE0 ↔ n = 0 := by omega
  have hlast : 0xE0 + n = 0xED ↔ n = 13 := by omega
  simp only [lead, hoctet, hfirst, hlast]
  rw [if_neg (by omega), if_neg (by omega), if_neg (by omega), if_pos (by omega),
    Nat.add_sub_cancel_left]

theorem lead_four {n : Nat} {octet : UInt8} (hoctet : octet.toNat = 0xF0 + n)
    (hhigh : n < 5) : lead octet =
      .more ⟨n, 2, if n = 0 then 0x90 else 0x80, if n = 4 then 0x8F else 0xBF⟩ := by
  have hfirst : 0xF0 + n = 0xF0 ↔ n = 0 := by omega
  have hlast : 0xF0 + n = 0xF4 ↔ n = 4 := by omega
  simp only [lead, hoctet, hfirst, hlast]
  rw [if_neg (by omega), if_neg (by omega), if_neg (by omega), if_neg (by omega),
    if_pos (by omega), Nat.add_sub_cancel_left]

/-! ## Reading back -/

/-- The octets of a character are read as this character, and nothing is held after them. -/
theorem decodeFrom_encodeChar (c : Char) (rest : List UInt8) :
    decodeFrom none (encodeChar c ++ rest) = (decodeFrom none rest).map (c :: ·) := by
  have hscalar := scalar_bounds c
  by_cases hone : c.toNat < 0x80
  · have hoctet : (UInt8.ofNat c.toNat).toNat = c.toNat := toNat_octet (by omega)
    simp [encodeChar, hone, decodeFrom, advance, lead, hoctet]
  by_cases htwo : c.toNat < 0x800
  · simp only [encodeChar, hone, htwo, if_true, if_false, List.cons_append, List.nil_append,
      decodeFrom, advance]
    rw [lead_two (toNat_octet (by omega)) (by omega) (by omega)]
    simp only []
    rw [next_last c (toNat_octet (by omega)) (by omega) (by omega) (by omega)]
  by_cases hthree : c.toNat < 0x10000
  · simp only [encodeChar, hone, htwo, hthree, if_true, if_false, List.cons_append,
      List.nil_append, decodeFrom, advance]
    rw [lead_three (toNat_octet (by omega)) (by omega)]
    simp only []
    rw [next_more (toNat_octet (by omega)) (by split <;> omega) (by split <;> omega) rfl]
    simp only []
    rw [next_last c (toNat_octet (by omega)) (by omega) (by omega) (by omega)]
  · simp only [encodeChar, hone, htwo, hthree, if_false, List.cons_append, List.nil_append,
      decodeFrom, advance]
    rw [lead_four (toNat_octet (by omega)) (by omega)]
    simp only []
    rw [next_more (toNat_octet (by omega)) (by split <;> omega) (by split <;> omega) rfl]
    simp only []
    rw [next_more (toNat_octet (by omega)) (by omega) (by omega) rfl]
    simp only []
    rw [next_last c (toNat_octet (by omega)) (by omega) (by omega) (by omega)]

theorem decodeChars?_encodeChars (cs : List Char) : decodeChars? (encodeChars cs) = some cs := by
  induction cs with
  | nil => rfl
  | cons c cs ih =>
    rw [decodeChars?] at ih ⊢
    rw [encodeChars_cons, decodeFrom_encodeChar, ih]
    rfl

/-- A text that was written is read back. -/
theorem decode?_encode (s : String) : decode? (encode s) = some s := by
  rw [decode?, encode, decodeChars?_encodeChars, Option.map_some, String.ofList_toList]

/-- No two texts have the same octets. -/
theorem encode_injective {s t : String} (h : encode s = encode t) : s = t := by
  have hread := decode?_encode s
  rw [h, decode?_encode] at hread
  exact (Option.some.inj hread).symm

end IdentityTokens.Utf8
