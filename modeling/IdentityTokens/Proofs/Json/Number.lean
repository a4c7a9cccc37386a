import IdentityTokens.Json.Printer
import IdentityTokens.Json.Scanner
import IdentityTokens.Proofs.Text.Utf8
import Mathlib.Data.List.TakeWhile

/-!
# Reading whole numbers that were written

A whole number, as it is written, is read as that number, wherever what follows it cannot continue
a numeral. The digits are written by the standard library and read by runs; they agree on the value
of the digits, and on there being no zero in front.

## Main definitions

* `Json.EndsNumeral`: octets before which every numeral ends.

## Main statements

* `Json.wholeDigits_digits`: the digits of a natural number.
* `Json.readNumber_digits`: a whole number of the range that is kept.
-/

namespace IdentityTokens.Json

/-- A numeral that stands before these octets ends there. -/
def EndsNumeral (rest : List UInt8) : Prop :=
  ∀ b ∈ rest.head?, isDigit b = false ∧ b ≠ pointOctet ∧ b ≠ 0x65 ∧ b ≠ 0x45

theorem endsNumeral_nil : EndsNumeral [] := by
  intro b hb
  cases hb

/-! ## Digits as they are written -/

/-- The octets of the digits of a natural number. -/
def digitBytes (n : Nat) : List UInt8 := Utf8.encodeChars (Numeral.natDigits n)

/-- The values of the digits of a natural number. -/
def digitValues (n : Nat) : List Nat := (Numeral.natDigits n).map fun c => c.toNat - 48

theorem digit_bounds {n : Nat} {c : Char} (h : c ∈ Numeral.natDigits n) :
    48 ≤ c.toNat ∧ c.toNat ≤ 57 := by
  have hdigit := Nat.isDigit_of_mem_toDigits (by decide) (by decide) h
  simp only [Char.isDigit, Bool.and_eq_true, decide_eq_true_eq] at hdigit
  exact ⟨UInt32.le_iff_toNat_le.mp hdigit.1, UInt32.le_iff_toNat_le.mp hdigit.2⟩

theorem digitBytes_eq_map (n : Nat) :
    digitBytes n = (Numeral.natDigits n).map fun c => UInt8.ofNat c.toNat := by
  have hascii : ∀ cs : List Char, (∀ c ∈ cs, c.toNat < 0x80) →
      Utf8.encodeChars cs = cs.map fun c => UInt8.ofNat c.toNat := by
    intro cs
    induction cs with
    | nil => intro _; rfl
    | cons c cs ih =>
      intro h
      rw [Utf8.encodeChars_cons, Utf8.encodeChar_of_ascii (h c (by simp)),
        ih fun d hd => h d (by simp [hd])]
      rfl
  refine hascii _ fun c hc => ?_
  have hbounds := digit_bounds hc
  omega

theorem isDigit_of_mem_digitBytes {n : Nat} {b : UInt8} (h : b ∈ digitBytes n) :
    isDigit b = true := by
  rw [digitBytes_eq_map] at h
  obtain ⟨c, hc, rfl⟩ := List.mem_map.mp h
  obtain ⟨hlow, hhigh⟩ := digit_bounds hc
  simp only [isDigit, Bool.and_eq_true, decide_eq_true_eq, UInt8.le_iff_toNat_le,
    Utf8.toNat_octet (show c.toNat < 256 by omega)]
  exact ⟨hlow, hhigh⟩

theorem digitBytes_ne_nil (n : Nat) : digitBytes n ≠ [] := by
  rw [digitBytes_eq_map]
  simp [Numeral.natDigits]

theorem map_digitBytes (n : Nat) : (digitBytes n).map (·.toNat - 0x30) = digitValues n := by
  rw [digitBytes_eq_map, digitValues, List.map_map]
  refine List.map_congr_left fun c hc => ?_
  have hbounds := digit_bounds hc
  simp only [Function.comp_apply, Utf8.toNat_octet (show c.toNat < 256 by omega)]

theorem digitsValue_digitValues (n : Nat) : digitsValue (digitValues n) = n := by
  have hsame : ∀ (cs : List Char) (acc : Nat),
      (cs.map fun c => c.toNat - 48).foldl (fun n d => n * 10 + d) acc =
        Nat.ofDigitChars 10 cs acc := by
    intro cs
    induction cs with
    | nil => intro acc; rfl
    | cons c cs ih =>
      intro acc
      rw [List.map_cons, List.foldl_cons, ih, Nat.ofDigitChars_cons, Nat.mul_comm]
      rfl
  rw [digitsValue, digitValues, hsame, Numeral.natDigits, Nat.ofDigitChars_ten_toDigits]

theorem head?_natDigits {n : Nat} (hn : 0 < n) : (Numeral.natDigits n).head? ≠ some '0' := by
  induction n using Nat.strongRecOn with
  | ind n ih =>
    rw [Numeral.natDigits, Nat.toDigits_eq_if (by decide)]
    split
    · next hlt =>
      have hdigit : ∀ d < 10, 0 < d → d.digitChar ≠ '0' := by decide
      simpa using hdigit n hlt hn
    · next hge =>
      have hhead := ih (n / 10) (by omega) (by omega)
      obtain ⟨c, cs, hcs⟩ := List.exists_cons_of_ne_nil
        (Nat.toDigits_ne_nil : Nat.toDigits 10 (n / 10) ≠ [])
      rw [Numeral.natDigits, hcs] at hhead
      rw [hcs]
      exact hhead

/-- A zero in front stands alone. -/
theorem digitValues_ne_zero_cons (n d : Nat) (ds : List Nat) : digitValues n ≠ 0 :: d :: ds := by
  intro h
  obtain ⟨c, cs, hcs, hc, -⟩ := List.map_eq_cons_iff.mp h
  rcases Nat.eq_zero_or_pos n with rfl | hn
  · cases h
  · refine head?_natDigits hn ?_
    have hbounds := digit_bounds (n := n) (hcs ▸ List.mem_cons_self)
    have hzero : c.toNat = '0'.toNat := by
      have hchar : '0'.toNat = 48 := rfl
      omega
    rw [hcs, List.head?_cons, Char.toNat_inj.mp hzero]

/-! ## Digits as they are read -/

variable {rest : List UInt8}

theorem digitRun_digitBytes (n : Nat) (hrest : EndsNumeral rest) :
    digitRun (digitBytes n ++ rest) = (digitValues n, rest) := by
  have htake : rest.takeWhile isDigit = [] := by
    cases rest with
    | nil => rfl
    | cons b rest => simp [(hrest b (by simp)).1]
  have hdrop : rest.dropWhile isDigit = rest := by
    cases rest with
    | nil => rfl
    | cons b rest => simp [(hrest b (by simp)).1]
  have hall : ∀ b ∈ digitBytes n, isDigit b = true := fun b => isDigit_of_mem_digitBytes
  rw [digitRun, List.takeWhile_append_of_pos hall, List.dropWhile_append_of_pos hall, htake, hdrop,
    List.append_nil, map_digitBytes]

theorem wholeDigits_digits (short : Fault) (n : Nat) (hrest : EndsNumeral rest) :
    wholeDigits short (digitBytes n ++ rest) = .ok (digitValues n, rest) := by
  have hsome : someDigits short (digitBytes n ++ rest) = .ok (digitValues n, rest) := by
    rw [someDigits, digitRun_digitBytes n hrest]
    split
    · next heq =>
      have hnil := congrArg Prod.fst heq
      simp [digitValues, Numeral.natDigits] at hnil
    · next heq =>
      have hnil := congrArg Prod.fst heq
      simp [digitValues, Numeral.natDigits] at hnil
    · rfl
  rw [wholeDigits, hsome]
  split
  · next heq =>
    simp only [Except.ok.injEq, Prod.mk.injEq] at heq
    exact absurd heq.1 (digitValues_ne_zero_cons n _ _)
  · rfl

theorem fractionDigits_of_ends (short : Fault) (hrest : EndsNumeral rest) :
    fractionDigits short rest = .ok (none, rest) := by
  cases rest with
  | nil => rfl
  | cons b rest => rw [fractionDigits, if_neg (hrest b (by simp)).2.1]

theorem exponentDigits_of_ends (short : Fault) (hrest : EndsNumeral rest) :
    exponentDigits short rest = .ok (none, rest) := by
  cases rest with
  | nil => rfl
  | cons b rest =>
    obtain ⟨-, -, hlower, hupper⟩ := hrest b (by simp)
    simp [exponentDigits, hlower, hupper]

theorem readNumeral_digits (short : Fault) (negative : Bool) (n : Nat)
    (hrest : EndsNumeral rest) :
    readNumeral short negative (digitBytes n ++ rest) =
      .ok (⟨negative, digitValues n, none, none⟩, rest) := by
  simp only [readNumeral, wholeDigits_digits short n hrest, fractionDigits_of_ends short hrest,
    exponentDigits_of_ends short hrest]

/-! ## Whole numbers -/

/-- The octets of a whole number. -/
def integerBytes (n : Int) : List UInt8 := Utf8.encodeChars (Numeral.digits n)

theorem integerBytes_ofNat (n : Nat) : integerBytes n = digitBytes n := rfl

theorem integerBytes_negSucc (n : Nat) :
    integerBytes (.negSucc n) = minusOctet :: digitBytes (n + 1) := rfl

/-- The first octet of a whole number is a digit or the minus sign. -/
theorem integerBytes_eq_cons (n : Int) :
    ∃ b bytes, integerBytes n = b :: bytes ∧ (b = minusOctet ∨ isDigit b = true) := by
  cases n with
  | ofNat n =>
    obtain ⟨b, bytes, h⟩ := List.exists_cons_of_ne_nil (digitBytes_ne_nil n)
    exact ⟨b, bytes, h, .inr (isDigit_of_mem_digitBytes (h ▸ List.mem_cons_self))⟩
  | negSucc n => exact ⟨minusOctet, digitBytes (n + 1), rfl, .inl rfl⟩

/-- The whole numbers that are kept as such when they are read. -/
def IsWhole (n : Int) : Prop := -9223372036854775808 ≤ n ∧ n ≤ 18446744073709551615

/-- A whole number as it is written is read as this number. -/
theorem readNumber_digits {n : Int} (hn : IsWhole n) (hrest : EndsNumeral rest) :
    readNumber (integerBytes n ++ rest) = .ok (.integer n, rest) := by
  obtain ⟨hlow, hhigh⟩ := hn
  cases n with
  | ofNat n =>
    have hlimit : n < significandLimit := by
      rw [significandLimit]
      simp only [Int.ofNat_eq_natCast] at hhigh
      omega
    have hsigned : signedNumeral .ended (digitBytes n ++ rest) =
        .ok (⟨false, digitValues n, none, none⟩, rest) := by
      obtain ⟨b, bytes, hcons⟩ := List.exists_cons_of_ne_nil (digitBytes_ne_nil n)
      have hminus : b ≠ minusOctet := by
        rintro rfl
        exact absurd (isDigit_of_mem_digitBytes (n := n) (hcons ▸ List.mem_cons_self)) (by decide)
      have hread := readNumeral_digits .ended false n hrest
      rw [hcons] at hread ⊢
      rw [List.cons_append, signedNumeral, if_neg hminus]
      exact hread
    have hvalue : (⟨false, digitValues n, none, none⟩ : Numeral).value? = some (.integer n) := by
      simp [Numeral.value?, digitsValue_digitValues, hlimit]
    rw [Int.ofNat_eq_natCast, integerBytes_ofNat, readNumber, hsigned]
    simp only [hvalue]
  | negSucc n =>
    have hrange : n + 1 ≤ 9223372036854775808 := by
      rw [Int.negSucc_eq] at hlow
      omega
    have hsigned : signedNumeral .ended (minusOctet :: digitBytes (n + 1) ++ rest) =
        .ok (⟨true, digitValues (n + 1), none, none⟩, rest) := by
      rw [List.cons_append, signedNumeral, if_pos rfl]
      exact readNumeral_digits .ended true (n + 1) hrest
    have hvalue : (⟨true, digitValues (n + 1), none, none⟩ : Numeral).value? =
        some (.integer (.negSucc n)) := by
      simp [Numeral.value?, digitsValue_digitValues, hrange, Int.negSucc_eq]
    rw [integerBytes_negSucc, readNumber, hsigned]
    simp only [hvalue]

end IdentityTokens.Json
