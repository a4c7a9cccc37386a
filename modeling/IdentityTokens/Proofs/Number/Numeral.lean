import IdentityTokens.Number.Numeral

/-!
# Reading numerals

Digits are read one by one away from zero, with the bounds checked at each. As every number on the
way lies between zero and the last one, only the last one matters: digits are read exactly when all
are digits and the number that they denote is within the bounds.

## Main definitions

* `Numeral.Spells`: a text is a numeral of a number, of any size.

## Main statements

* `Numeral.readDigits_eq_ok_iff`: which digits are read, and as which number.
* `Numeral.int64_render`: the numeral of a number of 64 bits is read as this number.
* `Numeral.int64_eq_ok_iff`, `Numeral.word32_eq_ok_iff`: the texts that are read are the numerals of
  numbers of 64 and of 32 bits.
-/

namespace IdentityTokens.Numeral

/-- A number of digits with its sign. -/
def signed (negative : Bool) (n : Nat) : Int := if negative then -n else n

theorem digit?_eq_some_iff {c : Char} {d : Nat} :
    digit? c = some d ↔ c.isDigit = true ∧ d = c.toNat - '0'.toNat := by
  have hdigit : c.isDigit = true ↔ '0' ≤ c ∧ c ≤ '9' := by
    simp only [Char.isDigit, Bool.and_eq_true, decide_eq_true_eq]
    exact Iff.rfl
  rw [digit?, hdigit]
  split
  · next h => simp [h, eq_comm]
  · next h => simp [h]

theorem signed_succ (negative : Bool) (n d : Nat) :
    (if negative then signed negative n * 10 - d else signed negative n * 10 + d) =
      signed negative (10 * n + d) := by
  cases negative
  · simp only [signed, Bool.false_eq_true, if_false]
    omega
  · simp only [signed, if_true]
    omega

/-- Further digits lead away from zero. -/
theorem le_ofDigitChars (cs : List Char) (n : Nat) : n ≤ Nat.ofDigitChars 10 cs n := by
  induction cs generalizing n with
  | nil => exact Nat.le_refl n
  | cons c cs ih =>
    have hmore := ih (10 * n + (c.toNat - '0'.toNat))
    rw [Nat.ofDigitChars_cons]
    omega

/-- A number on the way is within bounds that hold zero if the last number is. -/
theorem signed_within {low high : Int} (hlow : low ≤ 0) (hhigh : 0 ≤ high) {negative : Bool}
    {m n : Nat} (hle : m ≤ n) (hn : low ≤ signed negative n ∧ signed negative n ≤ high) :
    low ≤ signed negative m ∧ signed negative m ≤ high := by
  cases negative
  · simp only [signed, Bool.false_eq_true, if_false] at hn ⊢
    omega
  · simp only [signed, if_true] at hn ⊢
    omega

theorem readDigits_eq_ok_iff {low high : Int} (hlow : low ≤ 0) (hhigh : 0 ≤ high)
    {negative : Bool} {cs : List Char} {acc : Nat} {n : Int}
    (hacc : low ≤ signed negative acc ∧ signed negative acc ≤ high) :
    readDigits low high negative (signed negative acc) cs = .ok n ↔
      (∀ c ∈ cs, c.isDigit = true) ∧ n = signed negative (Nat.ofDigitChars 10 cs acc) ∧
        low ≤ n ∧ n ≤ high := by
  induction cs generalizing acc with
  | nil =>
    simp only [readDigits, Except.ok.injEq, List.not_mem_nil, false_implies, implies_true,
      true_and, Nat.ofDigitChars_nil]
    constructor
    · rintro rfl
      exact ⟨rfl, hacc⟩
    · rintro ⟨rfl, -⟩
      rfl
  | cons c cs ih =>
    cases hdigit : digit? c with
    | none =>
      have hnot : ¬c.isDigit = true := fun h => by
        rw [digit?_eq_some_iff.mpr ⟨h, rfl⟩] at hdigit
        cases hdigit
      simp [readDigits, hdigit, hnot]
    | some d =>
      obtain ⟨hc, rfl⟩ := digit?_eq_some_iff.mp hdigit
      have hle := le_ofDigitChars cs (10 * acc + (c.toNat - '0'.toNat))
      -- Reading stops where a bound is passed: more digits would not lead back.
      have hout : ∀ {m : Int}, ¬(low ≤ signed negative (10 * acc + (c.toNat - '0'.toNat)) ∧
          signed negative (10 * acc + (c.toNat - '0'.toNat)) ≤ high) →
          ¬(m = signed negative (Nat.ofDigitChars 10 (c :: cs) acc) ∧ low ≤ m ∧ m ≤ high) := by
        rintro m hnext ⟨rfl, hm⟩
        rw [Nat.ofDigitChars_cons] at hm
        exact hnext (signed_within hlow hhigh hle hm)
      simp only [readDigits, hdigit, signed_succ]
      split
      · next hsmall =>
        simp [hout fun h => absurd h.1 (by omega)]
      · split
        · next hlarge =>
          simp [hout fun h => absurd h.2 (by omega)]
        · rw [ih (by omega), Nat.ofDigitChars_cons]
          simp [hc]

theorem isDigit_of_mem_natDigits {n : Nat} {c : Char} (h : c ∈ natDigits n) : c.isDigit = true :=
  Nat.isDigit_of_mem_toDigits (by decide) (by decide) h

theorem natDigits_ne_nil (n : Nat) : natDigits n ≠ [] := Nat.toDigits_ne_nil

/-- The digits of a number are read as this number where it is within the bounds. -/
theorem readDigits_natDigits {low high : Int} (hlow : low ≤ 0) (hhigh : 0 ≤ high)
    (negative : Bool) (n : Nat) (hn : low ≤ signed negative n ∧ signed negative n ≤ high) :
    readDigits low high negative 0 (natDigits n) = .ok (signed negative n) := by
  have hzero : signed negative 0 = 0 := by
    cases negative <;> rfl
  have hnumber : Nat.ofDigitChars 10 (natDigits n) 0 = n := Nat.ofDigitChars_ten_toDigits
  rw [← hzero, readDigits_eq_ok_iff hlow hhigh (signed_within hlow hhigh (Nat.zero_le n) hn),
    hnumber]
  exact ⟨fun c hc => isDigit_of_mem_natDigits hc, rfl, hn⟩

/-! ## Whole texts -/

/-- A text that begins with a digit has no sign. -/
theorem read_of_isDigit {c : Char} (hc : c.isDigit = true) (low high : Int) (cs : List Char) :
    read low high (c :: cs) = readDigits low high false 0 (c :: cs) := by
  have hplus : c ≠ '+' := by
    rintro rfl
    exact absurd hc (by decide)
  have hminus : c ≠ '-' := by
    rintro rfl
    exact absurd hc (by decide)
  simp [read, hplus, hminus]

theorem read_minus {low : Int} (hlow : low < 0) (high : Int) (c : Char) (cs : List Char) :
    read low high ('-' :: c :: cs) = readDigits low high true 0 (c :: cs) := by
  simp [read, hlow]

/-- The numeral of a number is read as this number where it is within the bounds. -/
theorem read_digits {low high : Int} (hlow : low < 0) (hhigh : 0 ≤ high) {n : Int}
    (hn : low ≤ n ∧ n ≤ high) : read low high (digits n) = .ok n := by
  cases n with
  | ofNat n =>
    obtain ⟨c, cs, hcons⟩ := List.exists_cons_of_ne_nil (natDigits_ne_nil n)
    have hc : c.isDigit = true := isDigit_of_mem_natDigits (hcons ▸ List.mem_cons_self)
    have hread := readDigits_natDigits (by omega) hhigh false n hn
    rw [digits, hcons, read_of_isDigit hc, ← hcons, hread]
    rfl
  | negSucc n =>
    obtain ⟨c, cs, hcons⟩ := List.exists_cons_of_ne_nil (natDigits_ne_nil (n + 1))
    have hread := readDigits_natDigits (by omega) hhigh true (n + 1) hn
    rw [digits, hcons, read_minus hlow, ← hcons, hread]
    rfl

/-- The numeral of a number of 64 bits is read as this number. -/
theorem int64_render {n : Int} (h : fitsInt64 n = true) : int64 (render n) = .ok n := by
  rw [int64, render, String.toList_ofList]
  exact read_digits (by decide) (by decide) (fitsInt64_iff.mp h)

/-- A text is a numeral of a number: one or more digits, with or without a sign before them. -/
inductive Spells : List Char → Int → Prop where
  | plain {cs : List Char} (nonempty : cs ≠ []) (digits : ∀ c ∈ cs, c.isDigit = true) :
      Spells cs (Nat.ofDigitChars 10 cs 0)
  | plus {cs : List Char} (nonempty : cs ≠ []) (digits : ∀ c ∈ cs, c.isDigit = true) :
      Spells ('+' :: cs) (Nat.ofDigitChars 10 cs 0)
  | minus {cs : List Char} (nonempty : cs ≠ []) (digits : ∀ c ∈ cs, c.isDigit = true) :
      Spells ('-' :: cs) (-Nat.ofDigitChars 10 cs 0)

theorem spells_plus_iff {cs : List Char} {n : Int} :
    Spells ('+' :: cs) n ↔
      cs ≠ [] ∧ (∀ c ∈ cs, c.isDigit = true) ∧ n = signed false (Nat.ofDigitChars 10 cs 0) := by
  constructor
  · intro h
    cases h with
    | plain _ hdigits => exact absurd (hdigits '+' List.mem_cons_self) (by decide)
    | plus hne hdigits => exact ⟨hne, hdigits, rfl⟩
  · rintro ⟨hne, hdigits, rfl⟩
    exact .plus hne hdigits

theorem spells_minus_iff {cs : List Char} {n : Int} :
    Spells ('-' :: cs) n ↔
      cs ≠ [] ∧ (∀ c ∈ cs, c.isDigit = true) ∧ n = signed true (Nat.ofDigitChars 10 cs 0) := by
  constructor
  · intro h
    cases h with
    | plain _ hdigits => exact absurd (hdigits '-' List.mem_cons_self) (by decide)
    | minus hne hdigits => exact ⟨hne, hdigits, rfl⟩
  · rintro ⟨hne, hdigits, rfl⟩
    exact .minus hne hdigits

theorem spells_unsigned_iff {cs : List Char} (hplus : cs.head? ≠ some '+')
    (hminus : cs.head? ≠ some '-') {n : Int} :
    Spells cs n ↔
      cs ≠ [] ∧ (∀ c ∈ cs, c.isDigit = true) ∧ n = signed false (Nat.ofDigitChars 10 cs 0) := by
  constructor
  · intro h
    cases h with
    | plain hne hdigits => exact ⟨hne, hdigits, rfl⟩
    | plus => exact (hplus rfl).elim
    | minus => exact (hminus rfl).elim
  · rintro ⟨hne, hdigits, rfl⟩
    exact .plain hne hdigits

/-- The texts that are read are the numerals of the numbers within the bounds. Where no number is
negative, none of them has a minus sign. -/
theorem read_eq_ok_iff {low high : Int} (hlow : low ≤ 0) (hhigh : 0 ≤ high) {cs : List Char}
    {n : Int} : read low high cs = .ok n ↔
      Spells cs n ∧ (low = 0 → cs.head? ≠ some '-') ∧ low ≤ n ∧ n ≤ high := by
  have hdigits : ∀ (negative : Bool) (ds : List Char), readDigits low high negative 0 ds = .ok n ↔
      (∀ c ∈ ds, c.isDigit = true) ∧ n = signed negative (Nat.ofDigitChars 10 ds 0) ∧
        low ≤ n ∧ n ≤ high := by
    intro negative ds
    have hzero : signed negative 0 = 0 := by
      cases negative <;> rfl
    rw [← hzero]
    exact readDigits_eq_ok_iff hlow hhigh (by rw [hzero]; omega)
  rw [read.eq_def]
  split
  · rw [spells_unsigned_iff (by simp) (by simp)]
    simp
  · rw [spells_plus_iff]
    simp
  · rw [spells_minus_iff]
    simp
  · next ds hne =>
    rw [hdigits, spells_plus_iff, and_iff_right (show ds ≠ [] from hne), and_assoc]
    simp
  · next ds hne =>
    by_cases hnegative : low < 0
    · have hallowed : low = 0 → ('-' :: ds).head? ≠ some '-' := fun h => by omega
      rw [if_pos hnegative, hdigits, spells_minus_iff, and_iff_right (show ds ≠ [] from hne),
        and_iff_right hallowed, and_assoc]
    · have hzero : low = 0 := by omega
      simp [hzero]
  · next hnil _ _ hplus hminus =>
    have hunsigned : ∀ sign, (∀ ds, cs ≠ sign :: ds) → cs.head? ≠ some sign := by
      intro sign hne hhead
      obtain ⟨ds, hds⟩ := List.head?_eq_some_iff.mp hhead
      exact hne ds hds
    rw [hdigits, spells_unsigned_iff (hunsigned _ hplus) (hunsigned _ hminus),
      and_iff_right (show cs ≠ [] from hnil), and_iff_right fun _ => hunsigned _ hminus, and_assoc]

/-- The texts that are read as numbers of 64 bits are the numerals of these numbers. -/
theorem int64_eq_ok_iff {s : String} {n : Int} :
    int64 s = .ok n ↔ Spells s.toList n ∧ fitsInt64 n = true := by
  rw [fitsInt64_iff, int64, read_eq_ok_iff (by decide) (by decide)]
  simp [int64Min, int64Max]

/-- The texts that are read as unsigned numbers of 32 bits are the numerals of these numbers that
have no minus sign. -/
theorem word32_eq_ok_iff {cs : List Char} {n : Int} :
    word32 cs = .ok n ↔ Spells cs n ∧ cs.head? ≠ some '-' ∧ 0 ≤ n ∧ n ≤ 4294967295 := by
  rw [word32, read_eq_ok_iff (by decide) (by decide)]
  simp

/-- A numeral without a minus sign is one of a number that is not negative. -/
theorem nonneg_of_spells {cs : List Char} {n : Int} (h : Spells cs n)
    (hunsigned : cs.head? ≠ some '-') : 0 ≤ n := by
  cases h with
  | plain _ _ => exact Int.natCast_nonneg _
  | plus _ _ => exact Int.natCast_nonneg _
  | minus _ _ => exact (hunsigned rfl).elim

/-- No numeral is empty. -/
theorem render_ne_empty (n : Int) : render n ≠ "" := by
  intro h
  have hempty := congrArg String.toList h
  rw [render, String.toList_ofList] at hempty
  cases n with
  | ofNat n => exact natDigits_ne_nil n hempty
  | negSucc n => cases hempty

end IdentityTokens.Numeral
