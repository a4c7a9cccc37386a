import IdentityTokens.Json.Record
import IdentityTokens.Proofs.Json.Number

/-!
# What stands between brackets

The loop over the entries of arrays, objects and records, in three laws: it ends at the closing
bracket, it takes an entry where one begins, and whenever it succeeds it has done one or the other.
Nothing later opens its definition. From them follow how the loop reads entries that are written
one after the other with commas between them, and that the loop passes over what it reads if the
entries can be passed over.

## Main definitions

* `Json.EntryAt`: where an entry begins.
* `Json.joined`: octets of entries with commas between them.
* `Json.Feeds`: entries that take a state to another, one after the other.

## Main statements

* `Json.sequence_cases`: what a loop that succeeds has done.
* `Json.sequence_joined`, `Json.sequence_joined_error`: the loop over entries that were written, of
  which one may fail.
* `Json.sequence_passed`: what is read entry by entry can be passed over.
-/

namespace IdentityTokens.Json

variable {σ : Type} {close : UInt8} {first : Bool} {fuel : Nat} {s rest : List UInt8}

/-! ## Laws of the loop -/

/-- An entry begins at certain octets: the first after blanks, another after a comma. -/
inductive EntryAt (close : UInt8) : Bool → List UInt8 → List UInt8 → Prop where
  | first {s rest : List UInt8} {b : UInt8} (blank : skipBlank s = b :: rest) (ne : b ≠ close) :
      EntryAt close true s (b :: rest)
  | next {s after rest : List UInt8} {b : UInt8} (comma : skipBlank s = commaOctet :: after)
      (comma_ne : commaOctet ≠ close) (blank : skipBlank after = b :: rest) (ne : b ≠ close) :
      EntryAt close false s (b :: rest)

/-- Where an entry begins there is no closing bracket. -/
theorem EntryAt.not_closed {t : List UInt8} (h : EntryAt close first s t) :
    skipBlank s ≠ close :: rest := by
  intro hclosed
  cases h with
  | first hblank hne => exact hne (List.cons.inj (hblank.symm.trans hclosed)).1
  | next hcomma hcommane hblank hne => exact hcommane (List.cons.inj (hcomma.symm.trans hclosed)).1

theorem sequence_of_close {entry : σ → Reader σ} (h : skipBlank s = close :: rest) (state : σ) :
    sequence close entry (fuel + 1) first state s = .ok (state, rest) := by
  simp [sequence, h]

theorem sequence_of_entry {entry : σ → Reader σ} {t : List UInt8} (h : EntryAt close first s t)
    (state : σ) :
    sequence close entry (fuel + 1) first state s =
      match entry state t with
      | .error e => .error e
      | .ok (state, rest) => sequence close entry fuel false state rest := by
  cases hread : entry state t with
  | error e =>
    cases h with
    | first hblank hne => simp only [sequence, hblank, hne, if_false, if_true, hread]
    | next hcomma hcommane hblank hne =>
      simp only [sequence, hcomma, hcommane, hblank, hne, Bool.false_eq_true, if_false, if_true,
        hread]
  | ok taken =>
    cases h with
    | first hblank hne => simp only [sequence, hblank, hne, if_false, if_true, hread]
    | next hcomma hcommane hblank hne =>
      simp only [sequence, hcomma, hcommane, hblank, hne, Bool.false_eq_true, if_false, if_true,
        hread]

/-- A loop that succeeds has ended at the closing bracket, or has taken an entry and gone on. -/
theorem sequence_cases {entry : σ → Reader σ} {state last : σ}
    (h : sequence close entry fuel first state s = .ok (last, rest)) :
    ∃ less, fuel = less + 1 ∧ (skipBlank s = close :: rest ∧ last = state ∨
      ∃ t middle after, EntryAt close first s t ∧ entry state t = .ok (middle, after) ∧
        sequence close entry less false middle after = .ok (last, rest)) := by
  cases fuel with
  | zero => cases h
  | succ fuel =>
    refine ⟨fuel, rfl, ?_⟩
    have htaken : ∀ t, EntryAt close first s t → ∃ t middle after, EntryAt close first s t ∧
        entry state t = .ok (middle, after) ∧
        sequence close entry fuel false middle after = .ok (last, rest) := by
      intro t ht
      rw [sequence_of_entry ht] at h
      split at h
      · cases h
      · next middle after hentry => exact ⟨t, middle, after, ht, hentry, h⟩
    cases hs : skipBlank s with
    | nil => simp [sequence, hs] at h
    | cons b more =>
      by_cases hclose : b = close
      · subst hclose
        rw [sequence_of_close hs] at h
        cases h
        exact .inl ⟨rfl, rfl⟩
      · cases first with
        | true => exact .inr (htaken _ (.first hs hclose))
        | false =>
          by_cases hcomma : b = commaOctet
          · subst hcomma
            cases hmore : skipBlank more with
            | nil => simp [sequence, hs, hclose, hmore] at h
            | cons c after =>
              by_cases hc : c = close
              · simp [sequence, hs, hclose, hmore, hc] at h
              · exact .inr (htaken _ (.next hs hclose hmore hc))
          · simp [sequence, hs, hclose, hcomma] at h

/-! ## Two loops over the same octets -/

/-- If entries that are read can also be passed over, then so can what a loop over them reads. -/
theorem sequence_passed {entry : σ → Reader σ} {passing : Unit → Reader Unit}
    (hentry : ∀ {state middle t after}, entry state t = .ok (middle, after) →
      passing () t = .ok ((), after))
    {state last : σ} (h : sequence close entry fuel first state s = .ok (last, rest)) :
    sequence close passing fuel first () s = .ok ((), rest) := by
  induction fuel generalizing first s state with
  | zero => cases h
  | succ fuel ih =>
    obtain ⟨less, hless, hend | ⟨t, middle, after, ht, hread, hmore⟩⟩ := sequence_cases h
    · exact sequence_of_close hend.1 ()
    · cases hless
      rw [sequence_of_entry ht, hentry hread]
      exact ih hmore

/-! ## Entries that were written -/

/-- The octets of entries, with commas between them. -/
def joined : List (List UInt8) → List UInt8
  | [] => []
  | w :: words => w ++ words.flatMap (commaOctet :: ·)

/-- Octets that begin with neither a blank nor the closing bracket. -/
def Opens (close : UInt8) (w : List UInt8) : Prop :=
  ∃ b t, w = b :: t ∧ isBlankOctet b = false ∧ b ≠ close

theorem skipBlank_of_opens {w : List UInt8} (h : Opens close w) (rest : List UInt8) :
    ∃ b t, skipBlank (w ++ rest) = b :: t ∧ b :: t = w ++ rest ∧ b ≠ close := by
  obtain ⟨b, t, rfl, hblank, hne⟩ := h
  exact ⟨b, t ++ rest, by simp [skipBlank, hblank], rfl, hne⟩

/-- Entries that take a state to another one after the other. Each reads all of its octets,
wherever what follows cannot continue a numeral. -/
inductive Feeds (close : UInt8) (entry : σ → Reader σ) : σ → List (List UInt8) → σ → Prop where
  | nil (state : σ) : Feeds close entry state [] state
  | cons {state middle last : σ} {w : List UInt8} {words : List (List UInt8)}
      (opens : Opens close w)
      (reads : ∀ rest, EndsNumeral rest → entry state (w ++ rest) = .ok (middle, rest))
      (more : Feeds close entry middle words last) : Feeds close entry state (w :: words) last

variable {entry : σ → Reader σ} {state middle last : σ} {words more : List (List UInt8)}

theorem Feeds.append (h : Feeds close entry state words middle)
    (hmore : Feeds close entry middle more last) :
    Feeds close entry state (words ++ more) last := by
  induction h with
  | nil => exact hmore
  | cons hopens hreads _ ih => exact .cons hopens hreads (ih hmore)

/-- The closing brackets of arrays and of objects. -/
def IsCloser (close : UInt8) : Prop := close = closeBracket ∨ close = closeBrace

theorem IsCloser.comma_ne (h : IsCloser close) : commaOctet ≠ close := by
  rcases h with rfl | rfl <;> decide

theorem IsCloser.skipBlank_cons (h : IsCloser close) (rest : List UInt8) :
    skipBlank (close :: rest) = close :: rest := by
  rcases h with rfl | rfl <;> simp [skipBlank, isBlankOctet, closeBracket, closeBrace]

theorem IsCloser.endsNumeral (h : IsCloser close) (rest : List UInt8) :
    EndsNumeral (close :: rest) := by
  intro b hb
  cases hb
  rcases h with rfl | rfl <;> decide

/-- A numeral ends before the comma of a further entry, or where it would end without any. -/
theorem endsNumeral_flatMap (words : List (List UInt8)) (h : EndsNumeral rest) :
    EndsNumeral (words.flatMap (commaOctet :: ·) ++ rest) := by
  cases words with
  | nil => exact h
  | cons w words =>
    intro b hb
    cases hb
    decide

/-- A further entry has a comma before it. -/
theorem skipBlank_flatMap (w : List UInt8) (words : List (List UInt8)) (rest : List UInt8) :
    skipBlank ((w :: words).flatMap (commaOctet :: ·) ++ rest) =
      commaOctet :: (w ++ (words.flatMap (commaOctet :: ·) ++ rest)) := by
  simp [skipBlank, isBlankOctet, commaOctet]

/-- The loop over entries that follow a first one comes to what stands after them. -/
theorem sequence_flatMap (hclose : IsCloser close) (h : Feeds close entry state words last)
    (hrest : EndsNumeral rest) (fuel : Nat) :
    sequence close entry (fuel + words.length) false state
        (words.flatMap (commaOctet :: ·) ++ rest) =
      sequence close entry fuel false last rest := by
  induction h with
  | nil state => rfl
  | @cons state middle last w words hopens hreads hmore ih =>
    obtain ⟨b, t, hskip, ht, hne⟩ :=
      skipBlank_of_opens hopens (words.flatMap (commaOctet :: ·) ++ rest)
    have hfront := skipBlank_flatMap w words rest
    rw [List.length_cons, ← Nat.add_assoc,
      sequence_of_entry (.next hfront hclose.comma_ne hskip hne), ht,
      hreads _ (endsNumeral_flatMap words hrest)]
    exact ih

/-- The loop over entries with commas between them comes to what stands after them. -/
theorem sequence_joined_append (hclose : IsCloser close) {w : List UInt8}
    (h : Feeds close entry state (w :: words) last) (hrest : EndsNumeral rest) (fuel : Nat) :
    sequence close entry (fuel + (w :: words).length) true state (joined (w :: words) ++ rest) =
      sequence close entry fuel false last rest := by
  cases h with
  | @cons _ middle _ _ _ hopens hreads hmore =>
    obtain ⟨b, t, hskip, ht, hne⟩ :=
      skipBlank_of_opens hopens (words.flatMap (commaOctet :: ·) ++ rest)
    rw [List.length_cons, ← Nat.add_assoc, joined, List.append_assoc,
      sequence_of_entry (.first hskip hne), ht, hreads _ (endsNumeral_flatMap words hrest)]
    exact sequence_flatMap hclose hmore hrest fuel

/-- The loop over entries with commas between them, up to the closing bracket. -/
theorem sequence_joined (hclose : IsCloser close) (h : Feeds close entry state words last)
    (hfuel : words.length < fuel) (rest : List UInt8) :
    sequence close entry fuel true state (joined words ++ close :: rest) = .ok (last, rest) := by
  have hend := hclose.skipBlank_cons rest
  obtain ⟨less, rfl⟩ : ∃ less, fuel = less + 1 + words.length :=
    ⟨fuel - words.length - 1, by omega⟩
  cases words with
  | nil =>
    cases h
    exact sequence_of_close hend state
  | cons w words =>
    rw [sequence_joined_append hclose h (hclose.endsNumeral rest)]
    exact sequence_of_close hend last

/-- The loop over entries of which one cannot be read stops there, with the fault of that entry. -/
theorem sequence_joined_error (hclose : IsCloser close)
    (h : Feeds close entry state words middle) {w : List UInt8} (hopens : Opens close w)
    {fault : Fault} (hfails : ∀ rest, EndsNumeral rest → entry middle (w ++ rest) = .error fault)
    (more : List (List UInt8)) (hfuel : words.length < fuel) (rest : List UInt8) :
    sequence close entry fuel true state (joined (words ++ w :: more) ++ close :: rest) =
      .error fault := by
  have hends := endsNumeral_flatMap more (hclose.endsNumeral rest)
  obtain ⟨b, t, hskip, ht, hne⟩ :=
    skipBlank_of_opens hopens (more.flatMap (commaOctet :: ·) ++ close :: rest)
  obtain ⟨less, rfl⟩ : ∃ less, fuel = less + 1 + words.length :=
    ⟨fuel - words.length - 1, by omega⟩
  cases words with
  | nil =>
    cases h
    rw [List.nil_append, joined, List.append_assoc]
    exact (sequence_of_entry (.first hskip hne) state).trans (by rw [ht, hfails _ hends])
  | cons v words =>
    have hsplit : joined (v :: words ++ w :: more) ++ close :: rest =
        joined (v :: words) ++ ((w :: more).flatMap (commaOctet :: ·) ++ close :: rest) := by
      simp [joined]
    have hcomma := endsNumeral_flatMap (w :: more) (hclose.endsNumeral rest)
    have hfront := skipBlank_flatMap w more (close :: rest)
    rw [hsplit, sequence_joined_append hclose h hcomma,
      sequence_of_entry (.next hfront hclose.comma_ne hskip hne), ht, hfails _ hends]

end IdentityTokens.Json
