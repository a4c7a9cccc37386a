import IdentityTokens.Proofs.Json.Skipping
import Mathlib.Data.List.Forall2

/-!
# Entries of any array or object

What stands between brackets, said of octets that nobody wrote on purpose: one entry after the
other, each read by one reader, up to the closing bracket. A loop that reads at least what this
reader reads goes through the same entries and folds over them, whatever it keeps of each. So two
loops over the same octets, one strict and one loose or one typed and one open, can be compared by
what they make of the entries, and the bound on their work plays no part.

## Main definitions

* `Json.Spans`: the entries up to a closing bracket.

## Main statements

* `Json.spans_of_sequence`, `Json.sequence_of_spans`: a loop goes through entries, and folds.
* `Json.Spans.rel`: two readers that go along with each other find related entries.
* `Json.Spans.settled`: entries do not depend on the bound of their reader, and are fewer than
  their octets.
* `Json.skipAny_of_readValue`: a value that is read within any bounds is passed over.
-/

namespace IdentityTokens.Json

variable {σ α : Type} {close : UInt8} {first : Bool} {s rest : List UInt8}

/-- Entries, each read by a reader, up to a closing bracket. -/
inductive Spans (close : UInt8) (reader : Reader α) :
    Bool → List UInt8 → List α → List UInt8 → Prop where
  | nil {first : Bool} {s rest : List UInt8} (closed : skipBlank s = close :: rest) :
      Spans close reader first s [] rest
  | cons {first : Bool} {s t after rest : List UInt8} {a : α} {entries : List α}
      (begins : EntryAt close first s t) (reads : reader t = .ok (a, after))
      (more : Spans close reader false after entries rest) :
      Spans close reader first s (a :: entries) rest

/-! ## Where entries begin -/

theorem length_skipBlank_le (s : List UInt8) : (skipBlank s).length ≤ s.length :=
  (List.dropWhile_suffix _).length_le

theorem EntryAt.length_le {t : List UInt8} (h : EntryAt close first s t) : t.length ≤ s.length := by
  cases h with
  | @first _ rest b hblank hne =>
    have hle := length_skipBlank_le s
    rwa [hblank] at hle
  | @next _ after rest b hcomma hcommane hblank hne =>
    have hle := length_skipBlank_le s
    have hmore := length_skipBlank_le after
    rw [hcomma] at hle
    rw [hblank] at hmore
    rw [List.length_cons] at hle
    omega

/-! ## Loops -/

variable {entry : σ → Reader σ} {reader : Reader α} {entries : List α} {fuel : Nat}
  {state last : σ}

/-- A loop that succeeds has gone through entries, if the reader reads what the loop reads. -/
theorem spans_of_sequence
    (hentry : ∀ state t middle after, entry state t = .ok (middle, after) →
      ∃ a, reader t = .ok (a, after))
    (h : sequence close entry fuel first state s = .ok (last, rest)) :
    ∃ entries, Spans close reader first s entries rest := by
  induction fuel generalizing first s state with
  | zero => cases h
  | succ fuel ih =>
    obtain ⟨less, hless, ⟨hclosed, -⟩ | ⟨t, middle, after, ht, hread, hmore⟩⟩ := sequence_cases h
    · exact ⟨[], .nil hclosed⟩
    · cases hless
      obtain ⟨a, ha⟩ := hentry _ _ _ _ hread
      obtain ⟨entries, hentries⟩ := ih hmore
      exact ⟨a :: entries, .cons ht ha hentries⟩

/-- A loop over entries folds over them, if it makes of each what a step makes of what is read. It
succeeds exactly when the bound allows for the entries and every step does. -/
theorem sequence_of_spans {step : σ → α → Option σ}
    (hentry : ∀ state t a after, reader t = .ok (a, after) → ∀ middle left,
      entry state t = .ok (middle, left) ↔ left = after ∧ step state a = some middle)
    (h : Spans close reader first s entries rest) {left : List UInt8} :
    sequence close entry fuel first state s = .ok (last, left) ↔
      entries.length < fuel ∧ left = rest ∧ entries.foldlM step state = some last := by
  induction h generalizing fuel state with
  | @nil first s rest hclosed =>
    cases fuel with
    | zero => simp [sequence]
    | succ fuel =>
      rw [sequence_of_close hclosed]
      simp only [Except.ok.injEq, Prod.mk.injEq, List.length_nil, Nat.zero_lt_succ, true_and,
        List.foldlM_nil, Option.pure_def, Option.some.injEq]
      constructor
      · rintro ⟨rfl, rfl⟩
        exact ⟨rfl, rfl⟩
      · rintro ⟨rfl, rfl⟩
        exact ⟨rfl, rfl⟩
  | @cons first s t after rest a entries hbegins hreads hmore ih =>
    cases fuel with
    | zero => simp [sequence]
    | succ fuel =>
      rw [sequence_of_entry hbegins, List.foldlM_cons, List.length_cons, Nat.succ_lt_succ_iff]
      cases hread : entry state t with
      | error e =>
        -- The entry is there, so it is the step that has no result.
        have hnone : step state a = none := by
          refine Option.eq_none_iff_forall_ne_some.mpr fun middle hmiddle => ?_
          rw [(hentry _ _ _ _ hreads _ _).mpr ⟨rfl, hmiddle⟩] at hread
          cases hread
        simp [hnone]
      | ok taken =>
        obtain ⟨middle, next⟩ := taken
        obtain ⟨rfl, hstep⟩ := (hentry _ _ _ _ hreads _ _).mp hread
        simp only [hstep, Option.bind_eq_bind, Option.bind_some]
        exact ih

/-- Entries that are kept one by one stand in reverse. -/
theorem foldlM_cons_eq (entries kept : List α) :
    entries.foldlM (fun kept a => some (a :: kept)) kept = some (entries.reverse ++ kept) := by
  induction entries generalizing kept with
  | nil => rfl
  | cons a entries ih =>
    rw [List.foldlM_cons, Option.bind_eq_bind, Option.bind_some, ih, List.reverse_cons,
      List.append_assoc]
    rfl

/-- A loop that keeps what it reads has gone through the entries that it has kept. -/
theorem sequence_keeping_iff {entry : List α → Reader (List α)}
    (hentry : ∀ kept t, entry kept t = (reader t).map fun read => (read.1 :: kept, read.2))
    {kept last : List α} :
    sequence close entry fuel first kept s = .ok (last, rest) ↔
      ∃ entries, Spans close reader first s entries rest ∧ entries.length < fuel ∧
        last = entries.reverse ++ kept := by
  have hread : ∀ kept t middle after, entry kept t = .ok (middle, after) →
      ∃ a, reader t = .ok (a, after) := by
    intro kept t middle after h
    rw [hentry] at h
    obtain ⟨⟨a, left⟩, ha, heq⟩ := map_eq_ok h
    cases heq
    exact ⟨a, ha⟩
  have hstep : ∀ kept t a after, reader t = .ok (a, after) → ∀ middle left,
      entry kept t = .ok (middle, left) ↔ left = after ∧ some (a :: kept) = some middle := by
    intro kept t a after ha middle left
    rw [hentry, ha]
    simp [Except.map, and_comm, eq_comm]
  constructor
  · intro h
    obtain ⟨entries, hspans⟩ := spans_of_sequence hread h
    obtain ⟨hfuel, -, hfold⟩ := (sequence_of_spans hstep hspans).mp h
    rw [foldlM_cons_eq] at hfold
    exact ⟨entries, hspans, hfuel, (Option.some.inj hfold).symm⟩
  · rintro ⟨entries, hspans, hfuel, rfl⟩
    exact (sequence_of_spans hstep hspans).mpr ⟨hfuel, rfl, foldlM_cons_eq entries kept⟩

/-- Entries that one reader reads another one reads too, if it reads the same or related ones at all
places that are as short. As long as every entry takes octets, there are fewer entries than
octets. -/
theorem Spans.rel {β : Type} {R : α → β → Prop} (reader' : Reader β) {bound : Nat}
    (hreader : ∀ {t a after}, t.length ≤ bound → reader t = .ok (a, after) →
      after.length < t.length ∧ ∃ b, reader' t = .ok (b, after) ∧ R a b)
    (hs : s.length ≤ bound) (h : Spans close reader first s entries rest) :
    rest.length + entries.length < s.length ∧
      ∃ entries', Spans close reader' first s entries' rest ∧ List.Forall₂ R entries entries' := by
  induction h with
  | @nil first s rest hclosed =>
    have hle := length_skipBlank_le s
    rw [hclosed, List.length_cons] at hle
    exact ⟨hle, [], .nil hclosed, .nil⟩
  | @cons first s t after rest a entries hbegins hreads hmore ih =>
    have hle := hbegins.length_le
    obtain ⟨hlt, b, hb, hrel⟩ := hreader (hle.trans hs) hreads
    obtain ⟨hcount, entries', hspans, hrels⟩ := ih (by omega)
    refine ⟨?_, b :: entries', .cons hbegins hb hspans, .cons hrel hrels⟩
    rw [List.length_cons]
    omega

/-- Entries that one reader reads another one reads too, if it reads the same at all places that
are as short. -/
theorem Spans.imp {reader' : Reader α} {bound : Nat}
    (hreader : ∀ {t a after}, t.length ≤ bound → reader t = .ok (a, after) →
      after.length < t.length ∧ reader' t = .ok (a, after))
    (hs : s.length ≤ bound) (h : Spans close reader first s entries rest) :
    Spans close reader' first s entries rest ∧ rest.length + entries.length < s.length := by
  obtain ⟨hcount, entries', hspans, hsame⟩ := h.rel (R := Eq) reader' (fun ht hread =>
    ⟨(hreader ht hread).1, _, (hreader ht hread).2, rfl⟩) hs
  rw [List.forall₂_eq_eq_eq] at hsame
  exact ⟨hsame ▸ hspans, hcount⟩

/-- Entries that two readers both read, one of them under another form, stand in the same octets. -/
theorem Spans.map_iff {β : Type} {reader' : Reader β} {f : α → β}
    (hreader : ∀ t a after, reader t = .ok (a, after) ↔ reader' t = .ok (f a, after)) :
    Spans close reader first s entries rest ↔ Spans close reader' first s (entries.map f) rest := by
  induction entries generalizing first s with
  | nil =>
    constructor
    all_goals
      intro hspans
      cases hspans with
      | nil hclosed => exact .nil hclosed
  | cons a entries ih =>
    constructor
    · intro hspans
      cases hspans with
      | cons hbegins hreads hmore => exact .cons hbegins ((hreader _ _ _).mp hreads) (ih.mp hmore)
    · intro hspans
      cases hspans with
      | cons hbegins hreads hmore => exact .cons hbegins ((hreader _ _ _).mpr hreads) (ih.mpr hmore)

/-! ## Octets that are taken -/

theorem length_le_of_expect {word : List UInt8} (h : expect word s = .ok rest) :
    rest.length ≤ s.length := by
  induction word generalizing s with
  | nil =>
    cases h
    exact Nat.le_refl _
  | cons w word ih =>
    cases s with
    | nil => cases h
    | cons b s =>
      rw [expect] at h
      split at h
      · exact (ih h).trans (Nat.le_succ _)
      · cases h

theorem length_lt_of_skipTextFrom {cursor : Cursor} (h : skipTextFrom cursor s = .ok rest) :
    rest.length < s.length := by
  induction s generalizing cursor with
  | nil => cases h
  | cons b s ih =>
    rw [skipTextFrom] at h
    split at h
    · cases h
    · cases h
      exact Nat.lt_succ_self _
    · exact (ih h).trans (Nat.lt_succ_self _)

theorem length_lt_of_someDigits {short : Fault} {ds : List Nat}
    (h : someDigits short s = .ok (ds, rest)) : rest.length < s.length := by
  rw [someDigits, digitRun] at h
  have hsum := congrArg List.length (List.takeWhile_append_dropWhile (p := isDigit) (l := s))
  rw [List.length_append] at hsum
  cases hdigits : s.takeWhile isDigit with
  | nil =>
    rw [hdigits] at h
    split at h
    · cases h
    · cases h
    · next hended hother =>
      cases hleft : s.dropWhile isDigit with
      | nil => exact (hended (by rw [hleft]; rfl)).elim
      | cons b more => exact (hother b more (by rw [hleft]; rfl)).elim
  | cons b digits =>
    rw [hdigits] at h hsum
    cases h
    rw [List.length_cons] at hsum
    omega

theorem length_lt_of_wholeDigits {short : Fault} {ds : List Nat}
    (h : wholeDigits short s = .ok (ds, rest)) : rest.length < s.length := by
  rw [wholeDigits] at h
  split at h
  · cases h
  · exact length_lt_of_someDigits h

theorem length_le_of_fractionDigits {short : Fault} {fraction : Option (List Nat)}
    (h : fractionDigits short s = .ok (fraction, rest)) : rest.length ≤ s.length := by
  cases s with
  | nil =>
    cases h
    exact Nat.le_refl _
  | cons b s =>
    rw [fractionDigits] at h
    split at h
    · obtain ⟨⟨ds, after⟩, hsome, heq⟩ := map_eq_ok h
      cases heq
      exact (length_lt_of_someDigits hsome).le.trans (Nat.le_succ _)
    · cases h
      exact Nat.le_refl _

theorem length_le_of_exponentDigits {short : Fault} {exponent : Option (Bool × List Nat)}
    (h : exponentDigits short s = .ok (exponent, rest)) : rest.length ≤ s.length := by
  cases s with
  | nil =>
    cases h
    exact Nat.le_refl _
  | cons b s =>
    simp only [exponentDigits] at h
    split at h
    · obtain ⟨⟨ds, after⟩, hsome, heq⟩ := map_eq_ok h
      cases heq
      refine (length_lt_of_someDigits hsome).le.trans ?_
      split
      · next c more =>
        simp only [List.length_cons]
        split
        · exact Nat.le_succ_of_le (Nat.le_succ _)
        · split
          · exact Nat.le_succ_of_le (Nat.le_succ _)
          · exact Nat.le_succ _
      · simp
    · cases h
      exact Nat.le_refl _

theorem length_lt_of_skipNumeral (h : skipNumeral s = .ok rest) : rest.length < s.length := by
  have hnumeral : ∀ {short : Fault} {negative : Bool} {n : Numeral} {s rest : List UInt8},
      readNumeral short negative s = .ok (n, rest) → rest.length < s.length := by
    intro short negative n s rest h
    rw [readNumeral] at h
    split at h
    · cases h
    · next hwhole =>
      split at h
      · cases h
      · next hfraction =>
        split at h
        · cases h
        · next hexponent =>
          cases h
          exact (length_le_of_exponentDigits hexponent).trans_lt
            ((length_le_of_fractionDigits hfraction).trans_lt (length_lt_of_wholeDigits hwhole))
  rw [skipNumeral] at h
  obtain ⟨⟨n, after⟩, hsigned, rfl⟩ := map_eq_ok h
  cases s with
  | nil => cases hsigned
  | cons b s =>
    rw [signedNumeral] at hsigned
    split at hsigned
    · exact (hnumeral hsigned).trans (Nat.lt_succ_self _)
    · exact hnumeral hsigned

theorem length_lt_of_skipScalar (h : skipScalar s = .ok rest) : rest.length < s.length := by
  cases s with
  | nil => cases h
  | cons b s =>
    rw [skipScalar] at h
    split at h
    · exact Nat.lt_succ_of_le (length_le_of_expect h)
    split at h
    · exact Nat.lt_succ_of_le (length_le_of_expect h)
    split at h
    · exact Nat.lt_succ_of_le (length_le_of_expect h)
    split at h
    · exact (length_lt_of_skipTextFrom h).trans (Nat.lt_succ_self _)
    split at h
    · exact length_lt_of_skipNumeral h
    · cases h

theorem length_lt_of_memberName (h : memberName (fun s => (skipText s).map ((), ·)) s =
    .ok ((), rest)) : rest.length < s.length := by
  rw [memberName] at h
  split at h
  · cases h
  · next key after hquoted =>
    obtain ⟨colon, hcolon, heq⟩ := map_eq_ok h
    cases heq
    cases s with
    | nil => cases hquoted
    | cons b s =>
      rw [quotedName] at hquoted
      split at hquoted
      · obtain ⟨left, hskip, heq⟩ := map_eq_ok hquoted
        cases heq
        have hname := length_lt_of_skipTextFrom hskip
        have hblank := length_skipBlank_le after
        rw [nameColon] at hcolon
        split at hcolon
        · cases hcolon
        · next c more hmore =>
          split at hcolon
          · cases hcolon
            rw [hmore, List.length_cons] at hblank
            rw [List.length_cons]
            omega
          · cases hcolon
      · cases hquoted

/-! ## The bound on the work -/

/-- What a reader with a certain bound reads takes octets, and is read with any bound that allows
for all octets. -/
def Settled (read : Nat → Reader α) (fuel : Nat) : Prop :=
  ∀ ⦃s a rest⦄, read fuel s = .ok (a, rest) →
    rest.length < s.length ∧ ∀ more, s.length < more → read more s = .ok (a, rest)

/-- Entries of a settled reader stand there with any bound that allows for all octets, and are fewer
than these. -/
theorem Spans.settled (read : Nat → Reader α) (hread : Settled read fuel)
    (h : Spans close (read fuel) first s entries rest) :
    rest.length + entries.length < s.length ∧
      ∀ more, s.length < more → Spans close (read more) first s entries rest := by
  have himp : ∀ more, s.length < more → Spans close (read more) first s entries rest ∧
      rest.length + entries.length < s.length := by
    intro more hmore
    refine h.imp (fun {t a after} ht ha => ?_) (Nat.le_refl _)
    obtain ⟨hlt, hsame⟩ := hread ha
    exact ⟨hlt, hsame more (by omega)⟩
  exact ⟨(himp _ (Nat.lt_succ_self _)).2, fun more hmore => (himp more hmore).1⟩

/-- A loop over entries that are passed over is settled if they are. -/
theorem sequence_of_settled {passing : Nat → Unit → Reader Unit}
    (hpassing : Settled (fun n => passing n ()) fuel)
    (h : sequence close (passing fuel) fuel true () s = .ok ((), rest)) :
    rest.length < s.length ∧ ∀ more, s.length < more →
      sequence close (passing more) more true () s = .ok ((), rest) := by
  have hunit : ∀ n (state : Unit) (t : List UInt8) (a : Unit) (after : List UInt8),
      passing n () t = .ok (a, after) → ∀ middle left, passing n state t = .ok (middle, left) ↔
        left = after ∧ (fun _ _ => some () : Unit → Unit → Option Unit) state a = some middle := by
    intro n state t a after hread middle left
    rw [hread]
    simp [eq_comm]
  obtain ⟨entries, hspans⟩ : ∃ entries, Spans close (passing fuel ()) true s entries rest :=
    spans_of_sequence (fun _ _ _ _ hread => ⟨(), hread⟩) h
  obtain ⟨-, -, hfold⟩ := (sequence_of_spans (hunit fuel) hspans).mp h
  obtain ⟨hcount, hsame⟩ := hspans.settled (fun n => passing n ()) hpassing
  refine ⟨by omega, fun more hmore => ?_⟩
  exact (sequence_of_spans (hunit more) (hsame more hmore)).mpr ⟨by omega, rfl, hfold⟩

theorem settled_passMember (h : Settled (fun n => passItem n ()) fuel) :
    Settled (fun n => passMember n ()) fuel := by
  intro s a rest hread
  simp only [passMember] at hread
  split at hread
  · cases hread
  · next left hname =>
    obtain ⟨hlt, hsame⟩ := h hread
    have hless := length_lt_of_memberName hname
    refine ⟨by omega, fun more hmore => ?_⟩
    simp only [passMember, hname]
    exact hsame more (by omega)

/-- Passing over a value is settled, whatever its bound is. -/
theorem settled_passItem (fuel : Nat) : Settled (fun n => passItem n ()) fuel := by
  induction fuel with
  | zero =>
    intro s a rest h
    cases h
  | succ fuel ih =>
    intro s a rest h
    obtain ⟨after, hskip, heq⟩ := map_eq_ok h
    cases heq
    suffices hsettled : rest.length < s.length ∧ ∀ more, s.length < more →
        skipValue more s = .ok rest by
      refine ⟨hsettled.1, fun more hmore => ?_⟩
      simp only [passItem, hsettled.2 more hmore, Except.map]
    have hless := length_skipBlank_le s
    cases hblank : skipBlank s with
    | nil =>
      rw [skipValue, hblank] at hskip
      cases hskip
    | cons b t =>
      rw [hblank, List.length_cons] at hless
      by_cases hbracket : b = openBracket
      · subst hbracket
        rw [skipValue_array hblank] at hskip
        obtain ⟨⟨_, after⟩, hitems, rfl⟩ := map_eq_ok hskip
        obtain ⟨hlt, hsame⟩ := sequence_of_settled ih hitems
        refine ⟨by simp only; omega, fun more hmore => ?_⟩
        obtain ⟨more, rfl⟩ := Nat.exists_eq_add_one.mpr (by omega : 0 < more)
        rw [skipValue_array hblank, hsame more (by omega)]
        rfl
      by_cases hbrace : b = openBrace
      · subst hbrace
        rw [skipValue_object hblank] at hskip
        obtain ⟨⟨_, after⟩, hmembers, rfl⟩ := map_eq_ok hskip
        obtain ⟨hlt, hsame⟩ := sequence_of_settled (settled_passMember ih) hmembers
        refine ⟨by simp only; omega, fun more hmore => ?_⟩
        obtain ⟨more, rfl⟩ := Nat.exists_eq_add_one.mpr (by omega : 0 < more)
        rw [skipValue_object hblank, hsame more (by omega)]
        rfl
      · rw [skipValue_scalar hblank hbracket hbrace] at hskip
        have hlt := length_lt_of_skipScalar hskip
        rw [List.length_cons] at hlt
        refine ⟨by omega, fun more hmore => ?_⟩
        obtain ⟨more, rfl⟩ := Nat.exists_eq_add_one.mpr (by omega : 0 < more)
        rw [skipValue_scalar hblank hbracket hbrace, hskip]

/-! ## Values -/

variable {depth : Nat} {v : Json}

/-- A value takes octets, and is passed over wherever it is read, whatever the bounds are. -/
theorem skipAny_of_readValue (h : readValue fuel depth s = .ok (v, rest)) :
    rest.length < s.length ∧ skipAny s = .ok rest := by
  have hpass : passItem fuel () s = .ok ((), rest) := by
    simp only [passItem, skipValue_of_readValue h, Except.map]
  obtain ⟨hlt, hsame⟩ := settled_passItem fuel hpass
  obtain ⟨after, hskip, heq⟩ := map_eq_ok (hsame (s.length + 1) (Nat.lt_succ_self _))
  cases heq
  exact ⟨hlt, hskip⟩

end IdentityTokens.Json
