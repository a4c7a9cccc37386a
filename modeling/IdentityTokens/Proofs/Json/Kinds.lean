import IdentityTokens.Json.Record
import IdentityTokens.Proofs.Json.Entries
import Mathlib.Data.List.DropRight

/-!
# Values of any document

What has been read when a value has been read, by the first octet that is not blank: an array item
by item, an object member by member, or a value without parts. From it follows which values the
readers of one shape take, wherever they are used: they read where any value is read, up to the same
place, and differ only in what they refuse.

## Main definitions

* `Json.memberOf`, `Json.readMember`: a member of an object.
* `Json.Views`: a reader takes the values of one shape.

## Main statements

* `Json.readValue_cases`: what a value is that has been read.
* `Json.views_textValue`, `Json.views_optionalText`, `Json.views_int64Value`: the values of one
  shape.
* `Json.Numeral.value?_eq_integer_iff`, `Json.readValue_integer_iff`: which literals are whole
  numbers.
-/

namespace IdentityTokens.Json

variable {σ α : Type} {s rest : List UInt8} {fuel depth : Nat} {v : Json}

/-! ## What has been read -/

/-- A member of an object, with a value that a reader takes. -/
def memberOf (value : Reader α) : Reader (String × α) := fun s =>
  match memberName readText s with
  | .error e => .error e
  | .ok (name, rest) => (value rest).map fun (a, rest) => ((name, a), rest)

/-- A member of an object. -/
def readMember (fuel depth : Nat) : Reader (String × Json) := fun s =>
  match memberName readText s with
  | .error e => .error e
  | .ok (name, rest) => (readValue fuel depth rest).map fun (v, rest) => ((name, v), rest)

theorem memberOf_eq_ok_iff {value : Reader α} {name : String} {a : α} :
    memberOf value s = .ok ((name, a), rest) ↔ ∃ colon,
      memberName readText s = .ok (name, colon) ∧ value colon = .ok (a, rest) := by
  rw [memberOf]
  constructor
  · intro h
    split at h
    · cases h
    · next key colon hname =>
      obtain ⟨⟨w, after⟩, hvalue, heq⟩ := map_eq_ok h
      cases heq
      exact ⟨colon, hname, hvalue⟩
  · rintro ⟨colon, hname, hvalue⟩
    simp only [hname, hvalue, Except.map]

theorem memberName_eq_ok_iff {name : String} :
    memberName readText s = .ok (name, rest) ↔ ∃ quoted,
      quotedName readText s = .ok (name, quoted) ∧ nameColon quoted = .ok rest := by
  rw [memberName]
  constructor
  · intro h
    split at h
    · cases h
    · next found quoted hquoted =>
      obtain ⟨begun, hcolon, heq⟩ := map_eq_ok h
      cases heq
      exact ⟨quoted, hquoted, hcolon⟩
  · rintro ⟨quoted, hquoted, hcolon⟩
    simp only [hquoted, hcolon, Except.map]

theorem readMember_eq_ok_iff {name : String} :
    readMember fuel depth s = .ok ((name, v), rest) ↔ ∃ colon,
      memberName readText s = .ok (name, colon) ∧ readValue fuel depth colon = .ok (v, rest) :=
  memberOf_eq_ok_iff

theorem nextMember_eq_map (pairs : List (String × Json)) (t : List UInt8) :
    nextMember fuel depth pairs t =
      (readMember fuel depth t).map fun read => (read.1 :: pairs, read.2) := by
  rw [nextMember, readMember]
  cases memberName readText t with
  | error e => rfl
  | ok named => cases hvalue : readValue fuel depth named.2 <;> simp [hvalue, Except.map]

theorem sequence_nextItem_iff {first : Bool} {items last : List Json} :
    sequence closeBracket (nextItem fuel depth) fuel first items s = .ok (last, rest) ↔
      ∃ more, Spans closeBracket (readValue fuel depth) first s more rest ∧ more.length < fuel ∧
        last = more.reverse ++ items :=
  sequence_keeping_iff fun _ _ => rfl

theorem sequence_nextMember_iff {first : Bool} {pairs last : List (String × Json)} :
    sequence closeBrace (nextMember fuel depth) fuel first pairs s = .ok (last, rest) ↔
      ∃ more, Spans closeBrace (readMember fuel depth) first s more rest ∧ more.length < fuel ∧
        last = more.reverse ++ pairs :=
  sequence_keeping_iff nextMember_eq_map

/-- What a value is that has been read, by its first octet. -/
theorem readValue_cases (h : readValue (fuel + 1) depth s = .ok (v, rest)) :
    (∃ t less items, skipBlank s = openBracket :: t ∧ depth = less + 1 ∧ v = .array items ∧
      Spans closeBracket (readValue fuel less) true t items rest ∧ items.length < fuel) ∨
    (∃ t less pairs, skipBlank s = openBrace :: t ∧ depth = less + 1 ∧
      v = .object (NameMap.ofList pairs) ∧
      Spans closeBrace (readMember fuel less) true t pairs rest ∧ pairs.length < fuel) ∨
    ∃ b t, skipBlank s = b :: t ∧ (b ≠ openBracket ∧ b ≠ openBrace) ∧
      readScalar (b :: t) = .ok (v, rest) := by
  cases hblank : skipBlank s with
  | nil =>
    rw [readValue, hblank] at h
    cases h
  | cons b t =>
    by_cases hscalar : b ≠ openBracket ∧ b ≠ openBrace
    · rw [readValue_scalar hblank hscalar.1 hscalar.2] at h
      exact .inr (.inr ⟨b, t, rfl, hscalar, h⟩)
    have hnested : b = openBracket ∨ b = openBrace := by
      rwa [not_and_or, not_not, not_not] at hscalar
    cases depth with
    | zero =>
      simp only [readValue, hblank, hnested, if_true] at h
      cases h
    | succ less =>
      rcases hnested with rfl | rfl
      · rw [readValue_array hblank] at h
        obtain ⟨⟨last, after⟩, hitems, heq⟩ := map_eq_ok h
        cases heq
        obtain ⟨items, hspans, hfuel, rfl⟩ := sequence_nextItem_iff.mp hitems
        rw [List.append_nil, List.reverse_reverse]
        exact .inl ⟨t, less, items, rfl, rfl, rfl, hspans, hfuel⟩
      · rw [readValue_object hblank] at h
        obtain ⟨⟨last, after⟩, hpairs, heq⟩ := map_eq_ok h
        cases heq
        obtain ⟨pairs, hspans, hfuel, rfl⟩ := sequence_nextMember_iff.mp hpairs
        rw [List.append_nil, List.reverse_reverse]
        exact .inr (.inl ⟨t, less, pairs, rfl, rfl, rfl, hspans, hfuel⟩)

/-- What a value without parts is that has been read, by its first octet. -/
theorem readScalar_cases {b : UInt8} {t : List UInt8} (h : readScalar (b :: t) = .ok (v, rest)) :
    (b = 0x6E ∧ v = .null ∧ expect afterN t = .ok rest) ∨ (∃ truth, v = .bool truth) ∨
      (∃ text, b = quoteOctet ∧ v = .string text ∧ readText t = .ok (text, rest)) ∨
      ∃ n, (b = minusOctet ∨ isDigit b = true) ∧ v = .number n ∧
        readNumber (b :: t) = .ok (n, rest) := by
  rw [readScalar] at h
  split at h
  · next hb =>
    obtain ⟨after, hafter, heq⟩ := map_eq_ok h
    cases heq
    exact .inl ⟨hb, rfl, hafter⟩
  split at h
  · obtain ⟨after, -, heq⟩ := map_eq_ok h
    cases heq
    exact .inr (.inl ⟨_, rfl⟩)
  split at h
  · obtain ⟨after, -, heq⟩ := map_eq_ok h
    cases heq
    exact .inr (.inl ⟨_, rfl⟩)
  split at h
  · next hquote =>
    obtain ⟨⟨text, after⟩, htext, heq⟩ := map_eq_ok h
    cases heq
    exact .inr (.inr (.inl ⟨text, hquote, rfl, htext⟩))
  split at h
  · next hnumber =>
    obtain ⟨⟨n, after⟩, hn, heq⟩ := map_eq_ok h
    cases heq
    exact .inr (.inr (.inr ⟨n, hnumber, rfl, hn⟩))
  · cases h

/-- What is read without a bracket is neither an array nor an object. -/
theorem readScalar_not_nested {b : UInt8} {t : List UInt8}
    (h : readScalar (b :: t) = .ok (v, rest)) :
    (∀ items, v ≠ .array items) ∧ ∀ members, v ≠ .object members := by
  rcases readScalar_cases h with ⟨-, rfl, -⟩ | ⟨_, rfl⟩ | ⟨_, -, rfl, -⟩ | ⟨_, -, rfl, -⟩
  all_goals exact ⟨nofun, nofun⟩

/-! ## The bound on the work -/

theorem settled_readMember (h : Settled (fun n => readValue n depth) fuel) :
    Settled (fun n => readMember n depth) fuel := by
  rintro s ⟨name, v⟩ rest hread
  obtain ⟨colon, hname, hv⟩ := readMember_eq_ok_iff.mp hread
  obtain ⟨hlt, hsame⟩ := h hv
  have hless := length_lt_of_memberName (memberName_of_readText hname)
  exact ⟨hlt.trans hless, fun more hmore =>
    readMember_eq_ok_iff.mpr ⟨colon, hname, hsame more (hless.trans hmore)⟩⟩

/-- Reading a value is settled, whatever its bound is. -/
theorem settled_readValue (fuel depth : Nat) : Settled (fun n => readValue n depth) fuel := by
  induction fuel generalizing depth with
  | zero =>
    intro s v rest h
    cases h
  | succ fuel ih =>
    intro s v rest h
    refine ⟨(skipAny_of_readValue h).1, fun more hmore => ?_⟩
    obtain ⟨more, rfl⟩ := Nat.exists_eq_add_one.mpr (by omega : 0 < more)
    have hless := length_skipBlank_le s
    rcases readValue_cases h with ⟨t, less, items, hblank, rfl, rfl, hspans, -⟩ |
      ⟨t, less, pairs, hblank, rfl, rfl, hspans, -⟩ | ⟨b, t, hblank, hother, hscalar⟩
    · -- What follows the bracket is shorter, so any bound that allows for the value allows for it.
      rw [hblank, List.length_cons] at hless
      obtain ⟨hcount, hsame⟩ := hspans.settled (fun n => readValue n less) (ih less)
      have hitems := sequence_nextItem_iff.mpr
        ⟨items, hsame more (by omega), by omega, (List.append_nil _).symm⟩
      simp only [readValue_array hblank, hitems, Except.map, List.reverse_reverse]
    · rw [hblank, List.length_cons] at hless
      obtain ⟨hcount, hsame⟩ := hspans.settled (fun n => readMember n less)
        (settled_readMember (ih less))
      have hpairs := sequence_nextMember_iff.mpr
        ⟨pairs, hsame more (by omega), by omega, (List.append_nil _).symm⟩
      simp only [readValue_object hblank, hpairs, Except.map, List.reverse_reverse]
    · exact (readValue_scalar hblank hother.1 hother.2).trans hscalar

/-- Members do not depend on the bound, and are fewer than their octets. -/
theorem Spans.settled_members {close : UInt8} {first : Bool} {pairs : List (String × Json)}
    (h : Spans close (readMember fuel depth) first s pairs rest) :
    rest.length + pairs.length < s.length ∧
      ∀ more, s.length < more → Spans close (readMember more depth) first s pairs rest :=
  h.settled (fun n => readMember n depth) (settled_readMember (settled_readValue fuel depth))

/-! ## Values of one kind -/

theorem readValue_null_iff :
    readValue (fuel + 1) depth s = .ok (.null, rest) ↔
      ∃ t, skipBlank s = 0x6E :: t ∧ expect afterN t = .ok rest := by
  constructor
  · intro h
    rcases readValue_cases h with ⟨_, _, _, -, -, hv, -⟩ | ⟨_, _, _, -, -, hv, -⟩ |
      ⟨b, t, hblank, -, hscalar⟩
    · cases hv
    · cases hv
    · rcases readScalar_cases hscalar with ⟨rfl, -, hafter⟩ | ⟨_, hv⟩ | ⟨_, -, hv, -⟩ |
        ⟨_, -, hv, -⟩
      · exact ⟨t, hblank, hafter⟩
      all_goals cases hv
  · rintro ⟨t, hblank, hafter⟩
    rw [readValue_scalar hblank (by decide) (by decide), readScalar, if_pos rfl, hafter]
    rfl

theorem readValue_string_iff {text : String} :
    readValue (fuel + 1) depth s = .ok (.string text, rest) ↔
      ∃ t, skipBlank s = quoteOctet :: t ∧ readText t = .ok (text, rest) := by
  constructor
  · intro h
    rcases readValue_cases h with ⟨_, _, _, -, -, hv, -⟩ | ⟨_, _, _, -, -, hv, -⟩ |
      ⟨b, t, hblank, -, hscalar⟩
    · cases hv
    · cases hv
    · rcases readScalar_cases hscalar with ⟨-, hv, -⟩ | ⟨_, hv⟩ | ⟨_, rfl, hv, htext⟩ |
        ⟨_, -, hv, -⟩
      · cases hv
      · cases hv
      · cases hv
        exact ⟨t, hblank, htext⟩
      · cases hv
  · rintro ⟨t, hblank, htext⟩
    rw [readValue_scalar hblank (by decide) (by decide), readScalar, if_neg (by decide),
      if_neg (by decide), if_neg (by decide), if_pos rfl, htext]
    rfl

theorem readValue_number_iff {n : Number} :
    readValue (fuel + 1) depth s = .ok (.number n, rest) ↔
      ∃ b t, skipBlank s = b :: t ∧ (b = minusOctet ∨ isDigit b = true) ∧
        readNumber (b :: t) = .ok (n, rest) := by
  constructor
  · intro h
    rcases readValue_cases h with ⟨_, _, _, -, -, hv, -⟩ | ⟨_, _, _, -, -, hv, -⟩ |
      ⟨b, t, hblank, -, hscalar⟩
    · cases hv
    · cases hv
    · rcases readScalar_cases hscalar with ⟨-, hv, -⟩ | ⟨_, hv⟩ | ⟨_, -, hv, -⟩ | ⟨_, hb, hv, hn⟩
      · cases hv
      · cases hv
      · cases hv
      · cases hv
        exact ⟨b, t, hblank, hb, hn⟩
  · rintro ⟨b, t, hblank, hb, hn⟩
    have hother : ∀ c, isDigit c = false → c ≠ minusOctet → b ≠ c := by
      rintro c hdigit hminus rfl
      rcases hb with hb | hb
      · exact hminus hb
      · rw [hdigit] at hb
        cases hb
    rw [readValue_scalar hblank (hother _ (by decide) (by decide))
      (hother _ (by decide) (by decide)), readScalar, if_neg (hother _ (by decide) (by decide)),
      if_neg (hother _ (by decide) (by decide)), if_neg (hother _ (by decide) (by decide)),
      if_neg (hother _ (by decide) (by decide)), if_pos hb, hn]
    rfl

/-! ## Values of one shape -/

theorem refuse_ne_ok (read : α × List UInt8) : refuse s ≠ .ok read := by
  intro h
  cases s with
  | nil => cases h
  | cons b t =>
    simp only [refuse] at h
    split at h
    · cases h
    · split at h
      · cases h
      · cases h

/-- Octets that have no blanks in front keep none. -/
theorem skipBlank_of_cons {b : UInt8} {t : List UInt8} (h : skipBlank s = b :: t) :
    skipBlank (b :: t) = b :: t := by
  rw [← h]
  exact List.dropWhile_idempotent isBlankOctet s

theorem atValue_eq_ok_iff {choose : UInt8 → List UInt8 → Except Fault (α × List UInt8)}
    {read : α × List UInt8} :
    atValue choose s = .ok read ↔ ∃ b t, skipBlank s = b :: t ∧ choose b t = .ok read := by
  rw [atValue]
  cases hblank : skipBlank s with
  | nil => simp
  | cons b t =>
    constructor
    · intro h
      exact ⟨b, t, rfl, h⟩
    · rintro ⟨c, u, hcons, h⟩
      cases hcons
      exact h

/-- A reader reads where any value is read, up to the same place, and takes what it has a view
of. -/
def Views (reader : Reader α) (view : Json → Option α) : Prop :=
  ∀ fuel depth s a rest, reader s = .ok (a, rest) ↔
    ∃ v, readValue (fuel + 1) depth s = .ok (v, rest) ∧ view v = some a

/-- The text in a value. -/
def asText : Json → Option String
  | .string text => some text
  | _ => none

/-- The text in a value, or none in `null`. -/
def asOptionalText : Json → Option (Option String)
  | .null => some none
  | .string text => some (some text)
  | _ => none

/-- The whole number of signed 64 bits in a value. -/
def asInt64 : Json → Option Int
  | .number (.integer n) => if Numeral.fitsInt64 n then some n else none
  | _ => none

theorem asText_eq_some_iff {text : String} : asText v = some text ↔ v = .string text := by
  cases v <;> simp [asText]

theorem asInt64_eq_some_iff {n : Int} :
    asInt64 v = some n ↔ v = .number (.integer n) ∧ Numeral.fitsInt64 n = true := by
  rw [asInt64.eq_def]
  split
  · next m =>
    by_cases hfits : Numeral.fitsInt64 m = true
    · simp only [hfits, if_true, Option.some.injEq, number.injEq, Number.integer.injEq]
      constructor
      · rintro rfl
        exact ⟨rfl, hfits⟩
      · exact fun h => h.1
    · simp only [hfits, Bool.false_eq_true, if_false, reduceCtorEq, number.injEq,
        Number.integer.injEq, false_iff]
      rintro ⟨rfl, h⟩
      exact hfits h
  · next hother =>
    simp only [reduceCtorEq, false_iff]
    rintro ⟨rfl, -⟩
    exact hother n rfl

/-- A text that may be missing, as a value. -/
def optional (text : Option String) : Json := text.elim .null .string

theorem asOptionalText_eq_some_iff {text : Option String} :
    asOptionalText v = some text ↔ v = optional text := by
  cases text <;> cases v <;> simp [asOptionalText, optional]

theorem optional_inj {text other : Option String} :
    optional text = optional other ↔ text = other := by
  cases text <;> cases other <;> simp [optional]

theorem textValue_eq_ok_iff {text : String} :
    textValue s = .ok (text, rest) ↔
      ∃ t, skipBlank s = quoteOctet :: t ∧ readText t = .ok (text, rest) := by
  rw [textValue, atValue_eq_ok_iff]
  constructor
  · rintro ⟨b, t, hblank, h⟩
    split at h
    · next hquote => exact ⟨t, hquote ▸ hblank, h⟩
    · exact (refuse_ne_ok _ h).elim
  · rintro ⟨t, hblank, h⟩
    exact ⟨quoteOctet, t, hblank, by rwa [if_pos rfl]⟩

theorem views_textValue : Views textValue asText := by
  intro fuel depth s text rest
  simp only [asText_eq_some_iff, exists_eq_right, textValue_eq_ok_iff, readValue_string_iff]

theorem views_optionalText : Views optionalText asOptionalText := by
  intro fuel depth s text rest
  rw [optionalText, atValue_eq_ok_iff]
  constructor
  · rintro ⟨b, t, hblank, h⟩
    split at h
    · next hb =>
      obtain ⟨after, hafter, heq⟩ := map_eq_ok h
      cases heq
      exact ⟨.null, readValue_null_iff.mpr ⟨t, hb ▸ hblank, hafter⟩, rfl⟩
    · obtain ⟨⟨given, after⟩, htext, heq⟩ := map_eq_ok h
      cases heq
      obtain ⟨u, hu, hread⟩ := textValue_eq_ok_iff.mp htext
      rw [skipBlank_of_cons hblank] at hu
      exact ⟨.string given, readValue_string_iff.mpr ⟨u, hblank.trans hu, hread⟩, rfl⟩
  · rintro ⟨v, hv, hview⟩
    rw [asOptionalText.eq_def] at hview
    split at hview
    · cases hview
      obtain ⟨t, hblank, hafter⟩ := readValue_null_iff.mp hv
      exact ⟨0x6E, t, hblank, by rw [if_pos rfl, hafter]; rfl⟩
    · next given =>
      cases hview
      obtain ⟨t, hblank, hread⟩ := readValue_string_iff.mp hv
      refine ⟨quoteOctet, t, hblank, ?_⟩
      have htext := textValue_eq_ok_iff.mpr ⟨t, skipBlank_of_cons hblank, hread⟩
      rw [if_neg (by decide), htext]
      rfl
    · cases hview

theorem views_int64Value : Views int64Value asInt64 := by
  intro fuel depth s n rest
  simp only [asInt64_eq_some_iff]
  rw [int64Value, atValue_eq_ok_iff]
  constructor
  · rintro ⟨b, t, hblank, h⟩
    split at h
    · next hb =>
      split at h
      · cases h
      · next m after hm =>
        split at h
        · next hfits =>
          cases h
          exact ⟨_, readValue_number_iff.mpr ⟨b, t, hblank, hb, hm⟩, rfl, hfits⟩
        · cases h
      · cases h
    · exact (refuse_ne_ok _ h).elim
  · rintro ⟨_, hv, rfl, hfits⟩
    obtain ⟨b, t, hblank, hb, hn⟩ := readValue_number_iff.mp hv
    refine ⟨b, t, hblank, ?_⟩
    rw [if_pos hb, hn]
    simp only [hfits, if_true]

/-! ## Literals of whole numbers -/

/-- A literal denotes a whole number: it has neither fraction nor exponent, and is not minus
zero. -/
def Numeral.Denotes (m : Numeral) (n : Int) : Prop :=
  m.fraction = none ∧ m.exponent = none ∧
    if m.negative then n = -(digitsValue m.whole : Int) ∧ n ≠ 0 else n = digitsValue m.whole

/-- The literals that are read as whole numbers. -/
theorem Numeral.value?_eq_integer_iff {m : Numeral} {n : Int} :
    m.value? = some (.integer n) ↔ m.Denotes n ∧ IsWhole n := by
  have hfraction : m.fraction? ≠ some (.integer n) := by
    rw [Numeral.fraction?]
    intro h
    obtain ⟨magnitude, -, hmagnitude⟩ := Option.map_eq_some_iff.mp h
    cases hmagnitude
  rw [value?, Denotes, IsWhole]
  cases hpoint : m.fraction with
  | some ds => simp [hfraction]
  | none =>
    cases hexponent : m.exponent with
    | some exponent => simp [hfraction]
    | none =>
      simp only [true_and]
      cases hnegative : m.negative with
      | true =>
        simp only [if_true]
        split
        · next hrange =>
          simp only [Option.some.injEq, Number.integer.injEq]
          omega
        · next hrange =>
          simp only [hfraction, false_iff]
          omega
      | false =>
        simp only [Bool.false_eq_true, if_false]
        split
        · next hrange =>
          rw [significandLimit] at hrange
          simp only [Option.some.injEq, Number.integer.injEq]
          omega
        · next hrange =>
          rw [significandLimit] at hrange
          simp only [hfraction, false_iff]
          omega

theorem isDigit_of_someDigits {short : Fault} {b : UInt8} {t : List UInt8}
    {read : List Nat × List UInt8} (h : someDigits short (b :: t) = .ok read) :
    isDigit b = true := by
  by_contra hb
  rw [someDigits, digitRun, List.takeWhile_cons_of_neg hb, List.dropWhile_cons_of_neg hb] at h
  cases h

theorem isDigit_of_readNumeral {short : Fault} {negative : Bool} {b : UInt8} {t : List UInt8}
    {read : Numeral × List UInt8} (h : readNumeral short negative (b :: t) = .ok read) :
    isDigit b = true := by
  rw [readNumeral] at h
  split at h
  · cases h
  · next hwhole =>
    rw [wholeDigits] at hwhole
    split at hwhole
    · cases hwhole
    · exact isDigit_of_someDigits hwhole

/-- A value is a whole number exactly if its literal denotes one in the range that is kept. -/
theorem readValue_integer_iff {n : Int} :
    readValue (fuel + 1) depth s = .ok (.number (.integer n), rest) ↔
      ∃ m, signedNumeral .ended (skipBlank s) = .ok (m, rest) ∧ m.Denotes n ∧ IsWhole n := by
  rw [readValue_number_iff]
  constructor
  · rintro ⟨b, t, hblank, -, hn⟩
    rw [readNumber] at hn
    split at hn
    · cases hn
    · next m after hm =>
      split at hn
      · cases hn
      · next value hvalue =>
        cases hn
        exact ⟨m, hblank ▸ hm, Numeral.value?_eq_integer_iff.mp hvalue⟩
  · rintro ⟨m, hm, hdenotes⟩
    cases hblank : skipBlank s with
    | nil =>
      rw [hblank] at hm
      cases hm
    | cons b t =>
      rw [hblank] at hm
      refine ⟨b, t, rfl, ?_, ?_⟩
      · rw [signedNumeral] at hm
        split at hm
        · next hminus => exact .inl hminus
        · exact .inr (isDigit_of_readNumeral hm)
      · simp only [readNumber, hm, Numeral.value?_eq_integer_iff.mpr hdenotes]

/-! ## Documents -/

theorem document_eq_ok_iff {reader : Reader α} {a : α} :
    document reader s = .ok a ↔ ∃ rest, reader s = .ok (a, rest) ∧ skipBlank rest = [] := by
  rw [document]
  cases hread : reader s with
  | error e => simp
  | ok read =>
    obtain ⟨found, after⟩ := read
    simp only [List.isEmpty_iff, Except.ok.injEq, Prod.mk.injEq]
    split
    · next hend => simp [hend]
    · next hend =>
      simp only [reduceCtorEq, false_iff, not_exists, not_and]
      rintro rest ⟨-, rfl⟩
      exact hend

end IdentityTokens.Json
