import IdentityTokens.Proofs.Json.Sequence

/-!
# What is read can be passed over

A value is passed over with fewer checks than it is read with. So where a value is read, it is also
passed over, and up to the same place: the loose reading simulates the strict one, octet by octet
in texts, part by part in numerals, and entry by entry between brackets.

## Main definitions

* `Json.Cursor.loosened`: the place of the loose reading at a place of the strict one.

## Main statements

* `Json.skipText_of_readText`, `Json.skipNumeral_of_readNumber`: scalars.
* `Json.readValue_array`, `Json.readValue_object`, `Json.readValue_scalar`: a value by its first
  octet.
* `Json.skipValue_of_readValue`: values.
-/

namespace IdentityTokens.Json

variable {fuel depth : Nat} {s t rest : List UInt8}

/-! ## Texts -/

/-- Where the loose reading is: it has forgotten what the strict one still expects of the second
of two surrogates. -/
def Cursor.loosened : Cursor → Cursor
  | .plain => .plain
  | .escaped => .escaped
  | .digits _ count value => .digits none count value
  | .paired _ => .plain
  | .pairedEscaped _ => .escaped

/-- The place after a motion, unless the text has ended. -/
def Motion.next? : Motion → Option Cursor
  | .finish => none
  | .emit _ next => some next

/-- After an escape with four digits the loose reading is between characters again. -/
theorem loosened_of_closeEscape {high : Option Nat} {n : Nat} {motion : Motion}
    (h : closeEscape high n = .ok motion) :
    motion.next?.map Cursor.loosened = some .plain := by
  cases high with
  | none =>
    simp only [closeEscape] at h
    split at h
    · cases h
    · split at h
      · injection h with h
        rw [← h]
        rfl
      · injection h with h
        rw [← h]
        rfl
  | some high =>
    simp only [closeEscape] at h
    split at h
    · injection h with h
      rw [← h]
      rfl
    · cases h

/-- The loose reading follows the strict one by an octet. -/
theorem Cursor.skipStep_of_step {cursor : Cursor} {b : UInt8} {motion : Motion}
    (h : cursor.step b = .ok motion) :
    ∃ loose, cursor.loosened.skipStep b = .ok loose ∧
      loose.next? = motion.next?.map loosened := by
  cases cursor with
  | plain =>
    refine ⟨motion, h, ?_⟩
    simp only [step] at h
    repeat' split at h
    all_goals cases h
    all_goals rfl
  | escaped =>
    refine ⟨motion, h, ?_⟩
    simp only [step] at h
    repeat' split at h
    all_goals cases h
    all_goals rfl
  | digits high count value =>
    simp only [step] at h
    simp only [loosened, skipStep]
    split at h
    · next hcount =>
      cases h
      exact ⟨_, if_pos hcount, rfl⟩
    · next hcount =>
      cases hvalue : pushDigit value b with
      | none =>
        rw [hvalue] at h
        cases h
      | some n =>
        rw [hvalue] at h
        refine ⟨.emit [] .plain, ?_, (loosened_of_closeEscape h).symm⟩
        rw [if_neg hcount]
        rfl
  | paired high =>
    simp only [step] at h
    split at h
    · next hb =>
      cases h
      subst hb
      exact ⟨.emit [] .escaped, rfl, rfl⟩
    · cases h
  | pairedEscaped high =>
    simp only [step] at h
    split at h
    · next hb =>
      cases h
      subst hb
      exact ⟨.emit [] (.digits none 0 (some 0)), rfl, rfl⟩
    · cases h

theorem skipTextFrom_of_textOctets {cursor : Cursor} {octets : List UInt8}
    (h : textOctets cursor s = .ok (octets, rest)) :
    skipTextFrom cursor.loosened s = .ok rest := by
  induction s generalizing cursor octets with
  | nil => cases h
  | cons b s ih =>
    rw [textOctets] at h
    cases hstep : cursor.step b with
    | error e =>
      rw [hstep] at h
      cases h
    | ok motion =>
      obtain ⟨loose, hloose, hnext⟩ := Cursor.skipStep_of_step hstep
      rw [hstep] at h
      rw [skipTextFrom, hloose]
      cases motion with
      | finish =>
        cases loose with
        | finish =>
          cases h
          rfl
        | emit _ _ => cases hnext
      | emit emitted next =>
        cases loose with
        | finish => cases hnext
        | emit _ place =>
          cases hnext
          simp only at h
          split at h
          · cases h
          · next hmore =>
            cases h
            exact ih hmore

/-- A text that is read is passed over. -/
theorem skipText_of_readText {text : String} (h : readText s = .ok (text, rest)) :
    skipText s = .ok rest := by
  rw [readText] at h
  split at h
  · cases h
  · next hoctets =>
    split at h
    · cases h
    · cases h
      exact skipTextFrom_of_textOctets hoctets

/-! ## Numerals -/

variable {short short' : Fault}

theorem someDigits_of_ok {ds : List Nat} (h : someDigits short s = .ok (ds, rest)) :
    someDigits short' s = .ok (ds, rest) := by
  rw [someDigits] at h ⊢
  split at h
  · cases h
  · cases h
  · exact h

theorem map_someDigits_of_ok {α : Type} {f : List Nat × List UInt8 → α} {read : α}
    (h : (someDigits short s).map f = .ok read) : (someDigits short' s).map f = .ok read := by
  cases hsome : someDigits short s with
  | error e =>
    rw [hsome] at h
    cases h
  | ok taken =>
    rw [hsome] at h
    rw [someDigits_of_ok hsome]
    exact h

theorem wholeDigits_of_ok {ds : List Nat} (h : wholeDigits short s = .ok (ds, rest)) :
    wholeDigits short' s = .ok (ds, rest) := by
  rw [wholeDigits] at h ⊢
  cases hsome : someDigits short s with
  | error e =>
    rw [hsome] at h
    cases h
  | ok taken =>
    rw [hsome] at h
    rw [someDigits_of_ok hsome]
    exact h

theorem fractionDigits_of_ok {fraction : Option (List Nat)}
    (h : fractionDigits short s = .ok (fraction, rest)) :
    fractionDigits short' s = .ok (fraction, rest) := by
  cases s with
  | nil => exact h
  | cons b s =>
    simp only [fractionDigits] at h ⊢
    split at h
    · next hpoint =>
      rw [if_pos hpoint]
      exact map_someDigits_of_ok h
    · next hpoint =>
      rw [if_neg hpoint]
      exact h

theorem exponentDigits_of_ok {exponent : Option (Bool × List Nat)}
    (h : exponentDigits short s = .ok (exponent, rest)) :
    exponentDigits short' s = .ok (exponent, rest) := by
  cases s with
  | nil => exact h
  | cons b s =>
    simp only [exponentDigits] at h ⊢
    split at h
    · next hmark =>
      rw [if_pos hmark]
      exact map_someDigits_of_ok h
    · next hmark =>
      rw [if_neg hmark]
      exact h

theorem readNumeral_of_ok {negative : Bool} {n : Numeral}
    (h : readNumeral short negative s = .ok (n, rest)) :
    readNumeral short' negative s = .ok (n, rest) := by
  rw [readNumeral] at h ⊢
  split at h
  · cases h
  · next hwhole =>
    split at h
    · cases h
    · next hfraction =>
      split at h
      · cases h
      · next hexponent =>
        cases h
        simp only [wholeDigits_of_ok hwhole, fractionDigits_of_ok hfraction,
          exponentDigits_of_ok hexponent]

theorem signedNumeral_of_ok {n : Numeral} (h : signedNumeral short s = .ok (n, rest)) :
    signedNumeral short' s = .ok (n, rest) := by
  cases s with
  | nil => cases h
  | cons b s =>
    simp only [signedNumeral] at h ⊢
    split at h
    · next hminus =>
      rw [if_pos hminus]
      exact readNumeral_of_ok h
    · next hminus =>
      rw [if_neg hminus]
      exact readNumeral_of_ok h

/-- A number that is read is passed over. -/
theorem skipNumeral_of_readNumber {n : Number} (h : readNumber s = .ok (n, rest)) :
    skipNumeral s = .ok rest := by
  rw [readNumber] at h
  split at h
  · cases h
  · next hnumeral =>
    split at h
    · cases h
    · cases h
      rw [skipNumeral, signedNumeral_of_ok hnumeral]
      rfl

/-! ## Values -/

theorem map_eq_ok {ε α β : Type} {f : α → β} {r : Except ε α} {b : β} (h : r.map f = .ok b) :
    ∃ a, r = .ok a ∧ f a = b := by
  cases r with
  | error e => cases h
  | ok a => exact ⟨a, rfl, Except.ok.inj h⟩

/-- A value without parts that is read is passed over. -/
theorem skipScalar_of_readScalar {v : Json} (h : readScalar s = .ok (v, rest)) :
    skipScalar s = .ok rest := by
  cases s with
  | nil => cases h
  | cons b s =>
    simp only [readScalar, skipScalar] at h ⊢
    split at h
    · next hb =>
      obtain ⟨after, hafter, heq⟩ := map_eq_ok h
      cases heq
      rw [if_pos hb, hafter]
    split at h
    · next hn ht =>
      obtain ⟨after, hafter, heq⟩ := map_eq_ok h
      cases heq
      rw [if_neg hn, if_pos ht, hafter]
    split at h
    · next hn ht hf =>
      obtain ⟨after, hafter, heq⟩ := map_eq_ok h
      cases heq
      rw [if_neg hn, if_neg ht, if_pos hf, hafter]
    split at h
    · next hn ht hf hquote =>
      obtain ⟨⟨text, after⟩, hafter, heq⟩ := map_eq_ok h
      cases heq
      rw [if_neg hn, if_neg ht, if_neg hf, if_pos hquote, skipText_of_readText hafter]
    split at h
    · next hn ht hf hquote hnumber =>
      obtain ⟨⟨number, after⟩, hafter, heq⟩ := map_eq_ok h
      cases heq
      rw [if_neg hn, if_neg ht, if_neg hf, if_neg hquote, if_pos hnumber,
        skipNumeral_of_readNumber hafter]
    · cases h

/-- One more item of an array. -/
def nextItem (fuel depth : Nat) (items : List Json) : Reader (List Json) := fun s =>
  (readValue fuel depth s).map fun (v, rest) => (v :: items, rest)

/-- One more member of an object. -/
def nextMember (fuel depth : Nat) (pairs : List (String × Json)) :
    Reader (List (String × Json)) := fun s =>
  match memberName readText s with
  | .error e => .error e
  | .ok (name, rest) =>
    (readValue fuel depth rest).map fun (v, rest) => ((name, v) :: pairs, rest)

theorem readValue_array (h : skipBlank s = openBracket :: t) :
    readValue (fuel + 1) (depth + 1) s =
      (sequence closeBracket (nextItem fuel depth) fuel true [] t).map
        fun (items, rest) => (.array items.reverse, rest) := by
  simp only [readValue, h, true_or, if_true]
  rfl

theorem readValue_object (h : skipBlank s = openBrace :: t) :
    readValue (fuel + 1) (depth + 1) s =
      (sequence closeBrace (nextMember fuel depth) fuel true [] t).map
        fun (pairs, rest) => (.object (NameMap.ofList pairs.reverse), rest) := by
  have hne : openBrace ≠ openBracket := by decide
  simp only [readValue, h, or_true, if_true, if_neg hne]
  rfl

theorem readValue_scalar {b : UInt8} (h : skipBlank s = b :: t) (hbracket : b ≠ openBracket)
    (hbrace : b ≠ openBrace) : readValue (fuel + 1) depth s = readScalar (b :: t) := by
  simp only [readValue, h, hbracket, hbrace, or_self, if_false]

/-- One more item that is passed over. -/
def passItem (fuel : Nat) (_ : Unit) : Reader Unit := fun s => (skipValue fuel s).map ((), ·)

/-- One more member that is passed over. -/
def passMember (fuel : Nat) (_ : Unit) : Reader Unit := fun s =>
  match memberName (fun s => (skipText s).map ((), ·)) s with
  | .error e => .error e
  | .ok (_, rest) => (skipValue fuel rest).map ((), ·)

theorem skipValue_array (h : skipBlank s = openBracket :: t) :
    skipValue (fuel + 1) s = (sequence closeBracket (passItem fuel) fuel true () t).map (·.2) := by
  simp only [skipValue, h, if_true]
  rfl

theorem skipValue_object (h : skipBlank s = openBrace :: t) :
    skipValue (fuel + 1) s = (sequence closeBrace (passMember fuel) fuel true () t).map (·.2) := by
  have hne : openBrace ≠ openBracket := by decide
  simp only [skipValue, h, if_true, if_neg hne]
  rfl

theorem skipValue_scalar {b : UInt8} (h : skipBlank s = b :: t) (hbracket : b ≠ openBracket)
    (hbrace : b ≠ openBrace) : skipValue (fuel + 1) s = skipScalar (b :: t) := by
  simp only [skipValue, h, hbracket, hbrace, if_false]

/-- The name of a member that is read is passed over. -/
theorem memberName_of_readText {name : String} (h : memberName readText s = .ok (name, rest)) :
    memberName (fun s => (skipText s).map ((), ·)) s = .ok ((), rest) := by
  rw [memberName] at h ⊢
  cases s with
  | nil => cases h
  | cons b s =>
    simp only [quotedName] at h ⊢
    split at h
    · cases h
    · next key after hkey =>
      split at hkey
      · next hquote =>
        obtain ⟨colon, hcolon, heq⟩ := map_eq_ok h
        cases heq
        rw [if_pos hquote, skipText_of_readText hkey]
        simp only [Except.map, hcolon]
      · cases hkey

theorem passItem_of_nextItem
    (hvalue : ∀ {v s rest}, readValue fuel depth s = .ok (v, rest) → skipValue fuel s = .ok rest)
    {items more : List Json} (h : nextItem fuel depth items s = .ok (more, rest)) :
    passItem fuel () s = .ok ((), rest) := by
  obtain ⟨⟨v, after⟩, hv, heq⟩ := map_eq_ok h
  cases heq
  rw [passItem, hvalue hv]
  rfl

theorem passMember_of_nextMember
    (hvalue : ∀ {v s rest}, readValue fuel depth s = .ok (v, rest) → skipValue fuel s = .ok rest)
    {pairs more : List (String × Json)} (h : nextMember fuel depth pairs s = .ok (more, rest)) :
    passMember fuel () s = .ok ((), rest) := by
  rw [nextMember] at h
  split at h
  · cases h
  · next hname =>
    obtain ⟨⟨v, after⟩, hv, heq⟩ := map_eq_ok h
    cases heq
    rw [passMember, memberName_of_readText hname]
    simp only [hvalue hv, Except.map]

/-- A value that is read is passed over. -/
theorem skipValue_of_readValue {v : Json} (h : readValue fuel depth s = .ok (v, rest)) :
    skipValue fuel s = .ok rest := by
  induction fuel generalizing depth s v rest with
  | zero => cases h
  | succ fuel ih =>
    cases hblank : skipBlank s with
    | nil =>
      rw [readValue, hblank] at h
      cases h
    | cons b t =>
      by_cases hscalar : b ≠ openBracket ∧ b ≠ openBrace
      · obtain ⟨hbracket, hbrace⟩ := hscalar
        rw [readValue_scalar hblank hbracket hbrace] at h
        rw [skipValue_scalar hblank hbracket hbrace]
        exact skipScalar_of_readScalar h
      have hnested : b = openBracket ∨ b = openBrace := by
        by_cases hbracket : b = openBracket
        · exact .inl hbracket
        · exact .inr (by simpa [hbracket] using hscalar)
      cases depth with
      | zero =>
        simp only [readValue, hblank, hnested, if_true] at h
        cases h
      | succ depth =>
        rcases hnested with rfl | rfl
        · rw [readValue_array hblank] at h
          obtain ⟨⟨items, after⟩, hitems, heq⟩ := map_eq_ok h
          cases heq
          rw [skipValue_array hblank, sequence_passed (passItem_of_nextItem ih) hitems]
          rfl
        · rw [readValue_object hblank] at h
          obtain ⟨⟨pairs, after⟩, hpairs, heq⟩ := map_eq_ok h
          cases heq
          rw [skipValue_object hblank, sequence_passed (passMember_of_nextMember ih) hpairs]
          rfl

/-- With the bounds for its document, a value that is read is passed over. -/
theorem skipAny_of_readAny {v : Json} (h : readAny s = .ok (v, rest)) : skipAny s = .ok rest :=
  skipValue_of_readValue h

end IdentityTokens.Json
