import IdentityTokens.Json.Printer
import IdentityTokens.Json.Scanner
import IdentityTokens.Proofs.Text.Utf8

/-!
# Reading texts that were written

A text in quotes, as it is written, is read as that text. Each character is read for itself: a
character that needs no escape gives its own octets, and an escape gives those of the character it
stands for, from the place between characters back to it.

## Main statements

* `Json.textOctets_escapeChar`: one character.
* `Json.readText_quoted`: a text, from its opening quote.
-/

namespace IdentityTokens.Json

/-- Octets put in front of what was read. -/
def ahead (octets : List UInt8) (read : List UInt8 × List UInt8) : List UInt8 × List UInt8 :=
  (octets ++ read.1, read.2)

/-- The octets of a text between its quotes. -/
def bodyOctets (cs : List Char) : List UInt8 := Utf8.encodeChars (cs.flatMap escapeChar)

/-- The octets of a text with its quotes. -/
def textBytes (s : String) : List UInt8 := quoteOctet :: bodyOctets s.toList ++ [quoteOctet]

theorem encodeChars_renderText (s : String) : Utf8.encodeChars (renderText s) = textBytes s := by
  simp only [renderText, List.cons_append, Utf8.encodeChars_cons, Utf8.encodeChars_append,
    Utf8.encodeChars_nil, List.append_nil, textBytes, bodyOctets]
  rfl

/-! ## One octet -/

theorem textOctets_emit {cursor next : Cursor} {b : UInt8} {octets : List UInt8}
    (h : cursor.step b = .ok (.emit octets next)) (rest : List UInt8) :
    textOctets cursor (b :: rest) = (textOctets next rest).map (ahead octets) := by
  rw [textOctets, h]
  cases hrest : textOctets next rest <;> simp [hrest, Except.map, ahead]

theorem map_ahead_map (r : Except Fault (List UInt8 × List UInt8)) (first more : List UInt8) :
    (r.map (ahead more)).map (ahead first) = r.map (ahead (first ++ more)) := by
  cases r <;> simp [Except.map, ahead]

/-- Octets that need no escape are taken as they are. -/
theorem textOctets_plain {octets : List UInt8}
    (h : ∀ b ∈ octets, b ≠ quoteOctet ∧ b ≠ backslashOctet ∧ ¬b < 0x20) (rest : List UInt8) :
    textOctets .plain (octets ++ rest) = (textOctets .plain rest).map (ahead octets) := by
  induction octets with
  | nil => cases hrest : textOctets .plain rest <;> simp [hrest, Except.map, ahead]
  | cons b octets ih =>
    obtain ⟨hquote, hbackslash, hcontrol⟩ := h b (by simp)
    have hstep : Cursor.plain.step b = .ok (.emit [b] .plain) := by
      simp [Cursor.step, hquote, hbackslash, hcontrol]
    rw [List.cons_append, textOctets_emit hstep, ih fun x hx => h x (by simp [hx]), map_ahead_map]
    rfl

/-! ## One character -/

theorem step_backslash : Cursor.plain.step 0x5C = .ok (.emit [] .escaped) := rfl

/-- An escape of one letter. -/
theorem textOctets_short (letter : UInt8) {octet : UInt8} (h : shortEscape? letter = some octet)
    (rest : List UInt8) :
    textOctets .plain (0x5C :: letter :: rest) =
      (textOctets .plain rest).map (ahead [octet]) := by
  have hletter : Cursor.escaped.step letter = .ok (.emit [octet] .plain) := by
    simp [Cursor.step, h]
  rw [textOctets_emit step_backslash, textOctets_emit hletter, map_ahead_map]
  rfl

theorem hexValue?_hexDigit : ∀ n < 16, hexValue? (UInt8.ofNat (hexDigit n).toNat) = some n := by
  decide

theorem encodeChar_hexDigit : ∀ n < 16,
    Utf8.encodeChar (hexDigit n) = [UInt8.ofNat (hexDigit n).toNat] := by
  decide

/-- An escape of four digits, for a control character. -/
theorem textOctets_long {n : Nat} (h : n < 0x20) (rest : List UInt8) :
    textOctets .plain (Utf8.encodeChars
        ['\\', 'u', '0', '0', hexDigit (n / 16), hexDigit (n % 16)] ++ rest) =
      (textOctets .plain rest).map (ahead (Utf8.encodeChar (Char.ofNat n))) := by
  have hhigh := hexValue?_hexDigit (n / 16) (by omega)
  have hlow := hexValue?_hexDigit (n % 16) (by omega)
  have hletter : Cursor.escaped.step 0x75 = .ok (.emit [] (.digits none 0 (some 0))) := rfl
  have hfirst : (Cursor.digits none 0 (some 0)).step 0x30 =
      .ok (.emit [] (.digits none 1 (some 0))) := rfl
  have hsecond : (Cursor.digits none 1 (some 0)).step 0x30 =
      .ok (.emit [] (.digits none 2 (some 0))) := rfl
  have hthird : (Cursor.digits none 2 (some 0)).step (UInt8.ofNat (hexDigit (n / 16)).toNat) =
      .ok (.emit [] (.digits none 3 (some (n / 16)))) := by
    simp [Cursor.step, pushDigit, hhigh]
  have hfourth : (Cursor.digits none 3 (some (n / 16))).step
      (UInt8.ofNat (hexDigit (n % 16)).toNat) =
      .ok (.emit (Utf8.encodeChar (Char.ofNat n)) .plain) := by
    have hvalue : n / 16 * 16 + n % 16 = n := by omega
    have hhighSurrogate : isHighSurrogate n = false := by
      simp only [isHighSurrogate, Bool.and_eq_false_iff, decide_eq_false_iff_not]
      omega
    have hlowSurrogate : isLowSurrogate n = false := by
      simp only [isLowSurrogate, Bool.and_eq_false_iff, decide_eq_false_iff_not]
      omega
    simp [Cursor.step, pushDigit, hlow, hvalue, closeEscape, hhighSurrogate, hlowSurrogate]
  simp only [Utf8.encodeChars_cons, Utf8.encodeChars_nil, encodeChar_hexDigit (n / 16) (by omega),
    encodeChar_hexDigit (n % 16) (by omega)]
  change textOctets .plain (0x5C :: 0x75 :: 0x30 :: 0x30 ::
    UInt8.ofNat (hexDigit (n / 16)).toNat :: UInt8.ofNat (hexDigit (n % 16)).toNat :: rest) = _
  rw [textOctets_emit step_backslash, textOctets_emit hletter, textOctets_emit hfirst,
    textOctets_emit hsecond, textOctets_emit hthird, textOctets_emit hfourth]
  simp only [map_ahead_map, List.nil_append]

/-- The octets of a character that is not escaped need no escape either. -/
theorem plain_of_mem_encodeChar {c : Char} {b : UInt8} (hcontrol : 0x20 ≤ c.toNat)
    (hquote : c ≠ '"') (hbackslash : c ≠ '\\') (h : b ∈ Utf8.encodeChar c) :
    b ≠ quoteOctet ∧ b ≠ backslashOctet ∧ ¬b < 0x20 := by
  simp only [UInt8.lt_iff_toNat_lt, ne_eq, ← UInt8.toNat_inj]
  have hof : ∀ d : Char, c ≠ d → c.toNat ≠ d.toNat := fun d hd heq => hd (Char.toNat_inj.mp heq)
  by_cases hascii : c.toNat < 0x80
  · rw [Utf8.encodeChar_of_ascii hascii, List.mem_singleton] at h
    rw [h, Utf8.toNat_octet (by omega)]
    exact ⟨hof '"' hquote, hof '\\' hbackslash, by simpa using hcontrol⟩
  · have hbeyond := Utf8.le_of_mem_encodeChar (by omega) h
    refine ⟨?_, ?_, ?_⟩
    · have hvalue : quoteOctet.toNat = 0x22 := rfl
      omega
    · have hvalue : backslashOctet.toNat = 0x5C := rfl
      omega
    · have hvalue : (0x20 : UInt8).toNat = 0x20 := rfl
      omega

/-- A character as it is written is read as this character. -/
theorem textOctets_escapeChar (c : Char) (rest : List UInt8) :
    textOctets .plain (Utf8.encodeChars (escapeChar c) ++ rest) =
      (textOctets .plain rest).map (ahead (Utf8.encodeChar c)) := by
  unfold escapeChar
  split
  · exact textOctets_short 0x22 rfl rest
  · exact textOctets_short 0x5C rfl rest
  · exact textOctets_short 0x62 rfl rest
  · exact textOctets_short 0x66 rfl rest
  · exact textOctets_short 0x6E rfl rest
  · exact textOctets_short 0x72 rfl rest
  · exact textOctets_short 0x74 rfl rest
  · next hquote hbackslash _ _ _ _ _ =>
    split
    · next hcontrol => rw [textOctets_long hcontrol, Char.ofNat_toNat]
    · next hcontrol =>
      rw [Utf8.encodeChars_cons, Utf8.encodeChars_nil, List.append_nil]
      exact textOctets_plain (fun b hb =>
        plain_of_mem_encodeChar (by omega) hquote hbackslash hb) rest

/-! ## Texts -/

theorem textOctets_bodyOctets (cs : List Char) (rest : List UInt8) :
    textOctets .plain (bodyOctets cs ++ quoteOctet :: rest) = .ok (Utf8.encodeChars cs, rest) := by
  induction cs with
  | nil => rfl
  | cons c cs ih =>
    rw [bodyOctets, List.flatMap_cons, Utf8.encodeChars_append, List.append_assoc,
      textOctets_escapeChar]
    rw [bodyOctets] at ih
    rw [ih]
    rfl

/-- A text as it is written is read as this text, up to its closing quote. -/
theorem readText_quoted (s : String) (rest : List UInt8) :
    readText (bodyOctets s.toList ++ quoteOctet :: rest) = .ok (s, rest) := by
  have hdecode : Utf8.decode? (Utf8.encodeChars s.toList) = some s := Utf8.decode?_encode s
  rw [readText, textOctets_bodyOctets]
  simp only [hdecode]

end IdentityTokens.Json
