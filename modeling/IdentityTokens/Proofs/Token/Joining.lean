import IdentityTokens.Proofs.Base64.RoundTrip
import IdentityTokens.Proofs.Token.Segments

/-!
# Putting tokens together

No segment that is written holds a dot, whatever it is written of. So a token that is put together
of a header, a payload and a signature comes apart into just their segments. Two tokens are the same
only if all their segments are, and a signature is one of two segments and of no others: what is
signed of two tokens is the same only if the segments of headers and those of payloads are.

## Main definitions

* `Segments.written`: the segments that are written of octets.

## Main statements

* `Segments.split_assemble`: a token comes apart as it was put together.
* `Segments.text_inj`, `Segments.signingInput_inj`: segments without dots are told by their text.
* `Segments.joined_one_way`: what a text is taken apart into, and all this of tokens.
-/

namespace IdentityTokens.Segments

/-! ## Segments that are written -/

/-- The segments that are written of octets. -/
def written (header payload signature : List UInt8) : Segments :=
  ⟨Segment.encode header, Segment.encode payload, Segment.encode signature⟩

theorem undotted_written (header payload signature : List UInt8) :
    (written header payload signature).Undotted where
  header := Segment.dot_notMem_encode header
  payload := Segment.dot_notMem_encode payload
  signature := Segment.dot_notMem_encode signature

theorem split_written (header payload signature : List UInt8) :
    split (written header payload signature).text = .ok (written header payload signature) :=
  split_text (undotted_written header payload signature)

/-- The segments of a token are those of a header, a payload and a signature. -/
theorem assemble_eq (header payload : Json) (signature : List UInt8) :
    assemble (IdentityTokens.signingInput header payload) signature =
      (written (Utf8.encodeChars header.renderChars) (Utf8.encodeChars payload.renderChars)
        signature).text := rfl

/-- A token comes apart as it was put together. -/
theorem split_assemble (header payload : Json) (signature : List UInt8) :
    split (assemble (IdentityTokens.signingInput header payload) signature) =
      .ok ⟨Segment.encodeJson header, Segment.encodeJson payload, Segment.encode signature⟩ := by
  rw [assemble_eq, split_written]
  rfl

/-! ## Segments and their text -/

variable {s t : Segments}

theorem undotted_iff :
    s.Undotted ↔
      '.' ∉ s.header.toList ∧ '.' ∉ s.payload.toList ∧ '.' ∉ s.signature.toList :=
  ⟨fun h => ⟨h.header, h.payload, h.signature⟩, fun ⟨hheader, hpayload, hsignature⟩ =>
    ⟨hheader, hpayload, hsignature⟩⟩

/-- An empty signature holds no dot. -/
theorem Undotted.unsigned (hs : s.Undotted) : ({ s with signature := "" } : Segments).Undotted :=
  ⟨hs.header, hs.payload, by simp⟩

/-- Segments without dots are told by their text. -/
theorem text_inj (hs : s.Undotted) (ht : t.Undotted) (htext : s.text = t.text) : s = t := by
  have hsplit := split_text hs
  rw [htext, split_text ht] at hsplit
  cases hsplit
  rfl

/-- Header and payload without dots are told by the text that is signed. -/
theorem signingInput_inj (hs : s.Undotted) (ht : t.Undotted)
    (hinput : s.signingInput = t.signingInput) : s.header = t.header ∧ s.payload = t.payload := by
  -- The text that is signed becomes a token with an empty signature, which comes apart.
  have htext : ({ s with signature := "" } : Segments).text =
      ({ t with signature := "" } : Segments).text :=
    congrArg (· ++ "." ++ "") hinput
  have hsame := text_inj hs.unsigned ht.unsigned htext
  injection hsame with hheader hpayload
  exact ⟨hheader, hpayload⟩

/-- A text that is not that of segments without dots is not taken apart. The parts that it has are
counted: one more than there are dots. -/
theorem split_eq_error_iff_not_text {token : String} {e : Segment.Error} :
    split token = .error e ↔
      (¬∃ s : Segments, token = s.text ∧ s.Undotted) ∧
        e = .count (token.toList.count '.' + 1) := by
  constructor
  · intro h
    refine ⟨?_, (split_eq_error_iff.mp h).2⟩
    rintro ⟨s, hs⟩
    rw [split_eq_ok_iff.mpr hs] at h
    cases h
  · rintro ⟨hnone, rfl⟩
    cases hsplit : split token with
    | ok s => exact absurd ⟨s, split_eq_ok_iff.mp hsplit⟩ hnone
    | error e => rw [(split_eq_error_iff.mp hsplit).2]

/-! ## Tokens -/

/-- **Segments are joined in one way.** A text is taken apart into three parts exactly when these,
with dots between them, are the text and hold no dot; where there are no such parts, the error
counts the dots and one more. A token that is put together comes apart into the segments of its
header, its payload and its signature. So two tokens are the same exactly when these segments are,
and two texts to sign are the same exactly when the segments of the headers and those of the
payloads are. -/
theorem joined_one_way :
    (∀ token header payload signature : String,
      split token = .ok ⟨header, payload, signature⟩ ↔
        token = header ++ "." ++ payload ++ "." ++ signature ∧
          '.' ∉ header.toList ∧ '.' ∉ payload.toList ∧ '.' ∉ signature.toList) ∧
    (∀ (token : String) (e : Segment.Error),
      split token = .error e ↔
        (¬∃ header payload signature : String,
          token = header ++ "." ++ payload ++ "." ++ signature ∧
            '.' ∉ header.toList ∧ '.' ∉ payload.toList ∧ '.' ∉ signature.toList) ∧
          e = .count (token.toList.count '.' + 1)) ∧
    (∀ (header payload : Json) (signature : List UInt8),
      split (assemble (IdentityTokens.signingInput header payload) signature) =
        .ok ⟨Segment.encodeJson header, Segment.encodeJson payload, Segment.encode signature⟩) ∧
    (∀ (header payload header' payload' : Json) (signature signature' : List UInt8),
      assemble (IdentityTokens.signingInput header payload) signature =
          assemble (IdentityTokens.signingInput header' payload') signature' ↔
        Segment.encodeJson header = Segment.encodeJson header' ∧
          Segment.encodeJson payload = Segment.encodeJson payload' ∧
          Segment.encode signature = Segment.encode signature') ∧
    ∀ header payload header' payload' : Json,
      IdentityTokens.signingInput header payload = IdentityTokens.signingInput header' payload' ↔
        Segment.encodeJson header = Segment.encodeJson header' ∧
          Segment.encodeJson payload = Segment.encodeJson payload' := by
  refine ⟨?_, ?_, split_assemble, ?_, ?_⟩
  · intro token header payload signature
    rw [split_eq_ok_iff, undotted_iff]
    rfl
  · intro token e
    rw [split_eq_error_iff_not_text]
    refine and_congr_left fun _ => not_congr ⟨?_, ?_⟩
    · rintro ⟨⟨header, payload, signature⟩, htext, hdots⟩
      exact ⟨header, payload, signature, htext, undotted_iff.mp hdots⟩
    · rintro ⟨header, payload, signature, htext, hdots⟩
      exact ⟨⟨header, payload, signature⟩, htext, undotted_iff.mpr hdots⟩
  · intro header payload header' payload' signature signature'
    constructor
    · intro h
      have hsame := text_inj (undotted_written _ _ _) (undotted_written _ _ _) h
      injection hsame with hheader hpayload hsignature
      exact ⟨hheader, hpayload, hsignature⟩
    · rintro ⟨hheader, hpayload, hsignature⟩
      rw [assemble, assemble, IdentityTokens.signingInput, IdentityTokens.signingInput, hheader,
        hpayload, hsignature]
  · intro header payload header' payload'
    constructor
    · intro h
      exact signingInput_inj (undotted_written _ _ []) (undotted_written _ _ []) h
    · rintro ⟨hheader, hpayload⟩
      rw [IdentityTokens.signingInput, IdentityTokens.signingInput, hheader, hpayload]

end IdentityTokens.Segments
