import IdentityTokens.Token.Segment

/-!
# Taking tokens apart

A text is the token of three segments exactly when the segments, which hold no dot, give it with
dots between them. So what is cut out of a token by counting octets is what was signed.

## Main statements

* `Segments.split_eq_ok_iff`, `Segments.split_eq_error_iff`: which texts have which segments, and
  which have none.
* `Segments.signedPart?_text`: the cut is in range, and gives the first two segments.
-/

namespace IdentityTokens

/-- The parts between separators hold none. -/
theorem notMem_of_mem_splitOn {sep : Char} {cs part : List Char} (h : part ∈ cs.splitOn sep) :
    sep ∉ part := by
  induction cs generalizing part with
  | nil =>
    rw [List.splitOn_nil, List.mem_singleton] at h
    simp [h]
  | cons c cs ih =>
    obtain ⟨first, parts, hparts⟩ := List.exists_cons_of_ne_nil (List.splitOn_ne_nil sep cs)
    rw [List.splitOn_cons_eq_if_modifyHead, hparts] at h
    rw [hparts] at ih
    by_cases hc : c = sep
    · rw [if_pos (by simp [hc]), List.mem_cons] at h
      rcases h with rfl | h
      · simp
      · exact ih h
    · rw [if_neg (by simp [hc]), List.modifyHead_cons, List.mem_cons] at h
      rcases h with rfl | h
      · have hfirst : sep ∉ first := ih (by simp)
        simp [Ne.symm hc, hfirst]
      · exact ih (by simp [h])

/-- There is one part more than there are separators. -/
theorem length_splitOn (sep : Char) (cs : List Char) :
    (cs.splitOn sep).length = cs.count sep + 1 := by
  induction cs with
  | nil => rw [List.splitOn_nil, List.count_nil, List.length_singleton]
  | cons c cs ih =>
    rw [List.splitOn_cons_eq_if_modifyHead, List.count_cons]
    by_cases hc : c = sep
    · simp [hc, ih]
    · simp [hc, ih]

namespace Segments

/-- The text of segments. -/
def text (s : Segments) : String := s.signingInput ++ "." ++ s.signature

/-- No segment holds the dot that separates segments. -/
structure Undotted (s : Segments) : Prop where
  header : '.' ∉ s.header.toList
  payload : '.' ∉ s.payload.toList
  signature : '.' ∉ s.signature.toList

theorem toList_text (s : Segments) :
    s.text.toList = s.header.toList ++ '.' :: (s.payload.toList ++ '.' :: s.signature.toList) := by
  simp [text, signingInput, String.toList_append]

/-- Segments without dots are found again in their text. -/
theorem split_text {s : Segments} (h : s.Undotted) : split s.text = .ok s := by
  have hparts : s.text.toList.splitOn '.' =
      [s.header.toList, s.payload.toList, s.signature.toList] := by
    rw [toList_text, List.splitOn_append_cons_self_of_not_mem h.header,
      List.splitOn_append_cons_self_of_not_mem h.payload, List.splitOn_eq_singleton h.signature]
  simp [split, hparts]

/-- A text has certain segments exactly when it is their text and they hold no dot. -/
theorem split_eq_ok_iff {token : String} {s : Segments} :
    split token = .ok s ↔ token = s.text ∧ s.Undotted := by
  constructor
  · intro h
    simp only [split] at h
    split at h
    · next header payload signature hparts =>
      cases h
      have hmem : ∀ part ∈ [header, payload, signature], '.' ∉ part := by
        intro part hpart
        exact notMem_of_mem_splitOn (hparts ▸ hpart)
      refine ⟨?_, ⟨?_, ?_, ?_⟩⟩
      · have hjoined : ['.'].intercalate (token.toList.splitOn '.') = token.toList :=
          List.intercalate_splitOn '.'
        apply String.toList_injective
        rw [toList_text, ← hjoined, hparts]
        simp [List.intercalate]
      · simpa using hmem header (by simp)
      · simpa using hmem payload (by simp)
      · simpa using hmem signature (by simp)
    · cases h
  · rintro ⟨rfl, h⟩
    exact split_text h

/-- A text without segments has too few or too many dots, which are counted. -/
theorem split_eq_error_iff {token : String} {e : Segment.Error} :
    split token = .error e ↔
      token.toList.count '.' + 1 ≠ 3 ∧ e = .count (token.toList.count '.' + 1) := by
  have hlength := length_splitOn '.' token.toList
  simp only [split]
  split
  · next header payload signature hparts =>
    rw [hparts] at hlength
    simp only [reduceCtorEq, ← hlength, List.length_cons, List.length_nil, Nat.zero_add,
      Nat.reduceAdd, ne_eq, not_true_eq_false, false_and]
  · next hparts =>
    have hne : token.toList.count '.' + 1 ≠ 3 := by
      intro hthree
      match hsplit : token.toList.splitOn '.', hlength.trans hthree with
      | [header, payload, signature], _ => exact hparts header payload signature hsplit
    rw [hlength, Except.error.injEq]
    exact ⟨fun h => ⟨hne, h.symm⟩, fun h => h.2.symm⟩

/-- The cut by octets is in range in a text of segments, and gives the text that is signed. -/
theorem signedPart?_text (s : Segments) : s.signedPart? s.text = some s.signingInput := by
  have hsize : (Utf8.encode s.header).length + 1 + (Utf8.encode s.payload).length =
      (Utf8.encodeChars s.signingInput.toList).length := by
    simp [Utf8.encode, signingInput, String.toList_append, Utf8.encodeChar]
    omega
  have hchars : s.text.toList = s.signingInput.toList ++ '.' :: s.signature.toList := by
    simp [text, String.toList_append]
  rw [signedPart?, hsize, hchars, Utf8.takeOctets?_append, Option.map_some, String.ofList_toList]

end Segments

end IdentityTokens
