import IdentityTokens.Http.CacheControl
import IdentityTokens.Proofs.Number.Numeral
import Mathlib.Data.List.DropRight

/-!
# Which directives grant a lifetime

The directives of a header stand between commas. One of them grants a lifetime if it is a `max-age`
with a number of seconds, which is said here by what stands where in it; the first that does
decides, and what the others say, before it or after it, does not count. Of the headers of a
response only the first of the name is looked at.

## Main definitions

* `Trims`: a text without the characters of one kind at its ends.
* `CacheControl.Says`: a directive grants a number of seconds.
* `CacheControl.Allows`: a response may be kept for a number of seconds.

## Main statements

* `trimEnds_eq_iff`: what trimming leaves.
* `CacheControl.directiveAge?_eq_some_iff`: which directives grant what.
* `CacheControl.lifetime?_eq_some_iff`: which responses grant what.
* `CacheControl.first_usable_decides`: what the directives of a header grant together.
-/

namespace IdentityTokens

/-! ## Trimmed texts -/

variable {p : Char → Bool} {cs inner : List Char}

/-- A text without the characters of one kind at its ends: only such characters stand around it,
and it neither begins nor ends with one. -/
structure Trims (p : Char → Bool) (cs inner : List Char) : Prop where
  around : ∃ front back, cs = front ++ inner ++ back ∧ (∀ c ∈ front, p c = true) ∧
    ∀ c ∈ back, p c = true
  head : ∀ c ∈ inner.head?, p c = false
  last : ∀ c ∈ inner.getLast?, p c = false

/-- Nothing is dropped from the front of a text that begins with another character. -/
theorem dropWhile_eq_self_of_head? (h : ∀ c ∈ cs.head?, p c = false) : cs.dropWhile p = cs := by
  cases cs with
  | nil => rfl
  | cons c cs => exact List.dropWhile_cons_of_neg (by simp [h c rfl])

/-- Characters of one kind around a text are dropped, up to its ends. -/
theorem trimEnds_append {front back : List Char} (hfront : ∀ c ∈ front, p c = true)
    (hback : ∀ c ∈ back, p c = true) (hhead : ∀ c ∈ inner.head?, p c = false)
    (hlast : ∀ c ∈ inner.getLast?, p c = false) : trimEnds p (front ++ inner ++ back) = inner := by
  rw [trimEnds, List.append_assoc, List.dropWhile_append_of_pos hfront]
  by_cases hempty : inner = []
  · subst hempty
    have hnone : back.dropWhile p = [] := List.dropWhile_eq_nil_iff.mpr hback
    rw [List.nil_append, hnone]
    rfl
  · have hends : ∀ c ∈ (inner ++ back).head?, p c = false := by
      rwa [List.head?_append_of_ne_nil _ hempty]
    have hreversed : ∀ c ∈ inner.reverse.head?, p c = false := by
      rwa [List.head?_reverse]
    rw [dropWhile_eq_self_of_head? hends, List.reverse_append,
      List.dropWhile_append_of_pos (by simpa using hback), dropWhile_eq_self_of_head? hreversed,
      List.reverse_reverse]

theorem trims_trimEnds (p : Char → Bool) (cs : List Char) : Trims p cs (trimEnds p cs) := by
  have hrest : trimEnds p cs = (cs.dropWhile p).rdropWhile p := rfl
  rw [hrest]
  refine ⟨⟨cs.takeWhile p, (cs.dropWhile p).rtakeWhile p, ?_, fun c => List.mem_takeWhile_imp,
    fun c => List.mem_rtakeWhile_imp⟩, ?_, ?_⟩
  · rw [List.append_assoc, List.rdropWhile_append_rtakeWhile, List.takeWhile_append_dropWhile]
  · intro c hc
    obtain ⟨rest, hprefix⟩ := List.rdropWhile_prefix p (cs.dropWhile p)
    have hhead := List.head?_dropWhile_not p cs
    rw [← hprefix, List.head?_append, Option.mem_def.mp hc] at hhead
    exact hhead
  · intro c hc
    obtain ⟨hne, rfl⟩ := List.mem_getLast?_eq_getLast hc
    simpa using List.rdropWhile_last_not p _ hne

/-- Trimming leaves the text that stands between the characters at the ends. -/
theorem trimEnds_eq_iff : trimEnds p cs = inner ↔ Trims p cs inner := by
  constructor
  · rintro rfl
    exact trims_trimEnds p cs
  · rintro ⟨⟨front, back, rfl, hfront, hback⟩, hhead, hlast⟩
    exact trimEnds_append hfront hback hhead hlast

namespace CacheControl

/-! ## One directive -/

/-- A directive grants a number of seconds. Between blank characters it has a name and a value with
the first equals sign between them. The name is `max-age`, in upper or lower case, and the value,
perhaps in double quotes, is a numeral without a minus sign of a number of 32 bits; blank characters
may stand around the name and around the quotes. -/
inductive Says : List Char → Int → Prop where
  | maxAge {directive inner name value bareName bareValue numeral : List Char} {seconds : Int}
      (trimmed : Trims isBlank directive inner) (cut : inner = name ++ '=' :: value)
      (first : '=' ∉ name) (named : Trims isBlank name bareName)
      (maxAge : bareName.map Char.toLower = "max-age".toList)
      (valued : Trims isBlank value bareValue) (unquoted : Trims (· == '"') bareValue numeral)
      (spelt : Numeral.Spells numeral seconds) (unsigned : numeral.head? ≠ some '-')
      (fits : seconds ≤ 4294967295) : Says directive seconds

variable {directive : List Char} {seconds : Int}

theorem toOption_eq_some_iff {ε α : Type} {result : Except ε α} {a : α} :
    result.toOption = some a ↔ result = .ok a := by
  cases result <;> simp [Except.toOption]

theorem sameName_maxAge {name : List Char} :
    sameName name "max-age".toList = true ↔ name.map Char.toLower = "max-age".toList := by
  rw [sameName, beq_iff_eq]
  exact Iff.rfl

/-- What is read from a directive is what it grants. -/
theorem directiveAge?_eq_some_iff : directiveAge? directive = some seconds ↔
    Says directive seconds := by
  rw [directiveAge?]
  constructor
  · intro h
    split at h
    · cases h
    · next name value hcut =>
      obtain ⟨hfirst, hinner⟩ := splitOnce_eq_some_iff.mp hcut
      split at h
      · next hname =>
        obtain ⟨hspelt, hunsigned, -, hfits⟩ :=
          Numeral.word32_eq_ok_iff.mp (toOption_eq_some_iff.mp h)
        exact .maxAge (trims_trimEnds ..) hinner hfirst (trims_trimEnds ..)
          (sameName_maxAge.mp hname) (trims_trimEnds ..) (trims_trimEnds ..) hspelt hunsigned hfits
      · cases h
  · rintro ⟨htrimmed, hcut, hfirst, hnamed, hmaxAge, hvalued, hunquoted, hspelt, hunsigned, hfits⟩
    have hnonnegative := Numeral.nonneg_of_spells hspelt hunsigned
    rw [trimEnds_eq_iff.mpr htrimmed, splitOnce_eq_some_iff.mpr ⟨hfirst, hcut⟩]
    simp only [trimEnds_eq_iff.mpr hnamed, trimEnds_eq_iff.mpr hvalued,
      trimEnds_eq_iff.mpr hunquoted, sameName_maxAge.mpr hmaxAge, if_true]
    exact toOption_eq_some_iff.mpr
      (Numeral.word32_eq_ok_iff.mpr ⟨hspelt, hunsigned, hnonnegative, hfits⟩)

/-- What a directive grants is a number of 32 bits. -/
theorem Says.bounds (h : Says directive seconds) : 0 ≤ seconds ∧ seconds ≤ 4294967295 := by
  obtain ⟨-, -, -, -, -, -, -, hspelt, hunsigned, hfits⟩ := h
  exact ⟨Numeral.nonneg_of_spells hspelt hunsigned, hfits⟩

/-! ## All directives -/

variable {value : List Char}

theorem maxAge?_append (a b : List Char) :
    maxAge? (a ++ ',' :: b) = (maxAge? a).or (maxAge? b) := by
  rw [maxAge?, List.splitOn_append_cons_self, List.findSome?_append]
  rfl

theorem maxAge?_of_notMem (h : ',' ∉ value) : maxAge? value = directiveAge? value := by
  rw [maxAge?, List.splitOn_eq_singleton h, List.findSome?_singleton]

/-- A value without a comma grants what it grants as a directive. -/
theorem maxAge?_eq_some_iff_of_single (h : ',' ∉ value) :
    maxAge? value = some seconds ↔ Says value seconds := by
  rw [maxAge?_of_notMem h, directiveAge?_eq_some_iff]

/-- The first directive that grants a lifetime decides. -/
theorem maxAge?_eq_some_iff : maxAge? value = some seconds ↔
    ∃ before directive after, value.splitOn ',' = before ++ directive :: after ∧
      Says directive seconds ∧ ∀ other ∈ before, ∀ n, ¬Says other n := by
  simp only [maxAge?, List.findSome?_eq_some_iff, Option.eq_none_iff_forall_ne_some, ne_eq,
    directiveAge?_eq_some_iff]

theorem bounds_of_maxAge? (h : maxAge? value = some seconds) :
    0 ≤ seconds ∧ seconds ≤ 4294967295 := by
  obtain ⟨_, _, _, -, hage, -⟩ := maxAge?_eq_some_iff.mp h
  exact hage.bounds

theorem maxAge?_eq_none {directive : List Char} (hcomma : ',' ∉ directive)
    (hnone : ∀ n, ¬Says directive n) : maxAge? directive = none := by
  rw [Option.eq_none_iff_forall_ne_some]
  exact fun n h => hnone n ((maxAge?_eq_some_iff_of_single hcomma).mp h)

/-! ## Responses -/

/-- A response may be kept for a number of seconds. Its first header `Cache-Control`, a name in
upper or lower case, has nothing but visible ASCII, spaces and tabs in it, and of the directives in
it the first that grants a number of seconds grants this one. -/
inductive Allows : Http.Response → Int → Prop where
  | header {r : Http.Response} {before after : List (String × String)} {name value : String}
      {useless others : List (List Char)} {directive : List Char} {seconds : Int}
      (fields : r.fields = before ++ (name, value) :: after)
      (named : name.toList.map Char.toLower = "cache-control".toList)
      (first : ∀ field ∈ before, field.1.toList.map Char.toLower ≠ "cache-control".toList)
      (visible : ∀ c ∈ value.toList, (0x20 ≤ c.toNat ∧ c.toNat ≤ 0x7E) ∨ c = '\t')
      (directives : value.toList.splitOn ',' = useless ++ directive :: others)
      (decides : Says directive seconds)
      (skipped : ∀ other ∈ useless, ∀ n, ¬Says other n) : Allows r seconds

/-- The value of a header is that of the first header of its name. -/
theorem field?_eq_some_iff {r : Http.Response} {name value : String} :
    r.field? name = some value ↔ ∃ before title after,
      r.fields = before ++ (title, value) :: after ∧
      title.toList.map Char.toLower = name.toList ∧
      ∀ field ∈ before, field.1.toList.map Char.toLower ≠ name.toList := by
  have hnamed : ∀ title : String,
      (String.ofList (title.toList.map Char.toLower) == name) = true ↔
        title.toList.map Char.toLower = name.toList := by
    intro title
    rw [beq_iff_eq, ← String.toList_inj, String.toList_ofList]
  simp only [Http.Response.field?, Option.map_eq_some_iff, List.find?_eq_some_iff_append,
    Bool.not_eq_true', ← Bool.not_eq_true, hnamed]
  constructor
  · rintro ⟨⟨title, value⟩, ⟨htitle, before, after, hfields, hbefore⟩, rfl⟩
    exact ⟨before, title, after, hfields, htitle, hbefore⟩
  · rintro ⟨before, title, after, hfields, htitle, hbefore⟩
    exact ⟨(title, value), ⟨htitle, before, after, hfields, hbefore⟩, rfl⟩

theorem all_isVisible_iff {value : String} : value.toList.all isVisible = true ↔
    ∀ c ∈ value.toList, (0x20 ≤ c.toNat ∧ c.toNat ≤ 0x7E) ∨ c = '\t' := by
  simp [isVisible]

/-- The lifetime that a response grants is the number of seconds for which it may be kept. -/
theorem lifetime?_eq_some_iff {r : Http.Response} {lifetime : Duration} :
    lifetime? r = some lifetime ↔
      ∃ seconds, Allows r seconds ∧ lifetime.nanos = seconds * 1000000000 := by
  rw [lifetime?]
  constructor
  · intro h
    split at h
    · cases h
    · next text hfield =>
      obtain ⟨before, title, after, hfields, htitle, hbefore⟩ := field?_eq_some_iff.mp hfield
      split at h
      · next hvisible =>
        obtain ⟨seconds, hage, rfl⟩ := Option.map_eq_some_iff.mp h
        obtain ⟨_, _, _, hsplit, hsays, hskipped⟩ := maxAge?_eq_some_iff.mp hage
        exact ⟨seconds, .header hfields htitle hbefore (all_isVisible_iff.mp hvisible) hsplit hsays
          hskipped, rfl⟩
      · cases h
  · rintro ⟨seconds, ⟨hfields, hnamed, hfirst, hvisible, hsplit, hsays, hskipped⟩, hnanos⟩
    have hage := maxAge?_eq_some_iff.mpr ⟨_, _, _, hsplit, hsays, hskipped⟩
    have hlifetime : Duration.ofSeconds seconds = lifetime := congrArg Duration.mk hnanos.symm
    simp only [field?_eq_some_iff.mpr ⟨_, _, _, hfields, hnamed, hfirst⟩,
      all_isVisible_iff.mpr hvisible, if_true, hage, Option.map_some, hlifetime]

theorem lifetime?_eq_none_iff {r : Http.Response} :
    lifetime? r = none ↔ ∀ seconds, ¬Allows r seconds := by
  rw [Option.eq_none_iff_forall_ne_some]
  constructor
  · intro h seconds hallows
    exact h ⟨seconds * 1000000000⟩ (lifetime?_eq_some_iff.mpr ⟨seconds, hallows, rfl⟩)
  · intro h lifetime hsome
    obtain ⟨seconds, hallows, -⟩ := lifetime?_eq_some_iff.mp hsome
    exact h seconds hallows

/-- A lifetime that a response grants is not negative. -/
theorem lifetime?_nonneg {r : Http.Response} {lifetime : Duration}
    (h : lifetime? r = some lifetime) : 0 ≤ lifetime.nanos := by
  obtain ⟨seconds, ⟨-, -, -, -, -, hsays, -⟩, hnanos⟩ := lifetime?_eq_some_iff.mp h
  obtain ⟨hpos, -⟩ := hsays.bounds
  omega

/-! ## The whole -/

/-- **The first usable directive decides.** A value of the header grants what its part before a
comma grants, or else what the part after it grants; without a comma it grants a number of seconds
exactly if it says so as a directive. So directives that say nothing of use can stand anywhere
without an effect, those after one that does have none, and no lifetime is negative. -/
theorem first_usable_decides :
    (∀ a b, maxAge? (a ++ ',' :: b) = (maxAge? a).or (maxAge? b)) ∧
    (∀ directive seconds, ',' ∉ directive →
      (maxAge? directive = some seconds ↔ Says directive seconds)) ∧
    (∀ value seconds, maxAge? value = some seconds ↔
      ∃ before directive after, value.splitOn ',' = before ++ directive :: after ∧
        Says directive seconds ∧ ∀ other ∈ before, ∀ n, ¬Says other n) ∧
    (∀ directive, ',' ∉ directive → (∀ n, ¬Says directive n) →
      maxAge? directive = none ∧
      (∀ b, maxAge? (directive ++ ',' :: b) = maxAge? b) ∧
      (∀ a, maxAge? (a ++ ',' :: directive) = maxAge? a) ∧
      ∀ a b, maxAge? (a ++ ',' :: (directive ++ ',' :: b)) = maxAge? (a ++ ',' :: b)) ∧
    (∀ a b seconds, maxAge? a = some seconds → maxAge? (a ++ ',' :: b) = some seconds) ∧
    (∀ value seconds, maxAge? value = some seconds → 0 ≤ seconds ∧ seconds ≤ 4294967295) ∧
    ∀ r lifetime, lifetime? r = some lifetime → 0 ≤ lifetime.nanos := by
  refine ⟨maxAge?_append, fun _ _ => maxAge?_eq_some_iff_of_single, fun _ _ => maxAge?_eq_some_iff,
    ?_, ?_, fun _ _ => bounds_of_maxAge?, fun _ _ => lifetime?_nonneg⟩
  · intro directive hcomma hnone
    have hskip := maxAge?_eq_none hcomma hnone
    refine ⟨hskip, fun b => ?_, fun a => ?_, fun a b => ?_⟩
    · rw [maxAge?_append, hskip, Option.none_or]
    · rw [maxAge?_append, hskip, Option.or_none]
    · rw [maxAge?_append, maxAge?_append directive, hskip, Option.none_or, ← maxAge?_append]
  · intro a b seconds ha
    rw [maxAge?_append, ha, Option.some_or]

/-- A number that is too large grants nothing, so a quoted one with a sign after it decides, and
what follows does not count. -/
theorem first_usable_decides_quoted :
    (∀ n, ¬Says "max-age=4294967296".toList n) ∧ Says " Max-Age = \"+060\"".toList 60 ∧
      maxAge? ("max-age=4294967296".toList ++ ',' ::
        (" Max-Age = \"+060\"".toList ++ ',' :: "max-age=5".toList)) = some 60 := by
  obtain ⟨happend, hsingle, -, hskip, hlater, -⟩ := first_usable_decides
  have hlarge : ∀ n, ¬Says "max-age=4294967296".toList n := fun n h => by
    have hage := (hsingle _ n (by decide)).mpr h
    cases hage.symm.trans (by decide : maxAge? "max-age=4294967296".toList = none)
  have hquoted : maxAge? " Max-Age = \"+060\"".toList = some 60 := by decide
  refine ⟨hlarge, (hsingle _ 60 (by decide)).mp hquoted, ?_⟩
  rw [(hskip _ (by decide) hlarge).2.1]
  exact hlater _ _ 60 hquoted

end CacheControl

end IdentityTokens
