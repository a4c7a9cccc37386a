/-!
# Instants

Points of time in nanoseconds since the start of 1970, in the years from -9999 to 9999. Tokens
count whole seconds, rounded toward the past.

## Main definitions

* `Duration`: a signed number of nanoseconds.
* `Instant`: a point of time within the range.
* `Instant.seconds`, `Instant.subsecond`: its whole seconds and the nanoseconds left.
* `Instant.add?`: the point of time a duration later, if it is within the range.
-/

namespace IdentityTokens

/-- A duration, which may be negative. -/
structure Duration where
  nanos : Int
deriving DecidableEq, Repr

namespace Duration

/-- A duration of whole seconds. -/
def ofSeconds (seconds : Int) : Duration := ⟨seconds * 1000000000⟩

/-- The sum of a number of seconds and a number of nanoseconds. -/
def ofParts (seconds nanos : Int) : Duration := ⟨seconds * 1000000000 + nanos⟩

end Duration

/-- A point of time. The bounds are the start of the year -9999 and the end of the year 9999. -/
structure Instant where
  nanos : Int
  earliest_le : -377705116800000000000 ≤ nanos
  le_latest : nanos ≤ 253402300799999999999
deriving DecidableEq, Repr

namespace Instant

/-- The point of time a number of nanoseconds after the start of 1970, if it is within the
range. -/
def ofNanos? (nanos : Int) : Option Instant :=
  if h : -377705116800000000000 ≤ nanos ∧ nanos ≤ 253402300799999999999 then
    some ⟨nanos, h.1, h.2⟩
  else none

/-- The whole seconds since the start of 1970, rounded toward the past. -/
def seconds (t : Instant) : Int := t.nanos / 1000000000

/-- The nanoseconds after the whole seconds. -/
def subsecond (t : Instant) : Int := t.nanos % 1000000000

/-- The point of time a duration later. -/
def add? (t : Instant) (d : Duration) : Option Instant := ofNanos? (t.nanos + d.nanos)

/-- Whether a point of time is earlier than another. -/
instance : LT Instant := ⟨fun s t => s.nanos < t.nanos⟩

instance (s t : Instant) : Decidable (s < t) := inferInstanceAs (Decidable (s.nanos < t.nanos))

@[simp] theorem ofNanos?_nanos (t : Instant) : ofNanos? t.nanos = some t := by
  simp [ofNanos?, t.earliest_le, t.le_latest]

theorem lt_iff {s t : Instant} : s < t ↔ s.nanos < t.nanos := Iff.rfl

theorem add?_eq_some_iff {t u : Instant} {d : Duration} :
    t.add? d = some u ↔ u.nanos = t.nanos + d.nanos := by
  constructor
  · intro h
    simp only [add?, ofNanos?] at h
    split at h
    · cases h
      rfl
    · cases h
  · intro h
    rw [add?, ← h, ofNanos?_nanos]

theorem add?_eq_none_iff {t : Instant} {d : Duration} :
    t.add? d = none ↔ ∀ u : Instant, u.nanos ≠ t.nanos + d.nanos := by
  simp only [Option.eq_none_iff_forall_ne_some, ne_eq, add?_eq_some_iff]

theorem nanos_eq (t : Instant) : t.nanos = t.seconds * 1000000000 + t.subsecond := by
  simp only [seconds, subsecond]; omega

end Instant

end IdentityTokens
