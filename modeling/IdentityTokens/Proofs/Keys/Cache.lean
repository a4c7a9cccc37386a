import IdentityTokens.Keys.CertificateCache

/-!
# Laws of the cache

A cache uses the set it holds as long as the deadline of the set is still to come, and otherwise
sends one request, whose outcome replaces the set or leaves it. The address and the usual lifetime
of a cache never change.

## Main statements

* `CertificateCache.fresh?_eq_some_iff`, `CertificateCache.fresh?_eq_none_iff`: when no request is
  needed.
* `CertificateCache.settle_of_ok`, `CertificateCache.settle_of_error`: the outcome of a request.
* `CertificateCache.keySet_of_fresh`, `CertificateCache.keySet_of_stale`: the keys at an instant.
-/

namespace IdentityTokens

/-- The deadline of a set, if it has one, is still to come. -/
def KeySet.Fresh (keys : KeySet) (now : Instant) : Prop :=
  ∀ deadline, keys.expiresAt = some deadline → now < deadline

theorem KeySet.isFresh_iff {keys : KeySet} {now : Instant} :
    keys.isFresh now = true ↔ keys.Fresh now := by
  rw [isFresh, Fresh]
  cases keys.expiresAt with
  | none => simp
  | some deadline => simp

namespace CertificateCache

variable {c : CertificateCache} {now : Instant}

/-! ## Looking -/

theorem fresh?_eq_some_iff {keys : KeySet} :
    c.fresh? now = some keys ↔ c.stored = some keys ∧ keys.Fresh now := by
  rw [fresh?, Option.filter_eq_some_iff, KeySet.isFresh_iff]

theorem fresh?_eq_none_iff :
    c.fresh? now = none ↔ ∀ keys, c.stored = some keys → ¬keys.Fresh now := by
  simp only [fresh?, Option.filter_eq_none_iff, KeySet.isFresh_iff]

/-! ## Settling -/

/-- What is made of the outcome of a request depends on the usual lifetime only. -/
theorem keysOf_congr {d : CertificateCache} (h : c.defaultLifetime = d.defaultLifetime)
    (now : Instant) (outcome : Except Http.Failure Http.Response) :
    c.keysOf now outcome = d.keysOf now outcome := by
  simp only [keysOf, keysIn, h]

/-- A set that was read is stored, whatever was stored before. -/
theorem settle_of_ok {outcome : Except Http.Failure Http.Response} {keys : KeySet}
    (h : c.keysOf now outcome = .ok keys) : c.settle now outcome = (.ok keys, c.store keys) := by
  rw [settle, h]

/-- A failure leaves the cache as it was. -/
theorem settle_of_error {outcome : Except Http.Failure Http.Response} {e : Error}
    (h : c.keysOf now outcome = .error e) : c.settle now outcome = (.error e, c) := by
  rw [settle, h]

@[simp] theorem fst_settle (c : CertificateCache) (now : Instant)
    (outcome : Except Http.Failure Http.Response) :
    (c.settle now outcome).1 = c.keysOf now outcome := by
  rw [settle]
  cases c.keysOf now outcome <;> rfl

@[simp] theorem url_settle (c : CertificateCache) (now : Instant)
    (outcome : Except Http.Failure Http.Response) : (c.settle now outcome).2.url = c.url := by
  rw [settle]
  cases c.keysOf now outcome <;> rfl

@[simp] theorem defaultLifetime_settle (c : CertificateCache) (now : Instant)
    (outcome : Except Http.Failure Http.Response) :
    (c.settle now outcome).2.defaultLifetime = c.defaultLifetime := by
  rw [settle]
  cases c.keysOf now outcome <;> rfl

/-! ## Keys at an instant -/

variable {n : Http.Network}

theorem keySet_of_fresh {keys : KeySet} (h : c.fresh? now = some keys) :
    c.keySet now n = (.ok keys, c, n) := by
  rw [keySet, h]

theorem keySet_of_stale (h : c.fresh? now = none) :
    c.keySet now n = (c.keysOf now (n.send c.request).1,
      (c.settle now (n.send c.request).1).2, (n.send c.request).2) := by
  rw [keySet, h, ← fst_settle]

@[simp] theorem url_keySet (c : CertificateCache) (now : Instant) (n : Http.Network) :
    (c.keySet now n).2.1.url = c.url := by
  cases h : c.fresh? now with
  | none => rw [keySet_of_stale h, url_settle]
  | some keys => rw [keySet_of_fresh h]

@[simp] theorem defaultLifetime_keySet (c : CertificateCache) (now : Instant) (n : Http.Network) :
    (c.keySet now n).2.1.defaultLifetime = c.defaultLifetime := by
  cases h : c.fresh? now with
  | none => rw [keySet_of_stale h, defaultLifetime_settle]
  | some keys => rw [keySet_of_fresh h]

end CertificateCache

end IdentityTokens
