import IdentityTokens.Keys.KeySet
import IdentityTokens.Proofs.NameMap
import IdentityTokens.Proofs.Rearrangement

/-!
# Sets of keys made of certificates

Certificates come as pairs with identifiers, in any order and with identifiers that repeat. Either
every one of them has a key, and the set has under each identifier the key in its last certificate,
or there is no set, because of the first certificate without a key. How a key is taken from a
certificate does not matter here.

## Main definitions

* `KeySet.MadeOf`: a set of keys is made of certificates.

## Main statements

* `KeySet.madeOf_of_collect`: a set that is collected is made of the certificates.
* `KeySet.collect_keeps_last`: when certificates make a set, which one, and why they make none.
-/

namespace IdentityTokens

namespace KeySet

variable {κ ε : Type} {extract : κ → Except ε (List UInt8)} {certs certs' : List (String × κ)}
  {expiresAt : Option Instant} {keys : KeySet}

/-- A set of keys is made of certificates with their identifiers: under an identifier it has the key
in the last certificate of that identifier, which reports the identifier, and nothing where there is
no certificate; it is what comes of filing all keys, one after the other, under the identifiers that
they report; and going through it meets each key that is found under an identifier once, as many as
there are different identifiers. -/
structure MadeOf (extract : κ → Except ε (List UInt8)) (certs : List (String × κ))
    (keys : KeySet) : Prop where
  get?_iff : ∀ kid key, keys.get? kid = some key ↔ ∃ before cert after encoded,
    certs = before ++ (kid, cert) :: after ∧ (∀ p ∈ after, p.1 ≠ kid) ∧
      extract cert = .ok encoded ∧ key = ⟨kid, encoded⟩
  get?_eq_none_iff : ∀ kid, keys.get? kid = none ↔ kid ∉ certs.map (·.1)
  filed : ∃ found : List VerificationKey,
    List.Forall₂ (fun p key => key.kid = p.1 ∧ extract p.2 = .ok key.encoded) certs found ∧
      keys.toList = (NameMap.ofList (found.map fun key => (key.kid, key))).map (·.2)
  mem_toList_iff : ∀ key, key ∈ keys.toList ↔ keys.get? key.kid = some key
  kids_perm : (keys.toList.map (·.kid)).Perm (certs.map (·.1)).dedup
  size_eq : keys.size = (certs.map (·.1)).dedup.length

theorem mem_toList_iff (hkeys : keys.keys.Ascending) {key : VerificationKey} :
    key ∈ keys.toList ↔ keys.get? key.kid = some key := by
  simp only [toList, get?, List.mem_map, Option.map_eq_some_iff, hkeys.find?_eq_some_iff]
  constructor
  · rintro ⟨⟨kid, encoded⟩, hmem, rfl⟩
    exact ⟨encoded, hmem, rfl⟩
  · rintro ⟨encoded, hmem, hkey⟩
    exact ⟨(key.kid, encoded), hmem, hkey⟩

theorem kids_toList (keys : KeySet) : keys.toList.map (·.kid) = keys.keys.names := by
  rw [toList, List.map_map]
  rfl

theorem collect_eq_ok_iff : collect extract certs expiresAt = .ok keys ↔
    NameMap.ofListChecked extract certs = .ok keys.keys ∧ keys.expiresAt = expiresAt := by
  obtain ⟨m, deadline⟩ := keys
  rw [collect]
  cases NameMap.ofListChecked extract certs <;> simp [Except.map, eq_comm]

theorem collect_eq_error_iff {e : ε} : collect extract certs expiresAt = .error e ↔
    NameMap.checkAll extract certs = .error e := by
  rw [collect, NameMap.ofListChecked]
  cases NameMap.checkAll extract certs <;> simp [Except.map]

/-- A set that is collected is made of the certificates. -/
theorem madeOf_of_collect (h : collect extract certs expiresAt = .ok keys) :
    MadeOf extract certs keys := by
  obtain ⟨hchecked, -⟩ := collect_eq_ok_iff.mp h
  obtain ⟨m, deadline⟩ := keys
  obtain ⟨checked, hpairs, rfl⟩ := NameMap.ofListChecked_eq_ok_iff.mp hchecked
  have hnames := NameMap.names_of_forall₂ hpairs
  have hkids := NameMap.names_ofList_perm checked
  rw [hnames] at hkids
  refine ⟨fun kid key => ?_, fun kid => ?_, ?_, fun key => ?_, ?_, ?_⟩
  · simp only [get?, Option.map_eq_some_iff, NameMap.find?_ofListChecked hchecked,
      NameMap.lookup_reverse_eq_some_iff]
    constructor
    · rintro ⟨encoded, ⟨cert, ⟨before, after, hsplit, hafter⟩, hcert⟩, rfl⟩
      exact ⟨before, cert, after, encoded, hsplit, hafter, hcert, rfl⟩
    · rintro ⟨before, cert, after, encoded, hsplit, hafter, hcert, rfl⟩
      exact ⟨encoded, ⟨cert, ⟨before, after, hsplit, hafter⟩, hcert⟩, rfl⟩
  · rw [get?, Option.map_eq_none_iff, NameMap.find?_eq_none_iff, NameMap.mem_names_ofList, hnames]
  · have hfiled := NameMap.ofList_map (fun kid encoded => VerificationKey.mk kid encoded) checked
    refine ⟨checked.map fun q => ⟨q.1, q.2⟩, ?_, ?_⟩
    · rw [List.forall₂_map_right_iff]
      exact hpairs.imp fun p q hpq => ⟨hpq.1.symm, hpq.2⟩
    · rw [List.map_map]
      refine Eq.trans ?_ (congrArg (List.map (·.2)) hfiled).symm
      rw [List.map_map]
      rfl
  · exact mem_toList_iff (NameMap.ascending_ofList checked)
  · rwa [kids_toList]
  · rw [← hkids.length_eq]
    exact (List.length_map _).symm

/-- Certificates in another order make the same set, as long as those of one identifier stay in
their order. -/
theorem collect_of_rearranged (hsame : Rearranged (·.1) certs certs')
    (h : collect extract certs expiresAt = .ok keys) :
    collect extract certs' expiresAt = .ok keys := by
  obtain ⟨hchecked, hexpires⟩ := collect_eq_ok_iff.mp h
  -- Whether all certificates have keys does not depend on the order.
  have hall : ∀ p ∈ certs', ∃ encoded, extract p.2 = .ok encoded := fun p hp =>
    NameMap.exists_ofListChecked_ok.mp ⟨_, hchecked⟩ p (hsame.perm.mem_iff.mpr hp)
  obtain ⟨m, hm⟩ := NameMap.exists_ofListChecked_ok.mpr hall
  have hlast : ∀ kid, certs.reverse.lookup kid = certs'.reverse.lookup kid := fun kid => by
    rw [List.lookup_eq_findSome?, List.lookup_eq_findSome?]
    refine hsame.findSome?_reverse (k := kid) fun p hp => ?_
    simp [Ne.symm hp]
  have hkeys : keys.keys = m := by
    refine (NameMap.ascending_ofListChecked hchecked).eq_of_find?
      (NameMap.ascending_ofListChecked hm) fun kid => Option.ext fun encoded => ?_
    rw [NameMap.find?_ofListChecked hchecked, NameMap.find?_ofListChecked hm, hlast]
  exact collect_eq_ok_iff.mpr ⟨hkeys ▸ hm, hexpires⟩

/-- **Every certificate must have a key, and the last one of an identifier counts.** Certificates
make no set exactly if one of them has no key, and the first of these tells why, whatever comes
after it; else the set is made of them and goes stale when it was said to. In another order they
make the same set, or none, as long as those of one identifier stay in their order. -/
theorem collect_keeps_last (extract : κ → Except ε (List UInt8)) (certs : List (String × κ))
    (expiresAt : Option Instant) :
    ((∃ e, collect extract certs expiresAt = .error e) ↔
      ∃ p ∈ certs, ∃ e, extract p.2 = .error e) ∧
    (∀ e, collect extract certs expiresAt = .error e ↔ ∃ before kid cert after,
      certs = before ++ (kid, cert) :: after ∧ extract cert = .error e ∧
        ∀ p ∈ before, ∃ encoded, extract p.2 = .ok encoded) ∧
    (∀ keys, collect extract certs expiresAt = .ok keys →
      MadeOf extract certs keys ∧ keys.expiresAt = expiresAt) ∧
    ∀ certs', Rearranged (·.1) certs certs' → ∀ keys,
      collect extract certs expiresAt = .ok keys ↔ collect extract certs' expiresAt = .ok keys := by
  refine ⟨?_, fun e => collect_eq_error_iff.trans NameMap.checkAll_eq_error_iff,
    fun keys h => ⟨madeOf_of_collect h, (collect_eq_ok_iff.mp h).2⟩,
    fun certs' hsame keys => ⟨collect_of_rearranged hsame, collect_of_rearranged hsame.symm⟩⟩
  constructor
  · rintro ⟨e, he⟩
    obtain ⟨before, kid, cert, after, rfl, hcert, -⟩ :=
      NameMap.checkAll_eq_error_iff.mp (collect_eq_error_iff.mp he)
    exact ⟨(kid, cert), by simp, e, hcert⟩
  · rintro ⟨p, hp, e, he⟩
    cases hcollect : collect extract certs expiresAt with
    | error e' => exact ⟨e', rfl⟩
    | ok keys =>
      obtain ⟨encoded, hok⟩ := NameMap.exists_ofListChecked_ok.mp
        ⟨_, (collect_eq_ok_iff.mp hcollect).1⟩ p hp
      cases he.symm.trans hok

end KeySet

namespace Sample

/-- The key in a certificate that is a number, of which zero has none. -/
def numbered (n : Nat) : Except String (List UInt8) :=
  if n = 0 then .error "no key" else .ok [UInt8.ofNat n]

end Sample

namespace KeySet

open IdentityTokens.Sample (numbered)

/-- With another identifier before it or after it, the first of two certificates of an identifier
is replaced. -/
theorem collect_keeps_last_repeated :
    Rearranged (·.1) [("a", 1), ("b", 2), ("a", 3)] [("b", 2), ("a", 1), ("a", 3)] ∧
      ∃ keys, collect numbered [("a", 1), ("b", 2), ("a", 3)] none = .ok keys ∧
        collect numbered [("b", 2), ("a", 1), ("a", 3)] none = .ok keys ∧
        MadeOf numbered [("a", 1), ("b", 2), ("a", 3)] keys ∧ keys.get? "a" = some ⟨"a", [3]⟩ := by
  have hsame : Rearranged (·.1) [("a", 1), ("b", 2), ("a", 3)] [("b", 2), ("a", 1), ("a", 3)] :=
    Rearranged.swap (by decide) [("a", 3)]
  have hkeys : collect numbered [("a", 1), ("b", 2), ("a", 3)] none =
      .ok ⟨[("a", [3]), ("b", [2])], none⟩ := by rfl
  obtain ⟨-, -, hmade, horder⟩ := collect_keeps_last numbered [("a", 1), ("b", 2), ("a", 3)] none
  exact ⟨hsame, _, hkeys, (horder _ hsame _).mp hkeys, (hmade _ hkeys).1, by decide⟩

end KeySet

end IdentityTokens
