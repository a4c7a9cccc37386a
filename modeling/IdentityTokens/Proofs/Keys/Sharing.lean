import IdentityTokens.Keys.Callers
import IdentityTokens.Proofs.Keys.Grant
import IdentityTokens.Run
import Mathlib.Data.List.Induction

/-!
# What callers that share a cache can rely on

Whatever the order in which callers go on, are given up and see the clock set, the lock keeps their
requests apart. One lemma says what an event can do; the invariants are read off it, case by case.

## Main definitions

* `Callers.Move`: what one event does.
* `Callers.Sound`: who holds the lock, and what the phases of callers say of cache and network.
* `Callers.Settled`: a set that is fresh has been stored, and nobody is about to fetch another.

## Main statements

* `Callers.Sound.step`, `Callers.Settled.step`: events keep the invariants.
* `Callers.share_one_fetch`: one request at a time, each after a look, sets stored in the order of
  their requests, and one fetch for all while the clock stands still.
-/

namespace IdentityTokens

/-- Whether a caller that is this far holds the lock. -/
def Phase.Locked : Phase → Prop
  | .looking | .cleared _ | .fetching _ _ | .leaving _ _ => True
  | _ => False

/-- A caller that is this far is not about to fetch anything, and the result that it has, if it has
one, is a certain set. -/
def Phase.Shares (keys : KeySet) : Phase → Prop
  | .cleared _ | .fetching _ _ => False
  | .leaving result _ | .served result _ => result = .ok keys
  | _ => True

namespace Callers

/-! ## Events -/

/-- What an event does, by how far the caller is that it is about. -/
inductive Move (s : Callers) : CallerEvent → Callers → Prop where
  | found {i : Nat} {keys : KeySet} (phase : s.phase i = .arriving)
      (fresh : s.cache.fresh? s.now = some keys) :
      Move s (.go i) (s.setPhase i (.served (.ok keys) s.cache.count))
  | queued {i : Nat} (phase : s.phase i = .arriving) (stale : s.cache.fresh? s.now = none) :
      Move s (.go i) (s.setPhase i .waiting)
  | locked {i : Nat} (phase : s.phase i = .waiting) (free : s.holder = none) :
      Move s (.go i) { s.setPhase i .looking with holder := some i }
  | foundAgain {i : Nat} {keys : KeySet} (phase : s.phase i = .looking)
      (fresh : s.cache.fresh? s.now = some keys) :
      Move s (.go i) (s.setPhase i (.leaving (.ok keys) s.cache.count))
  | cleared {i : Nat} (phase : s.phase i = .looking) (stale : s.cache.fresh? s.now = none) :
      Move s (.go i) (s.setPhase i (.cleared s.now))
  | sent {i : Nat} {time : Instant} (phase : s.phase i = .cleared time) :
      Move s (.go i)
        { s.setPhase i (.fetching s.network.log.length (s.network.send s.cache.request).1) with
          network := (s.network.send s.cache.request).2 }
  | stored {i number : Nat} {outcome : Except Http.Failure Http.Response} {keys : KeySet}
      (phase : s.phase i = .fetching number outcome)
      (fetched : s.cache.keysOf s.now outcome = .ok keys) :
      Move s (.go i)
        { s.setPhase i (.leaving (.ok keys) (s.cache.store keys).count) with
          cache := s.cache.store keys }
  | failed {i number : Nat} {outcome : Except Http.Failure Http.Response} {e : Error}
      (phase : s.phase i = .fetching number outcome)
      (fetched : s.cache.keysOf s.now outcome = .error e) :
      Move s (.go i) (s.setPhase i (.leaving (.error e) s.cache.count))
  | left {i count : Nat} {result : Except Error KeySet}
      (phase : s.phase i = .leaving result count) :
      Move s (.go i) { s.setPhase i (.served result count) with holder := none }
  | stuck {i : Nat} (phase : ¬(s.phase i).Locked) : Move s (.go i) s
  | givenUp {i : Nat} (unserved : ∀ result count, s.phase i ≠ .served result count) :
      Move s (.giveUp i)
        { s.setPhase i .gone with holder := if s.holder = some i then none else s.holder }
  | late {i : Nat} : Move s (.giveUp i) s
  | clock {now : Instant} : Move s (.setClock now) { s with now }

/-- Every event is one of these. -/
theorem move_step (s : Callers) (e : CallerEvent) : s.Move e (s.step e) := by
  cases e with
  | setClock now => exact .clock
  | giveUp i =>
    simp only [step, giveUp]
    cases hphase : s.phase i with
    | served result count => exact .late
    | gone => exact .late
    | _ => exact .givenUp (by simp [hphase])
  | go i =>
    simp only [step, advance]
    cases hphase : s.phase i with
    | arriving =>
      simp only [look]
      cases hfresh : s.cache.fresh? s.now with
      | some keys => exact .found hphase hfresh
      | none => exact .queued hphase hfresh
    | waiting =>
      cases hholder : s.holder with
      | none => exact .locked hphase hholder
      | some j => exact .stuck (by simp [hphase, Phase.Locked])
    | looking =>
      simp only [look]
      cases hfresh : s.cache.fresh? s.now with
      | some keys => exact .foundAgain hphase hfresh
      | none => exact .cleared hphase hfresh
    | cleared time => exact .sent hphase
    | fetching number outcome =>
      cases hfetched : s.cache.keysOf s.now outcome with
      | error e =>
        simp only [CertificateCache.settle_of_error hfetched]
        exact .failed hphase hfetched
      | ok keys =>
        simp only [CertificateCache.settle_of_ok hfetched]
        exact .stored hphase hfetched
    | leaving result count => exact .left hphase
    | served result count => exact .stuck (by simp [hphase, Phase.Locked])
    | gone => exact .stuck (by simp [hphase, Phase.Locked])

/-! ## The lock and the requests -/

/-- The caller that holds the lock is the one whose progress says so. A caller that is cleared to
send a request found no fresh set, and none has been stored since. A request that is under way is
the last one that was sent. -/
structure Sound (s : Callers) : Prop where
  holder_iff : ∀ i, s.holder = some i ↔ (s.phase i).Locked
  cleared : ∀ i time, s.phase i = .cleared time → s.cache.fresh? time = none
  fetching : ∀ i number outcome, s.phase i = .fetching number outcome →
    number + 1 = s.network.log.length ∧ s.network.log[number]? = some ⟨s.cache.request, outcome⟩

/-- At most one caller holds the lock. -/
theorem Sound.eq_of_locked {s : Callers} (h : s.Sound) {i j : Nat} (hi : (s.phase i).Locked)
    (hj : (s.phase j).Locked) : i = j := by
  have hsome := ((h.holder_iff i).mpr hi).symm.trans ((h.holder_iff j).mpr hj)
  exact Option.some.inj hsome

theorem sound_start (cache : CertificateCache) (now : Instant) (network : Http.Network) :
    (start cache now network).Sound := by
  refine ⟨?_, ?_, ?_⟩
  · intro i
    simp [start, Phase.Locked]
  · intro i time h
    cases h
  · intro i number outcome h
    cases h

section

variable {s : Callers} {i : Nat} {p : Phase}

/-- A caller goes on and the lock stays where it is. -/
theorem Sound.holder_iff_of_kept (h : s.Sound) (hp : p.Locked ↔ (s.phase i).Locked) (j : Nat) :
    s.holder = some j ↔ ((s.setPhase i p).phase j).Locked := by
  rw [h.holder_iff, phase_setPhase]
  by_cases hj : j = i
  · rw [if_pos hj, hp, hj]
  · rw [if_neg hj]

/-- A caller goes on and takes the lock, which nobody had. -/
theorem Sound.holder_iff_of_taken (h : s.Sound) (hfree : s.holder = none) (hp : p.Locked)
    (j : Nat) : some i = some j ↔ ((s.setPhase i p).phase j).Locked := by
  rw [phase_setPhase]
  by_cases hj : j = i
  · simp [hj, hp]
  · have hnot : ¬(s.phase j).Locked := by
      rw [← h.holder_iff, hfree]
      simp
    simp [hj, Ne.symm hj, hnot]

/-- A caller goes on and is without the lock afterwards. -/
theorem Sound.holder_iff_of_freed (h : s.Sound) (hp : ¬p.Locked) (j : Nat) :
    (if s.holder = some i then none else s.holder) = some j ↔
      ((s.setPhase i p).phase j).Locked := by
  rw [phase_setPhase]
  by_cases hj : j = i
  · subst hj
    by_cases hholder : s.holder = some j <;> simp [hholder, hp]
  · rw [if_neg hj, ← h.holder_iff]
    by_cases hholder : s.holder = some i
    · simp [hholder, Ne.symm hj]
    · simp [hholder]

/-- A caller goes on while cache and network stay as they are. -/
theorem Sound.setPhase (h : s.Sound) {holder : Option Nat}
    (hholder : ∀ j, holder = some j ↔ ((s.setPhase i p).phase j).Locked)
    (hcleared : ∀ time, p = .cleared time → s.cache.fresh? time = none)
    (hfetching : ∀ number outcome, p ≠ .fetching number outcome) :
    Sound { s.setPhase i p with holder } := by
  refine ⟨hholder, ?_, ?_⟩
  · intro j time hj
    rw [phase_setPhase] at hj
    split at hj
    · exact hcleared time hj
    · exact h.cleared j time hj
  · intro j number outcome hj
    rw [phase_setPhase] at hj
    split at hj
    · exact absurd hj (hfetching number outcome)
    · exact h.fetching j number outcome hj

end

/-- Every event keeps the invariant. Where the cache or the network changes, the caller that changes
it holds the lock, so no other is cleared or has a request under way. -/
theorem Sound.move {s after : Callers} {e : CallerEvent} (h : s.Sound) (hmove : s.Move e after) :
    after.Sound := by
  cases hmove with
  | found hphase _ | queued hphase _ | foundAgain hphase _ | failed hphase _ =>
    exact h.setPhase (h.holder_iff_of_kept (by simp [hphase, Phase.Locked])) (by simp) (by simp)
  | locked _ hfree =>
    exact h.setPhase (h.holder_iff_of_taken hfree trivial) (by simp) (by simp)
  | cleared hphase hstale =>
    refine h.setPhase (h.holder_iff_of_kept (by simp [hphase, Phase.Locked])) ?_ (by simp)
    intro time htime
    cases htime
    exact hstale
  | @left i count result hphase =>
    have hholder : s.holder = some i := (h.holder_iff i).mpr (by simp [hphase, Phase.Locked])
    have hfreed := h.holder_iff_of_freed (i := i) (p := .served result count)
      (by simp [Phase.Locked])
    rw [if_pos hholder] at hfreed
    exact h.setPhase hfreed (by simp) (by simp)
  | givenUp _ =>
    exact h.setPhase (h.holder_iff_of_freed (by simp [Phase.Locked])) (by simp) (by simp)
  | @sent i time hphase =>
    have hlocked : (s.phase i).Locked := by simp [hphase, Phase.Locked]
    refine ⟨h.holder_iff_of_kept (by simp [hphase, Phase.Locked]), ?_, ?_⟩
    · intro j time' hj
      simp only [phase_setPhase] at hj
      split at hj
      · cases hj
      · exact h.cleared j time' hj
    · intro j number outcome hj
      simp only [phase_setPhase] at hj
      split at hj
      · cases hj
        simp
      · next hne => exact absurd (h.eq_of_locked (by simp [hj, Phase.Locked]) hlocked) hne
  | @stored i number outcome keys hphase _ =>
    have hlocked : (s.phase i).Locked := by simp [hphase, Phase.Locked]
    refine ⟨h.holder_iff_of_kept (by simp [hphase, Phase.Locked]), ?_, ?_⟩
    · intro j time hj
      simp only [phase_setPhase] at hj
      split at hj
      · cases hj
      · next hne => exact absurd (h.eq_of_locked (by simp [hj, Phase.Locked]) hlocked) hne
    · intro j number' outcome' hj
      simp only [phase_setPhase] at hj
      split at hj
      · cases hj
      · next hne => exact absurd (h.eq_of_locked (by simp [hj, Phase.Locked]) hlocked) hne
  | stuck _ | late => exact h
  | clock => exact ⟨h.holder_iff, h.cleared, h.fetching⟩

theorem Sound.step {s : Callers} (h : s.Sound) (e : CallerEvent) : (s.step e).Sound :=
  h.move (move_step s e)

theorem run_concat (s : Callers) (events : List CallerEvent) (e : CallerEvent) :
    s.run (events ++ [e]) = (s.run events).step e := by
  simp [run]

theorem Sound.run {s : Callers} (h : s.Sound) (events : List CallerEvent) :
    (s.run events).Sound := by
  induction events using List.reverseRecOn with
  | nil => exact h
  | append_singleton events e ih =>
    rw [run_concat]
    exact ih.step e

/-! ## Looking before sending -/

section

variable {s after : Callers} {e : CallerEvent} {i : Nat}

/-- Nobody but the caller that an event is about gets any further. -/
theorem Move.phase_eq (hmove : s.Move e after) (hgo : e ≠ .go i) (hgiveUp : e ≠ .giveUp i) :
    after.phase i = s.phase i := by
  cases hmove with
  | stuck _ | late | clock => rfl
  | _ =>
    simp only [ne_eq, CallerEvent.go.injEq, CallerEvent.giveUp.injEq] at hgo hgiveUp
    simp [Ne.symm hgo, Ne.symm hgiveUp]

/-- A caller that is given up is gone unless that comes too late. -/
theorem Move.giveUp (hmove : s.Move (.giveUp i) after) : after.phase i = .gone ∨ after = s := by
  cases hmove with
  | givenUp _ => exact .inl (by simp)
  | late => exact .inr rfl

/-- A caller is cleared by its own look at the cache, and by nothing else. -/
theorem Move.cleared_of_go (hmove : s.Move (.go i) after) {time : Instant}
    (h : after.phase i = .cleared time) :
    s.phase i = .looking ∧ s.now = time ∧ s.cache.fresh? time = none := by
  cases hmove with
  | cleared hphase hstale =>
    simp only [phase_setPhase, if_true, Phase.cleared.injEq] at h
    exact ⟨hphase, h, h ▸ hstale⟩
  | stuck hunlocked =>
    rw [h] at hunlocked
    exact absurd trivial hunlocked
  | _ => simp at h

/-- A caller has a request under way because it has just sent it. -/
theorem Move.fetching_of_go (hmove : s.Move (.go i) after) {number : Nat}
    {outcome : Except Http.Failure Http.Response} (h : after.phase i = .fetching number outcome) :
    ∃ time, s.phase i = .cleared time ∧ number = s.network.log.length := by
  cases hmove with
  | sent hphase =>
    simp only [phase_setPhase, if_true, Phase.fetching.injEq] at h
    exact ⟨_, hphase, h.1.symm⟩
  | stuck hunlocked =>
    rw [h] at hunlocked
    exact absurd trivial hunlocked
  | _ => simp at h

/-- Only a caller that is cleared sends a request. -/
theorem Move.network (hmove : s.Move e after) :
    after.network = s.network ∨ ∃ i time, e = .go i ∧ s.phase i = .cleared time ∧
      after.network = (s.network.send s.cache.request).2 := by
  cases hmove with
  | sent hphase => exact .inr ⟨_, _, rfl, hphase, rfl⟩
  | _ => exact .inl rfl

end

/-- A caller is cleared since it looked at the cache: the instant is the one it read then, and the
cache held no set that was fresh at it. -/
theorem exists_look {s₀ : Callers} (hs₀ : ∀ i time, s₀.phase i ≠ .cleared time)
    {events : List CallerEvent} {i : Nat} {time : Instant}
    (h : (s₀.run events).phase i = .cleared time) :
    ∃ before after, events = before ++ .go i :: after ∧ .go i ∉ after ∧
      (s₀.run before).phase i = .looking ∧ (s₀.run before).now = time ∧
      (s₀.run before).cache.fresh? time = none := by
  induction events using List.reverseRecOn with
  | nil => exact absurd h (hs₀ i time)
  | append_singleton events e ih =>
    rw [run_concat] at h
    have hmove := move_step (s₀.run events) e
    by_cases hgo : e = .go i
    · subst hgo
      exact ⟨events, [], rfl, by simp, hmove.cleared_of_go h⟩
    · have hbefore : (s₀.run events).phase i = .cleared time := by
        by_cases hgiveUp : e = .giveUp i
        · subst hgiveUp
          rcases hmove.giveUp with hgone | hsame
          · rw [hgone] at h
            cases h
          · rwa [hsame] at h
        · rwa [hmove.phase_eq hgo hgiveUp] at h
      obtain ⟨before, after, rfl, hnot, hlook⟩ := ih hbefore
      refine ⟨before, after ++ [e], by simp, ?_, hlook⟩
      simp [hnot, Ne.symm hgo]

/-- A request is sent by the caller with the lock, after that caller looked at the cache. -/
theorem Sound.look_of_sent {s₀ : Callers} (h₀ : s₀.Sound)
    (hs₀ : ∀ i time, s₀.phase i ≠ .cleared time) {events : List CallerEvent} {e : CallerEvent}
    (he : ((s₀.run events).step e).network.log ≠ (s₀.run events).network.log) :
    ∃ i time outcome, e = .go i ∧ (s₀.run events).holder = some i ∧
      ((s₀.run events).step e).network.log =
        (s₀.run events).network.log ++ [⟨(s₀.run events).cache.request, outcome⟩] ∧
      (s₀.run events).cache.fresh? time = none ∧
      ∃ before after, events = before ++ .go i :: after ∧ .go i ∉ after ∧
        (s₀.run before).holder = some i ∧ (s₀.run before).phase i = .looking ∧
        (s₀.run before).now = time ∧ (s₀.run before).cache.fresh? time = none := by
  have h := h₀.run events
  rcases (move_step (s₀.run events) e).network with hsame | ⟨i, time, rfl, hphase, hsent⟩
  · exact absurd (congrArg Http.Network.log hsame) he
  · obtain ⟨before, after, hsplit, hnot, hlooking, hnow, hstale⟩ := exists_look hs₀ hphase
    have hholder := (h.holder_iff i).mpr (by simp [hphase, Phase.Locked])
    have hlooker := ((h₀.run before).holder_iff i).mpr (by simp [hlooking, Phase.Locked])
    refine ⟨i, time, ((s₀.run events).network.send (s₀.run events).cache.request).1, rfl, hholder,
      ?_, h.cleared i time hphase, before, after, hsplit, hnot, hlooker, hlooking, hnow, hstale⟩
    rw [hsent, Http.Network.log_send]

/-! ## The order of the sets stored -/

/-- The set that an event stores, with the number of its request. -/
def stored? (s : Callers) : CallerEvent → Option (Nat × KeySet)
  | .go i =>
    match s.phase i with
    | .fetching number outcome => (s.cache.keysOf s.now outcome).toOption.map (number, ·)
    | _ => none
  | _ => none

/-- An event, with the set that it stores as an answer. -/
def storing (s : Callers) (e : CallerEvent) : Option (Nat × KeySet) × Callers :=
  (s.stored? e, s.step e)

theorem stored?_eq_some_iff {s : Callers} {e : CallerEvent} {number : Nat} {keys : KeySet} :
    s.stored? e = some (number, keys) ↔ ∃ i outcome, e = .go i ∧
      s.phase i = .fetching number outcome ∧ s.cache.keysOf s.now outcome = .ok keys := by
  constructor
  · intro h
    cases e with
    | go i =>
      simp only [stored?] at h
      cases hphase : s.phase i with
      | fetching n outcome =>
        simp only [hphase, Option.map_eq_some_iff, Prod.mk.injEq] at h
        obtain ⟨k, hk, rfl, rfl⟩ := h
        cases hkeys : s.cache.keysOf s.now outcome with
        | error e => simp [hkeys, Except.toOption] at hk
        | ok keys =>
          simp only [hkeys, Except.toOption, Option.some.injEq] at hk
          exact ⟨i, outcome, rfl, hphase, hk ▸ hkeys⟩
      | _ => simp [hphase] at h
    | giveUp i => cases h
    | setClock now => cases h
  · rintro ⟨i, outcome, rfl, hphase, hkeys⟩
    simp [stored?, hphase, hkeys, Except.toOption]

/-- The cache changes with the sets that are stored and in no other way. -/
theorem cache_step (s : Callers) (e : CallerEvent) :
    (s.step e).cache = (s.stored? e).elim s.cache fun stored => s.cache.store stored.2 := by
  have hmove := move_step s e
  generalize s.step e = after at hmove
  cases hmove with
  | stored hphase hfetched | failed hphase hfetched =>
    simp [stored?, hphase, hfetched, Except.toOption]
  | @stuck i hunlocked =>
    cases hphase : s.phase i with
    | fetching number outcome => simp [hphase, Phase.Locked] at hunlocked
    | _ => simp [stored?, hphase]
  | found hphase _ | queued hphase _ | locked hphase _ | foundAgain hphase _ | cleared hphase _
  | sent hphase | left hphase => simp [stored?, hphase]
  | givenUp _ | late | clock => rfl

theorem run_storing (s : Callers) (events : List CallerEvent) :
    (IdentityTokens.run storing s events).2 = s.run events := by
  induction events generalizing s with
  | nil => rfl
  | cons e events ih => exact ih (s.step e)

/-- What the sets stored so far, with the numbers of their requests, say of a state: the last of
them is in the cache, each was read from the outcome of its request, and a request that is under way
is newer than all of them. -/
structure Stored (cache : CertificateCache) (past : List (Nat × KeySet)) (s : Callers) : Prop where
  sound : s.Sound
  url_eq : s.cache.url = cache.url
  lifetime_eq : s.cache.defaultLifetime = cache.defaultLifetime
  stored_eq : s.cache.stored = (past.getLast?.map (·.2)).or cache.stored
  sent : ∀ p ∈ past, ∃ outcome time, s.network.log[p.1]? = some ⟨cache.request, outcome⟩ ∧
    cache.keysOf time outcome = .ok p.2
  newer : ∀ i number outcome, s.phase i = .fetching number outcome → ∀ p ∈ past, p.1 < number

theorem Stored.lt_length {cache : CertificateCache} {past : List (Nat × KeySet)} {s : Callers}
    (h : Stored cache past s) {p : Nat × KeySet} (hp : p ∈ past) : p.1 < s.network.log.length := by
  obtain ⟨outcome, time, hlog, -⟩ := h.sent p hp
  exact (List.getElem?_eq_some_iff.mp hlog).1

theorem stored_start (cache : CertificateCache) (now : Instant) (network : Http.Network) :
    Stored cache [] (start cache now network) where
  sound := sound_start cache now network
  url_eq := rfl
  lifetime_eq := rfl
  stored_eq := rfl
  sent := by simp
  newer := by simp

/-- Entries of the log stay where they are. -/
theorem log_step (s : Callers) (e : CallerEvent) {n : Nat} {exchange : Http.Exchange}
    (h : s.network.log[n]? = some exchange) : (s.step e).network.log[n]? = some exchange := by
  rcases (move_step s e).network with hsame | ⟨i, time, -, -, hsent⟩
  · rw [hsame]
    exact h
  · have hlt := (List.getElem?_eq_some_iff.mp h).1
    rw [hsent, Http.Network.log_send, List.getElem?_append_left hlt]
    exact h

/-- A request that is under way was so before, or has just been sent. -/
theorem fetching_step {s : Callers} {e : CallerEvent} {i number : Nat}
    {outcome : Except Http.Failure Http.Response}
    (h : (s.step e).phase i = .fetching number outcome) :
    (s.phase i = .fetching number outcome ∧ e ≠ .go i) ∨
      ((∃ time, s.phase i = .cleared time) ∧ number = s.network.log.length) := by
  have hmove := move_step s e
  by_cases hgo : e = .go i
  · subst hgo
    obtain ⟨time, hphase, hnumber⟩ := hmove.fetching_of_go h
    exact .inr ⟨⟨time, hphase⟩, hnumber⟩
  · by_cases hgiveUp : e = .giveUp i
    · subst hgiveUp
      rcases hmove.giveUp with hgone | hsame
      · rw [hgone] at h
        cases h
      · rw [hsame] at h
        exact .inl ⟨h, hgo⟩
    · rw [hmove.phase_eq hgo hgiveUp] at h
      exact .inl ⟨h, hgo⟩

/-- Every event keeps what the sets stored say. A set is stored by the caller with the lock, so
afterwards no request is under way; and a request that is sent is newer than all before it. -/
theorem Stored.step {cache : CertificateCache} {past : List (Nat × KeySet)} {s : Callers}
    (h : Stored cache past s) (e : CallerEvent) :
    Stored cache (past ++ (s.stored? e).toList) (s.step e) := by
  have hsent : ∀ p ∈ past, ∃ outcome time,
      (s.step e).network.log[p.1]? = some ⟨cache.request, outcome⟩ ∧
        cache.keysOf time outcome = .ok p.2 := by
    intro p hp
    obtain ⟨outcome, time, hlog, hkeys⟩ := h.sent p hp
    exact ⟨outcome, time, s.log_step e hlog, hkeys⟩
  have hcache := s.cache_step e
  cases hstored : s.stored? e with
  | none =>
    simp only [hstored, Option.elim_none] at hcache
    rw [Option.toList_none, List.append_nil]
    refine ⟨h.sound.step e, ?_, ?_, ?_, hsent, ?_⟩
    · rw [hcache, h.url_eq]
    · rw [hcache, h.lifetime_eq]
    · rw [hcache, h.stored_eq]
    · intro i number outcome hi p hp
      rcases fetching_step hi with ⟨hbefore, -⟩ | ⟨-, rfl⟩
      · exact h.newer i number outcome hbefore p hp
      · exact h.lt_length hp
  | some p =>
    obtain ⟨number, keys⟩ := p
    obtain ⟨i, outcome, rfl, hphase, hkeys⟩ := stored?_eq_some_iff.mp hstored
    have hlocked : (s.phase i).Locked := by simp [hphase, Phase.Locked]
    simp only [hstored, Option.elim_some] at hcache
    rw [Option.toList_some]
    refine ⟨h.sound.step _, ?_, ?_, ?_, ?_, ?_⟩
    · rw [hcache]
      exact h.url_eq
    · rw [hcache]
      exact h.lifetime_eq
    · rw [hcache]
      simp [CertificateCache.store]
    · intro p hp
      rcases List.mem_append.mp hp with hp | hp
      · exact hsent p hp
      · rw [List.mem_singleton.mp hp]
        have hlog := (h.sound.fetching i number outcome hphase).2
        have hrequest : s.cache.request = cache.request := congrArg Http.Request.get h.url_eq
        rw [hrequest] at hlog
        rw [CertificateCache.keysOf_congr h.lifetime_eq] at hkeys
        exact ⟨outcome, s.now, s.log_step _ hlog, hkeys⟩
    · intro j number' outcome' hj
      rcases fetching_step hj with ⟨hbefore, hne⟩ | ⟨⟨time, hcleared⟩, -⟩
      · have hj : (s.phase j).Locked := by simp [hbefore, Phase.Locked]
        exact absurd (congrArg CallerEvent.go (h.sound.eq_of_locked hlocked hj)) hne
      · have hj : (s.phase j).Locked := by simp [hcleared, Phase.Locked]
        rw [h.sound.eq_of_locked hj hlocked, hphase] at hcleared
        cases hcleared

/-- A set that is stored comes from a newer request than all stored before. -/
theorem Stored.lt_of_stored? {cache : CertificateCache} {past : List (Nat × KeySet)} {s : Callers}
    (h : Stored cache past s) {e : CallerEvent} {p : Nat × KeySet} (hp : s.stored? e = some p) :
    ∀ q ∈ past, q.1 < p.1 := by
  obtain ⟨i, outcome, -, hphase, -⟩ := stored?_eq_some_iff.mp hp
  exact h.newer i p.1 outcome hphase

/-- A list in which every member stands in a relation to all after it. -/
theorem pairwise_of_split {α : Type} {r : α → α → Prop} {l : List α}
    (h : ∀ before a after, l = before ++ a :: after → ∀ b ∈ before, r b a) : l.Pairwise r := by
  induction l using List.reverseRecOn with
  | nil => exact .nil
  | append_singleton l a ih =>
    refine List.pairwise_append.mpr ⟨ih ?_, List.pairwise_singleton _ _, ?_⟩
    · intro before b after hsplit
      exact h before b (after ++ [a]) (by simp [hsplit])
    · intro b hb c hc
      rw [List.mem_singleton.mp hc]
      exact h l a [] rfl b hb

/-- The sets that a run stores, and the state after it. -/
theorem stored_run (cache : CertificateCache) (now : Instant) (network : Http.Network)
    (events : List CallerEvent) :
    let stores := (IdentityTokens.run storing (start cache now network) events).1
    Stored cache stores ((start cache now network).run events) ∧
      stores.Pairwise fun p q => p.1 < q.1 := by
  intro stores
  have hkeep : ∀ past s e, Stored cache past s →
      Stored cache (past ++ (storing s e).1.toList) (storing s e).2 := fun _ _ e h => h.step e
  have hnewer : ∀ past s e p, Stored cache past s → (storing s e).1 = some p →
      ∀ q ∈ past, q.1 < p.1 := fun _ _ _ _ h hp => h.lt_of_stored? hp
  have hhistory := run_history hkeep hnewer (stored_start cache now network) events
  refine ⟨?_, pairwise_of_split fun before p after hsplit => ?_⟩
  · rw [run_storing] at hhistory
    exact hhistory.1
  · simpa using hhistory.2 before p after hsplit

/-! ## One fetch for all -/

/-- Since a state in which a set had just been stored, nothing has been sent, the set is still in
the cache and fresh, and nobody is about to fetch another. Whoever has a result has the set, apart
from those who were served before. -/
structure Settled (done : Callers) (keys : KeySet) (s : Callers) : Prop where
  stored : s.cache.stored = some keys
  fresh : keys.Fresh s.now
  log_eq : s.network.log = done.network.log
  shares : ∀ i, (s.phase i).Shares keys ∨
    ∃ result count, done.phase i = .served result count ∧ s.phase i = .served result count

section

variable {done s after : Callers} {keys : KeySet} {e : CallerEvent}

theorem Settled.fresh?_eq (h : Settled done keys s) : s.cache.fresh? s.now = some keys :=
  CertificateCache.fresh?_eq_some_iff.mpr ⟨h.stored, h.fresh⟩

/-- A caller that is not served yet shares the set. -/
theorem Settled.shares_of_phase (h : Settled done keys s) {i : Nat} {p : Phase}
    (hphase : s.phase i = p) (hp : ∀ result count, p ≠ .served result count) : p.Shares keys := by
  rcases h.shares i with hshares | ⟨result, count, -, hserved⟩
  · exact hphase ▸ hshares
  · exact absurd (hphase.symm.trans hserved) (hp result count)

theorem Settled.setPhase (h : Settled done keys s) (i : Nat) {p : Phase} (hp : p.Shares keys)
    (holder : Option Nat) : Settled done keys { s.setPhase i p with holder } := by
  refine ⟨h.stored, h.fresh, h.log_eq, ?_⟩
  intro j
  rw [phase_setPhase]
  by_cases hj : j = i
  · rw [if_pos hj]
    exact .inl hp
  · rw [if_neg hj]
    exact h.shares j

/-- Every event but one that sets the clock keeps things settled. -/
theorem Settled.move (h : Settled done keys s) (hmove : s.Move e after)
    (hclock : ∀ now, e ≠ .setClock now) : Settled done keys after := by
  cases hmove with
  | @found i found _ hfresh =>
    rw [h.fresh?_eq] at hfresh
    cases hfresh
    exact h.setPhase i (p := .served (.ok keys) s.cache.count) rfl s.holder
  | queued _ hstale | cleared _ hstale =>
    rw [h.fresh?_eq] at hstale
    cases hstale
  | @locked i _ _ => exact h.setPhase i (p := .looking) trivial (some i)
  | @foundAgain i found _ hfresh =>
    rw [h.fresh?_eq] at hfresh
    cases hfresh
    exact h.setPhase i (p := .leaving (.ok keys) s.cache.count) rfl s.holder
  | sent hphase | stored hphase _ | failed hphase _ =>
    exact absurd (h.shares_of_phase hphase (by simp)) id
  | @left i count result hphase =>
    have hresult : result = .ok keys := h.shares_of_phase hphase (by simp)
    exact h.setPhase i (p := .served result count) hresult none
  | stuck _ => exact h
  | @givenUp i _ => exact h.setPhase i (p := .gone) trivial _
  | late => exact h
  | clock => exact absurd rfl (hclock _)

theorem Settled.run (h : Settled done keys s) {events : List CallerEvent}
    (hclock : ∀ now, .setClock now ∉ events) : Settled done keys (s.run events) := by
  induction events using List.reverseRecOn with
  | nil => exact h
  | append_singleton events e ih =>
    rw [run_concat]
    have hevents : ∀ now, .setClock now ∉ events :=
      fun now hmem => hclock now (List.mem_append_left _ hmem)
    refine (ih hevents).move (move_step _ e) ?_
    rintro now rfl
    exact hclock now (by simp)

/-- A fetch of a set that is fresh settles things. -/
theorem Sound.settled (h : s.Sound) {i number : Nat} {outcome : Except Http.Failure Http.Response}
    (hphase : s.phase i = .fetching number outcome)
    (hfetched : s.cache.keysOf s.now outcome = .ok keys) (hfresh : keys.Fresh s.now) :
    Settled (s.step (.go i)) keys (s.step (.go i)) := by
  have hlocked : (s.phase i).Locked := by simp [hphase, Phase.Locked]
  have hstep : s.step (.go i) =
      { s.setPhase i (.leaving (.ok keys) (s.cache.store keys).count) with
        cache := s.cache.store keys } := by
    simp only [Callers.step, advance, hphase, CertificateCache.settle_of_ok hfetched]
  rw [hstep]
  refine ⟨rfl, hfresh, rfl, ?_⟩
  intro j
  simp only [phase_setPhase]
  by_cases hj : j = i
  · rw [if_pos hj]
    exact .inl rfl
  · rw [if_neg hj]
    cases hother : s.phase j with
    | served result count => exact .inr ⟨result, count, rfl, rfl⟩
    | arriving => exact .inl trivial
    | waiting => exact .inl trivial
    | gone => exact .inl trivial
    | _ => exact absurd (h.eq_of_locked (by simp [hother, Phase.Locked]) hlocked) hj

/-- After a fetch of a set that is fresh nothing more is sent while the clock stands still, and
whoever is served from then on gets this set. -/
theorem Sound.run_of_fetched (h : s.Sound) {i number : Nat}
    {outcome : Except Http.Failure Http.Response} (hphase : s.phase i = .fetching number outcome)
    (hfetched : s.cache.keysOf s.now outcome = .ok keys) (hfresh : keys.Fresh s.now)
    {later : List CallerEvent} (hclock : ∀ now, .setClock now ∉ later) :
    ((s.step (.go i)).run later).network.log = s.network.log ∧
      ∀ j result count, (∀ result count, (s.step (.go i)).phase j ≠ .served result count) →
        ((s.step (.go i)).run later).phase j = .served result count → result = .ok keys := by
  have hlater := (h.settled hphase hfetched hfresh).run hclock
  refine ⟨?_, ?_⟩
  · rw [hlater.log_eq]
    rcases (move_step s (.go i)).network with hsame | ⟨j, time, hj, hcleared, -⟩
    · rw [hsame]
    · cases hj
      rw [hphase] at hcleared
      cases hcleared
  · intro j result count hunserved hserved
    rcases hlater.shares j with hshares | ⟨result', count', hdone, -⟩
    · rw [hserved] at hshares
      exact hshares
    · exact absurd hdone (hunserved result' count')

end

/-! ## The whole -/

/-- **Callers share what one of them fetches**, in whatever order they go on, are given up and see
the clock set, and whatever the server answers.

* At most one request is under way.
* A request is sent by the caller that holds the lock, and only after that caller, holding the lock,
  looked at the cache and found no set that was fresh at the instant it read; nor has one been
  stored since.
* The sets are stored in the order in which their requests were sent, each as the outcome of its own
  request, and the cache holds the last of them.
* After a fetch of a set with a lifetime nothing more is sent while the clock stands still, and
  every caller that is served from then on gets this very set. -/
theorem share_one_fetch (cache : CertificateCache) (now : Instant) (network : Http.Network)
    (events : List CallerEvent) :
    let s := (start cache now network).run events
    let stores := (IdentityTokens.run storing (start cache now network) events).1
    (∀ i j number number' outcome outcome', s.phase i = .fetching number outcome →
      s.phase j = .fetching number' outcome' → i = j) ∧
    (∀ e, (s.step e).network.log ≠ s.network.log → ∃ i time outcome, e = .go i ∧
      s.holder = some i ∧ (s.step e).network.log = s.network.log ++ [⟨.get cache.url, outcome⟩] ∧
      s.cache.fresh? time = none ∧ ∃ before after, events = before ++ .go i :: after ∧
        .go i ∉ after ∧
        let looking := (start cache now network).run before
        looking.holder = some i ∧ looking.phase i = .looking ∧ looking.now = time ∧
          looking.cache.fresh? time = none) ∧
    (stores.Pairwise (fun p q => p.1 < q.1) ∧
      (∀ p ∈ stores, ∃ outcome time, s.network.log[p.1]? = some ⟨.get cache.url, outcome⟩ ∧
        cache.keysOf time outcome = .ok p.2) ∧
      s.cache.stored = (stores.getLast?.map (·.2)).or cache.stored) ∧
    (∀ i number r keys later, s.phase i = .fetching number (.ok r) →
      s.cache.keysOf s.now (.ok r) = .ok keys → 0 < (lifetimeOf cache.defaultLifetime r).nanos →
      (∀ time, .setClock time ∉ later) →
        let done := s.step (.go i)
        (done.run later).network.log = s.network.log ∧
          ∀ j result count, (∀ result count, done.phase j ≠ .served result count) →
            (done.run later).phase j = .served result count → result = .ok keys) := by
  intro s stores
  have hsound : s.Sound := (sound_start cache now network).run events
  obtain ⟨hstored, hpairwise⟩ : Stored cache stores s ∧ stores.Pairwise fun p q => p.1 < q.1 :=
    stored_run cache now network events
  refine ⟨?_, ?_, ⟨hpairwise, hstored.sent, hstored.stored_eq⟩, ?_⟩
  · intro i j number number' outcome outcome' hi hj
    exact hsound.eq_of_locked (by simp [hi, Phase.Locked]) (by simp [hj, Phase.Locked])
  · intro e he
    have hrequest : s.cache.request = .get cache.url := congrArg Http.Request.get hstored.url_eq
    rw [← hrequest]
    exact (sound_start cache now network).look_of_sent (by simp [start]) he
  · intro i number r keys later hphase hkeys hpos hclock
    rw [← hstored.lifetime_eq] at hpos
    exact hsound.run_of_fetched hphase hkeys (CertificateCache.fresh_of_keysIn hkeys hpos) hclock

theorem result?_eq_some_iff {s : Callers} {i count : Nat} {result : Except Error KeySet} :
    s.result? i = some (result, count) ↔ s.phase i = .served result count := by
  rw [result?]
  cases s.phase i <;> simp

deriving instance DecidableEq for Phase

namespace Sample

/-- Dawn of a day, and the deadline of a set that is fetched then. -/
def dawn : Instant := ⟨21600000000000, by decide, by decide⟩
def deadline : Instant := ⟨21660000000000, by decide, by decide⟩

/-- A response that grants a set without keys. -/
def response : Http.Response := ⟨200, [], Utf8.encode "\x7b\x7d"⟩

/-- The set that the response grants. -/
def keys : KeySet := ⟨[], some deadline⟩

/-- A cache that has fetched nothing yet. -/
def cache : CertificateCache := .ofUrl "http://[::1]/" CertificateCache.usualLifetime

/-- What lies outside. -/
def outside : Http.Network := .ofAnswers (fun _ => true) [.response response]

/-- Three callers come together, and the first of them sends the request. -/
def first : List CallerEvent := [.go 0, .go 1, .go 2, .go 0, .go 0, .go 0]

/-- The first leaves, and then the others go on. -/
def others : List CallerEvent :=
  .go 0 :: (List.replicate stepsToServe (.go 1) ++ List.replicate stepsToServe (.go 2))

/-- The callers when the request is under way. -/
def waiting : Callers := (start cache dawn outside).run first

/-- The callers when the set has been stored. -/
def done : Callers := waiting.step (.go 0)

end Sample

/-- Of three callers that come together one sends a request, and all three get what it fetches. -/
theorem share_one_fetch_three :
    Sample.first ++ .go 0 :: Sample.others = inOrder 3 ∧
      Sample.waiting.phase 0 = .fetching 0 (.ok Sample.response) ∧
      Sample.waiting.cache.keysOf Sample.waiting.now (.ok Sample.response) = .ok Sample.keys ∧
      0 < (lifetimeOf Sample.cache.defaultLifetime Sample.response).nanos ∧
      (∀ time, .setClock time ∉ Sample.others) ∧
      (Sample.done.run Sample.others).network.log = Sample.waiting.network.log ∧
      ∀ i < 3, ∃ count, (Sample.done.run Sample.others).phase i =
        .served (.ok Sample.keys) count := by
  have hphase : Sample.waiting.phase 0 = .fetching 0 (.ok Sample.response) := by decide +kernel
  have hkeys : Sample.waiting.cache.keysOf Sample.waiting.now (.ok Sample.response) =
      .ok Sample.keys := by decide +kernel
  have hpos : 0 < (lifetimeOf Sample.cache.defaultLifetime Sample.response).nanos := by decide
  have hclock : ∀ time, CallerEvent.setClock time ∉ Sample.others := by
    simp [Sample.others]
  obtain ⟨-, -, -, hshared⟩ :=
    share_one_fetch Sample.cache Sample.dawn Sample.outside Sample.first
  obtain ⟨hlog, hserved⟩ := hshared 0 0 Sample.response Sample.keys Sample.others hphase hkeys hpos
    hclock
  refine ⟨rfl, hphase, hkeys, hpos, hclock, hlog, fun i hi => ?_⟩
  have hbefore : ∀ i < 3, Sample.done.result? i = none := by decide +kernel
  have hafter : ∀ i < 3, ((Sample.done.run Sample.others).result? i).isSome = true := by
    decide +kernel
  obtain ⟨⟨result, count⟩, hresult⟩ := Option.isSome_iff_exists.mp (hafter i hi)
  have hphase := result?_eq_some_iff.mp hresult
  refine ⟨count, ?_⟩
  rw [hphase, hserved i result count ?_ hphase]
  intro result count h
  cases (hbefore i hi).symm.trans (result?_eq_some_iff.mpr h)

end Callers

end IdentityTokens
