import IdentityTokens.Keys.CertificateCache

/-!
# Callers that share a cache

Any number of callers want the keys of one cache at the same time. A caller first looks without a
lock. If it finds no fresh set it waits for the lock, looks again, and only then sends a request;
so what one caller fetches serves the others. The clock may be set between any two of these steps. A
caller may be given up at any time, which frees the lock if the caller holds it.

## Main definitions

* `Callers`: the shared cache with the progress of every caller.
* `Callers.step`: what one event changes.
* `Callers.run`: what a list of events changes.
* `Callers.inOrder`: the events in which callers come together and are served in their order.
-/

namespace IdentityTokens

/-- How far a caller is. From `looking` to `leaving` it holds the lock. A caller is cleared to send
a request once it has found no set that is fresh at an instant. A request has the number of the
exchanges before it. The number with a result is the count of sets stored when the caller got it. -/
inductive Phase where
  | arriving
  | waiting
  | looking
  | cleared (time : Instant)
  | fetching (number : Nat) (outcome : Except Http.Failure Http.Response)
  | leaving (result : Except Error KeySet) (count : Nat)
  | served (result : Except Error KeySet) (count : Nat)
  | gone

/-- A cache, the clock, what lies outside, which caller holds the lock, and how far each is. -/
structure Callers where
  cache : CertificateCache
  now : Instant
  network : Http.Network
  holder : Option Nat
  phase : Nat → Phase

/-- What can happen: a caller goes on, a caller is given up, the clock is set. -/
inductive CallerEvent where
  | go (caller : Nat)
  | giveUp (caller : Nat)
  | setClock (now : Instant)

namespace Callers

/-- All callers are still to come. -/
def start (cache : CertificateCache) (now : Instant) (network : Http.Network) : Callers :=
  ⟨cache, now, network, none, fun _ => .arriving⟩

/-- The progress of one caller changed. -/
def setPhase (s : Callers) (i : Nat) (p : Phase) : Callers :=
  { s with phase := fun j => if j = i then p else s.phase j }

@[simp] theorem phase_setPhase (s : Callers) (i j : Nat) (p : Phase) :
    (s.setPhase i p).phase j = if j = i then p else s.phase j := rfl

@[simp] theorem cache_setPhase (s : Callers) (i : Nat) (p : Phase) :
    (s.setPhase i p).cache = s.cache := rfl

@[simp] theorem now_setPhase (s : Callers) (i : Nat) (p : Phase) :
    (s.setPhase i p).now = s.now := rfl

@[simp] theorem network_setPhase (s : Callers) (i : Nat) (p : Phase) :
    (s.setPhase i p).network = s.network := rfl

@[simp] theorem holder_setPhase (s : Callers) (i : Nat) (p : Phase) :
    (s.setPhase i p).holder = s.holder := rfl

/-- Look for a fresh set; if there is none, go on by other means. -/
def look (s : Callers) (found : KeySet → Nat → Callers) (missing : Callers) : Callers :=
  match s.cache.fresh? s.now with
  | some keys => found keys s.cache.count
  | none => missing

/-- One caller goes on as far as it can without the others. -/
def advance (s : Callers) (i : Nat) : Callers :=
  match s.phase i with
  | .arriving =>
    s.look (fun keys count => s.setPhase i (.served (.ok keys) count)) (s.setPhase i .waiting)
  | .waiting =>
    match s.holder with
    | none => { s.setPhase i .looking with holder := some i }
    | some _ => s
  | .looking =>
    s.look (fun keys count => s.setPhase i (.leaving (.ok keys) count))
      (s.setPhase i (.cleared s.now))
  | .cleared _ =>
    let (outcome, network) := s.network.send s.cache.request
    { s.setPhase i (.fetching s.network.log.length outcome) with network }
  | .fetching _ outcome =>
    let (result, cache) := s.cache.settle s.now outcome
    { s.setPhase i (.leaving result cache.count) with cache }
  | .leaving result count => { s.setPhase i (.served result count) with holder := none }
  | .served _ _ | .gone => s

/-- A caller is given up, unless it has been served. -/
def giveUp (s : Callers) (i : Nat) : Callers :=
  match s.phase i with
  | .served _ _ | .gone => s
  | _ => { s.setPhase i .gone with holder := if s.holder = some i then none else s.holder }

/-- What one event changes. -/
def step (s : Callers) : CallerEvent → Callers
  | .go i => s.advance i
  | .giveUp i => s.giveUp i
  | .setClock now => { s with now }

/-- What events change, one after the other. -/
def run (s : Callers) (events : List CallerEvent) : Callers := events.foldl step s

/-- The most steps that a caller takes after its first one. -/
def stepsToServe : Nat := 5

/-- The events of a number of callers that all come before one of them goes on, and are then
served in their order. -/
def inOrder (n : Nat) : List CallerEvent :=
  (List.range n).map .go ++
    (List.range n).flatMap fun i => List.replicate stepsToServe (.go i)

/-- What a caller got, with the count of sets stored then. -/
def result? (s : Callers) (i : Nat) : Option (Except Error KeySet × Nat) :=
  match s.phase i with
  | .served result count => some (result, count)
  | _ => none

end Callers

end IdentityTokens
