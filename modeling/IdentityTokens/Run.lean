/-!
# Runs

What a state answers to events, one after the other. A step from a state gives at most one answer
and the next state; a run collects the answers.

## Main definitions

* `run`: the answers to events and the last state.
* `Trace`: the same for a relation in place of a step function.

## Main statements

* `run_history`: what every step keeps of the answers so far holds of every run.
* `trace_run`: a run is a trace of any relation that its steps obey.
-/

namespace IdentityTokens

variable {σ τ ε ω : Type}

/-- The answers to events, each from the state that the one before left, and the last state. -/
def run (step : σ → ε → Option ω × σ) (s : σ) : List ε → List ω × σ
  | [] => ([], s)
  | e :: rest =>
    let (answer, s) := step s e
    let (answers, s) := run step s rest
    (answer.toList ++ answers, s)

/-- Events that lead from one state to another by steps of a relation, with the answers. -/
inductive Trace (next : τ → ε → Option ω → τ → Prop) : τ → List ε → List ω → τ → Prop where
  | nil (s : τ) : Trace next s [] [] s
  | cons {s middle last : τ} {e : ε} {answer : Option ω} {events : List ε} {answers : List ω}
      (first : next s e answer middle) (rest : Trace next middle events answers last) :
      Trace next s (e :: events) (answer.toList ++ answers) last

/-- If each step keeps an invariant of the answers so far and the state, and each answer is good
in view of the answers before it, then the same holds of a run. -/
theorem run_history {step : σ → ε → Option ω × σ} {inv : List ω → σ → Prop}
    {good : List ω → ω → Prop}
    (hinv : ∀ past s e, inv past s → inv (past ++ (step s e).1.toList) (step s e).2)
    (hgood : ∀ past s e answer, inv past s → (step s e).1 = some answer → good past answer)
    {past : List ω} {s : σ} (hs : inv past s) (events : List ε) :
    inv (past ++ (run step s events).1) (run step s events).2 ∧
      ∀ before answer after, (run step s events).1 = before ++ answer :: after →
        good (past ++ before) answer := by
  induction events generalizing past s with
  | nil =>
    refine ⟨by simpa [run] using hs, ?_⟩
    intro before answer after h
    simp [run] at h
  | cons e rest ih =>
    obtain ⟨hlast, hlater⟩ := ih (hinv past s e hs)
    simp only [run]
    refine ⟨by simpa [List.append_assoc] using hlast, ?_⟩
    intro before answer after h
    cases hfirst : (step s e).1 with
    | none =>
      rw [hfirst] at h hlater
      simpa using hlater before answer after h
    | some a =>
      rw [hfirst] at h hlater
      cases before with
      | nil =>
        obtain ⟨rfl, -⟩ := List.cons.inj h
        simpa using hgood past s e a hs hfirst
      | cons b before =>
        obtain ⟨rfl, hrest⟩ := List.cons.inj h
        simpa [List.append_assoc] using hlater before answer after hrest

/-- A run whose steps obey a relation, seen through a function of the state, is a trace of it. -/
theorem trace_run {step : σ → ε → Option ω × σ} {next : τ → ε → Option ω → τ → Prop}
    {inv : σ → Prop} (view : σ → τ)
    (hinv : ∀ s e, inv s → inv (step s e).2)
    (hnext : ∀ s e, inv s → next (view s) e (step s e).1 (view (step s e).2))
    {s : σ} (hs : inv s) (events : List ε) :
    Trace next (view s) events (run step s events).1 (view (run step s events).2) := by
  induction events generalizing s with
  | nil => exact .nil (view s)
  | cons e rest ih => exact .cons (hnext s e hs) (ih (hinv s e hs))

end IdentityTokens
