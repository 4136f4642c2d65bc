import Mathlib.Data.List.Basic

/-!
# Runs of labelled transition systems

A system moves by labelled steps that need not be determined by the state. A run
is a finite sequence of steps with the labels it made, the latest last. What one
step keeps, of the labels so far and the state, every run keeps.
-/

namespace Transition

universe u v
variable {σ : Type u} {ω : Type v} {step : σ → ω → σ → Prop}

/-- The labels of some steps from `start` to a state, in order. -/
inductive Run (step : σ → ω → σ → Prop) (start : σ) : List ω → σ → Prop
  | nil : Run step start [] start
  | snoc {history : List ω} {state next : σ} {label : ω} (run : Run step start history state)
      (last : step state label next) : Run step start (history ++ [label]) next

/-- A property of the labels so far and the state, true at the start and kept by
every step, holds at the end of every run. -/
theorem Run.invariant (invariant : List ω → σ → Prop) {start : σ} (initial : invariant [] start)
    (kept : ∀ before state label next, invariant before state → step state label next →
      invariant (before ++ [label]) next)
    {history : List ω} {state : σ} (run : Run step start history state) :
    invariant history state := by
  induction run with
  | nil => exact initial
  | snoc _ last inductionHypothesis => exact kept _ _ _ _ inductionHypothesis last

/-- A run of steps of one kind is a run. -/
theorem Run.mono {some : σ → ω → σ → Prop} (kind : ∀ {state label next}, some state label next →
    step state label next) {start state : σ} {history : List ω}
    (run : Run some start history state) : Run step start history state := by
  induction run with
  | nil => exact .nil
  | snoc _ last inductionHypothesis => exact inductionHypothesis.snoc (kind last)

/-- A run from where another one ends continues it. -/
theorem Run.append {start middle state : σ} {history later : List ω}
    (run : Run step start history middle) (rest : Run step middle later state) :
    Run step start (history ++ later) state := by
  induction rest with
  | nil => simpa using run
  | snoc _ last inductionHypothesis =>
    rw [← List.append_assoc]
    exact inductionHypothesis.snoc last

end Transition
