import Mathlib.Logic.Hydra
import EventLoop.Library.Transition

/-!
# Systems that run out of things to do

A state owes finitely many duties. A step does one of them and leaves in its place
only duties below it, as many as it likes. If there is no endless descent among
duties there is no endless run, and a run that is not at its end can be taken to
one.
-/

namespace Transition

open Relation

universe u v w
variable {σ : Type u} {ω : Type v} {δ : Type w} {step : σ → ω → σ → Prop}

/-- The steps of the system, backwards. -/
def Before (step : σ → ω → σ → Prop) (next state : σ) : Prop := ∃ label, step state label next

/-- One duty is done and leaves only duties below it. -/
theorem cutExpand_of {below : δ → δ → Prop} {before after : Multiset δ} (others lower : Multiset δ)
    (done : δ) (less : ∀ duty ∈ lower, below duty done) (was : before = others + {done})
    (is : after = others + lower) : CutExpand below after before := by
  refine ⟨lower, done, less, ?_⟩
  rw [was, is, add_right_comm]

/-- If every step does a duty, there is no endless run. -/
theorem acc_of_owes {below : δ → δ → Prop} (wellFounded : WellFounded below)
    (Owes : σ → Multiset δ → Prop)
    (pays : ∀ state label next duties, Owes state duties → step state label next →
      ∃ remaining, Owes next remaining ∧ CutExpand below remaining duties)
    {state : σ} {duties : Multiset δ} (owes : Owes state duties) : Acc (Before step) state := by
  induction duties using wellFounded.cutExpand.induction generalizing state with
  | _ duties inductionHypothesis =>
    refine .intro _ ?_
    rintro next ⟨label, stepped⟩
    obtain ⟨remaining, still, less⟩ := pays state label next duties owes stepped
    exact inductionHypothesis remaining less still

/-- A state from which there is no endless run comes to one that has no step. -/
theorem Run.exhaust {state : σ} (ends : Acc (Before step) state) :
    ∃ later final, Run step state later final ∧ ¬ ∃ label next, step final label next := by
  induction ends with
  | intro state _ inductionHypothesis =>
    by_cases more : ∃ label next, step state label next
    · obtain ⟨label, next, stepped⟩ := more
      obtain ⟨later, final, run, stuck⟩ := inductionHypothesis next ⟨label, stepped⟩
      exact ⟨_, final, (Run.nil.snoc stepped).append run, stuck⟩
    · exact ⟨[], state, .nil, more⟩

end Transition
