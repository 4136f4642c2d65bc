import EventLoop.Library.Transition

/-!
# Endless behaviours and weak fairness

A behaviour goes on for ever; at some moments nothing happens. Steps of a kind are
treated fairly if they do not stay possible for ever without one of them being
taken. From a kind that is treated fairly follows that something happens, by one
rule: while we wait, such a step is possible and every other step lets us wait on
or is as good; then what such a step brings about comes to pass.
-/

namespace Transition

universe u v
variable {σ : Type u} {ω : Type v} {step : σ → ω → σ → Prop}

/-- States and what leads from each to the next: a step, or nothing. -/
structure Behaviour (step : σ → ω → σ → Prop) where
  state : Nat → σ
  label : Nat → Option ω
  moves : ∀ now, match label now with
    | some label => step (state now) label (state (now + 1))
    | none => state (now + 1) = state now

/-- From every moment of the first kind on there is one of the second. -/
def LeadsTo (before after : Nat → Prop) : Prop :=
  ∀ now, before now → ∃ moment, now ≤ moment ∧ after moment

/-- What leads to something that leads to a third thing leads to the third. -/
theorem LeadsTo.trans {first second third : Nat → Prop} (earlier : LeadsTo first second)
    (later : LeadsTo second third) : LeadsTo first third := by
  intro now holds
  obtain ⟨middle, before, held⟩ := earlier now holds
  obtain ⟨moment, after, reached⟩ := later middle held
  exact ⟨moment, Nat.le_trans before after, reached⟩

/-- What holds already is no obstacle. -/
theorem LeadsTo.of_imp {before after : Nat → Prop} (already : ∀ now, before now → after now) :
    LeadsTo before after :=
  fun now holds => ⟨now, Nat.le_refl now, already now holds⟩

/-- A step further is no further than on. -/
theorem LeadsTo.next {before after : Nat → Prop} (steps : ∀ now, before now → after (now + 1)) :
    LeadsTo before after :=
  fun now holds => ⟨now + 1, Nat.le_succ now, steps now holds⟩

namespace Behaviour

variable (behaviour : Behaviour step)

/-- What leads from a moment to the next. -/
theorem moves_cases (now : Nat) :
    (∃ label, behaviour.label now = some label ∧
      step (behaviour.state now) label (behaviour.state (now + 1))) ∨
      (behaviour.label now = none ∧ behaviour.state (now + 1) = behaviour.state now) := by
  have moved := behaviour.moves now
  cases entry : behaviour.label now with
  | none =>
    rw [entry] at moved
    exact Or.inr ⟨rfl, moved⟩
  | some label =>
    rw [entry] at moved
    exact Or.inl ⟨label, rfl, moved⟩

/-- Every state is reached by a finite run. -/
theorem reached (now : Nat) :
    ∃ history, Run step (behaviour.state 0) history (behaviour.state now) := by
  induction now with
  | zero => exact ⟨[], .nil⟩
  | succ now inductionHypothesis =>
    obtain ⟨history, run⟩ := inductionHypothesis
    rcases behaviour.moves_cases now with ⟨label, _, stepped⟩ | ⟨_, same⟩
    · exact ⟨_, run.snoc stepped⟩
    · rw [same]
      exact ⟨history, run⟩

/-- A step of the kind is possible. -/
def Possible (kind : ω → Prop) (now : Nat) : Prop :=
  ∃ label next, kind label ∧ step (behaviour.state now) label next

/-- A step of the kind is taken. -/
def Takes (kind : ω → Prop) (now : Nat) : Prop :=
  ∃ label, behaviour.label now = some label ∧ kind label

/-- Steps of the kind do not stay possible for ever without one being taken. -/
def Fair (kind : ω → Prop) : Prop :=
  ∀ now, (∀ moment, now ≤ moment → behaviour.Possible kind moment) →
    ∃ moment, now ≤ moment ∧ behaviour.Takes kind moment

variable {behaviour}

/-- While we wait a step of the kind is possible; a step of the kind brings about
what we wait for; and any other lets us wait on or brings it about as well. -/
theorem Fair.ensures {kind : ω → Prop} (fair : behaviour.Fair kind)
    {waiting after : Nat → Prop}
    (possible : ∀ now, waiting now → behaviour.Possible kind now)
    (helpful : ∀ now, waiting now → behaviour.Takes kind now → after (now + 1))
    (patient : ∀ now, waiting now → ¬ behaviour.Takes kind now →
      waiting (now + 1) ∨ after (now + 1)) :
    LeadsTo waiting after := by
  intro now waits
  by_contra never
  have missed : ∀ moment, now ≤ moment → ¬ after moment := by
    intro moment later holds
    exact never ⟨moment, later, holds⟩
  have still : ∀ moment, now ≤ moment → waiting moment := by
    intro moment later
    induction later with
    | refl => exact waits
    | @step moment later inductionHypothesis =>
      by_cases taken : behaviour.Takes kind moment
      · exact absurd (helpful moment inductionHypothesis taken) (missed _ (Nat.le_succ_of_le later))
      · exact (patient moment inductionHypothesis taken).resolve_right
          (missed _ (Nat.le_succ_of_le later))
  obtain ⟨moment, later, taken⟩ := fair now (fun moment later => possible moment (still moment later))
  exact missed _ (Nat.le_succ_of_le later) (helpful moment (still moment later) taken)

/-- If waiting goes on until a step of the kind is taken, one is taken. -/
theorem Fair.takes {kind : ω → Prop} (fair : behaviour.Fair kind) {waiting : Nat → Prop}
    (possible : ∀ now, waiting now → behaviour.Possible kind now)
    (patient : ∀ now, waiting now → ¬ behaviour.Takes kind now → waiting (now + 1)) :
    LeadsTo waiting (fun now => waiting now ∧ behaviour.Takes kind now) := by
  intro now waits
  by_contra never
  have still : ∀ moment, now ≤ moment → waiting moment := by
    intro moment later
    induction later with
    | refl => exact waits
    | @step moment later inductionHypothesis =>
      refine patient moment inductionHypothesis ?_
      intro taken
      exact never ⟨moment, later, inductionHypothesis, taken⟩
  obtain ⟨moment, later, taken⟩ := fair now (fun moment later => possible moment (still moment later))
  exact never ⟨moment, later, still moment later, taken⟩

end Behaviour

end Transition
