import Mathlib.Data.List.Basic

/-!
# Histories that determine their states

A history is a list of observations. When every observation fixes the state it
leads to, the state reached by a history is a fold, and what a system may do is
a predicate on a state and the observation made there. `Along` asks that
predicate at every point of a history. Invariants of single observations then
extend to whole histories by one induction, made here once.
-/

namespace Replay

universe u v
variable {σ : Type u} {ω : Type v} (apply : σ → ω → σ)

/-- The state a history leads to. -/
def replay (start : σ) (history : List ω) : σ := history.foldl apply start

/-- The predicate holds at every observation of the history, asked of the state
the observations before it lead to. -/
def Along (holds : σ → ω → Prop) : σ → List ω → Prop
  | _, [] => True
  | state, observation :: rest =>
      holds state observation ∧ Along holds (apply state observation) rest

/-- The empty history leads nowhere. -/
@[simp] theorem replay_nil (start : σ) : replay apply start [] = start := rfl

/-- The oldest observation is applied first. -/
@[simp] theorem replay_cons (start : σ) (observation : ω) (rest : List ω) :
    replay apply start (observation :: rest) =
      replay apply (apply start observation) rest := rfl

/-- Replaying two histories in turn replays their concatenation. -/
theorem replay_append (start : σ) (first second : List ω) :
    replay apply start (first ++ second) =
      replay apply (replay apply start first) second := by
  simp only [replay, List.foldl_append]

variable {apply}

/-- A concatenated history is checked part by part, the second part from the
state the first one leads to. -/
theorem along_append {holds : σ → ω → Prop} (start : σ) (first second : List ω) :
    Along apply holds start (first ++ second) ↔
      Along apply holds start first ∧
        Along apply holds (replay apply start first) second := by
  induction first generalizing start with
  | nil => simp [Along]
  | cons observation rest inductionHypothesis =>
    simp only [List.cons_append, Along, replay_cons, inductionHypothesis, and_assoc]

/-- An observation in the middle of a history was checked at the state the
history before it leads to. -/
theorem Along.here {holds : σ → ω → Prop} {start : σ} {before after : List ω} {observation : ω}
    (checked : Along apply holds start (before ++ observation :: after)) :
    holds (replay apply start before) observation :=
  ((along_append start before (observation :: after)).mp checked).2.1

/-- So a history is checked exactly when each of its observations is, wherever it
stands. -/
theorem along_iff_split {holds : σ → ω → Prop} {start : σ} {history : List ω} :
    Along apply holds start history ↔
      ∀ before observation after, history = before ++ observation :: after →
        holds (replay apply start before) observation := by
  constructor
  · rintro checked before observation after rfl
    exact checked.here
  · intro every
    induction history generalizing start with
    | nil => trivial
    | cons first rest inductionHypothesis =>
      refine ⟨every [] first rest rfl, inductionHypothesis ?_⟩
      rintro before observation after rfl
      exact every (first :: before) observation after rfl

/-- Predicates that hold together at each observation hold together along the
history. -/
theorem Along.and {first second : σ → ω → Prop} {start : σ} {history : List ω}
    (left : Along apply first start history) (right : Along apply second start history) :
    Along apply (fun state observation => first state observation ∧ second state observation)
      start history := by
  induction history generalizing start with
  | nil => trivial
  | cons observation rest inductionHypothesis =>
    exact ⟨⟨left.1, right.1⟩, inductionHypothesis left.2 right.2⟩

/-- A history that is checked is checked for less. -/
theorem Along.mono {holds weaker : σ → ω → Prop} {start : σ} {history : List ω}
    (implied : ∀ state observation, holds state observation → weaker state observation)
    (checked : Along apply holds start history) : Along apply weaker start history := by
  rw [along_iff_split] at checked ⊢
  intro before observation after split
  exact implied _ _ (checked before observation after split)

/-- What every observation of a history meets in every state is checked along it. -/
theorem along_of_forall {holds : σ → ω → Prop} {start : σ} {history : List ω}
    (every : ∀ observation ∈ history, ∀ state, holds state observation) :
    Along apply holds start history := by
  induction history generalizing start with
  | nil => trivial
  | cons observation rest inductionHypothesis =>
    have tail : ∀ later ∈ rest, ∀ state, holds state later := by
      intro later member
      exact every later (List.mem_cons_of_mem observation member)
    exact ⟨every observation List.mem_cons_self start, inductionHypothesis tail⟩

/-- A property of the history so far and the state it leads to, kept by every
checked observation, holds after the whole history. -/
theorem Along.history_invariant {holds : σ → ω → Prop} {invariant : List ω → σ → Prop}
    (kept : ∀ past state observation, invariant past state → holds state observation →
      invariant (past ++ [observation]) (apply state observation))
    (past : List ω) {start : σ} {history : List ω} (initial : invariant past start)
    (checked : Along apply holds start history) :
    invariant (past ++ history) (replay apply start history) := by
  induction history generalizing start past with
  | nil => simpa using initial
  | cons observation rest inductionHypothesis =>
    have next : invariant (past ++ [observation]) (apply start observation) :=
      kept past start observation initial checked.1
    simpa only [List.append_assoc, List.singleton_append, replay_cons] using
      inductionHypothesis (past ++ [observation]) next checked.2

/-- A property of states kept by every checked observation holds after the whole
history. -/
theorem Along.invariant {holds : σ → ω → Prop} {invariant : σ → Prop}
    (kept : ∀ state observation, invariant state → holds state observation →
      invariant (apply state observation))
    {start : σ} {history : List ω} (initial : invariant start)
    (checked : Along apply holds start history) :
    invariant (replay apply start history) :=
  Along.history_invariant (fun _ state observation => kept state observation) [] initial checked

/-- Some observation of the history is an event of the first kind, and everything
observed after it is of the second. -/
def Since (event quiet : ω → Prop) (history : List ω) : Prop :=
  ∃ before observation later, history = before ++ observation :: later ∧ event observation ∧
    ∀ other ∈ later, quiet other

/-- An event that was just observed was observed with nothing after it. -/
theorem Since.now {event quiet : ω → Prop} {past : List ω} {observation : ω}
    (observed : event observation) : Since event quiet (past ++ [observation]) :=
  ⟨past, observation, [], rfl, observed, fun _ member => absurd member List.not_mem_nil⟩

/-- A quiet observation leaves the event the latest of its kind. -/
theorem Since.extend {event quiet : ω → Prop} {past : List ω} {observation : ω}
    (since : Since event quiet past) (undisturbed : quiet observation) :
    Since event quiet (past ++ [observation]) := by
  obtain ⟨before, first, later, rfl, observed, calm⟩ := since
  refine ⟨before, first, later ++ [observation], by simp, observed, ?_⟩
  intro other member
  rcases List.mem_append.mp member with earlier | last
  · exact calm other earlier
  · rw [List.mem_singleton.mp last]
    exact undisturbed

end Replay
