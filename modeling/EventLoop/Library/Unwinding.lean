import EventLoop.Library.Replay

/-!
# Interleavings that their participants cannot tell apart

Events move a shared state and emit observations. Each event belongs to at most
one agent, and each agent sees the state up to a relation of its own. Two local
conditions make agents independent: an agent's own events do the same in states
it cannot tell apart, and all other events lead to states it cannot tell apart.

Then what an agent observes in a run, and what it sees of the final state, is
already decided by its own events in their order. Any two interleavings of the
same per-agent sequences look the same to every agent.
-/

namespace Unwinding

open Replay

universe u v w x
variable {σ : Type u} {ε : Type v} {ω : Type w} {ι : Type x}

/-- What a run emits, event by event. -/
def emitted (next : σ → ε → σ) (emit : σ → ε → List ω) : σ → List ε → List ω
  | _, [] => []
  | state, event :: rest => emit state event ++ emitted next emit (next state event) rest

/-- The two local conditions, asked at the states and events `proper` admits.
`mine` recognises the observations that belong to an agent. -/
structure Independent (next : σ → ε → σ) (emit : σ → ε → List ω) (owner : ε → Option ι)
    (mine : ι → ω → Bool) (alike : ι → σ → σ → Prop) (proper : σ → ε → Prop) : Prop where
  /-- Looking alike passes through a third state. -/
  trans : ∀ {agent first second third}, alike agent first second → alike agent second third →
    alike agent first third
  /-- An agent's own event does the same where the states look alike to it. -/
  own : ∀ {agent state other event}, alike agent state other → proper state event →
    owner event = some agent → emit state event = emit other event ∧
      alike agent (next state event) (next other event)
  /-- Other events cannot be seen. -/
  foreign : ∀ {agent state event}, proper state event → owner event ≠ some agent →
    alike agent (next state event) state
  /-- What an event emits belongs to the event's agent. -/
  tagged : ∀ {agent state event observation}, proper state event →
    observation ∈ emit state event → (mine agent observation = true ↔ owner event = some agent)

variable {next : σ → ε → σ} {emit : σ → ε → List ω} {owner : ε → Option ι}
  {mine : ι → ω → Bool} {alike : ι → σ → σ → Prop} {proper : σ → ε → Prop} [DecidableEq ι]

/-- In a run an agent observes, and is left with, what its own events alone lead
to. The induction is over the run; events of others are passed over by `foreign`,
the agent's own move both states together by `own`. -/
theorem Independent.solo (independent : Independent next emit owner mine alike proper)
    (agent : ι) {state other : σ} {events : List ε} (similar : alike agent state other)
    (checked : Along next proper state events) :
    (emitted next emit state events).filter (mine agent) =
        emitted next emit other (events.filter (fun event => owner event = some agent)) ∧
      alike agent (replay next state events)
        (replay next other (events.filter (fun event => owner event = some agent))) := by
  induction events generalizing state other with
  | nil => exact ⟨rfl, similar⟩
  | cons event rest inductionHypothesis =>
    obtain ⟨admitted, later⟩ := checked
    by_cases belongs : owner event = some agent
    · obtain ⟨same, moved⟩ := independent.own similar admitted belongs
      obtain ⟨observed, ended⟩ := inductionHypothesis moved later
      have all : (emit state event).filter (mine agent) = emit state event := by
        rw [List.filter_eq_self]
        intro observation member
        exact (independent.tagged admitted member).mpr belongs
      have kept : (event :: rest).filter (fun event => owner event = some agent) =
          event :: rest.filter (fun event => owner event = some agent) := by
        simp [belongs]
      rw [kept, emitted, emitted, List.filter_append, all, observed, same]
      exact ⟨rfl, ended⟩
    · have unseen := independent.foreign admitted belongs
      obtain ⟨observed, ended⟩ := inductionHypothesis (independent.trans unseen similar) later
      have nothing : (emit state event).filter (mine agent) = [] := by
        rw [List.filter_eq_nil_iff]
        intro observation member claimed
        exact belongs ((independent.tagged admitted member).mp claimed)
      have dropped : (event :: rest).filter (fun event => owner event = some agent) =
          rest.filter (fun event => owner event = some agent) := by
        simp [belongs]
      rw [dropped, emitted, List.filter_append, nothing, observed]
      exact ⟨rfl, ended⟩

/-- Two runs in which an agent's own events are the same, from states it cannot
tell apart, give it the same observations and leave it with states it cannot tell
apart. -/
theorem Independent.interleavings (independent : Independent next emit owner mine alike proper)
    (agent : ι) (symm : ∀ {first second}, alike agent first second → alike agent second first)
    {state other : σ} {first second : List ε} (similar : alike agent state other)
    (checkedFirst : Along next proper state first)
    (checkedSecond : Along next proper other second)
    (sameOrder : first.filter (fun event => owner event = some agent) =
      second.filter (fun event => owner event = some agent)) :
    (emitted next emit state first).filter (mine agent) =
        (emitted next emit other second).filter (mine agent) ∧
      alike agent (replay next state first) (replay next other second) := by
  have reflexive : alike agent state state := independent.trans similar (symm similar)
  obtain ⟨observedFirst, endedFirst⟩ := independent.solo agent reflexive checkedFirst
  obtain ⟨observedSecond, endedSecond⟩ := independent.solo agent (symm similar) checkedSecond
  rw [observedFirst, observedSecond, sameOrder]
  refine ⟨rfl, ?_⟩
  rw [sameOrder] at endedFirst
  exact independent.trans endedFirst (symm endedSecond)

end Unwinding
