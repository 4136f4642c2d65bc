import EventLoop.Library.Replay

/-!
# Computations that log what they do and may abort

A computation passes an explicit state along, records an observation for each
effect it has, and either returns a value or aborts. The log survives an abort:
what was done before it stays observable. Nothing is assumed of the states,
observations or aborts.

`Traced` is the rule for reasoning about such a computation as a whole. It says
that every logged observation is one the system may make where it is made, that
the returned state is exactly the one the log leads to, and that an abort
happens only in a state which justifies it.
-/

universe u

/-- What a computation leaves behind: its log, and its value or its abort. -/
structure Outcome (ω ε β : Type u) where
  log : List ω
  result : Except ε β

/-- A logging computation from states `σ`, with observations `ω`, aborts `ε` and
values `α`. -/
def Exec (σ ω ε α : Type u) := σ → Outcome ω ε (α × σ)

namespace Exec

open Replay

variable {σ ω ε α β : Type u}

/-- Return a value, logging nothing. -/
def ret (value : α) : Exec σ ω ε α := fun state => ⟨[], .ok (value, state)⟩

/-- Run one computation, then another chosen from its value. An abort of the
first ends both; the logs are concatenated either way. -/
def andThen (first : Exec σ ω ε α) (next : α → Exec σ ω ε β) : Exec σ ω ε β := fun state =>
  match (first state).result with
  | .error abort => ⟨(first state).log, .error abort⟩
  | .ok (value, middle) =>
      ⟨(first state).log ++ (next value middle).log, (next value middle).result⟩

/-- Logging computations are written in `do` notation. -/
instance : Monad (Exec σ ω ε) where
  pure := ret
  bind := andThen

/-- Abort, logging nothing. -/
def abort (reason : ε) : Exec σ ω ε α := fun _ => ⟨[], .error reason⟩

/-- Read the state. -/
def read : Exec σ ω ε σ := fun state => ⟨[], .ok (state, state)⟩

/-- Run a computation and return the log it made beside its value. -/
def listen (body : Exec σ ω ε α) : Exec σ ω ε (α × List ω) := fun state =>
  ⟨(body state).log,
    (body state).result.map (fun ended => ((ended.1, (body state).log), ended.2))⟩

/-- Returning a value logs nothing and leaves the state. -/
@[simp] theorem pure_run (value : α) (state : σ) :
    (pure value : Exec σ ω ε α) state = ⟨[], .ok (value, state)⟩ := rfl

/-- Reading logs nothing and returns the state it leaves. -/
@[simp] theorem read_run (state : σ) :
    (read : Exec σ ω ε σ) state = ⟨[], .ok (state, state)⟩ := rfl

/-- A returning first part hands its value and state to the second. -/
theorem bind_ok {first : Exec σ ω ε α} {next : α → Exec σ ω ε β} {state middle : σ}
    {log : List ω} {value : α} (returned : first state = ⟨log, .ok (value, middle)⟩) :
    (first >>= next) state = ⟨log ++ (next value middle).log, (next value middle).result⟩ := by
  change andThen first next state = _
  simp only [andThen, returned]

/-- An aborting first part ends the sequence with its log and its reason. -/
theorem bind_error {first : Exec σ ω ε α} {next : α → Exec σ ω ε β} {state : σ}
    {log : List ω} {reason : ε} (aborted : first state = ⟨log, .error reason⟩) :
    (first >>= next) state = ⟨log, .error reason⟩ := by
  change andThen first next state = _
  simp only [andThen, aborted]

/-- What a sequence ends with is what its second part ends with. -/
theorem bind_result {first : Exec σ ω ε α} {next : α → Exec σ ω ε β} {state middle : σ} {value : α}
    (returned : (first state).result = .ok (value, middle)) :
    ((first >>= next) state).result = (next value middle).result := by
  change (andThen first next state).result = _
  simp only [andThen, returned]

/-- The log of a sequence is the first log, followed by the second one if the
first part returned. -/
theorem bind_log (first : Exec σ ω ε α) (next : α → Exec σ ω ε β) (state : σ) :
    ∃ rest, ((first >>= next) state).log = (first state).log ++ rest ∧
      (rest = [] ∨ ∃ value middle, rest = (next value middle).log) := by
  rcases run : first state with ⟨log, reason | ⟨value, middle⟩⟩
  · exact ⟨[], by rw [bind_error run, List.append_nil], Or.inl rfl⟩
  · exact ⟨_, by rw [bind_ok run], Or.inr ⟨value, middle, rfl⟩⟩

/-- A sequence that returns had a returning first part. -/
theorem bind_returned {first : Exec σ ω ε α} {next : α → Exec σ ω ε β} {state last : σ} {value : β}
    (returned : ((first >>= next) state).result = .ok (value, last)) :
    ∃ log middleValue middle, first state = ⟨log, .ok (middleValue, middle)⟩ ∧
      (next middleValue middle).result = .ok (value, last) := by
  rcases run : first state with ⟨log, reason | ⟨middleValue, middle⟩⟩
  · rw [bind_error run] at returned
    cases returned
  · rw [bind_ok run] at returned
    exact ⟨log, middleValue, middle, rfl, returned⟩

/-- Sequences of three parts may be bracketed either way. -/
theorem bind_assoc {γ : Type u} (first : Exec σ ω ε α) (next : α → Exec σ ω ε β)
    (last : β → Exec σ ω ε γ) :
    first >>= next >>= last = first >>= fun value => next value >>= last := by
  funext state
  rcases run : first state with ⟨log, reason | ⟨value, middle⟩⟩
  · rw [bind_error (bind_error run), bind_error run]
  · rw [bind_ok run]
    rcases later : next value middle with ⟨more, reason | ⟨outcome, after⟩⟩
    · rw [bind_error later]
      exact bind_error (by rw [bind_ok run, later])
    · rw [bind_ok later]
      have both : (first >>= next) state = ⟨log ++ more, .ok (outcome, after)⟩ := by
        rw [bind_ok run, later]
      rw [bind_ok both, List.append_assoc]

/-- Reading the state first passes it to the rest unchanged. -/
@[simp] theorem read_bind (next : σ → Exec σ ω ε β) (state : σ) :
    (read >>= next) state = next state state :=
  bind_ok (read_run state)

/-- Every observation the computation can log has the property. -/
def Logs (holds : ω → Prop) (body : Exec σ ω ε α) : Prop :=
  ∀ state, ∀ observation ∈ (body state).log, holds observation

/-- Returning logs nothing, so it logs nothing without the property. -/
theorem Logs.ret {holds : ω → Prop} (value : α) :
    Logs holds (pure value : Exec σ ω ε α) :=
  fun _ _ member => absurd member List.not_mem_nil

/-- Neither does reading. -/
theorem Logs.read {holds : ω → Prop} : Logs holds (read : Exec σ ω ε σ) :=
  fun _ _ member => absurd member List.not_mem_nil

/-- A sequence logs what its parts log, whatever the first one returns. -/
theorem Logs.bind {holds : ω → Prop} {first : Exec σ ω ε α} {next : α → Exec σ ω ε β}
    (initial : Logs holds first) (rest : ∀ value, Logs holds (next value)) :
    Logs holds (first >>= next) := by
  intro state observation member
  rcases run : first state with ⟨log, reason | ⟨value, middle⟩⟩
  · rw [bind_error run] at member
    exact initial state observation (by rw [run]; exact member)
  · rw [bind_ok run] at member
    rcases List.mem_append.mp member with early | late
    · exact initial state observation (by rw [run]; exact early)
    · exact rest value middle observation late

section Traced

variable (apply : σ → ω → σ) (enabled : σ → ω → Prop)

/-- From any state that meets the precondition, every logged observation is
enabled where it was made, the returned state is the one the log leads to and
meets the postcondition, and an abort is justified by the state the log leads
to. -/
def Traced (pre : σ → Prop) (body : Exec σ ω ε α) (post : α → σ → Prop)
    (fault : ε → σ → Prop) : Prop :=
  ∀ state, pre state →
    Along apply enabled state (body state).log ∧
      match (body state).result with
      | .ok (value, after) => after = replay apply state (body state).log ∧ post value after
      | .error reason => fault reason (replay apply state (body state).log)

variable {apply enabled} {pre : σ → Prop} {fault : ε → σ → Prop}

/-- Returning logs nothing, so the postcondition has to follow from the precondition. -/
theorem Traced.ret {post : α → σ → Prop} (value : α)
    (established : ∀ state, pre state → post value state) :
    Traced apply enabled pre (pure value) post fault := by
  intro state holds
  exact ⟨trivial, rfl, established state holds⟩

/-- Aborting logs nothing, so what is asked of an abort has to follow from the
precondition. -/
theorem Traced.abort {post : α → σ → Prop} (reason : ε)
    (justified : ∀ state, pre state → fault reason state) :
    Traced apply enabled pre (abort reason) post fault := by
  intro state holds
  exact ⟨trivial, justified state holds⟩

/-- Sequencing: the second part starts in the state the first log leads to, so
the two logs compose along one history. -/
theorem Traced.bind {middle : α → σ → Prop} {post : β → σ → Prop}
    {first : Exec σ ω ε α} {next : α → Exec σ ω ε β}
    (initial : Traced apply enabled pre first middle fault)
    (rest : ∀ value, Traced apply enabled (middle value) (next value) post fault) :
    Traced apply enabled pre (first >>= next) post fault := by
  intro state holds
  obtain ⟨checked, ended⟩ := initial state holds
  rcases run : first state with ⟨log, result⟩
  rw [run] at checked ended
  cases result with
  | error reason =>
    rw [bind_error run]
    exact ⟨checked, ended⟩
  | ok returned =>
    obtain ⟨value, after⟩ := returned
    dsimp only at checked ended
    obtain ⟨rfl, held⟩ := ended
    obtain ⟨checkedRest, endedRest⟩ := rest value _ held
    rw [bind_ok run]
    refine ⟨(along_append state log _).mpr ⟨checked, checkedRest⟩, ?_⟩
    simpa only [replay_append] using endedRest

/-- A computation that inspects the state before acting may be checked at each
state separately. -/
theorem Traced.read_bind {post : β → σ → Prop} {next : σ → Exec σ ω ε β}
    (each : ∀ state, Traced apply enabled (fun now => now = state ∧ pre now) (next state)
      post fault) :
    Traced apply enabled pre (read >>= next) post fault := by
  intro state holds
  rw [Exec.read_bind]
  exact each state state ⟨rfl, holds⟩

/-- Preconditions strengthen and postconditions weaken. -/
theorem Traced.consequence {narrower : σ → Prop} {post wider : α → σ → Prop}
    {excused : ε → σ → Prop} {body : Exec σ ω ε α}
    (traced : Traced apply enabled pre body post fault)
    (stronger : ∀ state, narrower state → pre state)
    (weaker : ∀ value state, post value state → wider value state)
    (forgiving : ∀ reason state, fault reason state → excused reason state) :
    Traced apply enabled narrower body wider excused := by
  intro state holds
  obtain ⟨checked, ended⟩ := traced state (stronger state holds)
  refine ⟨checked, ?_⟩
  rcases result : (body state).result with reason | ⟨value, after⟩
  · rw [result] at ended
    exact forgiving reason _ ended
  · rw [result] at ended
    exact ⟨ended.1, weaker value after ended.2⟩

end Traced

end Exec
