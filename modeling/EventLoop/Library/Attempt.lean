import EventLoop.Library.Program

/-!
# Computations that leave their state behind when they abort

An abort that somebody catches undoes nothing: the state is what the computation
had made of it by then. An attempt is a logging computation with a final state
either way. Nothing is assumed of the states, observations or aborts.

`Traced` reads a part of the state off the log, the part that `view` selects, and
so relates attempts to the histories of `Replay`. `Moves` bounds what an attempt
may do to the whole state by a relation that may depend on how it ends. `Stops` says
of some observations that the attempt aborts after them, and what it logs until it
does. `Commutes` carries an attempt over to other states and observations along a map.
-/

universe u

/-- What an attempt leaves behind, whether it returned or aborted. -/
structure Aftermath (σ ω ε α : Type u) where
  log : List ω
  state : σ
  result : Except ε α

/-- Why it aborted, if it did. -/
def Aftermath.reason {σ ω ε α : Type u} (aftermath : Aftermath σ ω ε α) : Option ε :=
  match aftermath.result with
  | .ok _ => none
  | .error reason => some reason

/-- A logging computation from states `σ` that may abort and leaves its state. -/
def Attempt (σ ω ε α : Type u) := σ → Aftermath σ ω ε α

namespace Attempt

open Replay

variable {σ τ ω ε δ α β : Type u}

/-- Return a value, logging nothing. -/
def ret (value : α) : Attempt σ ω ε α := fun state => ⟨[], state, .ok value⟩

/-- Run one attempt, then another chosen from its value. An abort of the first
ends both, in the state the first had reached. -/
def andThen (first : Attempt σ ω ε α) (next : α → Attempt σ ω ε β) : Attempt σ ω ε β :=
  fun state =>
    match (first state).result with
    | .error reason => ⟨(first state).log, (first state).state, .error reason⟩
    | .ok value =>
        ⟨(first state).log ++ (next value (first state).state).log,
          (next value (first state).state).state, (next value (first state).state).result⟩

/-- Attempts are written in `do` notation. -/
instance : Monad (Attempt σ ω ε) where
  pure := ret
  bind := andThen

/-- Abort, logging nothing. -/
def abort (reason : ε) : Attempt σ ω ε α := fun state => ⟨[], state, .error reason⟩

/-- Read the state. -/
def read : Attempt σ ω ε σ := fun state => ⟨[], state, .ok state⟩

/-- A computation on a part of the state. It must abort before it has an effect,
for nothing of it is kept. -/
def within (view : σ → τ) (update : σ → τ → σ) (cause : δ → ε) (body : Exec τ ω δ α) :
    Attempt σ ω ε α := fun state =>
  match (body (view state)).result with
  | .error reason => ⟨(body (view state)).log, state, .error (cause reason)⟩
  | .ok (value, part) => ⟨(body (view state)).log, update state part, .ok value⟩

/-- A returning first part hands its value and state to the second. -/
theorem bind_ok {first : Attempt σ ω ε α} {next : α → Attempt σ ω ε β} {state middle : σ}
    {log : List ω} {value : α} (returned : first state = ⟨log, middle, .ok value⟩) :
    (first >>= next) state =
      ⟨log ++ (next value middle).log, (next value middle).state, (next value middle).result⟩ := by
  change andThen first next state = _
  simp only [andThen, returned]

/-- An aborting first part ends the sequence where it is. -/
theorem bind_error {first : Attempt σ ω ε α} {next : α → Attempt σ ω ε β} {state middle : σ}
    {log : List ω} {reason : ε} (aborted : first state = ⟨log, middle, .error reason⟩) :
    (first >>= next) state = ⟨log, middle, .error reason⟩ := by
  change andThen first next state = _
  simp only [andThen, aborted]

/-- How a sequence is bracketed makes no difference. -/
theorem bind_assoc {γ : Type u} (first : Attempt σ ω ε α) (next : α → Attempt σ ω ε β)
    (last : β → Attempt σ ω ε γ) :
    first >>= next >>= last = first >>= fun value => next value >>= last := by
  funext state
  rcases run : first state with ⟨log, middle, reason | value⟩
  · rw [bind_error run, bind_error (bind_error run)]
  · rcases ran : next value middle with ⟨more, after, reason | result⟩
    · have stopped := @bind_ok _ _ _ _ _ _ next _ _ _ _ run
      rw [ran] at stopped
      rw [bind_error stopped, bind_ok run, bind_error ran]
    · have passed := @bind_ok _ _ _ _ _ _ next _ _ _ _ run
      rw [ran] at passed
      rw [bind_ok passed, bind_ok run, bind_ok ran, List.append_assoc]

/-- Reading the state first passes it to the rest unchanged. -/
@[simp] theorem read_bind (next : σ → Attempt σ ω ε β) (state : σ) :
    (read >>= next) state = next state state := by
  have returned : (read : Attempt σ ω ε σ) state = ⟨[], state, .ok state⟩ := rfl
  exact bind_ok returned

/-- A computation on a part that returns updates the part and keeps its log. -/
theorem within_ok {view : σ → τ} {update : σ → τ → σ} {cause : δ → ε} {body : Exec τ ω δ α}
    {state : σ} {log : List ω} {value : α} {part : τ}
    (returned : body (view state) = ⟨log, .ok (value, part)⟩) :
    within view update cause body state = ⟨log, update state part, .ok value⟩ := by
  simp only [within, returned]

/-- One that aborts leaves the whole state as it was; only its log is kept. -/
theorem within_error {view : σ → τ} {update : σ → τ → σ} {cause : δ → ε} {body : Exec τ ω δ α}
    {state : σ} {log : List ω} {reason : δ}
    (aborted : body (view state) = ⟨log, .error reason⟩) :
    within view update cause body state = ⟨log, state, .error (cause reason)⟩ := by
  simp only [within, aborted]

section Traced

variable (view : σ → τ) (apply : τ → ω → τ) (enabled : τ → ω → Prop)

/-- From any state that meets the precondition, every logged observation is enabled
where it was made, the viewed part of the state left behind is the one the log
leads to, and that state meets the condition for how the attempt ended. -/
def Traced (pre : σ → Prop) (body : Attempt σ ω ε α) (post : α → σ → Prop)
    (fault : ε → σ → Prop) : Prop :=
  ∀ state, pre state →
    Along apply enabled (view state) (body state).log ∧
      view (body state).state = replay apply (view state) (body state).log ∧
      match (body state).result with
      | .ok value => post value (body state).state
      | .error reason => fault reason (body state).state

variable {view apply enabled} {pre : σ → Prop} {fault : ε → σ → Prop}

/-- What holds where the attempt aborted. -/
theorem Traced.aborted {post : α → σ → Prop} {body : Attempt σ ω ε α}
    (traced : Traced view apply enabled pre body post fault) {state : σ} (holds : pre state)
    {reason : ε} (aborted : (body state).reason = some reason) :
    fault reason (body state).state := by
  have ended := (traced state holds).2.2
  rcases result : (body state).result with cause | value
  · rw [result] at ended
    rw [Aftermath.reason, result] at aborted
    exact Option.some.inj aborted ▸ ended
  · rw [Aftermath.reason, result] at aborted
    cases aborted

/-- Returning logs nothing, so the postcondition has to follow from the precondition. -/
theorem Traced.ret {post : α → σ → Prop} (value : α)
    (established : ∀ state, pre state → post value state) :
    Traced view apply enabled pre (pure value) post fault := by
  intro state holds
  exact ⟨trivial, rfl, established state holds⟩

/-- Aborting logs nothing, so what is asked of an abort has to follow from the
precondition. -/
theorem Traced.abort {post : α → σ → Prop} (reason : ε)
    (justified : ∀ state, pre state → fault reason state) :
    Traced view apply enabled pre (abort reason) post fault := by
  intro state holds
  exact ⟨trivial, rfl, justified state holds⟩

/-- Sequencing: the second part starts in the state the first one left. -/
theorem Traced.bind {middle : α → σ → Prop} {post : β → σ → Prop} {first : Attempt σ ω ε α}
    {next : α → Attempt σ ω ε β} (initial : Traced view apply enabled pre first middle fault)
    (rest : ∀ value, Traced view apply enabled (middle value) (next value) post fault) :
    Traced view apply enabled pre (first >>= next) post fault := by
  intro state holds
  obtain ⟨checked, led, ended⟩ := initial state holds
  rcases run : first state with ⟨log, after, result⟩
  rw [run] at checked led ended
  dsimp only at checked led ended
  cases result with
  | error reason =>
    rw [bind_error run]
    exact ⟨checked, led, ended⟩
  | ok value =>
    obtain ⟨checkedRest, ledRest, endedRest⟩ := rest value after ended
    rw [bind_ok run]
    rw [led] at checkedRest ledRest
    refine ⟨(along_append _ log _).mpr ⟨checked, checkedRest⟩, ?_, endedRest⟩
    rw [ledRest, replay_append]

/-- An attempt that inspects the state before acting may be checked at each state
separately. -/
theorem Traced.read_bind {post : β → σ → Prop} {next : σ → Attempt σ ω ε β}
    (each : ∀ state, Traced view apply enabled (fun now => now = state ∧ pre now) (next state)
      post fault) :
    Traced view apply enabled pre (read >>= next) post fault := by
  intro state holds
  rw [Attempt.read_bind]
  exact each state state ⟨rfl, holds⟩

/-- Preconditions strengthen, postconditions and what is enabled weaken. -/
theorem Traced.consequence {wider : τ → ω → Prop} {narrower : σ → Prop}
    {post later : α → σ → Prop} {excused : ε → σ → Prop} {body : Attempt σ ω ε α}
    (traced : Traced view apply enabled pre body post fault)
    (allowed : ∀ part observation, enabled part observation → wider part observation)
    (stronger : ∀ state, narrower state → pre state)
    (weaker : ∀ value state, post value state → later value state)
    (forgiving : ∀ reason state, fault reason state → excused reason state) :
    Traced view apply wider narrower body later excused := by
  intro state holds
  obtain ⟨checked, led, ended⟩ := traced state (stronger state holds)
  refine ⟨checked.mono allowed, led, ?_⟩
  rcases result : (body state).result with reason | value
  · rw [result] at ended
    exact forgiving reason _ ended
  · rw [result] at ended
    exact weaker value _ ended

/-- What every enabled observation keeps of the viewed part, the attempt keeps,
however it ends. -/
theorem Traced.invariant {keeps : τ → Prop} {post : α → σ → Prop} {body : Attempt σ ω ε α}
    (kept : ∀ part observation, keeps part → enabled part observation →
      keeps (apply part observation))
    (traced : Traced view apply enabled pre body post fault) :
    Traced view apply enabled (fun state => pre state ∧ keeps (view state)) body
      (fun value state => post value state ∧ keeps (view state))
      (fun reason state => fault reason state ∧ keeps (view state)) := by
  rintro state ⟨holds, initial⟩
  obtain ⟨checked, led, ended⟩ := traced state holds
  have final : keeps (view (body state).state) := by
    rw [led]
    exact checked.invariant kept initial
  refine ⟨checked, led, ?_⟩
  rcases result : (body state).result with reason | value
  · rw [result] at ended
    exact ⟨ended, final⟩
  · rw [result] at ended
    exact ⟨ended, final⟩

end Traced

section Moves

/-- Whatever the attempt does to the state is within the relation, for how it ends. -/
def Moves (within : σ → Except ε PUnit → σ → Prop) (body : Attempt σ ω ε α) : Prop :=
  ∀ state, within state ((body state).result.map (fun _ => .unit)) (body state).state

variable {within : σ → Except ε PUnit → σ → Prop}

/-- Sequencing: the relation has to follow its own steps that return by one that ends in
any way. -/
theorem Moves.bind (transitive : ∀ first ending second third, within first (.ok .unit) second →
      within second ending third → within first ending third)
    {first : Attempt σ ω ε α} {next : α → Attempt σ ω ε β} (initial : Moves within first)
    (rest : ∀ value, Moves within (next value)) : Moves within (first >>= next) := by
  intro state
  have moved := initial state
  rcases run : first state with ⟨log, after, reason | value⟩
  · rw [run] at moved
    rw [bind_error run]
    exact moved
  · rw [run] at moved
    rw [bind_ok run]
    exact transitive _ _ _ _ moved (rest value after)

end Moves

section Stops

/-- What an attempt that began in the state leaves behind, where some observations are its
last: its log leads to the viewed part of the state, and from a marked observation on the
rest of the log and the abort are as `fatal` says. -/
structure Ends (view : σ → τ) (apply : τ → ω → τ) (marked : τ → ω → Prop)
    (fatal : ω → List ω → ε → Prop) (state : σ) (aftermath : Aftermath σ ω ε α) : Prop where
  led : view aftermath.state = replay apply (view state) aftermath.log
  stopped : ∀ past observation rest, aftermath.log = past ++ observation :: rest →
    marked (replay apply (view state) past) observation →
    ∃ reason, aftermath.reason = some reason ∧ fatal observation rest reason

/-- From every state that meets the condition the attempt ends so, in a state that meets
it again. -/
def Stops (view : σ → τ) (apply : τ → ω → τ) (marked : τ → ω → Prop)
    (fatal : ω → List ω → ε → Prop) (keeps : σ → Prop) (body : Attempt σ ω ε α) : Prop :=
  ∀ state, keeps state →
    keeps (body state).state ∧ Ends view apply marked fatal state (body state)

variable {view : σ → τ} {apply : τ → ω → τ} {marked : τ → ω → Prop}
  {fatal : ω → List ω → ε → Prop} {keeps : σ → Prop}

/-- Nothing is asked of an attempt that logs nothing. -/
theorem Ends.silent {state : σ} {result : Except ε α} :
    Ends view apply marked fatal state ⟨[], state, result⟩ := by
  refine ⟨rfl, ?_⟩
  intro past observation rest logged
  cases past with
  | nil => cases logged
  | cons first others => cases logged

/-- Where only the first observation can be marked, it alone is to be followed. -/
theorem Ends.headed {state : σ} {aftermath : Aftermath σ ω ε α} {head : ω} {tail : List ω}
    (logged : aftermath.log = head :: tail)
    (led : view aftermath.state = replay apply (view state) aftermath.log)
    (first : marked (view state) head →
      ∃ reason, aftermath.reason = some reason ∧ fatal head tail reason)
    (quiet : ∀ observation ∈ tail, ∀ part, ¬ marked part observation) :
    Ends view apply marked fatal state aftermath := by
  refine ⟨led, ?_⟩
  intro past observation rest split mark
  rw [logged] at split
  cases past with
  | nil =>
    obtain ⟨rfl, rfl⟩ := List.cons.inj split
    exact first mark
  | cons other past =>
    obtain ⟨rfl, rfl⟩ := List.cons.inj split
    have member : observation ∈ past ++ observation :: rest := by simp
    exact absurd mark (quiet observation member _)

/-- Returning logs nothing that could be marked. -/
theorem Stops.ret (value : α) : Stops view apply marked fatal keeps (pure value) :=
  fun _ holds => ⟨holds, .silent⟩

/-- Neither does aborting. -/
theorem Stops.abort (reason : ε) :
    Stops view apply marked fatal keeps (abort reason : Attempt σ ω ε α) :=
  fun _ holds => ⟨holds, .silent⟩

/-- An attempt that inspects the state before acting may be checked at each state
separately. -/
theorem Stops.read_bind {next : σ → Attempt σ ω ε β}
    (each : ∀ state, Stops view apply marked fatal keeps (next state)) :
    Stops view apply marked fatal keeps (read >>= next) := by
  intro state holds
  rw [Attempt.read_bind]
  exact each state state holds

/-- Sequencing: a first part that returned has met no marked observation, and one that
aborted is the whole. -/
theorem Stops.bind {first : Attempt σ ω ε α} {next : α → Attempt σ ω ε β}
    (initial : Stops view apply marked fatal keeps first)
    (rest : ∀ value, Stops view apply marked fatal keeps (next value)) :
    Stops view apply marked fatal keeps (first >>= next) := by
  intro state holds
  obtain ⟨kept, ends⟩ := initial state holds
  rcases run : first state with ⟨log, middle, reason | value⟩
  · rw [run] at kept ends
    rw [bind_error run]
    exact ⟨kept, ends.led, ends.stopped⟩
  · rw [run] at kept ends
    obtain ⟨keptRest, endsRest⟩ := rest value middle kept
    have led : view middle = replay apply (view state) log := ends.led
    rw [bind_ok run]
    refine ⟨keptRest, ?_, ?_⟩
    · change view (next value middle).state = replay apply (view state) (log ++ _)
      rw [endsRest.led, led, replay_append]
    · intro past observation tail split mark
      -- the marked observation is one of the first part's or one of the second's
      rcases List.append_eq_append_iff.mp split with ⟨more, rfl, later⟩ | ⟨more, whole, later⟩
      · rw [replay_append, ← led] at mark
        exact endsRest.stopped more observation tail later mark
      · cases more with
        | nil =>
          rw [List.append_nil] at whole
          subst whole
          rw [← led] at mark
          exact endsRest.stopped [] observation tail later.symm mark
        | cons other more =>
          obtain ⟨rfl, rfl⟩ := List.cons.inj later
          obtain ⟨reason, aborted, _⟩ := ends.stopped past observation more whole mark
          cases aborted

end Stops

section Commutes

variable {χ γ ζ : Type u}

/-- On the image of a state the second attempt does the image of what the first does on
the state itself. -/
def Commutes (image : σ → τ) (seen : ω → χ) (value : α → β) (first : Attempt σ ω ε α)
    (second : Attempt τ χ ε β) : Prop :=
  ∀ state, second (image state) =
    ⟨(first state).log.map seen, image (first state).state, (first state).result.map value⟩

variable {image : σ → τ} {seen : ω → χ}

/-- Returning a value commutes with returning its image. -/
theorem Commutes.ret {value : α → β} (result : α) :
    Commutes image seen value (pure result : Attempt σ ω ε α) (pure (value result)) :=
  fun _ => rfl

/-- An abort carries nothing that an image could change. -/
theorem Commutes.abort {value : α → β} (reason : ε) :
    Commutes image seen value (Attempt.abort reason : Attempt σ ω ε α) (Attempt.abort reason) :=
  fun _ => rfl

/-- Sequencing: the rest has to commute from the images of what the first part returns. -/
theorem Commutes.bind {value : α → β} {last : γ → ζ} {first : Attempt σ ω ε α}
    {second : Attempt τ χ ε β} {next : α → Attempt σ ω ε γ} {later : β → Attempt τ χ ε ζ}
    (initial : Commutes image seen value first second)
    (rest : ∀ result, Commutes image seen last (next result) (later (value result))) :
    Commutes image seen last (first >>= next) (second >>= later) := by
  intro state
  have begun := initial state
  rcases run : first state with ⟨log, middle, reason | result⟩
  · rw [run] at begun
    rw [bind_error run, bind_error begun]
    rfl
  · rw [run] at begun
    rw [bind_ok run, bind_ok begun, rest result middle, List.map_append]

/-- Reading gives the image of the state on the other side, so what follows has to commute
from every state and its image. -/
theorem Commutes.read_bind {last : γ → ζ} {next : σ → Attempt σ ω ε γ}
    {later : τ → Attempt τ χ ε ζ}
    (rest : ∀ state, Commutes image seen last (next state) (later (image state))) :
    Commutes image seen last (read >>= next) (read >>= later) := by
  intro state
  rw [Attempt.read_bind, Attempt.read_bind]
  exact rest state state

end Commutes

end Attempt

namespace Program

variable {Req : Type} {Res : Req → Type} {α β : Type}

/-- Apply a function to the value a program ends with. -/
def map (f : α → β) : Program Req Res α → Program Req Res β
  | .ret value => .ret (f value)
  | .call request next => .call request (fun response => map f (next response))

/-- Mapping twice is mapping with the composition. -/
theorem map_map {γ : Type} (f : α → β) (g : β → γ) (program : Program Req Res α) :
    (program.map f).map g = program.map (fun value => g (f value)) := by
  induction program with
  | ret value => rfl
  | call request next inductionHypothesis =>
    exact congrArg (Program.call request) (funext inductionHypothesis)

/-- Some answers lead the program to the value. -/
inductive Yields : Program Req Res α → α → Prop
  | ret (value : α) : Yields (.ret value) value
  | call {request : Req} {next : Res request → Program Req Res α} {value : α}
      (response : Res request) (rest : Yields (next response) value) :
      Yields (.call request next) value

/-- Some answers lead the program to the request. -/
inductive Asks : Program Req Res α → Req → Prop
  | here {request : Req} {next : Res request → Program Req Res α} :
      Asks (.call request next) request
  | later {request asked : Req} {next : Res request → Program Req Res α}
      (response : Res request) (rest : Asks (next response) asked) :
      Asks (.call request next) asked

/-- A mapped program ends with images of what the program ends with. -/
theorem Yields.of_map {f : α → β} {program : Program Req Res α} {image : β}
    (yields : (program.map f).Yields image) : ∃ value, program.Yields value ∧ f value = image := by
  induction program with
  | ret value =>
    cases yields with
    | ret => exact ⟨value, .ret value, rfl⟩
  | call request next inductionHypothesis =>
    cases yields with
    | call response rest =>
      obtain ⟨value, ended, same⟩ := inductionHypothesis response rest
      exact ⟨value, .call response ended, same⟩

variable {σ τ ω ε : Type} {view : σ → τ} {apply : τ → ω → τ} {enabled : τ → ω → Prop}

/-- A condition kept by the answer to every request the program may make is kept by
the whole program, which ends with one of its values. -/
theorem attempt_interpret {serve : (request : Req) → Attempt σ ω ε (Res request)}
    {keeps : σ → Prop} {fault : ε → σ → Prop} (program : Program Req Res α)
    (each : ∀ request, program.Asks request →
      Attempt.Traced view apply enabled keeps (serve request) (fun _ => keeps) fault) :
    Attempt.Traced view apply enabled keeps (interpret serve program)
      (fun value state => keeps state ∧ program.Yields value) fault := by
  induction program with
  | ret value => exact Attempt.Traced.ret value (fun _ holds => ⟨holds, .ret value⟩)
  | call request next inductionHypothesis =>
    refine Attempt.Traced.bind (each request .here) (fun response => ?_)
    have rest := inductionHypothesis response (fun asked later => each asked (.later response later))
    exact rest.consequence (fun _ _ held => held) (fun _ held => held)
      (fun _ _ held => ⟨held.1, .call response held.2⟩) (fun _ _ held => held)

/-- What the answers to its requests do to the state bounds what a program does. -/
theorem moves_interpret {within : σ → Except ε PUnit → σ → Prop}
    (reflexive : ∀ state, within state (.ok .unit) state)
    (transitive : ∀ first ending second third, within first (.ok .unit) second →
      within second ending third → within first ending third)
    {serve : (request : Req) → Attempt σ ω ε (Res request)}
    (each : ∀ request, Attempt.Moves within (serve request)) (program : Program Req Res α) :
    Attempt.Moves within (interpret serve program) := by
  induction program with
  | ret value => exact reflexive
  | call request next inductionHypothesis =>
    exact Attempt.Moves.bind transitive (each request) inductionHypothesis

/-- What the answers to its requests stop at, a program stops at. -/
theorem stops_interpret {marked : τ → ω → Prop} {fatal : ω → List ω → ε → Prop}
    {keeps : σ → Prop} {serve : (request : Req) → Attempt σ ω ε (Res request)}
    (each : ∀ request, Attempt.Stops view apply marked fatal keeps (serve request))
    (program : Program Req Res α) :
    Attempt.Stops view apply marked fatal keeps (interpret serve program) := by
  induction program with
  | ret value => exact .ret value
  | call request next inductionHypothesis => exact (each request).bind inductionHypothesis

section Commutes

variable {χ : Type} {image : σ → τ} {seen : ω → χ}

/-- Where the answers to its requests commute, so does a program, mapped or not. -/
theorem interpret_commutes {serve : (request : Req) → Attempt σ ω ε (Res request)}
    {other : (request : Req) → Attempt τ χ ε (Res request)}
    (each : ∀ request, Attempt.Commutes image seen id (serve request) (other request))
    (value : α → β) (program : Program Req Res α) :
    Attempt.Commutes image seen value (interpret serve program)
      (interpret other (program.map value)) := by
  induction program with
  | ret result => exact .ret result
  | call request next inductionHypothesis => exact (each request).bind inductionHypothesis

variable {Asked : Type} {Reply : Asked → Type} {request : Req → Asked}

/-- The program for another interface: it asks for the image of each request, and reads
the reply back. -/
def translate (request : Req → Asked) (back : (asked : Req) → Reply (request asked) → Res asked) :
    Program Req Res α → Program Asked Reply α
  | .ret value => .ret value
  | .call asked next =>
      .call (request asked) (fun reply => translate request back (next (back asked reply)))

/-- A translated program commutes where the answers do and are read back as they were. -/
theorem translate_commutes {serve : (asked : Req) → Attempt σ ω ε (Res asked)}
    {other : (asked : Asked) → Attempt τ χ ε (Reply asked)}
    {back : (asked : Req) → Reply (request asked) → Res asked}
    {answer : (asked : Req) → Res asked → Reply (request asked)}
    (each : ∀ asked, Attempt.Commutes image seen (answer asked) (serve asked)
      (other (request asked)))
    (inverse : ∀ asked response, back asked (answer asked response) = response)
    (program : Program Req Res α) :
    Attempt.Commutes image seen id (interpret serve program)
      (interpret other (program.translate request back)) := by
  induction program with
  | ret value => exact .ret value
  | call asked next inductionHypothesis =>
    refine (each asked).bind (fun response => ?_)
    dsimp only
    rw [inverse]
    exact inductionHypothesis response

end Commutes

end Program
