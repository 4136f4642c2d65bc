import EventLoop.Library.Exec

/-!
# Programs that talk to an interface

A program over an interface makes requests one at a time, sees each response
before it chooses what to do next, and ends with a value. Nothing bounds how
many requests it makes or how it chooses them, but every run is finite. The
interface's meaning is supplied separately, as a computation for each request.
-/

universe u v

/-- A finite, adaptive client of an interface with requests `Req` and, for each
request, responses `Res`. -/
inductive Program (Req : Type u) (Res : Req → Type v) (α : Type v) where
  | ret (value : α)
  | call (request : Req) (next : Res request → Program Req Res α)

namespace Program

variable {Req : Type} {Res : Req → Type} {α : Type}

/-- Run a program, answering its requests in order. -/
def interpret {m : Type → Type} [Monad m] (serve : (request : Req) → m (Res request)) :
    Program Req Res α → m α
  | .ret value => pure value
  | .call request next => do
      let response ← serve request
      interpret serve (next response)

variable {σ ω ε : Type} {apply : σ → ω → σ} {enabled : σ → ω → Prop}

/-- A condition kept by the answer to every request is kept by the whole
program, whatever it chooses to ask. -/
theorem traced_interpret {serve : (request : Req) → Exec σ ω ε (Res request)}
    {keeps : σ → Prop} {fault : ε → σ → Prop}
    (each : ∀ request, Exec.Traced apply enabled keeps (serve request) (fun _ => keeps) fault)
    (program : Program Req Res α) :
    Exec.Traced apply enabled keeps (interpret serve program) (fun _ => keeps) fault := by
  induction program with
  | ret value => exact Exec.Traced.ret value (fun _ holds => holds)
  | call request next inductionHypothesis =>
    exact Exec.Traced.bind (each request) inductionHypothesis

/-- A program logs nothing the answers to its requests do not log. -/
theorem logs_interpret {serve : (request : Req) → Exec σ ω ε (Res request)} {holds : ω → Prop}
    (each : ∀ request, Exec.Logs holds (serve request)) (program : Program Req Res α) :
    Exec.Logs holds (interpret serve program) := by
  induction program with
  | ret value =>
    intro state observation member
    exact absurd member List.not_mem_nil
  | call request next inductionHypothesis =>
    exact Exec.Logs.bind (each request) inductionHypothesis

end Program
