import EventLoop.Library.Program

/-!
# Two computations in lockstep

Two logging computations run in lockstep when, from states that are related, they
log the same, and either both return, the same value in states that are related
again, or both abort for the same reason. Nothing observable then tells the two
starting states apart. The rules follow the shape of the computations; only
reading the state has to be justified where the states differ.
-/

universe u

namespace Exec

variable {σ ω ε α β : Type u}

/-- Both returned the same value, in related states, or both aborted alike. -/
inductive Matched (post : α → σ → σ → Prop) :
    Except ε (α × σ) → Except ε (α × σ) → Prop
  | returned {value : α} {left right : σ} (related : post value left right) :
      Matched post (.ok (value, left)) (.ok (value, right))
  | aborted (reason : ε) : Matched post (.error reason) (.error reason)

/-- The condition on what two computations return may be weakened. -/
theorem Matched.mono {post wider : α → σ → σ → Prop} {first second : Except ε (α × σ)}
    (matched : Matched post first second)
    (weaker : ∀ value left right, post value left right → wider value left right) :
    Matched wider first second := by
  cases matched with
  | returned held => exact .returned (weaker _ _ _ held)
  | aborted reason => exact .aborted reason

/-- From related states the computations log the same and end alike. -/
def Lockstep (pre : σ → σ → Prop) (first second : Exec σ ω ε α) (post : α → σ → σ → Prop) : Prop :=
  ∀ left right, pre left right →
    (first left).log = (second right).log ∧ Matched post (first left).result (second right).result

variable {pre : σ → σ → Prop}

/-- Returning the same value on both sides keeps step, from states that are related as
asked. -/
theorem Lockstep.ret {post : α → σ → σ → Prop} (value : α)
    (established : ∀ left right, pre left right → post value left right) :
    Lockstep pre (pure value : Exec σ ω ε α) (pure value) post := by
  intro left right related
  exact ⟨rfl, .returned (established left right related)⟩

/-- Returning keeps the states related as they are. -/
theorem Lockstep.keep (value : α) :
    Lockstep pre (pure value : Exec σ ω ε α) (pure value) (fun _ => pre) :=
  .ret value (fun _ _ related => related)

/-- So does aborting for the same reason, after which nothing is asked of the states. -/
theorem Lockstep.abort {post : α → σ → σ → Prop} (reason : ε) :
    Lockstep pre (abort reason : Exec σ ω ε α) (abort reason) post := by
  intro left right _
  exact ⟨rfl, .aborted reason⟩

/-- Sequencing: the second parts start from whatever the first parts return, in
states the first parts left related. -/
theorem Lockstep.bind {middle : α → σ → σ → Prop} {post : β → σ → σ → Prop}
    {first second : Exec σ ω ε α} {next later : α → Exec σ ω ε β}
    (initial : Lockstep pre first second middle)
    (rest : ∀ value, Lockstep (middle value) (next value) (later value) post) :
    Lockstep pre (first >>= next) (second >>= later) post := by
  intro left right related
  obtain ⟨logged, ended⟩ := initial left right related
  rcases run : first left with ⟨log, result⟩
  rcases other : second right with ⟨otherLog, otherResult⟩
  rw [run, other] at logged ended
  dsimp only at logged ended
  subst logged
  cases ended with
  | returned held =>
    obtain ⟨loggedRest, endedRest⟩ := rest _ _ _ held
    rw [bind_ok run, bind_ok other, loggedRest]
    exact ⟨rfl, endedRest⟩
  | aborted reason =>
    rw [bind_error run, bind_error other]
    exact ⟨rfl, .aborted reason⟩

/-- Computations that inspect the state may be checked at each pair of related
states separately. -/
theorem Lockstep.read_bind {post : β → σ → σ → Prop} {next later : σ → Exec σ ω ε β}
    (each : ∀ left right, pre left right →
      Lockstep (fun now other => now = left ∧ other = right) (next left) (later right) post) :
    Lockstep pre (read >>= next) (read >>= later) post := by
  intro left right related
  rw [Exec.read_bind, Exec.read_bind]
  exact each left right related left right ⟨rfl, rfl⟩

/-- Preconditions strengthen and postconditions weaken. -/
theorem Lockstep.consequence {narrower : σ → σ → Prop} {post wider : α → σ → σ → Prop}
    {first second : Exec σ ω ε α} (lockstep : Lockstep pre first second post)
    (stronger : ∀ left right, narrower left right → pre left right)
    (weaker : ∀ value left right, post value left right → wider value left right) :
    Lockstep narrower first second wider := by
  intro left right related
  obtain ⟨logged, ended⟩ := lockstep left right (stronger left right related)
  exact ⟨logged, ended.mono weaker⟩

end Exec

namespace Program

variable {Req : Type} {Res : Req → Type} {α : Type} {σ ω ε : Type}

/-- A program runs in lockstep with itself when the answers to its requests do. -/
theorem lockstep_interpret {serve : (request : Req) → Exec σ ω ε (Res request)}
    {keeps : σ → σ → Prop}
    (each : ∀ request, Exec.Lockstep keeps (serve request) (serve request) (fun _ => keeps))
    (program : Program Req Res α) :
    Exec.Lockstep keeps (interpret serve program) (interpret serve program) (fun _ => keeps) := by
  induction program with
  | ret value => exact Exec.Lockstep.keep value
  | call request next inductionHypothesis =>
    exact Exec.Lockstep.bind (each request) inductionHypothesis

end Program
