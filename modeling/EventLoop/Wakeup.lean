import EventLoop.Endpoint

/-!
# No wakeup is lost

A caller enqueues its message before it writes the eventfd, and the manager reads
the eventfd before it drains the queue. Outside a drain a message in the queue is
therefore announced: the counter is positive, or the write that makes it so is
still to come. A failed write announces too, because only a full counter fails
it.
-/

namespace EventLoop

open Transition

namespace System

variable {types : ResultTypes} {service : Service}

/-- Some caller has enqueued its message and not yet written the eventfd. -/
def Writing (system : System types service) : Prop :=
  ∃ call caller, system.callers call = some caller ∧ caller.phase = .enqueued

/-- A queued message is announced. -/
def Announced (system : System types service) : Prop :=
  system.queue ≠ [] → 0 < system.eventFd.counter ∨ system.Writing

/-- A caller that is not yet to write its eventfd may move; the others stay. -/
theorem Writing.keep {system next : System types service} (moved : CallId)
    (writing : system.Writing)
    (elsewhere : ∀ caller, system.callers moved = some caller → caller.phase ≠ .enqueued)
    (others : ∀ call, call ≠ moved → next.callers call = system.callers call) :
    next.Writing := by
  obtain ⟨call, caller, found, phase⟩ := writing
  have other : call ≠ moved := by
    rintro rfl
    exact elsewhere caller found phase
  exact ⟨call, caller, (others call other).trans found, phase⟩

/-- Enqueuing makes the caller one that is still to write. -/
theorem accept_writing (system : System types service) (message : FnMsg types service) :
    (system.accept message).Writing :=
  ⟨message.call, ⟨message.code, message.sender.isSome, .enqueued⟩, by simp [accept], rfl⟩

/-- A refused call is new. -/
theorem Writing.refuse {system : System types service} {message : FnMsg types service}
    (writing : system.Writing) (fresh : system.callers message.call = none) :
    (system.refuse message).Writing := by
  refine writing.keep message.call ?_ ?_
  · intro caller found
    rw [fresh] at found
    cases found
  · intro call other
    simp [System.refuse, other]

/-- A call that waits for its result has written. -/
theorem Writing.receive {system : System types service} {call : CallId} {caller : Caller types}
    (writing : system.Writing) (found : system.callers call = some caller)
    (phase : caller.phase = .waiting) (outcome : CallOutcome types caller.code) :
    (system.receive call caller outcome).Writing := by
  refine writing.keep call ?_ ?_
  · intro other same
    obtain rfl : caller = other := Option.some.inj (found.symm.trans same)
    rw [phase]
    exact nofun
  · intro other different
    simp [System.receive, settle, different]

/-- A call that receives is not one that is still to write. -/
theorem receive_writing {system : System types service} {call : CallId}
    {caller : Caller types} {outcome : CallOutcome types caller.code}
    (found : system.callers call = some caller) (phase : caller.phase = .waiting) :
    (system.receive call caller outcome).Writing ↔ system.Writing := by
  constructor
  · rintro ⟨other, moved, there, enqueued⟩
    obtain ⟨rfl, rfl⟩ | ⟨_, before⟩ := PartialMap.insert_eq_some there
    · simp at enqueued
    · exact ⟨other, moved, before, enqueued⟩
  · intro writing
    exact writing.receive found phase outcome

/-- A call that has written is no longer about to. -/
theorem write_writing {system : System types service} {call : CallId}
    {caller : Caller types} (writing : (system.write call caller).Writing) :
    ∃ other before, other ≠ call ∧ system.callers other = some before ∧
      before.phase = .enqueued := by
  obtain ⟨other, moved, there, phase⟩ := writing
  obtain ⟨rfl, rfl⟩ | ⟨distinct, before⟩ := PartialMap.insert_eq_some there
  · have settled : caller.written system.eventFd.write.1 ≠ .enqueued := by
      unfold Caller.written
      split
      · split
        · simp
        · simp
      · simp
    exact absurd phase settled
  · exact ⟨other, moved, distinct, before, phase⟩

/-- Outside a drain every step keeps a queued message announced, and a drain ends
only on an empty queue. -/
theorem announced_step {system next : System types service} {action : Action types service}
    (announced : ¬ system.control.InDrain → system.Announced) (stepped : Step system action next) :
    ¬ next.control.InDrain → next.Announced := by
  intro outside pending
  cases stepped with
  | send => exact Or.inr (accept_writing system _)
  | reject _ fresh gone =>
    exact (announced (by rw [gone]; exact id) pending).imp id (fun writing => writing.refuse fresh)
  | write => exact Or.inl (EventFd.write_counter _)
  | receive found phase =>
    exact (announced outside pending).imp id (fun writing => writing.receive found phase _)
  | disconnected found phase =>
    exact (announced outside pending).imp id (fun writing => writing.receive found phase _)
  | kick => exact Or.inl (EventFd.write_counter _)
  | act => exact announced outside pending
  | wait idle => exact announced (by rw [idle]; exact id) pending
  | dismiss idle => exact announced (by rw [idle]; exact id) pending
  | read => exact absurd trivial outside
  | take => exact absurd trivial outside
  | empty _ none => exact absurd none pending
  | request => exact absurd trivial outside
  | fire => exact absurd trivial outside
  | resume => exact absurd trivial outside
  | kickInside => exact absurd trivial outside
  | finish => exact absurd trivial outside
  | drop => exact absurd rfl pending

/-- In every state of every run. -/
theorem announced_run {manager : service.State} {history : List (Action types service)}
    {system : System types service} (run : Run Step (initial manager) history system) :
    ¬ system.control.InDrain → system.Announced :=
  run.invariant (fun _ state => ¬ state.control.InDrain → state.Announced)
    (fun _ nonempty => absurd rfl nonempty)
    (fun _ _ _ _ announced stepped => announced_step announced stepped)

/-- Whatever the callers do and however their steps fall between the manager's,
a message in the queue outside a drain has its eventfd counter positive or a
write still to come.

Proof: a message is enqueued before its sender writes, and a drain ends only where it
finds the queue empty; so outside a drain whoever last enqueued is still to write, or has
written and nothing has been read since. -/
theorem no_lost_wakeup {manager : service.State} {history : List (Action types service)}
    {system : System types service} (run : Run Step (initial manager) history system)
    (outside : ¬ system.control.InDrain) (pending : system.queue ≠ []) :
    0 < system.eventFd.counter ∨
      ∃ call caller, system.callers call = some caller ∧ caller.phase = .enqueued :=
  announced_run run outside pending

/-- Kicks alone can bring the counter to any value it can hold. -/
theorem kicked (manager : service.State) (count : Nat) (bounded : count ≤ 2 ^ 64 - 2) :
    ∃ history : List (Action types service),
      Run Step (initial manager) history { initial manager with eventFd := ⟨count, bounded⟩ } := by
  induction count with
  | zero => exact ⟨[], .nil⟩
  | succ count inductionHypothesis =>
    obtain ⟨history, run⟩ := inductionHypothesis (by omega)
    have room : count < 2 ^ 64 - 2 := by omega
    have stepped := run.snoc Step.kick
    rw [EventFd.write_room room] at stepped
    exact ⟨_, stepped⟩

/-- On a counter that is full, the write of a fire fails; its message stays queued. -/
theorem saturated :
    ∃ (history : List (Action RemoteResult.types EventManager.scripted))
      (system : System RemoteResult.types EventManager.scripted),
      Run Step System.fresh history system ∧ system.control = .outside ∧
        0 < system.eventFd.counter ∧ system.queue = [FnMsg.fire 0 (.ret ())] ∧
        system.callers 0 = some ⟨.nothing, false, .returned (.failed (.eventFd .EAGAIN))⟩ := by
  obtain ⟨history, run⟩ := @kicked RemoteResult.types EventManager.scripted EventManager.fresh
    (2 ^ 64 - 2) (Nat.le_refl _)
  have sent := run.snoc (Step.send (FnMsg.Formed.fire 0 (Task.ret ())) rfl nofun)
  have written := sent.snoc (@Step.write _ _ _ 0 _ rfl rfl)
  exact ⟨_, _, written, rfl, EventFd.write_counter _, rfl, rfl⟩

/-- The message whose write failed is announced. -/
theorem no_lost_wakeup_saturated :
    ∃ (history : List (Action RemoteResult.types EventManager.scripted))
      (system : System RemoteResult.types EventManager.scripted),
      Run Step System.fresh history system ∧
        system.callers 0 = some ⟨.nothing, false, .returned (.failed (.eventFd .EAGAIN))⟩ ∧
        (0 < system.eventFd.counter ∨
          ∃ call caller, system.callers call = some caller ∧ caller.phase = .enqueued) := by
  obtain ⟨history, system, run, idle, _, queued, failed⟩ := saturated
  exact ⟨history, system, run, failed, no_lost_wakeup run (by simp [idle, Control.InDrain])
    (by simp [queued])⟩

end System

end EventLoop
