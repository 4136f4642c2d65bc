import EventLoop.Wakeup
import EventLoop.Replies

/-!
# Requests whose submission fails

Submitting a request takes two steps: its message is enqueued, then the eventfd is
written. Either can fail, and the two failures mean different things. When the
queue has lost its receiver nothing was submitted and nothing will run. When the
eventfd is full the message is already in the queue, announced by the counter
that left no room; it runs like any other, once, and a caller that tries again has
submitted twice. The order of the two steps is what keeps wakeups from being lost,
so the second one cannot be a condition of the first.
-/

namespace EventLoop

open Transition

variable {types : ResultTypes} {service : Service}

/-- Everything a step can do to the table of calls. -/
inductive CallersMove (system : System types service) (action : Action types service) :
    (CallId → Option (Caller types)) → Prop
  | same : CallersMove system action system.callers
  | accepted (message : FnMsg types service) (enqueues : action.enqueues = some message) :
      CallersMove system action (PartialMap.insert system.callers message.call
        ⟨message.code, message.sender.isSome, .enqueued⟩)
  | refused (message : FnMsg types service) :
      CallersMove system action (PartialMap.insert system.callers message.call
        ⟨message.code, message.sender.isSome, .returned (.failed .channelSend)⟩)
  | written (call : CallId) (caller : Caller types) (found : system.callers call = some caller)
      (phase : caller.phase = .enqueued) :
      CallersMove system action (PartialMap.insert system.callers call
        { caller with phase := caller.written system.eventFd.write.1 })
  | received (call : CallId) (caller : Caller types) (found : system.callers call = some caller)
      (phase : caller.phase = .waiting) (outcome : CallOutcome types caller.code)
      (ended : ∀ errno, outcome ≠ .failed (.eventFd errno)) :
      CallersMove system action (PartialMap.insert system.callers call
        { caller with phase := .returned outcome })

/-- Every step leaves the table of calls or writes one entry of it. -/
theorem Step.callers {system next : System types service} {action : Action types service}
    (stepped : Step system action next) : CallersMove system action next.callers := by
  cases stepped with
  | send => exact .accepted _ rfl
  | @fire _ call body => exact .accepted (FnMsg.fire call body) rfl
  | reject => exact .refused _
  | write found phase => exact .written _ _ found phase
  | @receive call caller erased found phase =>
    refine .received _ _ found phase _ (fun errno => ?_)
    unfold Caller.received
    split
    · simp
    · simp
  | disconnected found phase =>
    exact .received _ _ found phase _ (fun errno => by simp)
  | kick => exact .same
  | act => exact .same
  | wait => exact .same
  | dismiss => exact .same
  | read => exact .same
  | take => exact .same
  | empty => exact .same
  | request => exact .same
  | resume => exact .same
  | kickInside => exact .same
  | finish => exact .same
  | drop => exact .same

/-- A write fails only for want of room. -/
theorem EventFd.write_error {eventFd : EventFd} {errno : Errno}
    (failed : eventFd.write.1 = .error errno) : errno = .EAGAIN := by
  unfold write at failed
  split at failed
  · cases failed
  · exact (Except.error.inj failed).symm

/-- What a call has submitted: its message, unless the queue had lost its receiver;
and a write of the eventfd fails for one reason. -/
structure Submitted (history : List (Action types service)) (system : System types service) :
    Prop where
  sent : ∀ call caller, system.callers call = some caller →
    (∃ message ∈ enqueued history, message.call = call) ∨
      caller.phase = .returned (.failed .channelSend)
  full : ∀ call caller errno, system.callers call = some caller →
    caller.phase = .returned (.failed (.eventFd errno)) → errno = .EAGAIN
  cleared : system.control = .dropped → system.queue = []

namespace Submitted

variable {history : List (Action types service)} {system next : System types service}
  {action : Action types service}

/-- A call that is not over has its message enqueued. -/
theorem pending (submitted : Submitted history system) {call : CallId} {caller : Caller types}
    (found : system.callers call = some caller)
    (unsettled : ∀ outcome, caller.phase ≠ .returned outcome) :
    ∃ message ∈ enqueued history, message.call = call :=
  (submitted.sent call caller found).resolve_right (unsettled _)

/-- A call has its message enqueued or was refused, and a step keeps that. A call enters
the table with its message or with its refusal, and neither is taken back. -/
theorem sent_step (submitted : Submitted history system) (stepped : Step system action next) :
    ∀ call caller, next.callers call = some caller →
      (∃ message ∈ enqueued (history ++ [action]), message.call = call) ∨
        caller.phase = .returned (.failed .channelSend) := by
  have earlier : ∀ call, (∃ message ∈ enqueued history, message.call = call) →
      ∃ message ∈ enqueued (history ++ [action]), message.call = call := by
    rintro call ⟨message, member, own⟩
    rw [enqueued_snoc]
    exact ⟨message, List.mem_append_left _ member, own⟩
  have kept : ∀ call caller, system.callers call = some caller →
      (∃ message ∈ enqueued (history ++ [action]), message.call = call) ∨
        caller.phase = .returned (.failed .channelSend) :=
    fun call caller found => (submitted.sent call caller found).imp_left (earlier call)
  have move := stepped.callers
  generalize next.callers = callers at move
  intro call caller found
  cases move with
  | same => exact kept call caller found
  | accepted message enqueues =>
    obtain ⟨rfl, rfl⟩ | ⟨_, before⟩ := PartialMap.insert_eq_some found
    · refine Or.inl ⟨message, ?_, rfl⟩
      rw [enqueued_snoc, enqueues]
      exact List.mem_append_right _ (List.mem_singleton_self message)
    · exact kept call caller before
  | refused message =>
    obtain ⟨rfl, rfl⟩ | ⟨_, before⟩ := PartialMap.insert_eq_some found
    · exact Or.inr rfl
    · exact kept call caller before
  | written writer old registered phase =>
    obtain ⟨rfl, rfl⟩ | ⟨_, before⟩ := PartialMap.insert_eq_some found
    · exact Or.inl (earlier _ (submitted.pending registered (by simp [phase])))
    · exact kept call caller before
  | received receiver old registered phase outcome ended =>
    obtain ⟨rfl, rfl⟩ | ⟨_, before⟩ := PartialMap.insert_eq_some found
    · exact Or.inl (earlier _ (submitted.pending registered (by simp [phase])))
    · exact kept call caller before

/-- Only a full eventfd fails a write, and it fails with `EAGAIN`. The outcome is written
by the write itself, whose only error that is. -/
theorem full_step (submitted : Submitted history system) (stepped : Step system action next) :
    ∀ call caller errno, next.callers call = some caller →
      caller.phase = .returned (.failed (.eventFd errno)) → errno = .EAGAIN := by
  have move := stepped.callers
  generalize next.callers = callers at move
  intro call caller errno found failed
  cases move with
  | same => exact submitted.full call caller errno found failed
  | accepted message enqueues =>
    obtain ⟨rfl, rfl⟩ | ⟨_, before⟩ := PartialMap.insert_eq_some found
    · simp at failed
    · exact submitted.full call caller errno before failed
  | refused message =>
    obtain ⟨rfl, rfl⟩ | ⟨_, before⟩ := PartialMap.insert_eq_some found
    · simp at failed
    · exact submitted.full call caller errno before failed
  | written writer old registered phase =>
    obtain ⟨rfl, rfl⟩ | ⟨_, before⟩ := PartialMap.insert_eq_some found
    · rcases result : system.eventFd.write.1 with reason | _
      · simp only [Caller.written, result, CallPhase.returned.injEq, CallOutcome.failed.injEq,
          Error.eventFd.injEq] at failed
        rw [← failed]
        exact EventFd.write_error result
      · simp only [Caller.written, result] at failed
        split at failed
        · cases failed
        · cases failed
    · exact submitted.full call caller errno before failed
  | received receiver old registered phase outcome ended =>
    obtain ⟨rfl, rfl⟩ | ⟨_, before⟩ := PartialMap.insert_eq_some found
    · exact absurd (CallPhase.returned.inj failed) (ended errno)
    · exact submitted.full call caller errno before failed

/-- Dropping the manager empties the queue, and a dropped manager has none. -/
theorem cleared_step (submitted : Submitted history system) (stepped : Step system action next)
    (gone : next.control = .dropped) : next.queue = [] := by
  cases stepped with
  | send _ _ alive => exact absurd gone alive
  | drop => rfl
  | reject => exact submitted.cleared gone
  | write => exact submitted.cleared gone
  | receive => exact submitted.cleared gone
  | disconnected => exact submitted.cleared gone
  | kick => exact submitted.cleared gone
  | act => exact submitted.cleared gone
  | wait => cases gone
  | dismiss => cases gone
  | read => cases gone
  | take => cases gone
  | empty => cases gone
  | request => cases gone
  | fire => cases gone
  | resume => cases gone
  | kickInside => cases gone
  | finish => cases gone

/-- So it is in every state of every run. -/
theorem of_run {manager : service.State} (run : Run Step (System.initial manager) history system) :
    Submitted history system := by
  refine run.invariant Submitted ⟨?_, ?_, ?_⟩ ?_
  · intro call caller found
    cases found
  · intro call caller errno found
    cases found
  · intro gone
    cases gone
  · intro past state label after submitted stepped
    exact ⟨submitted.sent_step stepped, submitted.full_step stepped,
      submitted.cleared_step stepped⟩

end Submitted

/-- What the two failures of a submission mean. -/
structure FailedSubmission (history : List (Action types service))
    (system : System types service) (call : CallId) : Prop where
  /-- Nothing was submitted, is queued or will run: trying again is safe. -/
  channelSend : ∀ code blocking,
    system.callers call = some ⟨code, blocking, .returned (.failed .channelSend)⟩ →
      (∀ message ∈ system.queue, message.call ≠ call) ∧ NeverRuns history system call
  /-- The counter was full. The message was enqueued, stays queued until the manager
  takes it or is dropped, and is taken at most once in any continuation. -/
  eventFd : ∀ code blocking errno,
    system.callers call = some ⟨code, blocking, .returned (.failed (.eventFd errno))⟩ →
      errno = .EAGAIN ∧
      (∃ message ∈ enqueued history, message.call = call ∧
        (system.control ≠ .dropped → message ∈ system.queue ∨ message ∈ taken history)) ∧
      ∀ later final, Run Step system later final →
        ((taken (history ++ later)).filter (fun message => message.call = call)).length ≤ 1

/-- In every state of every run of the protocol: a request whose submission failed
for want of a receiver has no effect, and one whose notification failed has been
submitted once.

Proof: a refused call has no message, and a manager that is gone takes none. A call whose
write failed had enqueued its one message before, which is in the queue or was taken from
it. -/
theorem System.failed_submission {manager : service.State} {history : List (Action types service)}
    {system : System types service} (run : Run Step (System.initial manager) history system)
    (call : CallId) : FailedSubmission history system call := by
  have ledger := Ledger.of_run run
  have submitted := Submitted.of_run run
  constructor
  · intro code blocking found
    have lost : Lost history system call := ledger.settled call _ _ found rfl
    refine ⟨?_, lost.neverRuns⟩
    rw [submitted.cleared lost.1]
    intro message member
    exact absurd member List.not_mem_nil
  · intro code blocking errno found
    refine ⟨submitted.full call _ errno found rfl, ?_, ?_⟩
    · obtain ⟨message, member, own⟩ := (submitted.sent call _ found).resolve_right (by simp)
      refine ⟨message, member, own, fun alive => ?_⟩
      rw [ledger.flow.queued alive] at member
      exact (List.mem_append.mp member).symm
    · intro later final rest
      have whole := (Ledger.of_run (run.append rest)).flow
      have once : ((taken (history ++ later)).map FnMsg.call).Nodup :=
        whole.distinct.sublist (whole.ordered.map FnMsg.call).sublist
      exact PartialMap.filter_key_length once call

/-- The fire whose write found the counter full. -/
theorem System.failed_submission_saturated :
    ∃ (history : List (Action RemoteResult.types EventManager.scripted))
      (system : System RemoteResult.types EventManager.scripted),
      Run Step System.fresh history system ∧
        system.callers 0 = some ⟨.nothing, false, .returned (.failed (.eventFd .EAGAIN))⟩ ∧
        FailedSubmission history system 0 := by
  obtain ⟨history, system, run, _, _, _, failed⟩ := System.saturated
  exact ⟨history, system, run, failed, System.failed_submission run 0⟩

/-- It returned an error, its closure is in the queue, and the next drain runs it. -/
theorem System.failed_submission_runs :
    ∃ (history : List (Action RemoteResult.types EventManager.scripted))
      (system : System RemoteResult.types EventManager.scripted),
      Run Step System.fresh history system ∧
        system.callers 0 = some ⟨.nothing, false, .returned (.failed (.eventFd .EAGAIN))⟩ ∧
        FnMsg.fire 0 (.ret ()) ∈ system.queue ∧
        ∃ later final, Run Step system later final ∧
          ⟨FnMsg.fire 0 (.ret ()), ()⟩ ∈ executed later := by
  obtain ⟨history, system, run, idle, ready, queued, failed⟩ := System.saturated
  have begun : Run Step system [] system := Run.nil
  have drained := ((begun.snoc (.wait idle ready)).snoc (.read rfl)).snoc (.take rfl queued)
  have ran := drained.snoc (.finish rfl)
  exact ⟨history, system, run, failed, by simp [queued], _, _, ran, List.mem_singleton_self _⟩

end EventLoop
