import EventLoop.Settling
import EventLoop.Library.Fairness

/-!
# Under fair scheduling every call returns

Threads may go on sending and kicking for ever, and closures may fire further
closures. If the manager goes on turning its loop, every thread goes on with the
call it is in, no request makes the manager panic, and the endpoint stays registered,
then every message that is ever enqueued has its closure run to its end and every call
returns. A message is reached because the queue is first in, first out: what others
append stands behind it, and each drain takes from the front.

What the kernel makes possible is part of the behaviours: a wait reports the endpoint
only while the manager listens for it, and a report is discarded only where it does not.
So the manager cannot be asked to hear of what no wait reports, and while it listens it
comes to every report.
-/

namespace EventLoop

open Transition

variable {types : ResultTypes} {service : Service}

/-- The manager's own steps as far as the endpoint is concerned. -/
def Action.Manages : Action types service → Prop
  | .wait => True
  | .read => True
  | .take _ => True
  | .empty => True
  | .request => True
  | .fire _ => True
  | .resume => True
  | .kickInside => True
  | .finish _ _ => True
  | _ => False

/-- Where the manager stands decides what it does. -/
inductive Managed (system next : System types service) :
    Action types service → Control types service → Prop
  | wait (control : next.control = .notified) (queue : next.queue = system.queue) :
      Managed system next .wait .outside
  | read (control : next.control = .draining) (queue : next.queue = system.queue) :
      Managed system next .read .notified
  | take {message : FnMsg types service} {rest : List (FnMsg types service)}
      (first : system.queue = message :: rest)
      (control : next.control = .running message message.fnbox) (queue : next.queue = rest) :
      Managed system next (.take message) .draining
  | empty (none : system.queue = []) (control : next.control = .outside) :
      Managed system next .empty .draining
  | request {message : FnMsg types service} {request : service.Req}
      {task : service.Res request → Task types service message.code}
      (response : service.Res request) (control : next.control = .running message (task response))
      (queue : next.queue = system.queue) :
      Managed system next .request (.running message (.request request task))
  | fire {message : FnMsg types service} {call : CallId} {body : Task types service types.unit}
      {task : Except Error Unit → Task types service message.code}
      (control : next.control = .firing message call task)
      (queue : next.queue = system.queue ++ [FnMsg.fire call body]) :
      Managed system next (.fire (FnMsg.fire call body)) (.running message (.fire body task))
  | resume {message : FnMsg types service} {call : CallId} {caller : Caller types}
      {task : Except Error Unit → Task types service message.code}
      {outcome : CallOutcome types caller.code} (found : system.callers call = some caller)
      (phase : caller.phase = .returned outcome)
      (control : next.control = .running message (task outcome.toResult))
      (queue : next.queue = system.queue) :
      Managed system next .resume (.firing message call task)
  | kickInside {message : FnMsg types service}
      {task : Except Error Unit → Task types service message.code} (result : Except Error Unit)
      (control : next.control = .running message (task result))
      (queue : next.queue = system.queue) :
      Managed system next .kickInside (.running message (.kick task))
  | finish {message : FnMsg types service} {value : types.Val message.code}
      (control : next.control = .draining) (queue : next.queue = system.queue) :
      Managed system next (.finish message value) (.running message (.ret value))

/-- Everything one of the manager's own steps does to its control and to the queue. Each
of them needs the control in one form, which says which step it is. -/
theorem Step.managed {system next : System types service} {action : Action types service}
    (stepped : Step system action next) (manages : action.Manages) :
    Managed system next action system.control := by
  cases stepped with
  | wait idle =>
    rw [idle]
    exact .wait rfl rfl
  | read idle =>
    rw [idle]
    exact .read rfl rfl
  | take draining first =>
    rw [draining]
    exact .take first rfl rfl
  | empty draining none =>
    rw [draining]
    exact .empty none rfl
  | request running =>
    rw [running]
    exact .request _ rfl rfl
  | @fire _ call body _ running =>
    rw [running]
    exact .fire rfl rfl
  | resume firing found phase =>
    rw [firing]
    exact .resume found phase rfl rfl
  | kickInside running =>
    rw [running]
    exact .kickInside _ rfl rfl
  | finish running =>
    rw [running]
    exact .finish rfl rfl
  | send => exact manages.elim
  | reject => exact manages.elim
  | write => exact manages.elim
  | receive => exact manages.elim
  | disconnected => exact manages.elim
  | kick => exact manages.elim
  | act => exact manages.elim
  | dismiss => exact manages.elim
  | drop => exact manages.elim

/-- None of its own steps ends the manager. -/
theorem Managed.alive {system next : System types service} {action : Action types service}
    {control : Control types service} (move : Managed system next action control) :
    next.control ≠ .dropped := by
  cases move with
  | wait control => simp [control]
  | read control => simp [control]
  | take first control => simp [control]
  | empty none control => simp [control]
  | request response control => simp [control]
  | fire control => simp [control]
  | resume found phase control => simp [control]
  | kickInside result control => simp [control]
  | finish control => simp [control]

/-- Steps of others leave the manager where it is and only append to the queue. They are
the steps of callers: a send appends its message, and a write, a receive or a kick touches
neither. -/
theorem Step.others {system next : System types service} {action : Action types service}
    (stepped : Step system action next) (other : ¬ action.Manages) (kept : action ≠ .dismiss)
    (alive : action ≠ .drop) :
    next.control = system.control ∧ ∃ appended, next.queue = system.queue ++ appended := by
  have still : ∃ appended, system.queue = system.queue ++ appended := ⟨[], by simp⟩
  cases stepped with
  | send => exact ⟨rfl, _, rfl⟩
  | reject => exact ⟨rfl, still⟩
  | write => exact ⟨rfl, still⟩
  | receive => exact ⟨rfl, still⟩
  | disconnected => exact ⟨rfl, still⟩
  | kick => exact ⟨rfl, still⟩
  | act => exact ⟨rfl, still⟩
  | dismiss => exact absurd rfl kept
  | drop => exact absurd rfl alive
  | wait => exact absurd trivial other
  | read => exact absurd trivial other
  | take => exact absurd trivial other
  | empty => exact absurd trivial other
  | request => exact absurd trivial other
  | fire => exact absurd trivial other
  | resume => exact absurd trivial other
  | kickInside => exact absurd trivial other
  | finish => exact absurd trivial other

/-- Only a call itself moves on, and only by writing or receiving. By cases on the step:
every entry of the table but that of the call that moves is left, and a message sent is of
a new call. -/
theorem Step.caller_kept {system next : System types service} {action : Action types service}
    (stepped : Step system action next) {call : CallId} {caller : Caller types}
    (found : system.callers call = some caller) :
    next.callers call = some caller ∨ (action = .write call ∧ caller.phase = .enqueued) ∨
      (action = .receive call ∧ caller.phase = .waiting) := by
  have other {moved : CallId} {mover : Caller types} (distinct : call ≠ moved) :
      PartialMap.insert system.callers moved mover call = some caller := by
    simp [distinct, found]
  have fresh {moved : CallId} (new : system.callers moved = none) : call ≠ moved := by
    rintro rfl
    rw [new] at found
    cases found
  cases stepped with
  | send _ new => exact Or.inl (other (fresh new))
  | reject _ new => exact Or.inl (other (fresh new))
  | fire _ new => exact Or.inl (other (fresh new))
  | @write moved mover registered phase =>
    by_cases here : call = moved
    · subst here
      obtain rfl : mover = caller := Option.some.inj (registered.symm.trans found)
      exact Or.inr (Or.inl ⟨rfl, phase⟩)
    · exact Or.inl (other here)
  | @receive moved mover _ registered phase =>
    by_cases here : call = moved
    · subst here
      obtain rfl : mover = caller := Option.some.inj (registered.symm.trans found)
      exact Or.inr (Or.inr ⟨rfl, phase⟩)
    · exact Or.inl (other here)
  | @disconnected moved mover registered phase =>
    by_cases here : call = moved
    · subst here
      obtain rfl : mover = caller := Option.some.inj (registered.symm.trans found)
      exact Or.inr (Or.inr ⟨rfl, phase⟩)
    · exact Or.inl (other here)
  | kick => exact Or.inl found
  | act => exact Or.inl found
  | wait => exact Or.inl found
  | dismiss => exact Or.inl found
  | read => exact Or.inl found
  | take => exact Or.inl found
  | empty => exact Or.inl found
  | request => exact Or.inl found
  | resume => exact Or.inl found
  | kickInside => exact Or.inl found
  | finish => exact Or.inl found
  | drop => exact Or.inl found

/-- The eventfd stays positive until it is read. -/
theorem Step.counter_kept {system next : System types service} {action : Action types service}
    (stepped : Step system action next) (unread : action ≠ .read)
    (ready : 0 < system.eventFd.counter) : 0 < next.eventFd.counter := by
  cases stepped with
  | write => exact EventFd.write_counter _
  | kick => exact EventFd.write_counter _
  | kickInside => exact EventFd.write_counter _
  | read => exact absurd rfl unread
  | send => exact ready
  | reject => exact ready
  | receive => exact ready
  | disconnected => exact ready
  | act => exact ready
  | wait => exact ready
  | dismiss => exact ready
  | take => exact ready
  | empty => exact ready
  | request => exact ready
  | fire => exact ready
  | resume => exact ready
  | finish => exact ready
  | drop => exact ready

/-- The call's channel has something to receive. -/
def Reply.Told : Reply types → Prop
  | .full _ => True
  | .closed => True
  | _ => False

/-- Nothing is sent over what is there to receive. -/
theorem Reply.Told.send {reply : Reply types} (told : reply.Told) (erased : ErasedResult types) :
    reply.send erased = reply := by
  cases reply with
  | full => rfl
  | closed => rfl
  | empty => exact told.elim
  | absent => exact told.elim

/-- Nor is it closed. -/
theorem Reply.Told.close {reply : Reply types} (told : reply.Told) : reply.close = reply := by
  cases reply with
  | full => rfl
  | closed => rfl
  | empty => exact told.elim
  | absent => exact told.elim

/-- The manager turns its loop and listens for its endpoint, threads go on with the calls
they are in, and nothing takes the manager away. -/
structure FairRun (listens : service.State → Prop)
    (behaviour : Behaviour (Guarded listens : System types service → _ → _ → Prop)) : Prop where
  /-- The manager is not passed over for ever. -/
  manager : behaviour.Fair Action.Manages
  /-- Nor is a thread that is to write the eventfd. -/
  writers : ∀ call, behaviour.Fair (fun action => action = .write call)
  /-- Nor one that can receive. -/
  receivers : ∀ call, behaviour.Fair (fun action => action = .receive call)
  /-- The endpoint's registration stands. -/
  listening : ∀ now, listens (behaviour.state now).manager
  /-- The manager is not dropped. -/
  alive : ∀ now, behaviour.label now ≠ some .drop
  /-- No request panics. -/
  served : ∀ now, ¬ (behaviour.state now).Panicked

/-- What holds of the queue and is kept by appending to it. -/
structure Appendable (holds : List (FnMsg types service) → Prop) : Prop where
  append : ∀ queue appended, holds queue → holds (queue ++ appended)

/-- A manager outside a drain moves only when the eventfd is positive. -/
theorem Step.outside_ready {system next : System types service} {action : Action types service}
    (stepped : Step system action next) (manages : action.Manages)
    (outside : system.control = .outside) : 0 < system.eventFd.counter := by
  have move := stepped.managed manages
  rw [outside] at move
  cases move with
  | wait =>
    cases stepped with
    | wait _ ready => exact ready

/-- A call that writes does what its write means for it, and no more. -/
theorem Step.write_own {system next : System types service} {call : CallId} {caller : Caller types}
    (stepped : Step system (.write call) next) (found : system.callers call = some caller) :
    next.callers call = some { caller with phase := caller.written system.eventFd.write.1 } ∧
      next.control = system.control ∧ next.queue = system.queue ∧ 0 < next.eventFd.counter := by
  cases stepped with
  | @write _ mover registered phase =>
    obtain rfl : mover = caller := Option.some.inj (registered.symm.trans found)
    refine ⟨?_, rfl, rfl, EventFd.write_counter _⟩
    simp [System.write, System.settle]

/-- The manager stands there, and the queue has the property. -/
def Stands {listens : service.State → Prop}
    (behaviour : Behaviour (Guarded listens : System types service → _ → _ → Prop))
    (holds : List (FnMsg types service) → Prop) (control : Control types service) (now : Nat) :
    Prop :=
  (behaviour.state now).control = control ∧ holds (behaviour.state now).queue

namespace FairRun

variable {listens : service.State → Prop}
  {behaviour : Behaviour (Guarded listens : System types service → _ → _ → Prop)}
  {holds : List (FnMsg types service) → Prop}

/-- What leads from a moment to the next is a step of the exchange, or nothing. -/
theorem steps (behaviour : Behaviour (Guarded listens : System types service → _ → _ → Prop))
    (now : Nat) :
    (∃ action, behaviour.label now = some action ∧
      Step (behaviour.state now) action (behaviour.state (now + 1))) ∨
      (behaviour.label now = none ∧ behaviour.state (now + 1) = behaviour.state now) := by
  refine (behaviour.moves_cases now).imp_left ?_
  rintro ⟨action, label, stepped, _⟩
  exact ⟨action, label, stepped⟩

/-- So what holds of every run holds at every moment. -/
theorem ran (behaviour : Behaviour (Guarded listens : System types service → _ → _ → Prop))
    (now : Nat) : ∃ history, Run Step (behaviour.state 0) history (behaviour.state now) := by
  obtain ⟨history, run⟩ := behaviour.reached now
  exact ⟨history, run.mono (fun guarded => guarded.1)⟩

/-- While the manager listens no report is discarded. -/
theorem undismissed (fair : FairRun listens behaviour) (now : Nat) :
    behaviour.label now ≠ some .dismiss := by
  intro dismissed
  rcases behaviour.moves_cases now with ⟨action, label, _, audible⟩ | ⟨none, _⟩
  · obtain rfl : action = .dismiss := Option.some.inj (label.symm.trans dismissed)
    exact audible (fair.listening now)
  · rw [none] at dismissed
    cases dismissed

/-- Until the manager moves it stays where it is, and messages are only appended. -/
theorem unmoved (fair : FairRun listens behaviour) (appendable : Appendable holds)
    {control : Control types service} {now : Nat} (stands : Stands behaviour holds control now)
    (passed : ¬ behaviour.Takes Action.Manages now) :
    Stands behaviour holds control (now + 1) := by
  obtain ⟨there, kept⟩ := stands
  rcases steps behaviour now with ⟨action, label, stepped⟩ | ⟨_, same⟩
  · have other : ¬ action.Manages := fun manages => passed ⟨action, label, manages⟩
    have undismissed : action ≠ .dismiss := fun same => fair.undismissed now (same ▸ label)
    have undropped : action ≠ .drop := fun same => fair.alive now (same ▸ label)
    obtain ⟨control, appended, queue⟩ := stepped.others other undismissed undropped
    refine ⟨control.trans there, ?_⟩
    rw [queue]
    exact appendable.append _ appended kept
  · rw [Stands, same]
    exact ⟨there, kept⟩

/-- When the manager moves, where it stands decides how. -/
theorem managed {control : Control types service} {now : Nat}
    (stands : Stands behaviour holds control now) (taken : behaviour.Takes Action.Manages now) :
    ∃ action, behaviour.label now = some action ∧
      Managed (behaviour.state now) (behaviour.state (now + 1)) action control := by
  obtain ⟨action, label, manages⟩ := taken
  rcases steps behaviour now with ⟨other, entry, stepped⟩ | ⟨none, _⟩
  · obtain rfl : action = other := Option.some.inj (label.symm.trans entry)
    have move := stepped.managed manages
    rw [stands.1] at move
    exact ⟨action, label, move⟩
  · rw [none] at label
    cases label

/-- Where the manager can move it does, from the same place. -/
theorem moves (fair : FairRun listens behaviour) (appendable : Appendable holds)
    {control : Control types service}
    (possible : ∀ now, Stands behaviour holds control now →
      behaviour.Possible Action.Manages now) :
    LeadsTo (Stands behaviour holds control)
      (fun now => Stands behaviour holds control now ∧ ∃ action,
        behaviour.label now = some action ∧
        Managed (behaviour.state now) (behaviour.state (now + 1)) action control) := by
  have taken := fair.manager.takes possible (fun _ => fair.unmoved appendable)
  refine taken.trans (LeadsTo.of_imp ?_)
  rintro now ⟨stands, taken⟩
  exact ⟨stands, managed stands taken⟩

/-- A call that does not take its next step stays where it is. -/
theorem caller_stays {now : Nat} {call : CallId} {caller : Caller types}
    (found : (behaviour.state now).callers call = some caller)
    (unwritten : caller.phase = .enqueued → behaviour.label now ≠ some (.write call))
    (unreceived : caller.phase = .waiting → behaviour.label now ≠ some (.receive call)) :
    (behaviour.state (now + 1)).callers call = some caller := by
  rcases steps behaviour now with ⟨action, label, stepped⟩ | ⟨_, same⟩
  · rcases stepped.caller_kept found with kept | ⟨rfl, phase⟩ | ⟨rfl, phase⟩
    · exact kept
    · exact absurd label (unwritten phase)
    · exact absurd label (unreceived phase)
  · rw [same]
    exact found

/-- A write of the eventfd by a call that is to write it. -/
theorem write_taken {now : Nat} {call : CallId} {caller : Caller types}
    (found : (behaviour.state now).callers call = some caller)
    (taken : behaviour.Takes (fun action => action = .write call) now) :
    (behaviour.state (now + 1)).callers call = some { caller with
        phase := caller.written (behaviour.state now).eventFd.write.1 } ∧
      (behaviour.state (now + 1)).control = (behaviour.state now).control ∧
      (behaviour.state (now + 1)).queue = (behaviour.state now).queue ∧
      0 < (behaviour.state (now + 1)).eventFd.counter := by
  obtain ⟨action, label, rfl⟩ := taken
  rcases steps behaviour now with ⟨other, entry, stepped⟩ | ⟨none, _⟩
  · obtain rfl := Option.some.inj (label.symm.trans entry)
    exact stepped.write_own found
  · rw [none] at label
    cases label

section Stages

variable (fair : FairRun listens behaviour) (appendable : Appendable holds)
  {message : FnMsg types service} {call : CallId}
  {task : Except Error Unit → Task types service message.code}

include fair appendable

/-- The running closure's own fire writes the eventfd. The fire has two steps, and by
fairness a caller that is to write does so; until then the manager stays where it is. -/
theorem fire_writes :
    LeadsTo (fun now => Stands behaviour holds (.firing message call task) now ∧
        ∃ caller, (behaviour.state now).callers call = some caller ∧
          caller.blocking = false ∧ caller.phase = .enqueued)
      (fun now => Stands behaviour holds (.firing message call task) now ∧
        ∃ caller outcome, (behaviour.state now).callers call = some caller ∧
          caller.phase = .returned outcome) := by
  refine (fair.writers call).ensures ?_ ?_ ?_
  · rintro now ⟨_, caller, found, _, phase⟩
    exact ⟨_, _, rfl, .write found phase, trivial⟩
  · rintro now ⟨stands, caller, found, own, phase⟩ taken
    obtain ⟨moved, control, queue, _⟩ := write_taken found taken
    obtain ⟨outcome, returned⟩ := caller.written_fire own (behaviour.state now).eventFd.write.1
    rw [returned] at moved
    exact ⟨⟨control.trans stands.1, queue ▸ stands.2⟩,
      { caller with phase := .returned outcome }, outcome, moved, rfl⟩
  · rintro now ⟨stands, caller, found, own, phase⟩ passed
    have unmoved : ¬ behaviour.Takes Action.Manages now := by
      intro taken
      obtain ⟨action, _, move⟩ := managed stands taken
      cases move with
      | resume registered returned =>
        obtain rfl := Option.some.inj (found.symm.trans registered)
        rw [phase] at returned
        cases returned
    refine Or.inl ⟨fair.unmoved appendable stands unmoved, caller, ?_, own, phase⟩
    refine caller_stays found (fun _ label => passed ⟨_, label, rfl⟩) ?_
    intro waiting
    rw [phase] at waiting
    cases waiting

/-- And returns. -/
theorem fire_resumes :
    LeadsTo (fun now => Stands behaviour holds (.firing message call task) now ∧
        ∃ caller outcome, (behaviour.state now).callers call = some caller ∧
          caller.phase = .returned outcome)
      (fun now => ∃ result, Stands behaviour holds (.running message (task result)) now) := by
  refine fair.manager.ensures ?_ ?_ ?_
  · rintro now ⟨stands, caller, outcome, found, phase⟩
    exact ⟨.resume, _, trivial, .resume stands.1 found phase, trivial⟩
  · rintro now ⟨stands, _⟩ taken
    obtain ⟨action, _, move⟩ := managed stands taken
    cases move with
    | resume _ _ control queue => exact ⟨_, control, queue ▸ stands.2⟩
  · rintro now ⟨stands, caller, outcome, found, phase⟩ passed
    refine Or.inl ⟨fair.unmoved appendable stands passed, caller, outcome, ?_, phase⟩
    refine caller_stays found ?_ ?_
    · intro enqueued
      rw [phase] at enqueued
      cases enqueued
    · intro waiting
      rw [phase] at waiting
      cases waiting

/-- A fire that the running closure is in returns to it. -/
theorem fire_goes_on {manager : service.State}
    (started : behaviour.state 0 = System.initial manager) :
    LeadsTo (Stands behaviour holds (.firing message call task))
      (fun now => ∃ result, Stands behaviour holds (.running message (task result)) now) := by
  intro now stands
  obtain ⟨history, run⟩ := ran behaviour now
  rw [started] at run
  obtain ⟨caller, found, own⟩ := (Orderly.of_run run).fires message call task stands.1
  cases phase : caller.phase with
  | enqueued =>
    exact ((fair.fire_writes appendable).trans (fair.fire_resumes appendable)) now
      ⟨stands, caller, found, own, phase⟩
  | returned outcome =>
    exact fair.fire_resumes appendable now ⟨stands, caller, outcome, found, phase⟩
  | waiting =>
    have blocking := System.waiting_blocking (faulty_of_run (.untouched service) run) call
      caller found phase
    rw [own] at blocking
    cases blocking

/-- So does one it makes. Once it has written, the manager itself goes on with the
outcome, which it does as long as it is served. -/
theorem fire_returns {body : Task types service types.unit} {manager : service.State}
    (started : behaviour.state 0 = System.initial manager) :
    LeadsTo (Stands behaviour holds (.running message (.fire body task)))
      (fun now => ∃ result, Stands behaviour holds (.running message (task result)) now) := by
  have possible : ∀ now, Stands behaviour holds (.running message (.fire body task)) now →
      behaviour.Possible Action.Manages now := by
    intro now stands
    obtain ⟨history, run⟩ := ran behaviour now
    rw [started] at run
    obtain ⟨bound, none⟩ := System.FiniteCalls.of_run run
    exact ⟨.fire (FnMsg.fire bound body), _, trivial,
      .fire stands.1 (none bound (Nat.le_refl bound)), trivial⟩
  have made : LeadsTo (Stands behaviour holds (.running message (.fire body task)))
      (fun now => ∃ call, Stands behaviour holds (.firing message call task) now) := by
    refine (fair.moves appendable possible).trans (LeadsTo.next ?_)
    rintro now ⟨stands, action, label, move⟩
    cases move with
    | @fire _ call _ _ control queue =>
      refine ⟨call, control, ?_⟩
      rw [queue]
      exact appendable.append _ _ stands.2
  refine made.trans ?_
  rintro now ⟨call, firing⟩
  exact fair.fire_goes_on appendable started now firing

end Stages

/-- A closure that runs comes to its end. By induction on the closure's tree: the manager
takes the next step of it, for which a request is answered and a fire is waited for. -/
theorem closure_returns (fair : FairRun listens behaviour) (appendable : Appendable holds)
    {manager : service.State} (started : behaviour.state 0 = System.initial manager)
    {own : CallId} {code : types.Code} {fnbox : Task types service code} {sender : Option CallId}
    (body : Task types service code) :
    LeadsTo (Stands behaviour holds (.running ⟨own, code, fnbox, sender⟩ body))
      (fun now => ∃ value,
        behaviour.label now = some (.finish ⟨own, code, fnbox, sender⟩ value) ∧
        Stands behaviour holds (.running ⟨own, code, fnbox, sender⟩ (.ret value)) now) := by
  induction body with
  | ret value =>
    have moves := fair.moves appendable (fun now stands =>
      ⟨.finish ⟨own, _, fnbox, sender⟩ value, _, trivial, .finish stands.1, trivial⟩)
    refine moves.trans (LeadsTo.of_imp ?_)
    rintro now ⟨stands, action, label, move⟩
    cases move with
    | finish => exact ⟨value, label, stands⟩
  | request request next inductionHypothesis =>
    have possible : ∀ now,
        Stands behaviour holds (.running ⟨own, _, fnbox, sender⟩ (.request request next)) now →
        behaviour.Possible Action.Manages now := by
      intro now stands
      cases served : service.serve request (behaviour.state now).manager with
      | none =>
        exact absurd ⟨⟨own, _, fnbox, sender⟩, request, next, stands.1, served⟩ (fair.served now)
      | some answer => exact ⟨.request, _, trivial, .request stands.1 served, trivial⟩
    have answered : LeadsTo
        (Stands behaviour holds (.running ⟨own, _, fnbox, sender⟩ (.request request next)))
        (fun now => ∃ response,
          Stands behaviour holds (.running ⟨own, _, fnbox, sender⟩ (next response)) now) := by
      refine (fair.moves appendable possible).trans (LeadsTo.next ?_)
      rintro now ⟨stands, action, label, move⟩
      cases move with
      | request response control queue => exact ⟨response, control, queue ▸ stands.2⟩
    refine answered.trans ?_
    rintro now ⟨response, stands⟩
    exact inductionHypothesis response now stands
  | fire fired next _ inductionHypothesis =>
    refine LeadsTo.trans (fair.fire_returns appendable started) ?_
    rintro now ⟨result, stands⟩
    exact inductionHypothesis result now stands
  | kick next inductionHypothesis =>
    have kicked : LeadsTo
        (Stands behaviour holds (.running ⟨own, _, fnbox, sender⟩ (.kick next)))
        (fun now => ∃ result,
          Stands behaviour holds (.running ⟨own, _, fnbox, sender⟩ (next result)) now) := by
      refine (fair.moves appendable (fun now stands =>
        ⟨.kickInside, _, trivial, .kickInside stands.1, trivial⟩)).trans (LeadsTo.next ?_)
      rintro now ⟨stands, action, label, move⟩
      cases move with
      | kickInside result control queue => exact ⟨result, control, queue ▸ stands.2⟩
    refine kicked.trans ?_
    rintro now ⟨result, stands⟩
    exact inductionHypothesis result now stands

/-- What the running closure leaves behind is a manager that drains on. -/
theorem closure_drains (fair : FairRun listens behaviour) (appendable : Appendable holds)
    {manager : service.State} (started : behaviour.state 0 = System.initial manager)
    {message : FnMsg types service} (body : Task types service message.code) :
    LeadsTo (Stands behaviour holds (.running message body))
      (Stands behaviour holds .draining) := by
  refine (fair.closure_returns appendable started body).trans (LeadsTo.next ?_)
  rintro now ⟨value, label, stands⟩
  obtain ⟨action, _, move⟩ := managed stands ⟨_, label, trivial⟩
  cases move with
  | finish control queue => exact ⟨control, queue ▸ stands.2⟩

/-- Outside a drain somebody has announced what is queued, or will. By the run's invariant
the eventfd is positive, or a caller is to write; in the first case nobody but the manager
takes that away. -/
theorem announced (fair : FairRun listens behaviour) (appendable : Appendable holds)
    (pending : ∀ queue, holds queue → queue ≠ []) {manager : service.State}
    (started : behaviour.state 0 = System.initial manager) :
    LeadsTo (Stands behaviour holds .outside)
      (fun now => Stands behaviour holds .outside now ∧
        0 < (behaviour.state now).eventFd.counter) := by
  intro now stands
  by_cases silent : (behaviour.state now).eventFd.counter = 0
  · obtain ⟨history, run⟩ := ran behaviour now
    rw [started] at run
    have outside : ¬ (behaviour.state now).control.InDrain := by
      rw [stands.1]
      exact id
    have writing : (behaviour.state now).Writing :=
      (System.announced_run run outside (pending _ stands.2)).resolve_left (by omega)
    obtain ⟨call, caller, found, phase⟩ := writing
    have ensured : LeadsTo (fun now => Stands behaviour holds .outside now ∧
          (behaviour.state now).callers call = some caller ∧
          (behaviour.state now).eventFd.counter = 0)
        (fun now => Stands behaviour holds .outside now ∧
          0 < (behaviour.state now).eventFd.counter) := by
      refine (fair.writers call).ensures ?_ ?_ ?_
      · rintro moment ⟨_, there, _⟩
        exact ⟨_, _, rfl, .write there phase, trivial⟩
      · rintro moment ⟨still, there, _⟩ taken
        obtain ⟨_, control, queue, positive⟩ := write_taken there taken
        exact ⟨⟨control.trans still.1, queue ▸ still.2⟩, positive⟩
      · rintro moment ⟨still, there, quiet⟩ passed
        -- a manager outside moves only when the eventfd is positive
        have unmoved : ¬ behaviour.Takes Action.Manages moment := by
          rintro ⟨action, label, manages⟩
          rcases steps behaviour moment with ⟨other, entry, stepped⟩ | ⟨none, _⟩
          · obtain rfl : action = other := Option.some.inj (label.symm.trans entry)
            exact absurd (stepped.outside_ready manages still.1) (by omega)
          · rw [none] at label
            cases label
        have stays := fair.unmoved appendable still unmoved
        have kept : (behaviour.state (moment + 1)).callers call = some caller := by
          refine caller_stays there (fun _ label => passed ⟨_, label, rfl⟩) ?_
          intro waiting
          rw [phase] at waiting
          cases waiting
        by_cases zero : (behaviour.state (moment + 1)).eventFd.counter = 0
        · exact Or.inl ⟨stays, kept, zero⟩
        · exact Or.inr ⟨stays, Nat.pos_of_ne_zero zero⟩
    exact ensured now ⟨stands, found, silent⟩
  · exact ⟨now, Nat.le_refl now, stands, Nat.pos_of_ne_zero silent⟩

/-- So a wait reports the endpoint, -/
theorem reported (fair : FairRun listens behaviour) (appendable : Appendable holds) :
    LeadsTo (fun now => Stands behaviour holds .outside now ∧
        0 < (behaviour.state now).eventFd.counter) (Stands behaviour holds .notified) := by
  refine fair.manager.ensures ?_ ?_ ?_
  · rintro now ⟨stands, ready⟩
    exact ⟨.wait, _, trivial, .wait stands.1 ready, fair.listening now⟩
  · rintro now ⟨stands, _⟩ taken
    obtain ⟨action, _, move⟩ := managed stands taken
    cases move with
    | wait control queue => exact ⟨control, queue ▸ stands.2⟩
  · rintro now ⟨stands, ready⟩ passed
    refine Or.inl ⟨fair.unmoved appendable stands passed, ?_⟩
    rcases steps behaviour now with ⟨action, label, stepped⟩ | ⟨_, same⟩
    · refine stepped.counter_kept ?_ ready
      rintro rfl
      exact passed ⟨_, label, trivial⟩
    · rw [same]
      exact ready

/-- and the manager begins to drain. -/
theorem drains (fair : FairRun listens behaviour) (appendable : Appendable holds) :
    LeadsTo (Stands behaviour holds .notified) (Stands behaviour holds .draining) := by
  refine (fair.moves appendable (fun now stands =>
    ⟨.read, _, trivial, .read stands.1, trivial⟩)).trans (LeadsTo.next ?_)
  rintro now ⟨stands, action, label, move⟩
  cases move with
  | read control queue => exact ⟨control, queue ▸ stands.2⟩

/-- The manager is there for ever. -/
theorem undropped (fair : FairRun listens behaviour) {manager : service.State}
    (started : behaviour.state 0 = System.initial manager) (now : Nat) :
    (behaviour.state now).control ≠ .dropped := by
  induction now with
  | zero =>
    rw [started]
    simp [System.initial]
  | succ now inductionHypothesis =>
    by_cases taken : behaviour.Takes Action.Manages now
    · have stands : Stands behaviour (fun _ => True) (behaviour.state now).control now :=
        ⟨rfl, trivial⟩
      obtain ⟨action, _, move⟩ := managed stands taken
      exact move.alive
    · have stands : Stands behaviour (fun _ => True) (behaviour.state now).control now :=
        ⟨rfl, trivial⟩
      rw [(fair.unmoved ⟨fun _ _ _ => trivial⟩ stands taken).1]
      exact inductionHypothesis

/-- Wherever the manager is, it comes to drain what is queued. -/
theorem comes_to_drain (fair : FairRun listens behaviour) (appendable : Appendable holds)
    (pending : ∀ queue, holds queue → queue ≠ []) {manager : service.State}
    (started : behaviour.state 0 = System.initial manager) :
    LeadsTo (fun now => holds (behaviour.state now).queue) (Stands behaviour holds .draining) := by
  intro now kept
  cases control : (behaviour.state now).control with
  | dropped => exact absurd control (fair.undropped started now)
  | draining => exact ⟨now, Nat.le_refl now, control, kept⟩
  | notified => exact fair.drains appendable now ⟨control, kept⟩
  | outside =>
    exact ((fair.announced appendable pending started).trans
      ((fair.reported appendable).trans (fair.drains appendable))) now ⟨control, kept⟩
  | running message body => exact fair.closure_drains appendable started body now ⟨control, kept⟩
  | firing message call task =>
    obtain ⟨moment, later, result, stands⟩ :=
      fair.fire_goes_on appendable started now ⟨control, kept⟩
    obtain ⟨last, after, drains⟩ := fair.closure_drains appendable started _ moment stands
    exact ⟨last, Nat.le_trans later after, drains⟩

/-- The message is at the position of the queue, which appending does not change. -/
theorem appendable_position (message : FnMsg types service) (position : Nat) :
    Appendable (fun queue => queue[position]? = some message) := by
  refine ⟨fun queue appended found => ?_⟩
  obtain ⟨inside, _⟩ := List.getElem?_eq_some_iff.mp found
  rw [List.getElem?_append_left inside]
  exact found

/-- A drain takes the message at the front. The manager comes to its drain, and a message
further back then stands one place nearer. -/
theorem front_taken (fair : FairRun listens behaviour) {manager : service.State}
    (started : behaviour.state 0 = System.initial manager) (message : FnMsg types service)
    (position : Nat) :
    LeadsTo (fun now => (behaviour.state now).queue[position]? = some message)
      (fun now => ∃ first rest, (first :: rest)[position]? = some message ∧
        (behaviour.state now).queue = rest ∧
        (behaviour.state now).control = .running first first.fnbox) := by
  have appendable := appendable_position message position
  have pending : ∀ queue : List (FnMsg types service), queue[position]? = some message →
      queue ≠ [] := by
    rintro queue found rfl
    cases found
  refine (fair.comes_to_drain appendable pending started).trans
    ((fair.moves appendable ?_).trans (LeadsTo.next ?_))
  · intro now stands
    cases queue : (behaviour.state now).queue with
    | nil => exact absurd queue (pending _ stands.2)
    | cons first rest => exact ⟨.take first, _, trivial, .take stands.1 queue, trivial⟩
  · rintro now ⟨stands, action, _, move⟩
    cases move with
    | empty none => exact absurd none (pending _ stands.2)
    | @take first rest split control queue =>
      have found := stands.2
      rw [split] at found
      exact ⟨first, rest, found, queue, control⟩

/-- A message in the queue is taken: each drain takes from the front, and what is sent
meanwhile stands behind it. -/
theorem taken (fair : FairRun listens behaviour) {manager : service.State}
    (started : behaviour.state 0 = System.initial manager) (message : FnMsg types service)
    (position : Nat) :
    LeadsTo (fun now => (behaviour.state now).queue[position]? = some message)
      (fun now => (behaviour.state now).control = .running message message.fnbox) := by
  induction position with
  | zero =>
    refine (fair.front_taken started message 0).trans (LeadsTo.of_imp ?_)
    rintro now ⟨first, rest, found, _, control⟩
    obtain rfl : first = message := Option.some.inj found
    exact control
  | succ position inductionHypothesis =>
    refine (fair.front_taken started message (position + 1)).trans ?_
    rintro now ⟨first, rest, found, queue, _⟩
    have after : (behaviour.state now).queue[position]? = some message := by
      rw [queue]
      exact found
    exact inductionHypothesis now after

/-- A message that is queued or whose closure runs has its closure return: it comes to the
front, is taken, and its closure comes to its end. -/
theorem returns (fair : FairRun listens behaviour) {manager : service.State}
    (started : behaviour.state 0 = System.initial manager) (message : FnMsg types service) :
    LeadsTo (fun now => message ∈ (behaviour.state now).control.current ++
        (behaviour.state now).queue)
      (fun now => ∃ value, behaviour.label now = some (.finish message value) ∧
        (behaviour.state now).control = .running message (.ret value)) := by
  have anything : Appendable (fun _ : List (FnMsg types service) => True) :=
    ⟨fun _ _ _ => trivial⟩
  have ran (body : Task types service message.code) :
      LeadsTo (fun now => (behaviour.state now).control = .running message body)
        (fun now => ∃ value, behaviour.label now = some (.finish message value) ∧
          (behaviour.state now).control = .running message (.ret value)) := by
    intro now control
    obtain ⟨moment, later, value, label, stands⟩ :=
      fair.closure_returns anything started body now ⟨control, trivial⟩
    exact ⟨moment, later, value, label, stands.1⟩
  intro now member
  rcases List.mem_append.mp member with current | queued
  · cases control : (behaviour.state now).control with
    | running other body =>
      rw [control] at current
      obtain rfl : message = other := List.mem_singleton.mp current
      exact ran body now control
    | firing other call task =>
      rw [control] at current
      obtain rfl : message = other := List.mem_singleton.mp current
      obtain ⟨moment, later, result, stands⟩ :=
        fair.fire_goes_on anything started now ⟨control, trivial⟩
      obtain ⟨last, after, finished⟩ := ran _ moment stands.1
      exact ⟨last, Nat.le_trans later after, finished⟩
    | outside =>
      rw [control] at current
      cases current
    | notified =>
      rw [control] at current
      cases current
    | draining =>
      rw [control] at current
      cases current
    | dropped =>
      rw [control] at current
      cases current
  · obtain ⟨position, found⟩ := List.mem_iff_getElem?.mp queued
    exact ((fair.taken started message position).trans (ran _)) now found

end FairRun

namespace EventManager

variable {kernel : Kernel} {T : Type} [MutEventSubscriber T]

end EventManager

/-- The closure of a call that asks for a number. -/
def Task.seven : Task RemoteResult.types EventManager.scripted RemoteResult.number :=
  .ret (7 : Nat)

namespace Endless

/-- Calls before the round have returned, and nothing else is going on. -/
def settled (round : Nat) : System RemoteResult.types EventManager.scripted :=
  { System.fresh with callers := fun call =>
      if call < round then some ⟨.number, true, .returned (.value (7 : Nat))⟩ else none }

/-- A blocking call from its first step to the end of the drain: what each step makes
of the state, and which step it is. -/
def moves (round : Nat) : List
    ((System RemoteResult.types EventManager.scripted →
        System RemoteResult.types EventManager.scripted) ×
      Action RemoteResult.types EventManager.scripted) :=
  [(fun system => system.accept (.callBlocking round .seven), .send (.callBlocking round .seven)),
    (fun system => system.write round ⟨.number, true, .enqueued⟩, .write round),
    (fun system => { system with control := .notified }, .wait),
    (fun system => { system with control := .draining, eventFd := system.eventFd.read }, .read),
    (fun system => { system with
      queue := [], control := .running (.callBlocking round .seven) .seven },
      .take (.callBlocking round .seven)),
    (fun system => system.finish (.callBlocking round .seven) (7 : Nat),
      .finish (.callBlocking round .seven) (7 : Nat)),
    (fun system => system.receive round ⟨.number, true, .waiting⟩ (.value (7 : Nat)),
      .receive round),
    (fun system => { system with control := .outside }, .empty)]

/-- The state after the first steps of a round. -/
def stage (round place : Nat) : System RemoteResult.types EventManager.scripted :=
  ((moves round).take place).foldl (fun system move => move.1 system) (settled round)

/-- After the last step of a round its call has returned like those before it, and the
next round begins. -/
theorem stage_last (round : Nat) : stage round 8 = settled (round + 1) := by
  have callers : (stage round 8).callers = (settled (round + 1)).callers := by
    funext call
    change PartialMap.insert (PartialMap.insert (PartialMap.insert (settled round).callers round _)
      round _) round ⟨.number, true, .returned (.value (7 : Nat))⟩ call = _
    rcases Nat.lt_trichotomy call round with before | rfl | after
    · have within : call < round + 1 := Nat.lt_succ_of_lt before
      simp only [PartialMap.insert_apply, settled, if_neg (Nat.ne_of_lt before), if_pos before,
        if_pos within]
    · have within : call < call + 1 := Nat.lt_succ_self call
      simp only [PartialMap.insert_apply, settled, if_true, if_pos within]
    · have beyond : ¬ call < round := Nat.not_lt_of_gt after
      have outside : ¬ call < round + 1 := Nat.not_lt_of_ge after
      simp only [PartialMap.insert_apply, settled, if_neg (Nat.ne_of_gt after), if_neg beyond,
        if_neg outside]
  have replies : (stage round 8).replies = (settled (round + 1)).replies := by
    funext call
    change Function.update (Function.update (Function.update (fun _ => Reply.absent) round _)
      round _) round .absent call = .absent
    by_cases same : call = round
    · rw [same, Function.update_self]
    · simp only [Function.update_of_ne same]
  have fields : stage round 8 = { settled (round + 1) with
      callers := (stage round 8).callers, replies := (stage round 8).replies } := rfl
  rw [fields, callers, replies]

/-- Each step of a round is one of the exchange. -/
theorem stage_step (round : Nat) {place : Nat} (inside : place < 8) :
    ∃ action, ((moves round)[place]?).map Prod.snd = some action ∧
      Guarded EventManager.Listens (stage round place) action (stage round (place + 1)) := by
  have fresh : (settled round).callers round = none := if_neg (Nat.lt_irrefl round)
  have enqueued : (stage round 1).callers round = some ⟨.number, true, .enqueued⟩ :=
    Function.update_self _ _ _
  have waiting : (stage round 6).callers round = some ⟨.number, true, .waiting⟩ :=
    Function.update_self _ _ _
  have told : (stage round 6).replies round = .full ⟨RemoteResult.number, (7 : Nat)⟩ := by
    change Function.update (Function.update (fun _ => Reply.absent) round .empty) round
      ((Function.update (fun _ => Reply.absent) round Reply.empty round).send _) round = _
    rw [Function.update_self, Function.update_self]
    rfl
  have alive : (stage round 0).control ≠ .dropped := by
    simp [stage, settled, System.fresh, System.initial]
  match place, inside with
  | 0, _ => exact ⟨_, rfl, .send (.callBlocking round .seven) fresh alive, trivial⟩
  | 1, _ => exact ⟨_, rfl, .write enqueued rfl, trivial⟩
  | 2, _ => exact ⟨_, rfl, .wait rfl Nat.one_pos, ⟨_, rfl, rfl⟩, rfl, Nat.succ_pos _⟩
  | 3, _ => exact ⟨_, rfl, .read rfl, trivial⟩
  | 4, _ => exact ⟨_, rfl, .take rfl rfl, trivial⟩
  | 5, _ => exact ⟨_, rfl, .finish rfl, trivial⟩
  | 6, _ => exact ⟨_, rfl, .receive waiting rfl told, trivial⟩
  | 7, _ => exact ⟨_, rfl, .empty rfl rfl, trivial⟩

/-- One call after the other, for ever. -/
def calls : Behaviour (Guarded EventManager.Listens :
    System RemoteResult.types EventManager.scripted → _ → _ → Prop) where
  state now := stage (now / 8) (now % 8)
  label now := ((moves (now / 8))[now % 8]?).map Prod.snd
  moves now := by
    have inside : now % 8 < 8 := Nat.mod_lt now (by decide)
    obtain ⟨action, label, stepped⟩ := stage_step (now / 8) inside
    have following : stage ((now + 1) / 8) ((now + 1) % 8) = stage (now / 8) (now % 8 + 1) := by
      by_cases last : now % 8 = 7
      · have round : (now + 1) / 8 = now / 8 + 1 := by omega
        have place : (now + 1) % 8 = 0 := by omega
        rw [round, place, last, stage_last]
        rfl
      · have round : (now + 1) / 8 = now / 8 := by omega
        have place : (now + 1) % 8 = now % 8 + 1 := by omega
        rw [round, place]
    rw [label, following]
    exact stepped

end Endless

end EventLoop
