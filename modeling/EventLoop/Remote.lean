import EventLoop.Replies

/-!
# The endpoint protocol over the event manager

The protocol was developed for any service. Here it runs over the event manager
itself. The manager in every state of every run of the protocol is one that a
valid history leads to, so what holds along valid histories holds there too. And
what a drain does to the manager is what the manager's own `handle_endpoint_calls`
does with as many closures as the drain ran, whatever was enqueued meanwhile.
-/

namespace EventLoop

open Transition

variable {kernel : Kernel} {T : Type} {types : ResultTypes}

namespace EventManager

/-- A computation that is traced from every state moves the manager along a valid
history. -/
theorem Manage.Traced.moved {α : Type} {body : Manage kernel T α}
    {fault : Panic → EventManager kernel T → Prop}
    (traced : Manage.Traced (fun _ => True) body (fun _ _ => True) fault)
    {manager next : EventManager kernel T} {value : α}
    (returned : (body manager).result = .ok (value, next)) :
    ∃ observations, manager.Valid observations ∧ next = manager.after observations := by
  obtain ⟨valid, ended⟩ := traced manager trivial
  rw [returned] at ended
  exact ⟨_, valid, ended.1⟩

variable [MutEventSubscriber T]

/-- So does whatever the manager does between two drains. -/
theorem Acts.moved {manager next : EventManager kernel T} (acted : Acts manager next) :
    ∃ observations, manager.Valid observations ∧ next = manager.after observations := by
  cases acted with
  | served request response returned => exact Manage.Traced.moved (serve_traced request) returned
  | polled milliseconds answer count returned =>
    have traced : Manage.Traced (fun _ => True)
        (poll milliseconds answer : Manage kernel T (Except Error Nat)) (fun _ _ => True)
        Accounted := poll_traced milliseconds answer
    exact traced.moved returned
  | dispatched eventCount endpointEvent returned =>
    exact Manage.Traced.moved (dispatchLoop_traced 0 eventCount none) returned

/-- The service answers with what `serve` returns. -/
theorem service_serve {request : Request T} {manager next : EventManager kernel T}
    {response : Response request}
    (served : (service kernel T).serve request manager = some (response, next)) :
    (serve request manager).result = .ok (response, next) := by
  change (serve request manager).result.toOption = some (response, next) at served
  rcases result : (serve request manager).result with panic | answer
  · rw [result] at served
    cases served
  · rw [result] at served
    exact congrArg Except.ok (Option.some.inj served)

end EventManager

open EventManager

variable [MutEventSubscriber T]

/-- A step of the protocol leaves the manager, lets it act, or has it serve a
request of the running closure. -/
theorem Step.manager {system next : System types (service kernel T)}
    {action : Action types (service kernel T)} (stepped : Step system action next) :
    next.manager = system.manager ∨ Acts system.manager next.manager ∨
      ∃ request response, (serve request system.manager).result = .ok (response, next.manager) := by
  cases stepped with
  | act _ acted => exact Or.inr (Or.inl acted)
  | request _ served => exact Or.inr (Or.inr ⟨_, _, service_serve served⟩)
  | send => exact Or.inl rfl
  | reject => exact Or.inl rfl
  | write => exact Or.inl rfl
  | receive => exact Or.inl rfl
  | disconnected => exact Or.inl rfl
  | kick => exact Or.inl rfl
  | wait => exact Or.inl rfl
  | dismiss => exact Or.inl rfl
  | read => exact Or.inl rfl
  | take => exact Or.inl rfl
  | empty => exact Or.inl rfl
  | fire => exact Or.inl rfl
  | resume => exact Or.inl rfl
  | kickInside => exact Or.inl rfl
  | finish => exact Or.inl rfl
  | drop => exact Or.inl rfl

/-- In every state of the protocol the manager is where a valid history leads. -/
theorem System.manager_valid {start : EventManager kernel T}
    {history : List (Action types (service kernel T))} {system : System types (service kernel T)}
    (run : Run Step (System.initial start) history system) :
    ∃ observations, start.Valid observations ∧ system.manager = start.after observations := by
  refine run.invariant (fun _ state => ∃ observations, start.Valid observations ∧
    state.manager = start.after observations) ⟨[], trivial, rfl⟩ ?_
  rintro _ state action next ⟨past, valid, reached⟩ stepped
  have extend (moved : ∃ observations, EventManager.Valid state.manager observations ∧
      next.manager = EventManager.after state.manager observations) :
      ∃ observations, start.Valid observations ∧ next.manager = start.after observations := by
    obtain ⟨observations, checked, led⟩ := moved
    rw [reached] at checked led
    exact ⟨past ++ observations, (Replay.along_append _ _ _).mpr ⟨valid, checked⟩,
      led.trans (Replay.replay_append _ start past observations).symm⟩
  rcases stepped.manager with same | acted | ⟨request, response, returned⟩
  · exact ⟨past, valid, same.trans reached⟩
  · exact extend acted.moved
  · exact extend (Manage.Traced.moved (serve_traced request) returned)

/-- The closure that makes the requests in order. -/
def Closure.ofRequests : List (Request T) → Closure T
  | [] => .ret ()
  | request :: rest => .call request (fun _ => Closure.ofRequests rest)

/-- One request more. -/
theorem Closure.ofRequests_snoc {requests : List (Request T)} {request : Request T}
    {manager middle next : EventManager kernel T} {response : Response request}
    (before : (Program.interpret serve (Closure.ofRequests requests) manager).result =
      .ok ((), middle))
    (served : (serve request middle).result = .ok (response, next)) :
    (Program.interpret serve (Closure.ofRequests (requests ++ [request])) manager).result =
      .ok ((), next) := by
  induction requests generalizing manager with
  | nil =>
    obtain rfl : manager = middle := by
      simpa [ofRequests, Program.interpret] using before
    exact Exec.bind_result served
  | cons first rest inductionHypothesis =>
    obtain ⟨log, answer, between, returned, remaining⟩ := Exec.bind_returned before
    have early : (serve first manager).result = .ok (answer, between) := by rw [returned]
    exact (Exec.bind_result early).trans (inductionHypothesis remaining)

/-- One closure more. -/
theorem EventManager.handleEndpointCalls_snoc {closures : List (Closure T)} {closure : Closure T}
    {manager middle next : EventManager kernel T}
    (before : (handleEndpointCalls closures manager).result = .ok ((), middle))
    (ran : (Program.interpret serve closure middle).result = .ok ((), next)) :
    (handleEndpointCalls (closures ++ [closure]) manager).result = .ok ((), next) := by
  induction closures generalizing manager with
  | nil =>
    obtain rfl : manager = middle := by
      simpa [handleEndpointCalls] using before
    exact Exec.bind_result ran
  | cons first rest inductionHypothesis =>
    obtain ⟨log, _, between, returned, remaining⟩ := Exec.bind_returned before
    have early : (Program.interpret serve first manager).result = .ok ((), between) := by
      rw [returned]
    exact (Exec.bind_result early).trans (inductionHypothesis remaining)

/-- Part of a drain: the closures that returned did to the manager what
`handle_endpoint_calls` does with them, and the one that runs has made the requests
given. -/
def Handled (start : EventManager kernel T) (history : List (Action types (service kernel T)))
    (system : System types (service kernel T)) : Prop :=
  system.control.InDrain ∧ ∃ closures requests middle,
    closures.length = (executed history).length ∧
      (handleEndpointCalls closures start).result = .ok ((), middle) ∧
      (Program.interpret serve (Closure.ofRequests requests) middle).result =
        .ok ((), system.manager) ∧
      (system.control = .draining → requests = [])

namespace Handled

variable {start : EventManager kernel T} {history : List (Action types (service kernel T))}
  {system next : System types (service kernel T)} {action : Action types (service kernel T)}

/-- A step that ends no closure and leaves the manager. -/
theorem quiet (handled : Handled start history system) (finishes : action.finishes = none)
    (manager : next.manager = system.manager) (inside : next.control.InDrain)
    (draining : next.control = .draining → system.control = .draining) :
    Handled start (history ++ [action]) next := by
  obtain ⟨_, closures, requests, middle, length, calls, made, none⟩ := handled
  have same : executed (history ++ [action]) = executed history := by simp [finishes]
  refine ⟨inside, closures, requests, middle, ?_, calls, ?_, fun now => none (draining now)⟩
  · rw [same]
    exact length
  · rw [manager]
    exact made

/-- The running closure's requests are added to those it made. -/
theorem request (handled : Handled start history system) {message : FnMsg types (service kernel T)}
    {task : Task types (service kernel T) message.code} {request : Request T}
    {response : Response request}
    (served : (serve request system.manager).result = .ok (response, next.manager))
    (running : next.control = .running message task) :
    Handled start (history ++ [.request]) next := by
  obtain ⟨_, closures, requests, middle, length, calls, made, _⟩ := handled
  have same : executed (history ++ [.request]) = executed history := by simp [Action.finishes]
  refine ⟨by rw [running]; trivial, closures, requests ++ [request], middle, ?_, calls,
    Closure.ofRequests_snoc made served, ?_⟩
  · rw [same]
    exact length
  · simp [running]

/-- A closure that returns becomes one of those handled. -/
theorem finish (handled : Handled start history system) {message : FnMsg types (service kernel T)}
    (value : types.Val message.code) :
    Handled start (history ++ [.finish message value]) (system.finish message value) := by
  obtain ⟨_, closures, requests, middle, length, calls, made, _⟩ := handled
  refine ⟨trivial, closures ++ [Closure.ofRequests requests], [], system.manager, ?_,
    EventManager.handleEndpointCalls_snoc calls made, rfl, fun _ => rfl⟩
  simp [Action.finishes, length]

/-- Every step of a drain, up to the `try_recv` that reports `Empty`. A take and a request
extend the computation of `handle_endpoint_calls`, an end closes one closure of it, and
the other steps leave the manager. -/
theorem step (handled : Handled start history system) (stepped : Step system action next)
    (nonempty : action ≠ .empty) : Handled start (history ++ [action]) next := by
  have inside := handled.1
  cases stepped with
  | finish => exact handled.finish _
  | request _ served => exact handled.request (service_serve served) rfl
  | empty => exact absurd rfl nonempty
  | take => exact handled.quiet rfl rfl trivial (by simp)
  | fire => exact handled.quiet rfl rfl trivial (by simp)
  | resume => exact handled.quiet rfl rfl trivial (by simp)
  | kickInside => exact handled.quiet rfl rfl trivial (by simp)
  | send => exact handled.quiet rfl rfl inside id
  | write => exact handled.quiet rfl rfl inside id
  | receive => exact handled.quiet rfl rfl inside id
  | disconnected => exact handled.quiet rfl rfl inside id
  | kick => exact handled.quiet rfl rfl inside id
  | reject _ _ gone =>
    rw [gone] at inside
    exact inside.elim
  | act idle =>
    rcases idle with idle | idle
    · rw [idle] at inside
      exact inside.elim
    · rw [idle] at inside
      exact inside.elim
  | wait idle =>
    rw [idle] at inside
    exact inside.elim
  | dismiss idle =>
    rw [idle] at inside
    exact inside.elim
  | read idle =>
    rw [idle] at inside
    exact inside.elim
  | drop idle =>
    rw [idle] at inside
    exact inside.elim

end Handled

/-- From the read of the eventfd to the `try_recv` that reports `Empty`, the manager
changes as its `handle_endpoint_calls` changes it with one closure for each that
returned. -/
theorem System.drain_handles {system next : System types (service kernel T)}
    {history : List (Action types (service kernel T))} (draining : system.control = .draining)
    (drain : Run Step system history next) (nonempty : .empty ∉ history)
    (ended : next.control = .draining) :
    ∃ closures : List (Closure T), closures.length = (executed history).length ∧
      (handleEndpointCalls closures (system.manager : EventManager kernel T)).result =
        .ok ((), next.manager) := by
  have begun : Handled system.manager [] system :=
    ⟨by rw [draining]; trivial, [], [], system.manager, rfl, rfl, rfl, fun _ => rfl⟩
  have always : .empty ∉ history → Handled system.manager history next := by
    refine drain.invariant
      (fun past state => .empty ∉ past → Handled system.manager past state) (fun _ => begun) ?_
    intro past state action after handled stepped absent
    rw [List.mem_append, not_or, List.mem_singleton] at absent
    exact (handled absent.1).step stepped (Ne.symm absent.2)
  obtain ⟨_, closures, requests, middle, length, calls, made, none⟩ := always nonempty
  rw [none ended] at made
  have last : middle = next.manager := congrArg Prod.snd (Except.ok.inj made)
  exact ⟨closures, length, last ▸ calls⟩

end EventLoop
