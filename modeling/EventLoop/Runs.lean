import EventLoop.Manager

/-!
# Runs of a manager and the histories they leave

A run is any sequence of calls of the manager's interface and of waits, with any
callbacks, closures and kernel responses. Its log is a history: `apply` says how
each observation moves the manager and `Enabled` when it can be made, and every
computation of the manager is shown to log only enabled observations and to end
in the state its log leads to. What holds of every enabled observation therefore
holds of every run, and of every moment inside a callback, by the induction on
histories alone.
-/

namespace EventLoop

open Replay

namespace EventManager

variable {kernel : Kernel} {T : Type}

/-- The subscriber is registered. -/
def Live (manager : EventManager kernel T) (id : SubscriberId) : Prop :=
  (manager.subscribers.subscribers id).isSome

/-- How an observation moves the manager. An id counter at its end wraps here;
a run that checks for overflow has stopped instead. -/
def apply (manager : EventManager kernel T) : Observation T → EventManager kernel T
  | .operation id operation _ =>
      { manager with epollContext := (EventOps.perform manager.epollContext id operation).2 }
  | .process _ _ => manager
  | .store id subscriber =>
      { manager with subscribers := manager.subscribers.write id subscriber }
  | .addSubscriber id subscriber =>
      { manager with subscribers :=
          { subscribers := PartialMap.insert manager.subscribers.subscribers id subscriber
            nextId := manager.subscribers.nextId + 1 } }
  | .removeSubscriber id =>
      { manager with
        subscribers := (manager.subscribers.remove id).2
        epollContext := manager.epollContext.remove id }
  | .wait _ _ response =>
      { manager with epollContext := (manager.epollContext.poll response).2 }

/-- When an observation can be made: subscribers act only while registered,
events go to the subscriber their descriptor is dispatched to, ids come from the
counter, and a result is the one the operation returns. -/
def Enabled (manager : EventManager kernel T) : Observation T → Prop
  | .operation id operation result =>
      manager.Live id ∧ result = (EventOps.perform manager.epollContext id operation).1
  | .process id events =>
      manager.Live id ∧ manager.epollContext.fdDispatch events.fd = some id
  | .store id _ => manager.Live id
  | .addSubscriber id _ => id = ⟨manager.subscribers.nextId⟩
  | .removeSubscriber id => manager.Live id
  | .wait _ maxevents _ =>
      maxevents = BitVec.ofNat 32 manager.epollContext.readyEvents.length

/-- The manager was just created, on a new epoll instance, which watches nothing. -/
def Started (manager : EventManager kernel T) : Prop :=
  ∃ capacity epoll channelFd, kernel.interest epoll = PartialMap.empty ∧
    newWithCapacity capacity (.ok epoll) (.ok channelFd) = .ok manager

/-- The state a history leads to. -/
abbrev after (manager : EventManager kernel T) (history : List (Observation T)) :
    EventManager kernel T := replay apply manager history

/-- Every observation of the history was enabled where it was made. -/
abbrev Valid (manager : EventManager kernel T) (history : List (Observation T)) : Prop :=
  Along apply Enabled manager history

/-- A computation of the manager logs a valid history and ends where it leads. -/
abbrev Manage.Traced {α : Type} (pre : EventManager kernel T → Prop) (body : Manage kernel T α)
    (post : α → EventManager kernel T → Prop) (fault : Panic → EventManager kernel T → Prop) :
    Prop :=
  Exec.Traced apply Enabled pre body post fault

/-- The only panic a request can end in, with the counter it leaves behind. -/
def Overflowed (panic : Panic) (manager : EventManager kernel T) : Prop :=
  panic = .nextIdOverflow ∧ manager.subscribers.nextId = 0

/-- An overflow is the only panic that says something of the state by itself. -/
def Accounted (panic : Panic) (manager : EventManager kernel T) : Prop :=
  panic = .nextIdOverflow → manager.subscribers.nextId = 0

section Traced

variable {fault : Panic → EventManager kernel T → Prop} (id : SubscriberId)

/-- An operation leaves the subscribers alone. -/
theorem operate_traced (operation : Operation) :
    Manage.Traced (fun manager => manager.Live id)
      (operate id operation : Manage kernel T (Except Error Unit))
      (fun _ manager => manager.Live id) fault := by
  intro manager live
  exact ⟨⟨⟨live, rfl⟩, trivial⟩, rfl, live⟩

/-- So does a whole callback. -/
theorem callback_traced (program : Callback T) :
    Manage.Traced (fun manager => manager.Live id) (callback id program : Manage kernel T T)
      (fun _ manager => manager.Live id) fault :=
  Program.traced_interpret (operate_traced id) program

/-- Ending a borrow writes what it leaves under an id that is registered. -/
theorem store_traced (subscriber : T) :
    Manage.Traced (fun manager => manager.Live id) (store id subscriber : Manage kernel T Unit)
      (fun _ _ => True) fault := by
  intro manager live
  exact ⟨⟨live, trivial⟩, rfl, trivial⟩

/-- Borrowing changes nothing, and a missing subscriber is the only way it fails. -/
theorem getMutUnchecked_traced {pre : EventManager kernel T → Prop}
    (justified : ∀ manager : EventManager kernel T, pre manager → ¬ manager.Live id →
      fault .unwrapNone manager) :
    Manage.Traced pre (getMutUnchecked id : Manage kernel T T)
      (fun _ manager => manager.Live id ∧ pre manager) fault := by
  intro manager holds
  cases registered : manager.subscribers.subscribers id with
  | none =>
    have missing : ¬ manager.Live id := by simp [Live, registered]
    simp only [getMutUnchecked, Subscribers.getMutUnchecked, registered, Except.map]
    exact ⟨trivial, justified manager holds missing⟩
  | some subscriber =>
    have live : manager.Live id := by simp [Live, registered]
    simp only [getMutUnchecked, Subscribers.getMutUnchecked, registered, Except.map]
    exact ⟨trivial, rfl, live, holds⟩

/-- Drawing an id either registers the subscriber under it or overflows. -/
theorem enroll_traced (subscriber : T) :
    Manage.Traced (fun _ => True) (enroll subscriber : Manage kernel T SubscriberId)
      (fun id manager => manager.Live id) Overflowed := by
  intro manager _
  by_cases last : manager.subscribers.nextId = BitVec.allOnes 64
  · have wrapped : manager.subscribers.nextId + 1 = 0 := by
      rw [last]
      decide
    simp only [enroll, Subscribers.add, last, if_true, Except.map]
    refine ⟨⟨?_, trivial⟩, rfl, ?_⟩
    · rw [Enabled, last]
    · exact wrapped
  · simp only [enroll, Subscribers.add, last, if_false, Except.map]
    refine ⟨⟨rfl, trivial⟩, rfl, ?_⟩
    simp [Live]

/-- A removal is observed only of a registered subscriber. -/
theorem removeSubscriber_traced :
    Manage.Traced (fun _ => True) (removeSubscriber id : Manage kernel T (Except Error T))
      (fun _ _ => True) fault := by
  intro manager _
  cases registered : manager.subscribers.subscribers id with
  | none =>
    simp only [removeSubscriber, Subscribers.remove, registered]
    exact ⟨trivial, rfl, trivial⟩
  | some subscriber =>
    have live : manager.Live id := by simp [Live, registered]
    simp only [removeSubscriber, Subscribers.remove, registered]
    exact ⟨⟨live, trivial⟩, rfl, trivial⟩

/-- A borrow from outside is made only of a registered subscriber. -/
theorem subscriberMut_traced (update : T → T) :
    Manage.Traced (fun _ => True) (subscriberMut id update : Manage kernel T (Except Error T))
      (fun _ _ => True) fault := by
  refine Exec.Traced.read_bind (fun now => ?_)
  by_cases registered : now.subscribers.contains id = true
  · simp only [registered, if_true]
    have borrow : Manage.Traced (fun manager => manager = now ∧ True)
        (getMutUnchecked id : Manage kernel T T)
        (fun _ manager => manager.Live id ∧ manager = now ∧ True) fault := by
      refine getMutUnchecked_traced id ?_
      rintro manager ⟨rfl, _⟩ missing
      exact absurd registered missing
    refine borrow.bind (fun borrowed => ?_)
    exact ((store_traced id (update borrowed)).consequence (fun _ held => held.1)
      (fun _ _ held => held) (fun _ _ held => held)).bind
      (fun _ => Exec.Traced.ret _ (fun _ _ => trivial))
  · simp only [registered]
    exact Exec.Traced.ret _ (fun _ _ => trivial)

/-- So is an operation from outside. -/
theorem eventOps_traced (operation : Operation) :
    Manage.Traced (fun _ => True)
      (eventOps id operation : Manage kernel T (Except Error (Except Error Unit)))
      (fun _ _ => True) fault := by
  refine Exec.Traced.read_bind (fun now => ?_)
  by_cases registered : now.subscribers.contains id = true
  · simp only [registered, if_true]
    have live : ∀ manager : EventManager kernel T, manager = now ∧ True → manager.Live id := by
      rintro manager ⟨rfl, _⟩
      exact registered
    exact ((operate_traced id operation).consequence live (fun _ _ held => held)
      (fun _ _ held => held)).bind (fun _ => Exec.Traced.ret _ (fun _ _ => trivial))
  · simp only [registered]
    exact Exec.Traced.ret _ (fun _ _ => trivial)

/-- A wait asks for as many events as the buffer has slots. -/
theorem poll_traced (milliseconds : Int) (response : Except Errno (List EpollEvent)) :
    Manage.Traced (fun _ => True)
      (poll milliseconds response : Manage kernel T (Except Error Nat)) (fun _ _ => True) fault := by
  intro manager _
  exact ⟨⟨rfl, trivial⟩, rfl, trivial⟩

end Traced

section Subscriber

variable [MutEventSubscriber T]

/-- A new subscriber's `init` runs with the subscriber registered. -/
theorem addSubscriber_traced (subscriber : T) :
    Manage.Traced (fun _ => True) (addSubscriber subscriber : Manage kernel T SubscriberId)
      (fun _ _ => True) Overflowed := by
  refine (enroll_traced subscriber).bind (fun id => ?_)
  have borrow : Manage.Traced (fun manager : EventManager kernel T => manager.Live id)
      (getMutUnchecked id) (fun _ manager => manager.Live id ∧ manager.Live id) Overflowed :=
    getMutUnchecked_traced id (fun _ live missing => absurd live missing)
  refine borrow.bind (fun borrowed => ?_)
  refine Exec.Traced.bind ((callback_traced id _).consequence (fun _ held => held.1)
    (fun _ _ held => held) (fun _ _ held => held)) (fun initialized => ?_)
  exact (store_traced id initialized).bind (fun _ => Exec.Traced.ret id (fun _ _ => trivial))

/-- A request fails only by running out of ids. -/
theorem serve_traced (request : Request T) :
    Manage.Traced (fun _ => True) (serve request : Manage kernel T (Response request))
      (fun _ _ => True) Overflowed := by
  cases request with
  | addSubscriber subscriber => exact addSubscriber_traced subscriber
  | removeSubscriber id => exact removeSubscriber_traced id
  | subscriberMut id update => exact subscriberMut_traced id update
  | eventOps id operation => exact eventOps_traced id operation

/-- Endpoint closures can do no more than their requests. -/
theorem handleEndpointCalls_traced (closures : List (Closure T)) :
    Manage.Traced (fun _ => True) (handleEndpointCalls closures : Manage kernel T Unit)
      (fun _ _ => True) Overflowed := by
  induction closures with
  | nil => exact Exec.Traced.ret () (fun _ _ => trivial)
  | cons closure rest inductionHypothesis =>
    exact (Program.traced_interpret serve_traced closure).bind (fun _ => inductionHypothesis)

variable {fault : Panic → EventManager kernel T → Prop}

/-- A delivery to the subscriber the descriptor is dispatched to. -/
theorem process_traced (id : SubscriberId) (event : EpollEvent)
    (justified : ∀ manager : EventManager kernel T,
      manager.epollContext.fdDispatch event.fd = some id → ¬ manager.Live id →
        fault .unwrapNone manager) :
    Manage.Traced (fun manager => manager.epollContext.fdDispatch event.fd = some id)
      (process id event : Manage kernel T Unit) (fun _ _ => True) fault := by
  refine (getMutUnchecked_traced id justified).bind (fun subscriber => ?_)
  have announced : Manage.Traced
      (fun manager => manager.Live id ∧ manager.epollContext.fdDispatch event.fd = some id)
      (observe (.process id (Events.withInner event)) : Manage kernel T Unit)
      (fun _ manager => manager.Live id) fault := by
    intro manager held
    exact ⟨⟨held, trivial⟩, rfl, held.1⟩
  exact announced.bind (fun _ => (callback_traced id _).bind (fun next => store_traced id next))

/-- The dispatch loop logs a valid history, whatever the buffer holds. By induction on the
slots: a delivery is made where the dispatch table says, which is what is asked of it. -/
theorem dispatchLoop_traced (evIndex remaining : Nat) (endpointEvent : Option EpollEvent) :
    Manage.Traced (fun _ => True)
      (dispatchLoop evIndex remaining endpointEvent : Manage kernel T (Option EpollEvent))
      (fun _ _ => True) Accounted := by
  induction remaining generalizing evIndex endpointEvent with
  | zero => exact Exec.Traced.ret endpointEvent (fun _ _ => trivial)
  | succ remaining inductionHypothesis =>
    have slot : Manage.Traced (fun _ => True) (readyEvent evIndex : Manage kernel T EpollEvent)
        (fun _ _ => True) Accounted := by
      intro manager _
      unfold readyEvent
      split
      · exact ⟨trivial, rfl, trivial⟩
      · exact ⟨trivial, nofun⟩
    refine slot.bind (fun event => ?_)
    by_cases discarded : Discarded event
    · simp only [discarded, if_true]
      exact inductionHypothesis (evIndex + 1) endpointEvent
    · simp only [discarded, if_false]
      refine Exec.Traced.read_bind (fun now => ?_)
      split
      · rename_i id dispatched
        refine Exec.Traced.bind ((process_traced id event (fun _ _ _ => nofun)).consequence ?_
          (fun _ _ held => held) (fun _ _ held => held))
          (fun _ => inductionHypothesis (evIndex + 1) endpointEvent)
        rintro manager ⟨rfl, _⟩
        exact dispatched
      · split
        · exact (inductionHypothesis (evIndex + 1) (some event)).consequence (fun _ _ => trivial)
            (fun _ _ held => held) (fun _ _ held => held)
        · exact Exec.Traced.abort _ (fun _ _ => nofun)

/-- What follows the loop logs a valid history, and where the endpoint's event is odd it
logs nothing. -/
theorem dispatchEndpointEvent_traced (endpointEvent : Option EpollEvent)
    (closures : List (Closure T)) :
    Manage.Traced (fun _ => True)
      (dispatchEndpointEvent endpointEvent closures : Manage kernel T Unit)
      (fun _ _ => True) Accounted := by
  unfold dispatchEndpointEvent
  split
  · exact Exec.Traced.ret () (fun _ _ => trivial)
  · split
    · exact Exec.Traced.abort _ (fun _ _ => nofun)
    · exact (handleEndpointCalls_traced closures).consequence (fun _ held => held)
        (fun _ _ held => held) (fun _ _ overflowed _ => overflowed.2)

/-- So does the dispatch of a batch, from any buffer. -/
theorem dispatchEvents_traced (eventCount : Nat) (closures : List (Closure T)) :
    Manage.Traced (fun _ => True) (dispatchEvents eventCount closures : Manage kernel T Unit)
      (fun _ _ => True) Accounted :=
  (dispatchLoop_traced 0 eventCount none).bind
    (fun endpointEvent => dispatchEndpointEvent_traced endpointEvent closures)

/-- A whole turn of the loop logs a valid history. -/
theorem runWithTimeout_traced (milliseconds : Int) (response : Except Errno (List EpollEvent))
    (closures : List (Closure T)) :
    Manage.Traced (fun _ => True)
      (runWithTimeout milliseconds response closures : Manage kernel T (Except Error Nat))
      (fun _ _ => True) Accounted := by
  refine (poll_traced milliseconds response).bind (fun polled => ?_)
  cases polled with
  | error error => exact Exec.Traced.ret _ (fun _ _ => trivial)
  | ok eventCount =>
    exact (dispatchEvents_traced eventCount closures).bind
      (fun _ => Exec.Traced.ret _ (fun _ _ => trivial))

end Subscriber

end EventManager

/-- One call from outside: a request, or a turn of the loop with the kernel's
response to its wait and the closures the drain of the endpoint queue finds. -/
inductive Input (T : Type) where
  | request (request : Request T)
  | run (milliseconds : Int) (response : Except Errno (List EpollEvent))
      (closures : List (Closure T))

/-- What the call returns. -/
inductive Output (T : Type) where
  | response (request : Request T) (response : Response request)
  | ran (eventCount : Except Error Nat)

namespace EventManager

variable {kernel : Kernel} {T : Type} [MutEventSubscriber T]

/-- Make the call. -/
def perform : Input T → Manage kernel T (Output T)
  | .request request => do
      let response ← serve request
      pure (.response request response)
  | .run milliseconds response closures => do
      let eventCount ← runWithTimeout milliseconds response closures
      pure (.ran eventCount)

/-- Every call logs a valid history.

Proof: its parts do, and histories compose. -/
theorem perform_traced (input : Input T) :
    Manage.Traced (fun _ => True) (perform input : Manage kernel T (Output T))
      (fun _ _ => True) Accounted := by
  cases input with
  | request request =>
    have served : Manage.Traced (fun _ => True) (serve request : Manage kernel T (Response request))
        (fun _ _ => True) Accounted :=
      (serve_traced request).consequence (fun _ held => held) (fun _ _ held => held)
        (fun _ _ overflowed _ => overflowed.2)
    exact served.bind (fun _ => Exec.Traced.ret _ (fun _ _ => trivial))
  | run milliseconds response closures =>
    exact (runWithTimeout_traced milliseconds response closures).bind
      (fun _ => Exec.Traced.ret _ (fun _ _ => trivial))

/-- The manager reached from `start` by some sequence of calls, none of which
panicked, with the history it left. -/
inductive Reachable (start : EventManager kernel T) :
    List (Observation T) → EventManager kernel T → Prop
  | start : Reachable start [] start
  | step {history : List (Observation T)} {manager next : EventManager kernel T}
      (reached : Reachable start history manager) (input : Input T) (output : Output T)
      (returned : (perform input manager).result = .ok (output, next)) :
      Reachable start (history ++ (perform input manager).log) next

/-- The history of some run up to some moment, which may be inside a call and may
be a moment before a panic. -/
def Visited (start : EventManager kernel T) (history : List (Observation T)) : Prop :=
  ∃ past manager input, Reachable start past manager ∧
    history <+: past ++ (perform input manager).log

/-- A run's history is valid and leads to the manager the run reached. -/
theorem Reachable.valid {start manager : EventManager kernel T} {history : List (Observation T)}
    (reached : Reachable start history manager) :
    start.Valid history ∧ manager = start.after history := by
  induction reached with
  | start => exact ⟨trivial, rfl⟩
  | @step history manager next reached input output returned inductionHypothesis =>
    obtain ⟨valid, rfl⟩ := inductionHypothesis
    obtain ⟨checked, ended⟩ := perform_traced input (start.after history) trivial
    rw [returned] at ended
    refine ⟨(along_append _ _ _).mpr ⟨valid, checked⟩, ?_⟩
    rw [after, replay_append]
    exact ended.1

/-- Up to any moment of any run, the history is valid. -/
theorem Visited.valid {start : EventManager kernel T} {history : List (Observation T)}
    (visited : Visited start history) : start.Valid history := by
  obtain ⟨past, manager, input, reached, later, whole⟩ := visited
  obtain ⟨valid, rfl⟩ := reached.valid
  have checked := (perform_traced input (start.after past) trivial).1
  have complete : start.Valid (past ++ (perform input (start.after past)).log) :=
    (along_append _ _ _).mpr ⟨valid, checked⟩
  rw [← whole] at complete
  exact ((along_append _ _ _).mp complete).1

/-- Between two calls is a moment of the run. -/
theorem Reachable.visited {start manager : EventManager kernel T}
    {history : List (Observation T)} (reached : Reachable start history manager) (input : Input T) :
    Visited start history :=
  ⟨history, manager, input, reached, List.prefix_append _ _⟩

/-- Perform calls in turn. -/
def performAll : List (Input T) → Manage kernel T Unit
  | [] => pure ()
  | input :: rest => do
      let _ ← perform input
      performAll rest

/-- The manager after the calls, if none of them panicked. -/
def finish (inputs : List (Input T)) (start : EventManager kernel T) : EventManager kernel T :=
  match (performAll inputs start).result with
  | .ok (_, manager) => manager
  | .error _ => start

/-- Calls made in turn reach what they end in. -/
theorem Reachable.performAll {start manager next : EventManager kernel T}
    {history : List (Observation T)} (reached : Reachable start history manager)
    (inputs : List (Input T))
    (returned : (performAll inputs manager).result = .ok ((), next)) :
    Reachable start (history ++ (EventManager.performAll inputs manager).log) next := by
  induction inputs generalizing history manager with
  | nil =>
    obtain rfl : manager = next := by
      simpa [EventManager.performAll] using returned
    simpa [EventManager.performAll] using reached
  | cons input rest inductionHypothesis =>
    rcases performed : perform input manager with ⟨log, reason | ⟨output, middle⟩⟩
    · rw [EventManager.performAll, Exec.bind_error performed] at returned
      simp at returned
    · rw [EventManager.performAll, Exec.bind_ok performed] at returned ⊢
      have stepped : Reachable start (history ++ log) middle := by
        have extended := reached.step input output (by rw [performed])
        rwa [performed] at extended
      have finished := inductionHypothesis stepped returned
      rwa [List.append_assoc] at finished

/-- Calls that complete reach the manager they finish in. -/
theorem reachable_finish {start : EventManager kernel T} {inputs : List (Input T)}
    (completed : (performAll inputs start).result.isOk = true) :
    Reachable start (performAll inputs start).log (finish inputs start) := by
  rcases result : (performAll inputs start).result with panic | ⟨value, manager⟩
  · simp [result, Except.isOk, Except.toBool] at completed
  · have finished : finish inputs start = manager := by simp only [finish, result]
    rw [finished]
    exact Reachable.performAll .start inputs result

end EventManager

/-- A subscriber that performs a fixed list of operations at every event and none
when it is registered. -/
structure Scripted where
  script : List Operation

namespace Scripted

/-- Perform the operations in order, whatever they return. -/
def follow (subscriber : Scripted) : List Operation → Callback Scripted
  | [] => .ret subscriber
  | operation :: rest => .call operation (fun _ => follow subscriber rest)

/-- A scripted subscriber performs its operations at every event, whatever they return,
and nothing in `init`. -/
instance : MutEventSubscriber Scripted where
  process subscriber _ := subscriber.follow subscriber.script
  init subscriber := .ret subscriber

end Scripted

namespace EventManager

/-- A new manager on the reference kernel, with a buffer of four slots and
descriptor 3 for the endpoint. -/
def fresh : EventManager Kernel.reference Scripted where
  subscribers := .new
  epollContext :=
    { epoll := (InterestList.empty.ctl .add 3 (channelEvent 3)).2
      fdDispatch := PartialMap.empty
      subscriberWatchList := PartialMap.empty
      readyEvents := List.replicate 4 .default }
  channelFd := 3

/-- It was just created. -/
theorem fresh_started : fresh.Started := ⟨4, InterestList.empty, 3, rfl, rfl⟩

end EventManager

end EventLoop
