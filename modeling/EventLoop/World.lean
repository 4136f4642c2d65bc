import EventLoop.Delivery
import EventLoop.Library.Attempt

/-!
# The manager when callbacks and closures panic

A panic inside a callback unwinds through the manager to whoever called it, and a
caller may catch it and go on. What was done before the panic stays done: the
subscriber is left as the callback left it, and so are the registries. This is
the manager with such callbacks, over the same state and with the same
observations, as computations that leave their state behind when they panic.

Subscribers are often handles to memory that other threads reach as well. The
world is the manager together with that memory. What the others do to it is a
schedule, consulted whenever the manager's thread comes to look; nothing is
assumed of it here.
-/

namespace EventLoop

open Replay

/-- What a panic of a subscriber or of a closure carries. -/
inductive Payload where
  /-- `unwrap` of what a poisoned mutex gives. -/
  | poisonError
  /-- `borrow_mut` of a cell that is borrowed. -/
  | borrowMutError
  /-- `expect` of a failed operation. -/
  | expect (message : String) (error : Error)
  /-- `panic!`. -/
  | message (text : String)
  /-- Arithmetic overflows. -/
  | overflow
deriving DecidableEq, Repr

/-- Whose code a panic comes from. -/
inductive Fault where
  | manager (panic : Panic)
  | callback (id : SubscriberId) (payload : Payload)
  | closure (payload : Payload)
deriving DecidableEq, Repr

/-- How a callback ends: what it leaves, and the panic it ended in, if it did. -/
structure Ending (S : Type) where
  value : S
  panic : Option Payload

/-- A callback that may panic. -/
abbrev Handler (S : Type) := Program Operation (fun _ => Except Error Unit) (Ending S)

/-- A subscriber that may panic, and that may use memory `H` it does not own. -/
class SharedSubscriber (H T : Type) where
  process : T → Events → H → Handler (T × H)
  init : T → H → Handler (T × H)

/-- `MutEventSubscriber` as it is outside the other modules: its methods may panic. -/
class FallibleSubscriber (S : Type) where
  process : S → Events → Handler S
  init : S → Handler S

/-- A subscriber the manager owns shares nothing. -/
instance {S : Type} [FallibleSubscriber S] : SharedSubscriber Unit S where
  process subscriber events _ := (FallibleSubscriber.process subscriber events).map
    (fun ending => ⟨(ending.value, ()), ending.panic⟩)
  init subscriber _ := (FallibleSubscriber.init subscriber).map
    (fun ending => ⟨(ending.value, ()), ending.panic⟩)

/-- Borrowing a registered subscriber from outside returns it and leaves it changed. -/
theorem EventManager.subscriberMut_some {kernel : Kernel} {T : Type}
    {manager : EventManager kernel T} {id : SubscriberId} {subscriber : T} (update : T → T)
    (registered : manager.subscribers.subscribers id = some subscriber) :
    subscriberMut id update manager =
      ⟨[.store id (update subscriber)], .ok (.ok subscriber,
        { manager with subscribers := manager.subscribers.write id (update subscriber) })⟩ := by
  have found : getMutUnchecked id manager = ⟨[], .ok (subscriber, manager)⟩ := by
    simp only [getMutUnchecked, Subscribers.getMutUnchecked, registered, Except.map]
  have present : manager.subscribers.contains id = true := by
    simp [Subscribers.contains, registered]
  rw [subscriberMut, Exec.read_bind, if_pos present, Exec.bind_ok found]
  rfl

/-- The manager, the memory its subscribers share with other threads, and what
those do to it before each look of the manager's thread. -/
structure World (kernel : Kernel) (H T : Type) where
  manager : EventManager kernel T
  heap : H
  others : Nat → H → H
  looks : Nat

namespace World

variable {kernel : Kernel} {H T : Type}

/-- Computations of the manager's thread. -/
abbrev Manage (kernel : Kernel) (H T α : Type) :=
  Attempt (World kernel H T) (Observation T) Fault α

/-- A closure sent through the endpoint: the requests it makes, and the panic it
ends in, if it does. -/
abbrev Closure (T : Type) := Program (Request T) Response (Option Payload)

/-- A computation of the manager that involves no callback. -/
def within {α : Type} (body : EventManager.Manage kernel T α) : Manage kernel H T α :=
  Attempt.within World.manager (fun world manager => { world with manager := manager })
    Fault.manager body

/-- Look at the shared memory, after the others. -/
def borrow : Manage kernel H T H := fun world =>
  let heap := world.others world.looks world.heap
  ⟨[], { world with heap := heap, looks := world.looks + 1 }, .ok heap⟩

/-- A callback is over: what it leaves of the subscriber and of the shared memory
stays, and so does its panic. -/
def conclude (id : SubscriberId) (ending : Ending (T × H)) : Manage kernel H T Unit := fun world =>
  ⟨[.store id ending.value.1],
    { world with
      manager := { world.manager with
        subscribers := world.manager.subscribers.write id ending.value.1 }
      heap := ending.value.2 },
    match ending.panic with
    | none => .ok ()
    | some payload => .error (.callback id payload)⟩

/-- Run a callback with the `EventOps` bound to the subscriber. -/
def callback (id : SubscriberId) (handler : H → Handler (T × H)) : Manage kernel H T Unit := do
  let heap ← borrow
  let ending ← Program.interpret (fun operation => within (EventManager.operate id operation))
    (handler heap)
  conclude id ending

/-- Draw an id and store the subscriber under it. The increment comes first, so
nothing is stored where it overflows. -/
def enroll (subscriber : T) : Manage kernel H T SubscriberId := fun world =>
  match world.manager.subscribers.add subscriber with
  | .error panic => ⟨[], world, .error (.manager panic)⟩
  | .ok (id, subscribers) =>
      ⟨[.addSubscriber id subscriber],
        { world with manager := { world.manager with subscribers := subscribers } }, .ok id⟩

section Subscriber

variable [SharedSubscriber H T]

/-- Register a subscriber and run its `init`. -/
def addSubscriber (subscriber : T) : Manage kernel H T SubscriberId := do
  let id ← enroll subscriber
  let borrowed ← within (EventManager.getMutUnchecked id)
  callback id (SharedSubscriber.init borrowed)
  pure id

/-- Serve a request of the manager's own interface. -/
def serve : (request : Request T) → Manage kernel H T (Response request)
  | .addSubscriber subscriber => addSubscriber subscriber
  | .removeSubscriber id => within (EventManager.removeSubscriber id)
  | .subscriberMut id update => within (EventManager.subscriberMut id update)
  | .eventOps id operation => within (EventManager.eventOps id operation)

/-- Deliver an event to the subscriber. -/
def process (id : SubscriberId) (event : EpollEvent) : Manage kernel H T Unit := do
  let subscriber ← within (EventManager.getMutUnchecked id)
  within (EventManager.observe (.process id (Events.withInner event)))
  callback id (SharedSubscriber.process subscriber (Events.withInner event))

/-- The dispatch loop, from slot `evIndex` on with `remaining` slots to go. -/
def dispatchLoop (evIndex : Nat) : (remaining : Nat) → (endpointEvent : Option EpollEvent) →
    Manage kernel H T (Option EpollEvent)
  | 0, endpointEvent => pure endpointEvent
  | remaining + 1, endpointEvent => do
      let event ← within (EventManager.readyEvent evIndex)
      if EventManager.Discarded event then dispatchLoop (evIndex + 1) remaining endpointEvent
      else
        let world ← Attempt.read
        match world.manager.epollContext.subscriberId event.fd with
        | some id =>
            process id event
            dispatchLoop (evIndex + 1) remaining endpointEvent
        | none =>
            if event.fd = world.manager.channelFd then
              dispatchLoop (evIndex + 1) remaining (some event)
            else Attempt.abort (.manager .unregisteredFd)

/-- Run one closure. -/
def invoke (closure : Closure T) : Manage kernel H T Unit := do
  let panic ← Program.interpret serve closure
  match panic with
  | none => pure ()
  | some payload => Attempt.abort (.closure payload)

/-- Run the closures the drain of the endpoint queue finds, in order. -/
def handleEndpointCalls : List (Closure T) → Manage kernel H T Unit
  | [] => pure ()
  | closure :: rest => do
      invoke closure
      handleEndpointCalls rest

/-- Look at the endpoint's event, if the loop found it, and run the closures. Anything but
`IN` on the endpoint is a panic. -/
def dispatchEndpointEvent (endpointEvent : Option EpollEvent) (closures : List (Closure T)) :
    Manage kernel H T Unit :=
  match endpointEvent with
  | none => pure ()
  | some event =>
      if event.eventSet ≠ .IN then Attempt.abort (.manager .endpointEventSet)
      else handleEndpointCalls closures

/-- Dispatch the events in the first slots, then run the endpoint's closures if
the endpoint was among them. -/
def dispatchEvents (eventCount : Nat) (closures : List (Closure T)) : Manage kernel H T Unit := do
  let endpointEvent ← dispatchLoop 0 eventCount none
  dispatchEndpointEvent endpointEvent closures

/-- Wait for events and dispatch them; returns how many were reported. -/
def runWithTimeout (milliseconds : Int) (response : Except Errno (List EpollEvent))
    (closures : List (Closure T)) : Manage kernel H T (Except Error Nat) := do
  let polled ← within (EventManager.poll milliseconds response)
  match polled with
  | .error error => pure (.error error)
  | .ok eventCount =>
      dispatchEvents eventCount closures
      pure (.ok eventCount)

end Subscriber

/-- One call from outside. -/
inductive Input (T : Type) where
  | request (request : Request T)
  | run (milliseconds : Int) (response : Except Errno (List EpollEvent))
      (closures : List (Closure T))

/-- Make the call. -/
def perform [SharedSubscriber H T] : Input T → Manage kernel H T (Output T)
  | .request request => do
      let response ← serve request
      pure (.response request response)
  | .run milliseconds response closures => do
      let eventCount ← runWithTimeout milliseconds response closures
      pure (.ran eventCount)

/-- The world reached from `start` by allowed calls, each of which returned or had its
panic caught, with the history they left. -/
inductive Reaches [SharedSubscriber H T] (allowed : Input T → Prop) (start : World kernel H T) :
    List (Observation T) → World kernel H T → Prop
  | start : Reaches allowed start [] start
  | step {history : List (Observation T)} {world : World kernel H T}
      (reached : Reaches allowed start history world) (input : Input T) (may : allowed input) :
      Reaches allowed start (history ++ (perform input world).log) (perform input world).state

/-- Make calls in turn, catching their panics; the history they leave and the world
they end in. -/
def performAll [SharedSubscriber H T] :
    List (Input T) → World kernel H T → List (Observation T) × World kernel H T
  | [], world => ([], world)
  | input :: rest, world =>
      ((perform input world).log ++ (performAll rest (perform input world).state).1,
        (performAll rest (perform input world).state).2)

/-- Calls made in turn reach what they end in. -/
theorem Reaches.performAll [SharedSubscriber H T] {allowed : Input T → Prop}
    {start world : World kernel H T} {past : List (Observation T)}
    (reached : Reaches allowed start past world) {inputs : List (Input T)}
    (may : ∀ input ∈ inputs, allowed input) :
    Reaches allowed start (past ++ (performAll inputs world).1) (performAll inputs world).2 := by
  induction inputs generalizing past world with
  | nil => simpa [World.performAll] using reached
  | cons input rest inductionHypothesis =>
    have stepped := reached.step input (may input List.mem_cons_self)
    have finished := inductionHypothesis stepped
      (fun other member => may other (List.mem_cons_of_mem input member))
    rwa [List.append_assoc] at finished

section Run

/-- Borrowing a registered subscriber returns it. -/
theorem getMutUnchecked_some {world : World kernel H T} {id : SubscriberId} {subscriber : T}
    (registered : world.manager.subscribers.subscribers id = some subscriber) :
    within (EventManager.getMutUnchecked id) world = ⟨[], world, .ok subscriber⟩ := by
  refine Attempt.within_ok ?_
  simp only [EventManager.getMutUnchecked, Subscribers.getMutUnchecked, registered, Except.map]

/-- Borrowing any other panics. -/
theorem getMutUnchecked_none {world : World kernel H T} {id : SubscriberId}
    (missing : world.manager.subscribers.subscribers id = none) :
    within (EventManager.getMutUnchecked id) world =
      ⟨[], world, .error (.manager .unwrapNone)⟩ := by
  refine Attempt.within_error ?_
  simp only [EventManager.getMutUnchecked, Subscribers.getMutUnchecked, missing, Except.map]

/-- What the operations of a callback can do: they reach the epoll context only, and
the callback ends in one of its endings. -/
theorem operations_run (id : SubscriberId) {α : Type}
    (program : Program Operation (fun _ => Except Error Unit) α) (world : World kernel H T) :
    ∃ log epollContext value,
      Program.interpret (fun operation => within (EventManager.operate id operation)) program
          world =
        ⟨log, { world with manager := { world.manager with epollContext := epollContext } },
          .ok value⟩ ∧
      program.Yields value ∧ ∀ observation ∈ log, ∃ operation result,
        observation = .operation id operation result := by
  induction program generalizing world with
  | ret value => exact ⟨[], world.manager.epollContext, value, rfl, .ret value, nofun⟩
  | call operation next inductionHypothesis =>
    let performed := EventOps.perform world.manager.epollContext id operation
    obtain ⟨log, epollContext, value, ran, yields, own⟩ := inductionHypothesis performed.1
      { world with manager := { world.manager with epollContext := performed.2 } }
    have operated : within (EventManager.operate id operation) world =
        ⟨[.operation id operation performed.1],
          { world with manager := { world.manager with epollContext := performed.2 } },
          .ok performed.1⟩ := Attempt.within_ok rfl
    refine ⟨.operation id operation performed.1 :: log, epollContext, value, ?_,
      .call performed.1 yields, ?_⟩
    · rw [Program.interpret, Attempt.bind_ok operated, ran]
      rfl
    · intro observation member
      rcases List.mem_cons.mp member with rfl | later
      · exact ⟨operation, performed.1, rfl⟩
      · exact own observation later

/-- What a callback can do: it sees the shared memory as the others left it, comes to
one of its endings, and what the ending leaves stays, with its panic. -/
theorem callback_run (id : SubscriberId) (handler : H → Handler (T × H))
    (world : World kernel H T) :
    ∃ log epollContext ending,
      (handler (world.others world.looks world.heap)).Yields ending ∧
      callback id handler world =
        ⟨log ++ [.store id ending.value.1],
          { manager := { world.manager with
              subscribers := world.manager.subscribers.write id ending.value.1
              epollContext := epollContext }
            heap := ending.value.2
            others := world.others
            looks := world.looks + 1 },
          match ending.panic with
          | none => .ok ()
          | some payload => .error (.callback id payload)⟩ ∧
      ∀ observation ∈ log, ∃ operation result, observation = .operation id operation result := by
  obtain ⟨log, epollContext, ending, ran, yields, own⟩ := operations_run id
    (handler (world.others world.looks world.heap))
    { world with heap := world.others world.looks world.heap, looks := world.looks + 1 }
  refine ⟨log, epollContext, ending, yields, ?_, own⟩
  have looked : borrow world = ⟨[], { world with
      heap := world.others world.looks world.heap, looks := world.looks + 1 },
      .ok (world.others world.looks world.heap)⟩ := rfl
  rw [callback, Attempt.bind_ok looked, Attempt.bind_ok ran]
  rfl

/-- A relation that callbacks move in, and that has room for whatever the manager does
to itself. -/
structure Confines [SharedSubscriber H T]
    (bounds : World kernel H T → Except Fault Unit → World kernel H T → Prop) : Prop where
  managed : ∀ world manager, bounds world (.ok ()) { world with manager := manager }
  panicked : ∀ world panic, bounds world (.error (.manager panic)) world
  unwound : ∀ world payload, bounds world (.error (.closure payload)) world
  followed : ∀ first ending second third, bounds first (.ok ()) second →
    bounds second ending third → bounds first ending third
  processed : ∀ id (subscriber : T) events, Attempt.Moves bounds
    (callback id (SharedSubscriber.process subscriber events) : Manage kernel H T Unit)
  initialized : ∀ id (subscriber : T), Attempt.Moves bounds
    (callback id (SharedSubscriber.init subscriber) : Manage kernel H T Unit)

section Confined

variable [SharedSubscriber H T]
  {bounds : World kernel H T → Except Fault Unit → World kernel H T → Prop}

/-- Returning does nothing to the world. -/
theorem Confines.ret (confines : Confines bounds) {α : Type} (value : α) :
    Attempt.Moves bounds (pure value : Manage kernel H T α) :=
  fun world => confines.managed world world.manager

/-- A computation of the manager alone does nothing but to the manager. -/
theorem Confines.within (confines : Confines bounds) {α : Type}
    (body : EventManager.Manage kernel T α) :
    Attempt.Moves bounds (World.within body : Manage kernel H T α) := by
  intro world
  rcases run : body world.manager with ⟨log, panic | ⟨value, manager⟩⟩
  · rw [World.within, Attempt.within_error run]
    exact confines.panicked world panic
  · rw [World.within, Attempt.within_ok run]
    exact confines.managed world manager

/-- Requests stay within what callbacks stay within: only an addition runs one. -/
theorem Confines.serve (confines : Confines bounds) (request : Request T) :
    Attempt.Moves bounds (World.serve request : Manage kernel H T (Response request)) := by
  cases request with
  | addSubscriber subscriber =>
    have enrolled : Attempt.Moves bounds (enroll subscriber : Manage kernel H T SubscriberId) := by
      intro world
      unfold enroll
      split
      · exact confines.panicked world _
      · exact confines.managed world _
    refine enrolled.bind confines.followed (fun id => ?_)
    refine (confines.within (EventManager.getMutUnchecked id)).bind confines.followed
      (fun borrowed => ?_)
    exact (confines.initialized id borrowed).bind confines.followed (fun _ => confines.ret id)
  | removeSubscriber id => exact confines.within _
  | subscriberMut id update => exact confines.within _
  | eventOps id operation => exact confines.within _

/-- So does the dispatch loop, by induction on the slots to go. -/
theorem Confines.dispatchLoop (confines : Confines bounds) (evIndex remaining : Nat)
    (endpointEvent : Option EpollEvent) :
    Attempt.Moves bounds (World.dispatchLoop evIndex remaining endpointEvent :
      Manage kernel H T (Option EpollEvent)) := by
  induction remaining generalizing evIndex endpointEvent with
  | zero => exact confines.ret endpointEvent
  | succ remaining inductionHypothesis =>
    refine (confines.within (EventManager.readyEvent evIndex)).bind confines.followed
      (fun event => ?_)
    by_cases discarded : EventManager.Discarded event
    · simp only [discarded, if_true]
      exact inductionHypothesis (evIndex + 1) endpointEvent
    · simp only [discarded, if_false]
      have delivered : ∀ id, Attempt.Moves bounds (process id event : Manage kernel H T Unit) := by
        intro id
        refine (confines.within (EventManager.getMutUnchecked id)).bind confines.followed
          (fun subscriber => ?_)
        exact (confines.within (EventManager.observe _)).bind confines.followed
          (fun _ => confines.processed id subscriber _)
      intro world
      rw [Attempt.read_bind]
      cases world.manager.epollContext.subscriberId event.fd with
      | some id =>
        exact (delivered id).bind confines.followed
          (fun _ => inductionHypothesis (evIndex + 1) endpointEvent) world
      | none =>
        by_cases own : event.fd = world.manager.channelFd
        · simp only [own, if_true]
          exact inductionHypothesis (evIndex + 1) (some event) world
        · simp only [own, if_false]
          exact confines.panicked world _

/-- So do the closures of the endpoint, whose panics have room in the relation too. -/
theorem Confines.handleEndpointCalls (confines : Confines bounds) (closures : List (Closure T)) :
    Attempt.Moves bounds (World.handleEndpointCalls closures : Manage kernel H T Unit) := by
  induction closures with
  | nil => exact confines.ret ()
  | cons closure rest inductionHypothesis =>
    have invoked : Attempt.Moves bounds (invoke closure : Manage kernel H T Unit) := by
      refine (Program.moves_interpret (fun world => confines.managed world world.manager)
        confines.followed confines.serve closure).bind confines.followed (fun panic => ?_)
      cases panic with
      | none => exact confines.ret ()
      | some payload => exact fun world => confines.unwound world payload
    exact invoked.bind confines.followed (fun _ => inductionHypothesis)

/-- Calls stay within what callbacks stay within. A request runs at most one callback, and
a turn of the loop the wait, the batch and the closures in turn. -/
theorem Confines.perform (confines : Confines bounds) (input : Input T) :
    Attempt.Moves bounds (World.perform input : Manage kernel H T (Output T)) := by
  cases input with
  | request request =>
    exact (confines.serve request).bind confines.followed (fun _ => confines.ret _)
  | run milliseconds response closures =>
    have dispatched : ∀ eventCount, Attempt.Moves bounds
        (dispatchEvents eventCount closures : Manage kernel H T Unit) := by
      intro eventCount
      refine (confines.dispatchLoop 0 eventCount none).bind confines.followed (fun found => ?_)
      cases found with
      | none => exact confines.ret ()
      | some event =>
        rw [dispatchEndpointEvent]
        split
        · exact fun world => confines.panicked world _
        · exact confines.handleEndpointCalls closures
    have ran : Attempt.Moves bounds
        (runWithTimeout milliseconds response closures : Manage kernel H T (Except Error Nat)) := by
      refine (confines.within (EventManager.poll milliseconds response)).bind confines.followed
        (fun polled => ?_)
      cases polled with
      | error error => exact confines.ret _
      | ok eventCount =>
        exact (dispatched eventCount).bind confines.followed (fun _ => confines.ret _)
    exact ran.bind confines.followed (fun _ => confines.ret _)

end Confined

end Run

section Steady

/-- A subscriber that never panics and shares nothing. -/
instance [MutEventSubscriber T] : SharedSubscriber Unit T where
  process subscriber events _ :=
    (MutEventSubscriber.process subscriber events).map (fun next => ⟨(next, ()), none⟩)
  init subscriber _ := (MutEventSubscriber.init subscriber).map (fun next => ⟨(next, ()), none⟩)

/-- The same call, with closures that do not panic. -/
def steady : EventLoop.Input T → Input T
  | .request asked => .request asked
  | .run milliseconds response closures =>
      .run milliseconds response (closures.map (Program.map (fun _ => none)))

/-- Where the first computation returns, the second returns the image of its value,
with the same log and the same manager; where it panics, so does the second. -/
def Mirrors {α β : Type} (image : α → β) (body : EventManager.Manage kernel T α)
    (mirror : Manage kernel H T β) : Prop :=
  ∀ world, match (body world.manager).result with
    | .ok (value, next) => (mirror world).log = (body world.manager).log ∧
        (mirror world).state.manager = next ∧ (mirror world).result = .ok (image value)
    | .error panic => (mirror world).result = .error (.manager panic)

/-- Returning a value mirrors returning its image. -/
theorem Mirrors.ret {α β : Type} {image : α → β} (value : α) :
    Mirrors image (pure value : EventManager.Manage kernel T α)
      (pure (image value) : Manage kernel H T β) :=
  fun _ => ⟨rfl, rfl, rfl⟩

/-- A computation of the manager alone is mirrored by itself in the world. -/
theorem Mirrors.within {α : Type} (body : EventManager.Manage kernel T α) :
    Mirrors id body (within body : Manage kernel H T α) := by
  intro world
  rcases run : body world.manager with ⟨log, panic | ⟨value, next⟩⟩
  · rw [World.within, Attempt.within_error run]
  · rw [World.within, Attempt.within_ok run]
    exact ⟨rfl, rfl, rfl⟩

/-- Sequencing: what follows has to mirror from every value and its image. -/
theorem Mirrors.bind {α β γ δ : Type} {image : α → β} {last : γ → δ}
    {first : EventManager.Manage kernel T α} {next : α → EventManager.Manage kernel T γ}
    {mirror : Manage kernel H T β} {later : β → Manage kernel H T δ}
    (initial : Mirrors image first mirror)
    (rest : ∀ value, Mirrors last (next value) (later (image value))) :
    Mirrors last (first >>= next) (mirror >>= later) := by
  intro world
  have begun := initial world
  rcases run : first world.manager with ⟨log, panic | ⟨value, middle⟩⟩
  · rw [run] at begun
    rcases ran : mirror world with ⟨other, after, result⟩
    rw [ran] at begun
    obtain rfl : result = .error (.manager panic) := begun
    rw [Exec.bind_error run, Attempt.bind_error ran]
  · rw [run] at begun
    rcases ran : mirror world with ⟨other, after, result⟩
    rw [ran] at begun
    obtain ⟨rfl, rfl, rfl⟩ := begun
    have ended := rest value after
    rw [Exec.bind_ok run, Attempt.bind_ok ran]
    rcases final : (next value after.manager).result with panic | ⟨outcome, final⟩
    · simpa only [final] using ended
    · simp only [final] at ended ⊢
      exact ⟨congrArg (other ++ ·) ended.1, ended.2⟩

/-- A computation that inspects the manager first may be mirrored for each manager
separately. -/
theorem Mirrors.read_bind {γ δ : Type} {last : γ → δ}
    {next : EventManager kernel T → EventManager.Manage kernel T γ}
    {later : World kernel H T → Manage kernel H T δ}
    (rest : ∀ world : World kernel H T, Mirrors last (next world.manager) (later world)) :
    Mirrors last (Exec.read >>= next) (Attempt.read >>= later) := by
  intro world
  rw [Exec.read_bind, Attempt.read_bind]
  exact rest world world

/-- A program is mirrored request by request. -/
theorem Mirrors.interpret {Req : Type} {Res : Req → Type} {α β : Type} {image : α → β}
    {serve : (request : Req) → EventManager.Manage kernel T (Res request)}
    {other : (request : Req) → Manage kernel H T (Res request)}
    (each : ∀ request, Mirrors id (serve request) (other request))
    (program : Program Req Res α) :
    Mirrors image (Program.interpret serve program) (Program.interpret other (program.map image)) := by
  induction program with
  | ret value => exact .ret value
  | call request next inductionHypothesis => exact (each request).bind inductionHypothesis

/-- A callback that cannot panic. -/
theorem callback_mirrors (id : SubscriberId) (program : Callback T) :
    Mirrors (fun _ => ()) (EventManager.callback id program >>= EventManager.store id)
      (callback id (fun _ => program.map (fun next => ⟨(next, ()), none⟩)) :
        Manage kernel Unit T Unit) := by
  have stored : ∀ subscriber : T, Mirrors (fun _ => ()) (EventManager.store id subscriber)
      (conclude id ⟨(subscriber, ()), none⟩ : Manage kernel Unit T Unit) :=
    fun _ _ => ⟨rfl, rfl, rfl⟩
  have called : Mirrors (fun _ => ()) (EventManager.callback id program >>= EventManager.store id)
      (Program.interpret (fun operation => within (EventManager.operate id operation))
          (program.map (fun next => (⟨(next, ()), none⟩ : Ending (T × Unit)))) >>=
        conclude id : Manage kernel Unit T Unit) :=
    (Mirrors.interpret (fun operation => Mirrors.within (EventManager.operate id operation))
      program).bind stored
  intro world
  exact called { world with heap := world.others world.looks world.heap, looks := world.looks + 1 }

/-- Drawing an id overflows alike; here an overflow logs nothing. -/
theorem enroll_mirrors (subscriber : T) :
    Mirrors id (EventManager.enroll subscriber)
      (enroll subscriber : Manage kernel H T SubscriberId) := by
  intro world
  by_cases last : world.manager.subscribers.nextId = BitVec.allOnes 64
  · simp only [EventManager.enroll, enroll, Subscribers.add, last, if_true, Except.map]
  · simp only [EventManager.enroll, enroll, Subscribers.add, last, if_false, Except.map]
    exact ⟨trivial, trivial, rfl⟩

variable [MutEventSubscriber T]

/-- An addition is mirrored, with an `init` that does not panic. -/
theorem addSubscriber_mirrors (subscriber : T) :
    Mirrors id (EventManager.addSubscriber subscriber)
      (addSubscriber subscriber : Manage kernel Unit T SubscriberId) := by
  refine (enroll_mirrors subscriber).bind (fun drawn => ?_)
  refine (Mirrors.within (EventManager.getMutUnchecked drawn)).bind (fun borrowed => ?_)
  rw [← Exec.bind_assoc]
  exact (callback_mirrors drawn (MutEventSubscriber.init borrowed)).bind
    (fun _ => Mirrors.ret drawn)

/-- So is every request. -/
theorem serve_mirrors (request : Request T) :
    Mirrors id (EventManager.serve request)
      (serve request : Manage kernel Unit T (Response request)) := by
  cases request with
  | addSubscriber subscriber => exact addSubscriber_mirrors subscriber
  | removeSubscriber id => exact Mirrors.within _
  | subscriberMut id update => exact Mirrors.within _
  | eventOps id operation => exact Mirrors.within _

/-- So is the dispatch loop, by induction on the slots to go. -/
theorem dispatchLoop_mirrors (evIndex remaining : Nat) (endpointEvent : Option EpollEvent) :
    Mirrors id (EventManager.dispatchLoop evIndex remaining endpointEvent)
      (dispatchLoop evIndex remaining endpointEvent :
        Manage kernel Unit T (Option EpollEvent)) := by
  induction remaining generalizing evIndex endpointEvent with
  | zero => exact Mirrors.ret endpointEvent
  | succ remaining inductionHypothesis =>
    refine (Mirrors.within (EventManager.readyEvent evIndex)).bind (fun event => ?_)
    by_cases discarded : EventManager.Discarded event
    · simp only [id, discarded, if_true]
      exact inductionHypothesis (evIndex + 1) endpointEvent
    · simp only [id, discarded, if_false]
      refine Mirrors.read_bind (fun world => ?_)
      cases world.manager.epollContext.subscriberId event.fd with
      | some owner =>
        have delivered : Mirrors (fun _ => ()) (EventManager.process owner event)
            (process owner event : Manage kernel Unit T Unit) := by
          refine (Mirrors.within (EventManager.getMutUnchecked owner)).bind (fun subscriber => ?_)
          refine (Mirrors.within (EventManager.observe _)).bind (fun _ => ?_)
          exact callback_mirrors owner _
        exact delivered.bind (fun _ => inductionHypothesis (evIndex + 1) endpointEvent)
      | none =>
        by_cases own : event.fd = world.manager.channelFd
        · simp only [own, if_true]
          exact inductionHypothesis (evIndex + 1) (some event)
        · simp only [own, if_false]
          exact fun _ => rfl

/-- So are closures that do not panic, by induction on the queue. -/
theorem handleEndpointCalls_mirrors (closures : List (EventLoop.Closure T)) :
    Mirrors id (EventManager.handleEndpointCalls closures)
      (handleEndpointCalls (closures.map (Program.map (fun _ => none))) :
        Manage kernel Unit T Unit) := by
  induction closures with
  | nil => exact Mirrors.ret ()
  | cons closure rest inductionHypothesis =>
    have invoked : Mirrors (fun _ => ()) (Program.interpret EventManager.serve closure)
        (invoke (closure.map (fun _ => none)) : Manage kernel Unit T Unit) := by
      intro world
      have ran : Mirrors (fun _ => (none : Option Payload))
          (Program.interpret EventManager.serve closure)
          (Program.interpret serve (closure.map (fun _ => none)) : Manage kernel Unit T _) :=
        Mirrors.interpret serve_mirrors closure
      have ended := ran world
      rw [invoke]
      rcases outcome : Program.interpret serve (closure.map (fun _ => none)) world with
        ⟨log, after, result⟩
      rw [outcome] at ended
      rcases result : (Program.interpret EventManager.serve closure world.manager).result with
        panic | ⟨value, next⟩
      · simp only [result] at ended ⊢
        subst ended
        rw [Attempt.bind_error outcome]
      · simp only [result] at ended ⊢
        obtain ⟨logged, left, rfl⟩ := ended
        rw [Attempt.bind_ok outcome]
        exact ⟨(List.append_nil log).trans logged, left, rfl⟩
    exact invoked.bind (fun _ => inductionHypothesis)

/-- So is the dispatch of a batch. -/
theorem dispatchEvents_mirrors (eventCount : Nat) (closures : List (EventLoop.Closure T)) :
    Mirrors id (EventManager.dispatchEvents eventCount closures)
      (dispatchEvents eventCount (closures.map (Program.map (fun _ => none))) :
        Manage kernel Unit T Unit) := by
  refine (dispatchLoop_mirrors 0 eventCount none).bind (fun found => ?_)
  cases found with
  | none => exact Mirrors.ret ()
  | some event =>
    by_cases odd : event.eventSet ≠ .IN
    · simp only [id, EventManager.dispatchEndpointEvent, dispatchEndpointEvent, if_pos odd]
      exact fun _ => rfl
    · simp only [id, EventManager.dispatchEndpointEvent, dispatchEndpointEvent, if_neg odd]
      exact handleEndpointCalls_mirrors closures

/-- So is a whole turn of the loop. -/
theorem runWithTimeout_mirrors (milliseconds : Int) (response : Except Errno (List EpollEvent))
    (closures : List (EventLoop.Closure T)) :
    Mirrors id (EventManager.runWithTimeout milliseconds response closures)
      (runWithTimeout milliseconds response (closures.map (Program.map (fun _ => none))) :
        Manage kernel Unit T (Except Error Nat)) := by
  refine (Mirrors.within (EventManager.poll milliseconds response)).bind (fun polled => ?_)
  cases polled with
  | error error => exact Mirrors.ret _
  | ok eventCount =>
    exact (dispatchEvents_mirrors eventCount closures).bind (fun _ => Mirrors.ret _)

/-- Where no callback and no closure panics, this is the manager of the other
modules: every call returns the same, logs the same and leaves the same manager,
and panics where that one does. -/
theorem perform_mirrors (input : EventLoop.Input T) :
    Mirrors id (EventManager.perform input)
      (perform (steady input) : Manage kernel Unit T (Output T)) := by
  cases input with
  | request request => exact (serve_mirrors request).bind (fun _ => Mirrors.ret _)
  | run milliseconds response closures =>
    exact (runWithTimeout_mirrors milliseconds response closures).bind (fun _ => Mirrors.ret _)

end Steady

/-- A new manager on the reference kernel, as `EventManager.fresh`, beside shared memory
that nobody else changes. -/
def fresh (heap : H) : World Kernel.reference H T where
  manager :=
    { subscribers := .new
      epollContext := EventManager.fresh.epollContext
      channelFd := 3 }
  heap := heap
  others _ memory := memory
  looks := 0

/-- It was just created. -/
theorem fresh_started (heap : H) : (fresh heap : World Kernel.reference H T).manager.Started :=
  ⟨4, InterestList.empty, 3, rfl, rfl⟩

end World

end EventLoop
