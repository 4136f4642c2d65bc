import EventLoop.EpollWrapper
import EventLoop.Library.Program

/-!
# The event manager

The manager owns its subscribers and its epoll context. A subscriber acts only
inside its callbacks, and there only through the operations of the `EventOps`
it is handed, so a callback is a program over those operations that ends with
the subscriber's next state. Closures sent through the remote endpoint are
programs over the manager's own interface.

Every function that changes the manager logs an observation for each change and
may panic where the source can: on an overflowing id counter, on an index past
the ready buffer, on a missing subscriber, and at its two unreachable arms. What
the kernel answers to a wait, and which closures a drain of the endpoint queue
finds, are inputs.
-/

namespace EventLoop

/-- A subscriber's callback: it performs operations, sees the result of each
before choosing the next, and ends in the subscriber's new state. -/
abbrev Callback (T : Type) := Program Operation (fun _ => Except Error Unit) T

/-- The interface between the manager and its subscribers. -/
class MutEventSubscriber (T : Type) where
  process : T → Events → Callback T
  init : T → Callback T

/-- The places where the manager's code panics. -/
inductive Panic where
  /-- `next_id += 1` overflows. -/
  | nextIdOverflow
  /-- `ready_events[ev_index]` is out of bounds. -/
  | indexOutOfBounds
  /-- `get_mut_unchecked` unwraps `None`. -/
  | unwrapNone
  /-- The `unreachable!` for an event of a descriptor nobody registered. -/
  | unregisteredFd
  /-- The `unreachable!` for an endpoint event other than `IN`. -/
  | endpointEventSet
deriving DecidableEq, Repr

/-- The registered subscribers and the counter their ids are drawn from. -/
@[ext] structure Subscribers (T : Type) where
  subscribers : SubscriberId → Option T
  nextId : BitVec 64

namespace Subscribers

variable {T : Type}

/-- No subscribers; the first id is 1. -/
def new : Subscribers T := ⟨PartialMap.empty, 1⟩

/-- Store the subscriber under the next id. The increment panics on overflow, as
in a build with overflow checks. -/
def add (subscribers : Subscribers T) (subscriber : T) :
    Except Panic (SubscriberId × Subscribers T) :=
  let id : SubscriberId := ⟨subscribers.nextId⟩
  if subscribers.nextId = BitVec.allOnes 64 then .error .nextIdOverflow
  else .ok (id,
    { subscribers := PartialMap.insert subscribers.subscribers id subscriber
      nextId := subscribers.nextId + 1 })

/-- Take the subscriber with the id out, if there is one. -/
def remove (subscribers : Subscribers T) (id : SubscriberId) : Option T × Subscribers T :=
  (subscribers.subscribers id,
    { subscribers with subscribers := PartialMap.erase subscribers.subscribers id })

/-- Whether somebody is registered under the id. -/
def contains (subscribers : Subscribers T) (id : SubscriberId) : Bool :=
  (subscribers.subscribers id).isSome

/-- The subscriber with the id, which must exist. -/
def getMutUnchecked (subscribers : Subscribers T) (id : SubscriberId) : Except Panic T :=
  match subscribers.subscribers id with
  | some subscriber => .ok subscriber
  | none => .error .unwrapNone

/-- Write through the reference `get_mut_unchecked` gave out. -/
def write (subscribers : Subscribers T) (id : SubscriberId) (subscriber : T) : Subscribers T :=
  { subscribers with subscribers := PartialMap.insert subscribers.subscribers id subscriber }

end Subscribers

/-- The manager. Of the endpoint channel only the descriptor of its eventfd takes
part in dispatch. -/
structure EventManager (kernel : Kernel) (T : Type) where
  subscribers : Subscribers T
  epollContext : EpollWrapper kernel
  channelFd : RawFd

/-- What the manager can be seen to do. -/
inductive Observation (T : Type) where
  /-- An operation through the `EventOps` bound to the subscriber. -/
  | operation (id : SubscriberId) (operation : Operation) (result : Except Error Unit)
  /-- A call of the subscriber's `process`. -/
  | process (id : SubscriberId) (events : Events)
  /-- The subscriber's state is replaced at the end of a callback or by a caller
  holding a reference to it. -/
  | store (id : SubscriberId) (subscriber : T)
  /-- A subscriber is given an id. -/
  | addSubscriber (id : SubscriberId) (subscriber : T)
  /-- A registered subscriber is removed. -/
  | removeSubscriber (id : SubscriberId)
  /-- The kernel is asked for events, at most `maxevents` of them, and responds. -/
  | wait (milliseconds : Int) (maxevents : BitVec 32) (response : Except Errno (List EpollEvent))

/-- What callers of the manager's own interface may ask, from outside or from an
endpoint closure. -/
inductive Request (T : Type) where
  | addSubscriber (subscriber : T)
  | removeSubscriber (id : SubscriberId)
  /-- Borrow the subscriber and leave it changed. -/
  | subscriberMut (id : SubscriberId) (update : T → T)
  /-- Borrow an `EventOps` and perform one operation with it. -/
  | eventOps (id : SubscriberId) (operation : Operation)

/-- What each request returns. -/
def Response {T : Type} : Request T → Type
  | .addSubscriber _ => SubscriberId
  | .removeSubscriber _ => Except Error T
  | .subscriberMut _ _ => Except Error T
  | .eventOps _ _ => Except Error (Except Error Unit)

/-- A closure sent through the endpoint, as far as the manager is concerned: the
requests it makes of the manager while it runs. -/
abbrev Closure (T : Type) := Program (Request T) Response Unit

namespace EventManager

variable {kernel : Kernel} {T : Type}

/-- Computations of the manager. -/
abbrev Manage (kernel : Kernel) (T : Type) (α : Type) :=
  Exec (EventManager kernel T) (Observation T) Panic α

/-- Log an observation that changes nothing. -/
def observe (observation : Observation T) : Manage kernel T Unit := fun manager =>
  ⟨[observation], .ok ((), manager)⟩

/-- Borrow the subscriber; an id under which nobody is registered is a panic. -/
def getMutUnchecked (id : SubscriberId) : Manage kernel T T := fun manager =>
  ⟨[], (manager.subscribers.getMutUnchecked id).map (fun subscriber => (subscriber, manager))⟩

/-- End a borrow of the subscriber, leaving the given value. -/
def store (id : SubscriberId) (subscriber : T) : Manage kernel T Unit := fun manager =>
  ⟨[.store id subscriber],
    .ok ((), { manager with subscribers := manager.subscribers.write id subscriber })⟩

/-- Perform an operation with the `EventOps` bound to the subscriber. -/
def operate (id : SubscriberId) (operation : Operation) :
    Manage kernel T (Except Error Unit) := fun manager =>
  let performed := EventOps.perform manager.epollContext id operation
  ⟨[.operation id operation performed.1],
    .ok (performed.1, { manager with epollContext := performed.2 })⟩

/-- Run a callback with the `EventOps` bound to the subscriber. -/
def callback (id : SubscriberId) (program : Callback T) : Manage kernel T T :=
  Program.interpret (operate id) program

/-- Draw an id and store the subscriber under it. -/
def enroll (subscriber : T) : Manage kernel T SubscriberId := fun manager =>
  ⟨[.addSubscriber ⟨manager.subscribers.nextId⟩ subscriber],
    (manager.subscribers.add subscriber).map
      (fun added => (added.1, { manager with subscribers := added.2 }))⟩

/-- Unregister and return the subscriber. -/
def removeSubscriber (id : SubscriberId) : Manage kernel T (Except Error T) := fun manager =>
  match manager.subscribers.remove id with
  | (none, _) => ⟨[], .ok (.error .invalidId, manager)⟩
  | (some subscriber, remaining) => ⟨[.removeSubscriber id], .ok (.ok subscriber,
      { manager with
        subscribers := remaining
        epollContext := manager.epollContext.remove id })⟩

/-- Borrow a registered subscriber; the caller sees it and leaves it changed. -/
def subscriberMut (id : SubscriberId) (update : T → T) : Manage kernel T (Except Error T) := do
  let manager ← Exec.read
  if manager.subscribers.contains id then
    let borrowed ← getMutUnchecked id
    store id (update borrowed)
    pure (.ok borrowed)
  else pure (.error .invalidId)

/-- Borrow the `EventOps` of a registered subscriber and perform an operation. -/
def eventOps (id : SubscriberId) (operation : Operation) :
    Manage kernel T (Except Error (Except Error Unit)) := do
  let manager ← Exec.read
  if manager.subscribers.contains id then
    let result ← operate id operation
    pure (.ok result)
  else pure (.error .invalidId)

/-- Ask the kernel for events. The length of the buffer is passed on as an `i32`. -/
def poll (milliseconds : Int) (response : Except Errno (List EpollEvent)) :
    Manage kernel T (Except Error Nat) := fun manager =>
  let polled := manager.epollContext.poll response
  ⟨[.wait milliseconds (BitVec.ofNat 32 manager.epollContext.readyEvents.length) response],
    .ok (polled.1, { manager with epollContext := polled.2 })⟩

/-- Read a slot of the ready buffer. -/
def readyEvent (evIndex : Nat) : Manage kernel T EpollEvent := fun manager =>
  match manager.epollContext.readyEvents[evIndex]? with
  | some event => ⟨[], .ok (event, manager)⟩
  | none => ⟨[], .error .indexOutOfBounds⟩

/-- The event was discarded: its flags and its descriptor are the default's. -/
def Discarded (event : EpollEvent) : Prop :=
  event.events = EpollEvent.default.events ∧ event.fd = EpollEvent.default.fd

/-- Whether an event was discarded is seen from it. -/
instance (event : EpollEvent) : Decidable (Discarded event) :=
  inferInstanceAs (Decidable (_ ∧ _))

/-- The largest buffer the kernel accepts: `i32::MAX` over the size of an event. -/
def maxReadyEventsCapacity (kernel : Kernel) : Nat := (2 ^ 31 - 1) / kernel.epollEventSize

/-- The capacity of the buffer where none is given. -/
def defaultReadyEventsCapacity : Nat := 256

/-- The registration of the endpoint's own descriptor. -/
def channelEvent (channelFd : RawFd) : EpollEvent := ⟨.IN, channelFd.signExtend 64⟩

/-- Create a manager from what the kernel returns for a new epoll instance and a
new eventfd, and register the eventfd's descriptor for `IN`. -/
def newWithCapacity (readyEventsCapacity : Nat) (epoll : Except Errno kernel.State)
    (eventFd : Except Errno RawFd) : Except Error (EventManager kernel T) := do
  if readyEventsCapacity > maxReadyEventsCapacity kernel then throw .invalidCapacity
  let epollContext ← EpollWrapper.new readyEventsCapacity epoll
  let channelFd ← eventFd.mapError .eventFd
  let answer := kernel.ctl epollContext.epoll .add channelFd (channelEvent channelFd)
  answer.1.mapError .epoll
  pure
    { subscribers := .new
      epollContext := { epollContext with epoll := answer.2 }
      channelFd := channelFd }

/-- A manager of the default capacity. -/
def new (epoll : Except Errno kernel.State) (eventFd : Except Errno RawFd) :
    Except Error (EventManager kernel T) :=
  newWithCapacity defaultReadyEventsCapacity epoll eventFd

section Subscriber

variable [MutEventSubscriber T]

/-- Register a subscriber and run its `init`. -/
def addSubscriber (subscriber : T) : Manage kernel T SubscriberId := do
  let id ← enroll subscriber
  let borrowed ← getMutUnchecked id
  let initialized ← callback id (MutEventSubscriber.init borrowed)
  store id initialized
  pure id

/-- Serve a request of the manager's own interface. -/
def serve : (request : Request T) → Manage kernel T (Response request)
  | .addSubscriber subscriber => addSubscriber subscriber
  | .removeSubscriber id => removeSubscriber id
  | .subscriberMut id update => subscriberMut id update
  | .eventOps id operation => eventOps id operation

/-- Deliver an event to the subscriber: call its `process` with an `EventOps`
bound to it. -/
def process (id : SubscriberId) (event : EpollEvent) : Manage kernel T Unit := do
  let subscriber ← getMutUnchecked id
  observe (.process id (Events.withInner event))
  let next ← callback id (MutEventSubscriber.process subscriber (Events.withInner event))
  store id next

/-- The dispatch loop, from slot `evIndex` on with `remaining` slots to go. Returns
the endpoint event, if one was among them. -/
def dispatchLoop (evIndex : Nat) : (remaining : Nat) → (endpointEvent : Option EpollEvent) →
    Manage kernel T (Option EpollEvent)
  | 0, endpointEvent => pure endpointEvent
  | remaining + 1, endpointEvent => do
      let event ← readyEvent evIndex
      if Discarded event then dispatchLoop (evIndex + 1) remaining endpointEvent
      else
        let manager ← Exec.read
        match manager.epollContext.subscriberId event.fd with
        | some id =>
            process id event
            dispatchLoop (evIndex + 1) remaining endpointEvent
        | none =>
            if event.fd = manager.channelFd then
              dispatchLoop (evIndex + 1) remaining (some event)
            else Exec.abort .unregisteredFd

/-- Run the closures the drain of the endpoint queue finds, in order. -/
def handleEndpointCalls : List (Closure T) → Manage kernel T Unit
  | [] => pure ()
  | closure :: rest => do
      Program.interpret serve closure
      handleEndpointCalls rest

/-- Look at the endpoint's event, if the loop found it, and run the closures. Anything but
`IN` on the endpoint is a panic. -/
def dispatchEndpointEvent (endpointEvent : Option EpollEvent) (closures : List (Closure T)) :
    Manage kernel T Unit :=
  match endpointEvent with
  | none => pure ()
  | some event =>
      if event.eventSet ≠ .IN then Exec.abort .endpointEventSet
      else handleEndpointCalls closures

/-- Dispatch the events in the first slots, then run the endpoint's closures if
the endpoint was among them. -/
def dispatchEvents (eventCount : Nat) (closures : List (Closure T)) : Manage kernel T Unit := do
  let endpointEvent ← dispatchLoop 0 eventCount none
  dispatchEndpointEvent endpointEvent closures

/-- Wait for events and dispatch them; returns how many were reported. -/
def runWithTimeout (milliseconds : Int) (response : Except Errno (List EpollEvent))
    (closures : List (Closure T)) : Manage kernel T (Except Error Nat) := do
  let polled ← poll milliseconds response
  match polled with
  | .error error => pure (.error error)
  | .ok eventCount =>
      dispatchEvents eventCount closures
      pure (.ok eventCount)

/-- Wait without a time limit. -/
def run (response : Except Errno (List EpollEvent)) (closures : List (Closure T)) :
    Manage kernel T (Except Error Nat) :=
  runWithTimeout (-1) response closures

end Subscriber

end EventManager

end EventLoop
