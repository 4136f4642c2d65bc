import EventLoop.Wrappers

/-!
# Owned wrappers change nothing

A subscriber may be given to the manager in a `Box`, in a `RefCell` or in a `Mutex`
that the manager then owns. What its callers do with it they do through the wrapper.
A manager of wrapped subscribers behaves in every run as the manager of the bare
ones: the same calls return the same, up to the wrapper, the same callbacks are made
in the same order, and a panic comes at the same moment and leaves the same tables.

In particular a panic leaves nothing in the wrapper itself: the borrow of the cell has
ended, and an owned mutex is not poisoned.
-/

namespace EventLoop

/-- A way to hold a subscriber and to get it back, through which callbacks pass. -/
structure Wrapper (S T : Type) [FallibleSubscriber S] [FallibleSubscriber T] where
  wrap : S → T
  unwrap : T → S
  unwrap_wrap : ∀ subscriber, unwrap (wrap subscriber) = subscriber
  process_wrap : ∀ subscriber events, FallibleSubscriber.process (wrap subscriber) events =
    (FallibleSubscriber.process subscriber events).map
      (fun ending => ⟨wrap ending.value, ending.panic⟩)
  init_wrap : ∀ subscriber, FallibleSubscriber.init (wrap subscriber) =
    (FallibleSubscriber.init subscriber).map (fun ending => ⟨wrap ending.value, ending.panic⟩)

section Wrappers

variable {S : Type} [FallibleSubscriber S]

/-- `Box::new`. -/
def Box.wrapper : Wrapper S (Box S) where
  wrap := Box.mk
  unwrap := Box.content
  unwrap_wrap _ := rfl
  process_wrap _ _ := rfl
  init_wrap _ := rfl

/-- `RefCell::new`; whoever owns the cell finds it not borrowed. -/
def RefCell.wrapper : Wrapper S (RefCell S) where
  wrap subscriber := ⟨subscriber, false⟩
  unwrap := RefCell.value
  unwrap_wrap _ := rfl
  process_wrap _ _ := rfl
  init_wrap _ := rfl

/-- `Mutex::new`; whoever owns the mutex has never panicked under its lock. -/
def Mutex.wrapper : Wrapper S (Mutex S) where
  wrap subscriber := ⟨subscriber, false⟩
  unwrap := Mutex.value
  unwrap_wrap _ := rfl
  process_wrap _ _ := rfl
  init_wrap _ := rfl

end Wrappers

namespace Wrapper

variable {S T : Type} [FallibleSubscriber S] [FallibleSubscriber T] (wrapper : Wrapper S T)
  {kernel : Kernel}

/-- The manager with every subscriber wrapped. -/
def manager (manager : EventManager kernel S) : EventManager kernel T where
  subscribers := ⟨fun id => (manager.subscribers.subscribers id).map wrapper.wrap,
    manager.subscribers.nextId⟩
  epollContext := manager.epollContext
  channelFd := manager.channelFd

/-- The world around the wrapped manager, where nothing is shared either. -/
def world (world : World kernel Unit S) : World kernel Unit T where
  manager := wrapper.manager world.manager
  heap := ()
  others := world.others
  looks := world.looks

/-- What is observed of the wrapped manager. -/
def observation : Observation S → Observation T
  | .operation id operation result => .operation id operation result
  | .process id events => .process id events
  | .store id subscriber => .store id (wrapper.wrap subscriber)
  | .addSubscriber id subscriber => .addSubscriber id (wrapper.wrap subscriber)
  | .removeSubscriber id => .removeSubscriber id
  | .wait milliseconds maxevents response => .wait milliseconds maxevents response

/-- The same request of a caller that has the subscribers wrapped. -/
def request : Request S → Request T
  | .addSubscriber subscriber => .addSubscriber (wrapper.wrap subscriber)
  | .removeSubscriber id => .removeSubscriber id
  | .subscriberMut id update =>
      .subscriberMut id (fun wrapped => wrapper.wrap (update (wrapper.unwrap wrapped)))
  | .eventOps id operation => .eventOps id operation

/-- What the wrapped manager answers. -/
def answer : (asked : Request S) → Response asked → Response (wrapper.request asked)
  | .addSubscriber _, id => id
  | .removeSubscriber _, removed => Except.map wrapper.wrap removed
  | .subscriberMut _ _, borrowed => Except.map wrapper.wrap borrowed
  | .eventOps _ _, result => result

/-- What the caller makes of the answer. -/
def back : (asked : Request S) → Response (wrapper.request asked) → Response asked
  | .addSubscriber _, id => id
  | .removeSubscriber _, removed => Except.map wrapper.unwrap removed
  | .subscriberMut _ _, borrowed => Except.map wrapper.unwrap borrowed
  | .eventOps _ _, result => result

/-- The closure of a caller that has the subscribers wrapped. -/
def closure (closure : World.Closure S) : World.Closure T :=
  closure.translate wrapper.request wrapper.back

/-- The call of a caller that has the subscribers wrapped. -/
def input : World.Input S → World.Input T
  | .request asked => .request (wrapper.request asked)
  | .run milliseconds response closures =>
      .run milliseconds response (closures.map wrapper.closure)

/-- What the wrapped manager's call returns. -/
def output : Output S → Output T
  | .response asked response => .response (wrapper.request asked) (wrapper.answer asked response)
  | .ran eventCount => .ran eventCount

/-- Wrapping and unwrapping an answer gives it back. -/
theorem back_answer (asked : Request S) (response : Response asked) :
    wrapper.back asked (wrapper.answer asked response) = response := by
  have inverse : ∀ result : Except Error S,
      Except.map wrapper.unwrap (Except.map wrapper.wrap result) = result := by
    intro result
    cases result with
    | error error => rfl
    | ok subscriber => exact congrArg Except.ok (wrapper.unwrap_wrap subscriber)
  cases asked with
  | addSubscriber subscriber => rfl
  | removeSubscriber id => exact inverse response
  | subscriberMut id update => exact inverse response
  | eventOps id operation => rfl

/-- The table after a write is the wrapped table after the write. -/
theorem write_wrapped (manager : EventManager kernel S) (id : SubscriberId) (subscriber : S) :
    (wrapper.manager manager).subscribers.write id (wrapper.wrap subscriber) =
      (wrapper.manager { manager with
        subscribers := manager.subscribers.write id subscriber }).subscribers := by
  simp only [Wrapper.manager, Subscribers.write, PartialMap.insert_map]

section Manager

/-- What the second does with the wrapped table is the image of what the first does with
the bare one. -/
def Carries {α β : Type} (value : α → β) (body : EventManager.Manage kernel S α)
    (other : EventManager.Manage kernel T β) : Prop :=
  ∀ manager, other (wrapper.manager manager) =
    ⟨(body manager).log.map wrapper.observation,
      (body manager).result.map (fun ended => (value ended.1, wrapper.manager ended.2))⟩

variable {wrapper}

/-- What carries over for the manager carries over for the world around it. -/
theorem Carries.within {α β : Type} {value : α → β} {body : EventManager.Manage kernel S α}
    {other : EventManager.Manage kernel T β} (carries : wrapper.Carries value body other) :
    Attempt.Commutes wrapper.world wrapper.observation value
      (World.within body : World.Manage kernel Unit S α) (World.within other) := by
  intro world
  have carried := carries world.manager
  rcases run : body world.manager with ⟨log, panic | ⟨result, manager⟩⟩
  · rw [run] at carried
    rw [World.within, World.within, Attempt.within_error run]
    exact Attempt.within_error carried
  · rw [run] at carried
    rw [World.within, World.within, Attempt.within_ok run]
    exact Attempt.within_ok carried

variable (wrapper)

/-- A borrow finds the wrapped subscriber, or none where there was none. -/
theorem getMutUnchecked_carries (id : SubscriberId) :
    wrapper.Carries wrapper.wrap (EventManager.getMutUnchecked id : EventManager.Manage kernel S S)
      (EventManager.getMutUnchecked id) := by
  intro manager
  cases registered : manager.subscribers.subscribers id with
  | none => simp [EventManager.getMutUnchecked, Subscribers.getMutUnchecked, Wrapper.manager,
      registered, Except.map]
  | some subscriber => simp [EventManager.getMutUnchecked, Subscribers.getMutUnchecked,
      Wrapper.manager, registered, Except.map]

/-- The buffer is the same. -/
theorem readyEvent_carries (evIndex : Nat) :
    wrapper.Carries id (EventManager.readyEvent evIndex : EventManager.Manage kernel S EpollEvent)
      (EventManager.readyEvent evIndex) := by
  intro manager
  have slots : (wrapper.manager manager).epollContext = manager.epollContext := rfl
  unfold EventManager.readyEvent
  rw [slots]
  cases manager.epollContext.readyEvents[evIndex]? <;> rfl

/-- A removal returns the wrapped subscriber and does the same to the tables. -/
theorem removeSubscriber_carries (id : SubscriberId) :
    wrapper.Carries (Except.map wrapper.wrap)
      (EventManager.removeSubscriber id : EventManager.Manage kernel S (Except Error S))
      (EventManager.removeSubscriber id) := by
  intro manager
  cases registered : manager.subscribers.subscribers id with
  | none => simp [EventManager.removeSubscriber, Subscribers.remove, Wrapper.manager, registered,
      Except.map]
  | some subscriber =>
    simp [EventManager.removeSubscriber, Subscribers.remove, Wrapper.manager, registered,
      Except.map, PartialMap.erase_map, observation]

/-- A borrow from outside leaves wrapped what the caller leaves unwrapped. -/
theorem subscriberMut_carries (id : SubscriberId) (update : S → S) :
    wrapper.Carries (Except.map wrapper.wrap)
      (EventManager.subscriberMut id update : EventManager.Manage kernel S (Except Error S))
      (EventManager.subscriberMut id
        (fun wrapped => wrapper.wrap (update (wrapper.unwrap wrapped)))) := by
  intro manager
  cases registered : manager.subscribers.subscribers id with
  | none => simp [EventManager.subscriberMut, Subscribers.contains, Wrapper.manager, registered,
      Except.map]
  | some subscriber =>
    have wrapped : (wrapper.manager manager).subscribers.subscribers id =
        some (wrapper.wrap subscriber) := by
      simp [Wrapper.manager, registered]
    rw [EventManager.subscriberMut_some _ wrapped, EventManager.subscriberMut_some _ registered,
      wrapper.unwrap_wrap, write_wrapped]
    rfl

/-- An operation does not involve the subscriber's value. -/
theorem eventOps_carries (id : SubscriberId) (operation : Operation) :
    wrapper.Carries (fun result => result)
      (EventManager.eventOps id operation :
        EventManager.Manage kernel S (Except Error (Except Error Unit)))
      (EventManager.eventOps id operation) := by
  intro manager
  have same : (wrapper.manager manager).subscribers.contains id =
      manager.subscribers.contains id := by
    simp [Subscribers.contains, Wrapper.manager]
  unfold EventManager.eventOps
  rw [Exec.read_bind, Exec.read_bind, same]
  by_cases registered : manager.subscribers.contains id = true
  · simp only [registered, if_true]
    rfl
  · simp only [registered]
    rfl

end Manager

section Calls

/-- What a callback leaves, wrapped. -/
def ending (ending : Ending (S × Unit)) : Ending (T × Unit) :=
  ⟨(wrapper.wrap ending.value.1, ()), ending.panic⟩

/-- A computation on the wrapped world that does the image of what one on the bare world
does. -/
abbrev Commutes {α β : Type} (value : α → β) (body : World.Manage kernel Unit S α)
    (other : World.Manage kernel Unit T β) : Prop :=
  Attempt.Commutes wrapper.world wrapper.observation value body other

/-- A callback that is over leaves the subscriber wrapped, and its panic as it was. -/
theorem conclude_commutes (owner : SubscriberId) (ended : Ending (S × Unit)) :
    wrapper.Commutes id (World.conclude owner ended : World.Manage kernel Unit S Unit)
      (World.conclude owner (wrapper.ending ended)) := by
  intro world
  simp only [World.conclude, Wrapper.world, Wrapper.ending, write_wrapped]
  cases ended.panic <;> rfl

/-- A callback through the wrapper. -/
theorem callback_commutes (owner : SubscriberId) {handler : Unit → Handler (S × Unit)}
    {other : Unit → Handler (T × Unit)} (passes : other () = (handler ()).map wrapper.ending) :
    wrapper.Commutes id (World.callback owner handler : World.Manage kernel Unit S Unit)
      (World.callback owner other) := by
  have operated : ∀ operation, wrapper.Commutes id
      (World.within (EventManager.operate owner operation) : World.Manage kernel Unit S _)
      (World.within (EventManager.operate owner operation)) := by
    intro operation
    exact Carries.within (fun _ => rfl)
  have looked : wrapper.Commutes id (World.borrow : World.Manage kernel Unit S Unit)
      World.borrow := fun _ => rfl
  refine looked.bind (fun heap => ?_)
  rw [id, passes]
  exact (Program.interpret_commutes operated wrapper.ending (handler ())).bind
    (conclude_commutes wrapper owner)

/-- A subscriber is enrolled wrapped, under the same id. -/
theorem enroll_commutes (subscriber : S) :
    wrapper.Commutes id (World.enroll subscriber : World.Manage kernel Unit S SubscriberId)
      (World.enroll (wrapper.wrap subscriber)) := by
  intro world
  have counted : (wrapper.world world).manager.subscribers.nextId =
      world.manager.subscribers.nextId := rfl
  by_cases full : world.manager.subscribers.nextId = BitVec.allOnes 64
  · simp [World.enroll, Subscribers.add, counted, full, Except.map]
  · simp only [World.enroll, Subscribers.add, counted, full, if_false]
    simp only [Wrapper.world, Wrapper.manager, PartialMap.insert_map]
    rfl

/-- An addition runs the `init` of the wrapped subscriber. -/
theorem addSubscriber_commutes (subscriber : S) :
    wrapper.Commutes id (World.addSubscriber subscriber : World.Manage kernel Unit S SubscriberId)
      (World.addSubscriber (wrapper.wrap subscriber)) := by
  refine (wrapper.enroll_commutes subscriber).bind (fun drawn => ?_)
  refine (getMutUnchecked_carries wrapper drawn).within.bind (fun borrowed => ?_)
  have initialized : SharedSubscriber.init (wrapper.wrap borrowed) () =
      (SharedSubscriber.init borrowed ()).map wrapper.ending := by
    simp only [SharedSubscriber.init, wrapper.init_wrap, Program.map_map, Wrapper.ending]
  exact (wrapper.callback_commutes drawn initialized).bind (fun _ => .ret drawn)

/-- Every request commutes with wrapping. -/
theorem serve_commutes (asked : Request S) :
    wrapper.Commutes (wrapper.answer asked)
      (World.serve asked : World.Manage kernel Unit S (Response asked))
      (World.serve (wrapper.request asked)) := by
  cases asked with
  | addSubscriber subscriber => exact wrapper.addSubscriber_commutes subscriber
  | removeSubscriber id => exact (removeSubscriber_carries wrapper id).within
  | subscriberMut id update => exact (subscriberMut_carries wrapper id update).within
  | eventOps id operation => exact (eventOps_carries wrapper id operation).within

/-- So does a delivery, which runs the `process` of the wrapped subscriber. -/
theorem process_commutes (owner : SubscriberId) (event : EpollEvent) :
    wrapper.Commutes id (World.process owner event : World.Manage kernel Unit S Unit)
      (World.process owner event) := by
  refine (getMutUnchecked_carries wrapper owner).within.bind (fun subscriber => ?_)
  have announced : wrapper.Carries id
      (EventManager.observe (.process owner (Events.withInner event)) :
        EventManager.Manage kernel S Unit)
      (EventManager.observe (.process owner (Events.withInner event))) := fun _ => rfl
  refine announced.within.bind (fun _ => ?_)
  refine wrapper.callback_commutes owner ?_
  simp only [SharedSubscriber.process, wrapper.process_wrap, Program.map_map, Wrapper.ending]

/-- So does the dispatch loop, by induction on the slots to go. -/
theorem dispatchLoop_commutes (evIndex remaining : Nat) (endpointEvent : Option EpollEvent) :
    wrapper.Commutes id (World.dispatchLoop evIndex remaining endpointEvent :
        World.Manage kernel Unit S (Option EpollEvent))
      (World.dispatchLoop evIndex remaining endpointEvent) := by
  induction remaining generalizing evIndex endpointEvent with
  | zero => exact .ret endpointEvent
  | succ remaining inductionHypothesis =>
    refine (readyEvent_carries wrapper evIndex).within.bind (fun event => ?_)
    by_cases discarded : EventManager.Discarded event
    · simp only [id, discarded, if_true]
      exact inductionHypothesis (evIndex + 1) endpointEvent
    · simp only [id, discarded, if_false]
      refine Attempt.Commutes.read_bind (fun world => ?_)
      -- the dispatch table and the endpoint's descriptor are not wrapped
      have dispatched : (wrapper.world world).manager.epollContext =
          world.manager.epollContext := rfl
      have channel : (wrapper.world world).manager.channelFd = world.manager.channelFd := rfl
      rw [dispatched, channel]
      cases world.manager.epollContext.subscriberId event.fd with
      | some owner =>
        exact (wrapper.process_commutes owner event).bind
          (fun _ => inductionHypothesis (evIndex + 1) endpointEvent)
      | none =>
        by_cases own : event.fd = world.manager.channelFd
        · simp only [own, if_true]
          exact inductionHypothesis (evIndex + 1) (some event)
        · simp only [own, if_false]
          exact .abort _

/-- So do the closures of the endpoint, by induction on the queue. -/
theorem handleEndpointCalls_commutes (closures : List (World.Closure S)) :
    wrapper.Commutes id (World.handleEndpointCalls closures : World.Manage kernel Unit S Unit)
      (World.handleEndpointCalls (closures.map wrapper.closure)) := by
  induction closures with
  | nil => exact .ret ()
  | cons closure rest inductionHypothesis =>
    have invoked : wrapper.Commutes id (World.invoke closure : World.Manage kernel Unit S Unit)
        (World.invoke (wrapper.closure closure)) := by
      refine (Program.translate_commutes wrapper.serve_commutes wrapper.back_answer
        closure).bind (fun panic => ?_)
      cases panic with
      | none => exact .ret ()
      | some payload => exact .abort _
    exact invoked.bind (fun _ => inductionHypothesis)

/-- So does a whole turn of the loop. The wait is the same on both sides, and the batch
and the closures commute. -/
theorem runWithTimeout_commutes (milliseconds : Int) (response : Except Errno (List EpollEvent))
    (closures : List (World.Closure S)) :
    wrapper.Commutes id (World.runWithTimeout milliseconds response closures :
        World.Manage kernel Unit S (Except Error Nat))
      (World.runWithTimeout milliseconds response (closures.map wrapper.closure)) := by
  have polled : wrapper.Carries id
      (EventManager.poll milliseconds response : EventManager.Manage kernel S (Except Error Nat))
      (EventManager.poll milliseconds response) := fun _ => rfl
  have dispatched : ∀ eventCount, wrapper.Commutes id
      (World.dispatchEvents eventCount closures : World.Manage kernel Unit S Unit)
      (World.dispatchEvents eventCount (closures.map wrapper.closure)) := by
    intro eventCount
    refine (wrapper.dispatchLoop_commutes 0 eventCount none).bind (fun found => ?_)
    cases found with
    | none => exact .ret ()
    | some event =>
      by_cases odd : event.eventSet ≠ .IN
      · simp only [id, World.dispatchEndpointEvent, if_pos odd]
        exact .abort _
      · simp only [id, World.dispatchEndpointEvent, if_neg odd]
        exact wrapper.handleEndpointCalls_commutes closures
  refine polled.within.bind (fun waited => ?_)
  cases waited with
  | error error => exact .ret _
  | ok eventCount => exact (dispatched eventCount).bind (fun _ => .ret _)

/-- One call does to the wrapped world the image of what it does to the bare one. -/
theorem perform_commutes (input : World.Input S) :
    wrapper.Commutes wrapper.output (World.perform input : World.Manage kernel Unit S (Output S))
      (World.perform (wrapper.input input)) := by
  cases input with
  | request asked => exact (wrapper.serve_commutes asked).bind (fun _ => .ret _)
  | run milliseconds response closures =>
    exact (wrapper.runWithTimeout_commutes milliseconds response closures).bind (fun _ => .ret _)

/-- So do calls in turn, panics caught. -/
theorem performAll_wrapped (inputs : List (World.Input S)) (start : World kernel Unit S) :
    World.performAll (inputs.map wrapper.input) (wrapper.world start) =
      ((World.performAll inputs start).1.map wrapper.observation,
        wrapper.world (World.performAll inputs start).2) := by
  induction inputs generalizing start with
  | nil => rfl
  | cons input rest inductionHypothesis =>
    have performed := wrapper.perform_commutes input start
    rw [List.map_cons, World.performAll, performed, inductionHypothesis, World.performAll,
      List.map_append]

end Calls

/-- In no run can anything be told from the wrapper: after any calls, returned from or
caught panicking, the history and the tables are the images of those of the manager of
the bare subscribers, and so is what the next call does, returns or panics with. -/
def Transparent : Prop :=
  ∀ (kernel : Kernel) (start : World kernel Unit S) (inputs : List (World.Input S))
    (next : World.Input S),
    let bare := World.performAll inputs start
    let wrapped := World.performAll (inputs.map wrapper.input) (wrapper.world start)
    wrapped = (bare.1.map wrapper.observation, wrapper.world bare.2) ∧
      World.perform (wrapper.input next) wrapped.2 =
        ⟨(World.perform next bare.2).log.map wrapper.observation,
          wrapper.world (World.perform next bare.2).state,
          (World.perform next bare.2).result.map wrapper.output⟩

/-- A wrapper that its callbacks see through is transparent: every run commutes with it. -/
theorem transparent : wrapper.Transparent := by
  intro kernel start inputs next
  have reached := wrapper.performAll_wrapped inputs start
  refine ⟨reached, ?_⟩
  rw [reached]
  exact wrapper.perform_commutes next _

/-- A subscriber behaves in a `Box`, in a `RefCell` or in a `Mutex` that the manager owns
as it does bare.

Proof: each wrapper hands a callback the subscriber and wraps what it leaves, panic or
not; so by cases on the calls, the loop and the closures every run commutes with wrapping.
-/
theorem owned_transparent :
    (Box.wrapper : Wrapper S (Box S)).Transparent ∧
      (RefCell.wrapper : Wrapper S (RefCell S)).Transparent ∧
      (Mutex.wrapper : Wrapper S (Mutex S)).Transparent :=
  ⟨transparent _, transparent _, transparent _⟩

end Wrapper

end EventLoop
