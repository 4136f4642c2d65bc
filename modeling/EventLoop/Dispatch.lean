import EventLoop.Registry

/-!
# What a dispatch delivers

The dispatch loop reads the ready buffer slot by slot while the callbacks it
makes rewrite that buffer and the dispatch table. `deliver` is the same loop
over the batch the kernel reported, with the descriptors removed so far kept
beside it instead of zeroed in a buffer; the two agree on every state whose
unread slots hold the rest of the batch. `Delivers` says, without any state,
which calls a batch leads to.

What carries the argument is that a pending event stays deliverable: while its
descriptor is registered nobody can add it, so only a successful removal can
change who its events go to, and a removal discards the event as well.
-/

namespace EventLoop

open Replay

variable {kernel : Kernel} {T : Type}

/-- The descriptor an operation with this result has removed. -/
def Operation.removes : Operation → Except Error Unit → List RawFd
  | .remove events, .ok _ => [events.fd]
  | _, _ => []

/-- The descriptors successfully removed in a log. -/
def removedFds : List (Observation T) → List RawFd
  | [] => []
  | .operation _ operation result :: rest => operation.removes result ++ removedFds rest
  | _ :: rest => removedFds rest

/-- Removals are collected part by part. -/
theorem removedFds_append (first second : List (Observation T)) :
    removedFds (first ++ second) = removedFds first ++ removedFds second := by
  induction first with
  | nil => rfl
  | cons observation rest inductionHypothesis =>
    cases observation <;> simp [removedFds, inductionHypothesis]

/-- The observations of a callback's operations and their results. -/
def operations (id : SubscriberId) (exchanges : List (Operation × Except Error Unit)) :
    List (Observation T) :=
  exchanges.map (fun exchange => .operation id exchange.1 exchange.2)

/-- A call of `process` and everything the callback did: the subscriber, the
event, the operations with their results, and the state it ended in. -/
structure ProcessCall (T : Type) where
  id : SubscriberId
  events : Events
  exchanges : List (Operation × Except Error Unit)
  next : T

namespace ProcessCall

/-- The observations of the call, in order. -/
def log (call : ProcessCall T) : List (Observation T) :=
  .process call.id call.events ::
    (operations call.id call.exchanges ++ [.store call.id call.next])

/-- After the call itself come the callback's operations and the state it ended in. -/
theorem mem_callback {call : ProcessCall T} {observation : Observation T}
    (member : observation ∈ operations call.id call.exchanges ++ [.store call.id call.next]) :
    (∃ operation result, observation = .operation call.id operation result) ∨
      observation = .store call.id call.next := by
  rcases List.mem_append.mp member with operated | stored
  · obtain ⟨exchange, _, rfl⟩ := List.mem_map.mp operated
    exact Or.inl ⟨exchange.1, exchange.2, rfl⟩
  · exact Or.inr (List.mem_singleton.mp stored)

/-- The descriptors the callback successfully removed. -/
def removed (call : ProcessCall T) : List RawFd :=
  call.exchanges.flatMap (fun exchange => exchange.1.removes exchange.2)

/-- The removals logged by a call are those its exchanges made. -/
theorem removedFds_log (call : ProcessCall T) : removedFds call.log = call.removed := by
  obtain ⟨id, events, exchanges, next⟩ := call
  simp only [log, removed, removedFds, removedFds_append, List.append_nil]
  induction exchanges with
  | nil => rfl
  | cons exchange rest inductionHypothesis =>
    simp only [operations, List.map_cons, removedFds, List.flatMap_cons] at *
    rw [inductionHypothesis]

end ProcessCall

/-- The calls a batch leads to, given who each descriptor was dispatched to when
the batch was reported and which descriptors have been removed since. An event
is passed over if its descriptor was removed by an earlier callback, if it is
the endpoint's, or if it is blank; every other event is delivered unchanged to
the subscriber its descriptor was dispatched to. -/
inductive Delivers (channelFd : RawFd) (owner : RawFd → Option SubscriberId) :
    List RawFd → List EpollEvent → List (ProcessCall T) → Prop
  | done (removed : List RawFd) : Delivers channelFd owner removed [] []
  | discarded {removed : List RawFd} {event : EpollEvent} {events : List EpollEvent}
      {calls : List (ProcessCall T)} (gone : event.fd ∈ removed)
      (rest : Delivers channelFd owner removed events calls) :
      Delivers channelFd owner removed (event :: events) calls
  | blank {removed : List RawFd} {event : EpollEvent} {events : List EpollEvent}
      {calls : List (ProcessCall T)} (zero : EventManager.Discarded event)
      (rest : Delivers channelFd owner removed events calls) :
      Delivers channelFd owner removed (event :: events) calls
  | endpoint {removed : List RawFd} {event : EpollEvent} {events : List EpollEvent}
      {calls : List (ProcessCall T)} (pending : event.fd ∉ removed)
      (unclaimed : owner event.fd = none) (own : event.fd = channelFd)
      (rest : Delivers channelFd owner removed events calls) :
      Delivers channelFd owner removed (event :: events) calls
  | delivered {removed : List RawFd} {event : EpollEvent} {events : List EpollEvent}
      {calls : List (ProcessCall T)} (call : ProcessCall T) (pending : event.fd ∉ removed)
      (nonzero : ¬ EventManager.Discarded event)
      (dispatched : owner event.fd = some call.id)
      (unchanged : call.events = Events.withInner event)
      (rest : Delivers channelFd owner (removed ++ call.removed) events calls) :
      Delivers channelFd owner removed (event :: events) (call :: calls)

namespace EventOps

variable {wrapper next : EpollWrapper kernel} {id : SubscriberId} {operation : Operation}
  {result : Except Error Unit}

/-- An operation changes the buffer exactly by discarding what it removed. -/
theorem Performed.readyEvents (performed : Performed wrapper id operation result next) :
    next.readyEvents = wrapper.readyEvents.map (EpollWrapper.discard (operation.removes result)) := by
  have unchanged : wrapper.readyEvents = wrapper.readyEvents.map (EpollWrapper.discard []) :=
    (EpollWrapper.map_discard_nil wrapper.readyEvents).symm
  cases performed with
  | failed operation error epoll same => cases operation <;> exact unchanged
  | added events epoll unclaimed absent written => exact unchanged
  | modified events epoll present written => exact unchanged
  | removed events epoll present written =>
    simp only [EpollWrapper.unwatch_readyEvents, EpollWrapper.removeEvent_readyEvents,
      Operation.removes]

/-- A registered descriptor that is not removed stays registered and keeps its
subscriber: adding it fails, as the kernel already has it. -/
theorem Performed.pending (performed : Performed wrapper id operation result next) (fd : RawFd)
    (registered : (kernel.interest wrapper.epoll fd).isSome)
    (remains : fd ∉ operation.removes result) :
    (kernel.interest next.epoll fd).isSome ∧ next.fdDispatch fd = wrapper.fdDispatch fd := by
  cases performed with
  | failed operation error epoll same => exact ⟨by rw [same]; exact registered, rfl⟩
  | added events epoll unclaimed absent written =>
    have distinct : fd ≠ events.fd := by
      rintro rfl
      simp [absent] at registered
    simp [written, distinct, registered]
  | modified events epoll present written =>
    refine ⟨?_, rfl⟩
    rw [written, PartialMap.insert_apply]
    split
    · rfl
    · exact registered
  | removed events epoll present written =>
    have distinct : fd ≠ events.fd := by simpa [Operation.removes] using remains
    simp [written, distinct, registered]

end EventOps

/-- The observation is one that callbacks and their deliveries make. -/
def Observation.InCallback : Observation T → Prop
  | .operation _ _ _ => True
  | .process _ _ => True
  | .store _ _ => True
  | _ => False

/-- What a call logs is its delivery and what its callback does. -/
theorem ProcessCall.log_inCallback (call : ProcessCall T) :
    ∀ observation ∈ call.log, observation.InCallback := by
  intro observation member
  rcases List.mem_cons.mp member with rfl | inside
  · trivial
  · rcases ProcessCall.mem_callback inside with ⟨operation, result, rfl⟩ | rfl
    · trivial
    · trivial

namespace EventManager

variable {manager : EventManager kernel T}

/-- Inside a dispatch the buffer changes only by discarding what was removed. Each removal
replaces the events of its descriptor, and what is discarded twice is discarded once. -/
theorem readyEvents_after {log : List (Observation T)} (valid : manager.Valid log)
    (inside : ∀ observation ∈ log, observation.InCallback) :
    (manager.after log).epollContext.readyEvents =
      manager.epollContext.readyEvents.map (EpollWrapper.discard (removedFds log)) := by
  induction log generalizing manager with
  | nil => exact (EpollWrapper.map_discard_nil _).symm
  | cons observation rest inductionHypothesis =>
    have later := inductionHypothesis valid.2
      (fun other member => inside other (List.mem_cons_of_mem _ member))
    rw [after, replay_cons, later]
    cases observation with
    | operation id operation result =>
      have performed := EventOps.perform_performed manager.epollContext id operation
      rw [← valid.1.2] at performed
      change (EventOps.perform manager.epollContext id operation).2.readyEvents.map _ = _
      rw [performed.readyEvents, List.map_map]
      apply List.map_congr_left
      intro event _
      exact EpollWrapper.discard_discard _ _ event
    | process id events => rfl
    | store id subscriber => rfl
    | addSubscriber id subscriber => exact False.elim (inside _ List.mem_cons_self)
    | removeSubscriber id => exact False.elim (inside _ List.mem_cons_self)
    | wait milliseconds maxevents response => exact False.elim (inside _ List.mem_cons_self)

/-- Inside a dispatch a registered descriptor that is not removed stays registered
and keeps the subscriber it is dispatched to. -/
theorem pending_after {log : List (Observation T)} (valid : manager.Valid log)
    (inside : ∀ observation ∈ log, observation.InCallback) (fd : RawFd)
    (registered : (kernel.interest manager.epollContext.epoll fd).isSome)
    (remains : fd ∉ removedFds log) :
    (kernel.interest (manager.after log).epollContext.epoll fd).isSome ∧
      (manager.after log).epollContext.fdDispatch fd = manager.epollContext.fdDispatch fd := by
  induction log generalizing manager with
  | nil => exact ⟨registered, rfl⟩
  | cons observation rest inductionHypothesis =>
    have tail : ∀ other ∈ rest, other.InCallback :=
      fun other member => inside other (List.mem_cons_of_mem _ member)
    rw [after, replay_cons]
    cases observation with
    | operation id operation result =>
      have performed := EventOps.perform_performed manager.epollContext id operation
      rw [← valid.1.2] at performed
      simp only [removedFds, List.mem_append, not_or] at remains
      obtain ⟨present, kept⟩ := performed.pending fd registered remains.1
      obtain ⟨presentLater, keptLater⟩ := inductionHypothesis valid.2 tail present remains.2
      exact ⟨presentLater, keptLater.trans kept⟩
    | process id events => exact inductionHypothesis valid.2 tail registered remains
    | store id subscriber => exact inductionHypothesis valid.2 tail registered remains
    | addSubscriber id subscriber => exact False.elim (inside _ List.mem_cons_self)
    | removeSubscriber id => exact False.elim (inside _ List.mem_cons_self)
    | wait milliseconds maxevents response => exact False.elim (inside _ List.mem_cons_self)

/-- A callback always returns, and logs nothing but its own operations. -/
theorem callback_run (id : SubscriberId) (program : Callback T) (manager : EventManager kernel T) :
    ∃ (exchanges : List (Operation × Except Error Unit)) (next : T),
      callback id program manager =
        ⟨operations id exchanges, .ok (next, manager.after (operations id exchanges))⟩ := by
  induction program generalizing manager with
  | ret value => exact ⟨[], value, rfl⟩
  | call operation rest inductionHypothesis =>
    have operated : operate id operation manager =
        ⟨[.operation id operation (EventOps.perform manager.epollContext id operation).1],
          .ok ((EventOps.perform manager.epollContext id operation).1,
            manager.apply (.operation id operation
              (EventOps.perform manager.epollContext id operation).1))⟩ := rfl
    obtain ⟨exchanges, next, returned⟩ := inductionHypothesis
      (EventOps.perform manager.epollContext id operation).1
      (manager.apply (.operation id operation
        (EventOps.perform manager.epollContext id operation).1))
    refine ⟨(operation, (EventOps.perform manager.epollContext id operation).1) :: exchanges,
      next, ?_⟩
    change (operate id operation >>= fun response => callback id (rest response)) manager = _
    rw [Exec.bind_ok operated, returned]
    rfl

/-- A call discards in the unread slots exactly what it adds to the removed
descriptors. -/
theorem window_after {call : ProcessCall T} {evIndex : Nat} {removed : List RawFd}
    {batch stale : List EpollEvent} (valid : manager.Valid call.log)
    (window : manager.epollContext.readyEvents.drop evIndex =
      batch.map (EpollWrapper.discard removed) ++ stale) :
    (manager.after call.log).epollContext.readyEvents.drop evIndex =
      batch.map (EpollWrapper.discard (removed ++ call.removed)) ++
        stale.map (EpollWrapper.discard call.removed) := by
  rw [readyEvents_after valid call.log_inCallback, call.removedFds_log, ← List.map_drop, window,
    List.map_append, List.map_map]
  congr 1
  apply List.map_congr_left
  intro event _
  exact EpollWrapper.discard_discard removed call.removed event

variable [MutEventSubscriber T]

/-- A delivery is the call, its callback's operations, and the state it ends in. -/
theorem process_of_callback {id : SubscriberId} {event : EpollEvent} {subscriber next : T}
    {exchanges : List (Operation × Except Error Unit)}
    (registered : manager.subscribers.subscribers id = some subscriber)
    (returned : callback id (MutEventSubscriber.process subscriber (Events.withInner event)) manager =
      ⟨operations id exchanges, .ok (next, manager.after (operations id exchanges))⟩) :
    process id event manager =
      ⟨(ProcessCall.mk id (Events.withInner event) exchanges next).log,
        .ok ((), manager.after (ProcessCall.mk id (Events.withInner event) exchanges next).log)⟩ := by
  have borrowed : (getMutUnchecked id : Manage kernel T T) manager =
      ⟨[], .ok (subscriber, manager)⟩ := by
    simp only [getMutUnchecked, Subscribers.getMutUnchecked, registered, Except.map]
  have announced : (observe (.process id (Events.withInner event)) : Manage kernel T Unit) manager =
      ⟨[.process id (Events.withInner event)], .ok ((), manager)⟩ := rfl
  rw [process, Exec.bind_ok borrowed, Exec.bind_ok announced, Exec.bind_ok returned]
  simp only [ProcessCall.log, List.nil_append, after, replay_cons, replay_append]
  rfl

/-- Delivering to a registered subscriber always returns and makes one call. -/
theorem process_run (id : SubscriberId) (event : EpollEvent) (live : manager.Live id) :
    ∃ call : ProcessCall T, call.id = id ∧ call.events = Events.withInner event ∧
      process id event manager = ⟨call.log, .ok ((), manager.after call.log)⟩ := by
  obtain ⟨subscriber, registered⟩ := Option.isSome_iff_exists.mp live
  obtain ⟨exchanges, next, returned⟩ := callback_run id
    (MutEventSubscriber.process subscriber (Events.withInner event)) manager
  exact ⟨⟨id, Events.withInner event, exchanges, next⟩, rfl, rfl,
    process_of_callback registered returned⟩

/-- The dispatch loop over a batch itself, with the descriptors removed so far. -/
def deliver (removed : List RawFd) : List EpollEvent → (endpointEvent : Option EpollEvent) →
    Manage kernel T (Option EpollEvent)
  | [], endpointEvent => pure endpointEvent
  | event :: rest, endpointEvent =>
      if event.fd ∈ removed ∨ Discarded event then deliver removed rest endpointEvent
      else do
        let manager ← Exec.read
        match manager.epollContext.subscriberId event.fd with
        | some id =>
            let returned ← (process id event).listen
            deliver (removed ++ removedFds returned.2) rest endpointEvent
        | none =>
            if event.fd = manager.channelFd then deliver removed rest (some event)
            else Exec.abort .unregisteredFd

/-- A delivery by the dispatch table logs a valid history. -/
theorem process_valid {id : SubscriberId} {event : EpollEvent} {call : ProcessCall T}
    (dispatched : manager.epollContext.fdDispatch event.fd = some id)
    (returned : process id event manager = ⟨call.log, .ok ((), manager.after call.log)⟩) :
    manager.Valid call.log := by
  have traced : Manage.Traced (fun manager => manager.epollContext.fdDispatch event.fd = some id)
      (process id event : Manage kernel T Unit) (fun _ _ => True) (fun _ _ => True) :=
    process_traced id event (fun _ _ _ => trivial)
  have checked := (traced manager dispatched).1
  rwa [returned] at checked

/-- One step of `deliver` that makes a call. -/
theorem deliver_call {removed : List RawFd} {event : EpollEvent} {rest : List EpollEvent}
    {endpointEvent : Option EpollEvent} {id : SubscriberId} {call : ProcessCall T}
    (pending : ¬ (event.fd ∈ removed ∨ Discarded event))
    (dispatched : manager.epollContext.fdDispatch event.fd = some id)
    (returned : process id event manager = ⟨call.log, .ok ((), manager.after call.log)⟩) :
    deliver removed (event :: rest) endpointEvent manager =
      ⟨call.log ++ (deliver (removed ++ call.removed) rest endpointEvent
          (manager.after call.log)).log,
        (deliver (removed ++ call.removed) rest endpointEvent (manager.after call.log)).result⟩ := by
  have heard : (process id event).listen manager =
      ⟨call.log, .ok (((), call.log), manager.after call.log)⟩ := by
    simp only [Exec.listen, returned, Except.map]
  rw [deliver, if_neg pending, Exec.read_bind]
  simp only [EpollWrapper.subscriberId, dispatched]
  rw [Exec.bind_ok heard, ProcessCall.removedFds_log]

/-- One step of `deliver` that keeps the event for the endpoint. -/
theorem deliver_endpoint {removed : List RawFd} {event : EpollEvent} {rest : List EpollEvent}
    {endpointEvent : Option EpollEvent} (pending : ¬ (event.fd ∈ removed ∨ Discarded event))
    (unclaimed : manager.epollContext.fdDispatch event.fd = none)
    (own : event.fd = manager.channelFd) :
    deliver removed (event :: rest) endpointEvent manager =
      deliver removed rest (some event) manager := by
  rw [deliver, if_neg pending, Exec.read_bind]
  simp only [EpollWrapper.subscriberId, unclaimed]
  rw [if_pos own]

/-- Everything one step of `deliver` can do with an event that is not passed over:
make a call, keep the event for the endpoint, or panic. -/
theorem deliver_cases {removed : List RawFd} {event : EpollEvent}
    (rest : List EpollEvent) (endpointEvent : Option EpollEvent) (consistent : manager.Consistent)
    (pending : ¬ (event.fd ∈ removed ∨ Discarded event)) :
    (∃ (id : SubscriberId) (call : ProcessCall T),
      manager.epollContext.fdDispatch event.fd = some id ∧
      call.events = Events.withInner event ∧
      process id event manager = ⟨call.log, .ok ((), manager.after call.log)⟩ ∧
      (manager.after call.log).Consistent ∧
      deliver removed (event :: rest) endpointEvent manager =
        ⟨call.log ++ (deliver (removed ++ call.removed) rest endpointEvent
            (manager.after call.log)).log,
          (deliver (removed ++ call.removed) rest endpointEvent
            (manager.after call.log)).result⟩) ∨
    (manager.epollContext.fdDispatch event.fd = none ∧ event.fd = manager.channelFd ∧
      deliver removed (event :: rest) endpointEvent manager =
        deliver removed rest (some event) manager) ∨
    manager.epollContext.fdDispatch event.fd = none ∧ event.fd ≠ manager.channelFd ∧
      deliver removed (event :: rest) endpointEvent manager = ⟨[], .error .unregisteredFd⟩ := by
  cases dispatched : manager.epollContext.fdDispatch event.fd with
  | some id =>
    obtain ⟨call, _, unchanged, ran⟩ :=
      process_run id event (consistent.owned event.fd id dispatched).1
    exact Or.inl ⟨id, call, rfl, unchanged, ran, consistent.after (process_valid dispatched ran),
      deliver_call pending dispatched ran⟩
  | none =>
    right
    by_cases own : event.fd = manager.channelFd
    · exact Or.inl ⟨rfl, own, deliver_endpoint pending dispatched own⟩
    · refine Or.inr ⟨rfl, own, ?_⟩
      rw [deliver, if_neg pending, Exec.read_bind]
      simp only [EpollWrapper.subscriberId, dispatched, if_neg own]
      rfl

/-- One step of the dispatch loop that makes a call. -/
theorem dispatchLoop_call {evIndex remaining : Nat} {event : EpollEvent}
    {endpointEvent : Option EpollEvent} {id : SubscriberId} {call : ProcessCall T}
    (slot : manager.epollContext.readyEvents[evIndex]? = some event)
    (pending : ¬ Discarded event)
    (dispatched : manager.epollContext.fdDispatch event.fd = some id)
    (returned : process id event manager = ⟨call.log, .ok ((), manager.after call.log)⟩) :
    dispatchLoop evIndex (remaining + 1) endpointEvent manager =
      ⟨call.log ++ (dispatchLoop (evIndex + 1) remaining endpointEvent
          (manager.after call.log)).log,
        (dispatchLoop (evIndex + 1) remaining endpointEvent (manager.after call.log)).result⟩ := by
  have found : (readyEvent evIndex : Manage kernel T EpollEvent) manager =
      ⟨[], .ok (event, manager)⟩ := by
    simp only [readyEvent, slot]
  rw [dispatchLoop, Exec.bind_ok found, if_neg pending, Exec.read_bind]
  simp only [EpollWrapper.subscriberId, dispatched]
  rw [Exec.bind_ok returned]
  rfl

/-- While the unread slots hold the rest of the batch, with what was removed
discarded, reading the buffer and reading the batch come to the same. -/
theorem dispatchLoop_eq_deliver (batch : List EpollEvent) (evIndex : Nat) (removed : List RawFd)
    (endpointEvent : Option EpollEvent) (stale : List EpollEvent)
    (consistent : manager.Consistent)
    (window : manager.epollContext.readyEvents.drop evIndex =
      batch.map (EpollWrapper.discard removed) ++ stale) :
    dispatchLoop evIndex batch.length endpointEvent manager =
      deliver removed batch endpointEvent manager := by
  induction batch generalizing manager evIndex removed endpointEvent stale with
  | nil => rfl
  | cons event rest inductionHypothesis =>
    have slot : manager.epollContext.readyEvents[evIndex]? =
        some (EpollWrapper.discard removed event) := by
      have first := congrArg (fun slots => slots[0]?) window
      simpa only [List.getElem?_drop, Nat.add_zero, List.map_cons, List.cons_append,
        List.getElem?_cons_zero] using first
    have following : manager.epollContext.readyEvents.drop (evIndex + 1) =
        rest.map (EpollWrapper.discard removed) ++ stale := by
      rw [← List.drop_drop, window]
      rfl
    have found : (readyEvent evIndex : Manage kernel T EpollEvent) manager =
        ⟨[], .ok (EpollWrapper.discard removed event, manager)⟩ := by
      simp only [readyEvent, slot]
    by_cases skipped : event.fd ∈ removed ∨ Discarded event
    · have passed : Discarded (EpollWrapper.discard removed event) := by
        by_cases gone : event.fd ∈ removed
        · simp [EpollWrapper.discard, gone, Discarded]
        · simpa [EpollWrapper.discard, gone] using skipped
      rw [List.length_cons, dispatchLoop, Exec.bind_ok found, if_pos passed, deliver,
        if_pos skipped, inductionHypothesis (evIndex + 1) removed endpointEvent stale consistent
          following]
      rfl
    · obtain ⟨pending, nonzero⟩ := not_or.mp skipped
      have intact : EpollWrapper.discard removed event = event := by
        simp [EpollWrapper.discard, pending]
      rw [intact] at slot found
      cases dispatched : manager.epollContext.fdDispatch event.fd with
      | some id =>
        obtain ⟨call, _, _, returned⟩ :=
          process_run id event (consistent.owned event.fd id dispatched).1
        have valid : manager.Valid call.log := process_valid dispatched returned
        have shifted := window_after valid following
        rw [List.length_cons, dispatchLoop_call slot nonzero dispatched returned,
          deliver_call skipped dispatched returned,
          inductionHypothesis (evIndex + 1) (removed ++ call.removed) endpointEvent _
            (consistent.after valid) shifted]
      | none =>
        rw [List.length_cons, dispatchLoop, Exec.bind_ok found, if_neg nonzero, deliver,
          if_neg skipped, Exec.read_bind, Exec.read_bind]
        simp only [EpollWrapper.subscriberId, dispatched]
        by_cases own : event.fd = manager.channelFd
        · simp only [own, if_true]
          rw [inductionHypothesis (evIndex + 1) removed (some event) stale consistent following]
          rfl
        · simp only [own, if_false]
          rfl

/-- A batch of registered events leads to the calls `Delivers` says, without a
panic, and ends in the state its log leads to. The endpoint's event, if one is
returned, is the one in the batch.

Each pending event's descriptor is registered and dispatched as it was when the
batch was reported; a call keeps that for every descriptor it does not remove. -/
theorem deliver_delivers (batch : List EpollEvent) (removed : List RawFd)
    (endpointEvent : Option EpollEvent) (owner : RawFd → Option SubscriberId)
    (consistent : manager.Consistent)
    (registered : ∀ event ∈ batch, event.fd ∉ removed →
      (kernel.interest manager.epollContext.epoll event.fd).isSome ∧
        manager.epollContext.fdDispatch event.fd = owner event.fd)
    (covered : ∀ event ∈ batch, event.fd = manager.channelFd ∨ (owner event.fd).isSome) :
    ∃ (calls : List (ProcessCall T)) (found : Option EpollEvent),
      deliver removed batch endpointEvent manager =
        ⟨calls.flatMap ProcessCall.log,
          .ok (found, manager.after (calls.flatMap ProcessCall.log))⟩ ∧
      Delivers manager.channelFd owner removed batch calls ∧
      (found = endpointEvent ∨ ∃ event ∈ batch, found = some event ∧
        event.fd = manager.channelFd) := by
  induction batch generalizing manager removed endpointEvent with
  | nil => exact ⟨[], endpointEvent, rfl, .done removed, Or.inl rfl⟩
  | cons event rest inductionHypothesis =>
    have restRegistered : ∀ later ∈ rest, later.fd ∉ removed →
        (kernel.interest manager.epollContext.epoll later.fd).isSome ∧
          manager.epollContext.fdDispatch later.fd = owner later.fd :=
      fun later member => registered later (List.mem_cons_of_mem _ member)
    have restCovered : ∀ later ∈ rest, later.fd = manager.channelFd ∨ (owner later.fd).isSome :=
      fun later member => covered later (List.mem_cons_of_mem _ member)
    by_cases skipped : event.fd ∈ removed ∨ Discarded event
    · obtain ⟨calls, found, ran, delivers, endpoint⟩ :=
        inductionHypothesis removed endpointEvent consistent restRegistered restCovered
      refine ⟨calls, found, by rw [deliver, if_pos skipped, ran], ?_, ?_⟩
      · rcases skipped with gone | zero
        · exact .discarded gone delivers
        · exact .blank zero delivers
      · rcases endpoint with same | ⟨own, member, returned⟩
        · exact Or.inl same
        · exact Or.inr ⟨own, List.mem_cons_of_mem _ member, returned⟩
    · obtain ⟨pending, nonzero⟩ := not_or.mp skipped
      obtain ⟨present, unmoved⟩ := registered event List.mem_cons_self pending
      cases dispatched : owner event.fd with
      | some id =>
        rw [dispatched] at unmoved
        obtain ⟨call, rfl, unchanged, returned⟩ :=
          process_run id event (consistent.owned event.fd id unmoved).1
        have valid : manager.Valid call.log := process_valid unmoved returned
        have stillRegistered : ∀ later ∈ rest, later.fd ∉ removed ++ call.removed →
            (kernel.interest (manager.after call.log).epollContext.epoll later.fd).isSome ∧
              (manager.after call.log).epollContext.fdDispatch later.fd = owner later.fd := by
          intro later member remains
          obtain ⟨before, during⟩ := not_or.mp (fun gone => remains (List.mem_append.mpr gone))
          obtain ⟨earlier, kept⟩ := restRegistered later member before
          obtain ⟨now, still⟩ := pending_after valid call.log_inCallback later.fd earlier
            (by rwa [call.removedFds_log])
          exact ⟨now, still.trans kept⟩
        obtain ⟨calls, found, ran, delivers, endpoint⟩ :=
          inductionHypothesis (removed ++ call.removed) endpointEvent (consistent.after valid)
            stillRegistered (by simpa using restCovered)
        rw [after_channelFd] at delivers endpoint
        refine ⟨call :: calls, found, ?_, .delivered call pending nonzero dispatched unchanged
          delivers, ?_⟩
        · rw [deliver_call skipped unmoved returned, ran]
          simp only [List.flatMap_cons, after, replay_append]
        · rcases endpoint with same | ⟨own, member, result⟩
          · exact Or.inl same
          · exact Or.inr ⟨own, List.mem_cons_of_mem _ member, result⟩
      | none =>
        have own : event.fd = manager.channelFd := by
          simpa [dispatched] using covered event List.mem_cons_self
        rw [dispatched] at unmoved
        obtain ⟨calls, found, ran, delivers, endpoint⟩ :=
          inductionHypothesis removed (some event) consistent restRegistered restCovered
        refine ⟨calls, found, ?_, .endpoint pending dispatched own delivers, ?_⟩
        · rw [deliver_endpoint skipped unmoved own, ran]
        · rcases endpoint with same | ⟨other, member, result⟩
          · exact Or.inr ⟨event, List.mem_cons_self, same, own⟩
          · exact Or.inr ⟨other, List.mem_cons_of_mem _ member, result⟩

end EventManager

end EventLoop
