import EventLoop.Library.Lockstep
import EventLoop.Delivery

/-!
# The ready buffer is scratch space

Between two calls the ready buffer holds what earlier waits left in it: delivered
events, discarded ones, and events of descriptors that have changed hands since.
None of it is ever looked at. A wait overwrites as many slots as it reports, and
the loop reads only those; a removal rewrites slots but returns nothing of them.

Two managers that differ in the contents of their buffers therefore go through any
calls in lockstep. Inside a dispatch they agree, in addition, on the slots the
loop has still to read. Allocating a new buffer for every wait is one more way to
differ in the contents only.
-/

namespace EventLoop

open Exec

variable {kernel : Kernel}

namespace EpollWrapper

/-- The same context with other events in its buffer. -/
def withBuffer (wrapper : EpollWrapper kernel) (buffer : List EpollEvent) : EpollWrapper kernel :=
  { wrapper with readyEvents := buffer }

variable (wrapper : EpollWrapper kernel) (buffer : List EpollEvent)

/-- Discarding a descriptor's events acts on the buffer alone. -/
theorem removeEvent_withBuffer (fd : RawFd) : (wrapper.withBuffer buffer).removeEvent fd =
    (wrapper.removeEvent fd).withBuffer (buffer.map (discard [fd])) := by
  have discarded := removeEvent_readyEvents (wrapper.withBuffer buffer) fd
  exact congrArg ((wrapper.removeEvent fd).withBuffer) discarded

/-- Taking a descriptor off a watch list does not look at the buffer. -/
theorem unwatch_withBuffer (id : SubscriberId) (fd : RawFd) :
    (wrapper.withBuffer buffer).unwatch id fd = (wrapper.unwatch id fd).withBuffer buffer := by
  simp only [unwatch, withBuffer]
  split <;> rfl

/-- So does the removal of a whole watch list, by induction on the list. -/
theorem removeFds_withBuffer (fds : List RawFd) : removeFds fds (wrapper.withBuffer buffer) =
    (removeFds fds wrapper).withBuffer (buffer.map (discard fds)) := by
  induction fds generalizing wrapper buffer with
  | nil =>
    rw [map_discard_nil]
    rfl
  | cons fd rest inductionHypothesis =>
    have first := removeEvent_withBuffer
      { wrapper with epoll := (kernel.ctl wrapper.epoll .delete fd .default).2 } buffer fd
    have merged : (buffer.map (discard [fd])).map (discard rest) =
        buffer.map (discard (fd :: rest)) := by
      rw [List.map_map]
      exact List.map_congr_left (fun event _ => discard_discard [fd] rest event)
    rw [removeFds, removeFds, ← merged, ← inductionHypothesis]
    exact congrArg (removeFds rest) first

/-- Dropping a subscriber does the same whatever the buffer holds. -/
theorem remove_withBuffer (id : SubscriberId) : (wrapper.withBuffer buffer).remove id =
    (wrapper.remove id).withBuffer (buffer.map (discard (wrapper.watched id))) :=
  removeFds_withBuffer
    { wrapper with subscriberWatchList := PartialMap.erase wrapper.subscriberWatchList id } buffer _

/-- So does every operation, and it returns the same. -/
theorem perform_withBuffer (id : SubscriberId) (operation : Operation) :
    EventOps.perform (wrapper.withBuffer buffer) id operation =
      ((EventOps.perform wrapper id operation).1,
        (EventOps.perform wrapper id operation).2.withBuffer (buffer.map
          (discard (operation.removes (EventOps.perform wrapper id operation).1)))) := by
  have passed (request : ControlOperation) (events : Events) :
      EventOps.ctl (wrapper.withBuffer buffer) request events =
        ((EventOps.ctl wrapper request events).1,
          (EventOps.ctl wrapper request events).2.withBuffer buffer) := rfl
  cases operation with
  | add events =>
    simp only [EventOps.perform, EventOps.add, Operation.removes, map_discard_nil, passed]
    change (if (wrapper.fdDispatch events.fd).isSome then _ else _) = _
    split
    · rfl
    · rcases EventOps.ctl wrapper .add events with ⟨error | _, next⟩ <;> rfl
  | modify events =>
    simp only [EventOps.perform, EventOps.modify, Operation.removes, map_discard_nil, passed]
  | remove events =>
    simp only [EventOps.perform, EventOps.remove, passed]
    rcases EventOps.ctl wrapper .delete events with ⟨error | _, next⟩
    · simp only [Operation.removes, map_discard_nil]
    · simp only [Operation.removes, removeEvent_withBuffer, unwatch_withBuffer]

end EpollWrapper

namespace EventManager

variable {T : Type}

/-- The managers are equal except for the contents of their ready buffers. -/
structure SameExceptBuffer (first second : EventManager kernel T) : Prop where
  subscribers : second.subscribers = first.subscribers
  epoll : second.epollContext.epoll = first.epollContext.epoll
  dispatch : second.epollContext.fdDispatch = first.epollContext.fdDispatch
  lists : second.epollContext.subscriberWatchList = first.epollContext.subscriberWatchList
  length : second.epollContext.readyEvents.length = first.epollContext.readyEvents.length
  channelFd : second.channelFd = first.channelFd

/-- The same manager with other events in its buffer. -/
def withBuffer (manager : EventManager kernel T) (buffer : List EpollEvent) :
    EventManager kernel T :=
  { manager with epollContext := manager.epollContext.withBuffer buffer }

/-- The managers differ in the contents of their buffers only, and not in the
first slots. -/
def Agree (count : Nat) (first second : EventManager kernel T) : Prop :=
  ∃ buffer, second = first.withBuffer buffer ∧
    buffer.length = first.epollContext.readyEvents.length ∧
    buffer.take count = first.epollContext.readyEvents.take count

variable {first second next : EventManager kernel T} {buffer : List EpollEvent} {count : Nat}

/-- Managers that differ only in what their buffers hold agree on no slot in particular. -/
theorem SameExceptBuffer.agree (same : SameExceptBuffer first second) : Agree 0 first second := by
  obtain ⟨firstSubscribers, ⟨epoll, dispatch, lists, ready⟩, channelFd⟩ := first
  obtain ⟨secondSubscribers, ⟨otherEpoll, otherDispatch, otherLists, buffer⟩, otherFd⟩ := second
  obtain ⟨subscribers, sameEpoll, sameDispatch, sameLists, length, fd⟩ := same
  dsimp only at *
  subst subscribers sameEpoll sameDispatch sameLists fd
  exact ⟨buffer, rfl, length, rfl⟩

/-- Agreeing managers differ only in what their buffers hold. -/
theorem Agree.same (agree : Agree count first second) : SameExceptBuffer first second := by
  obtain ⟨buffer, rfl, length, _⟩ := agree
  exact ⟨rfl, rfl, rfl, rfl, length, rfl⟩

/-- Managers that agree on some slots agree on none in particular. -/
theorem Agree.zero (agree : Agree count first second) : Agree 0 first second :=
  agree.same.agree

/-- Discarding the same events in both buffers keeps the agreement. -/
theorem agree_discard (fds : List RawFd)
    (length : buffer.length = first.epollContext.readyEvents.length)
    (front : buffer.take count = first.epollContext.readyEvents.take count)
    (discarded : next.epollContext.readyEvents =
      first.epollContext.readyEvents.map (EpollWrapper.discard fds)) :
    Agree count next (next.withBuffer (buffer.map (EpollWrapper.discard fds))) := by
  refine ⟨_, rfl, ?_, ?_⟩
  · rw [discarded, List.length_map, List.length_map, length]
  · rw [discarded, ← List.map_take, ← List.map_take, front]

/-- The computation runs in lockstep with itself on managers that agree on the
first slots, and leaves them so. -/
abbrev Manage.Blind {α : Type} (count : Nat) (body : Manage kernel T α) : Prop :=
  Lockstep (Agree count) body body (fun _ => Agree count)

/-- Checked at two managers that agree, a computation may use that they do. -/
theorem Manage.Blind.at {α : Type} {body : Manage kernel T α} (blind : Manage.Blind count body)
    (agree : Agree count first second) :
    Lockstep (fun now other => now = first ∧ other = second) body body (fun _ => Agree count) := by
  refine blind.consequence ?_ (fun _ _ _ held => held)
  rintro _ _ ⟨rfl, rfl⟩
  exact agree

/-- An operation discards the same events in both buffers and looks at neither. -/
theorem operate_blind (id : SubscriberId) (operation : Operation) :
    Manage.Blind count (operate id operation : Manage kernel T (Except Error Unit)) := by
  rintro first _ ⟨buffer, rfl, length, front⟩
  have performed := EpollWrapper.perform_withBuffer first.epollContext buffer id operation
  have discarded := (EventOps.perform_performed first.epollContext id operation).readyEvents
  simp only [operate, withBuffer, performed]
  exact ⟨trivial, .returned (agree_discard _ length front discarded)⟩

/-- So does a callback, whose operations are chosen from results that are the same. -/
theorem callback_blind (id : SubscriberId) (program : Callback T) :
    Manage.Blind count (callback id program : Manage kernel T T) :=
  Program.lockstep_interpret (operate_blind id) program

/-- A subscriber is stored beside the buffer. -/
theorem store_blind (id : SubscriberId) (subscriber : T) :
    Manage.Blind count (store id subscriber : Manage kernel T Unit) := by
  rintro first _ ⟨buffer, rfl, length, front⟩
  exact ⟨rfl, .returned ⟨buffer, rfl, length, front⟩⟩

/-- An observation is logged alike. -/
theorem observe_blind (observation : Observation T) :
    Manage.Blind count (observe observation : Manage kernel T Unit) := by
  rintro first _ ⟨buffer, rfl, length, front⟩
  exact ⟨rfl, .returned ⟨buffer, rfl, length, front⟩⟩

/-- A subscriber is found beside the buffer. -/
theorem getMutUnchecked_blind (id : SubscriberId) :
    Manage.Blind count (getMutUnchecked id : Manage kernel T T) := by
  rintro first _ ⟨buffer, rfl, length, front⟩
  cases borrowed : first.subscribers.getMutUnchecked id with
  | error panic =>
    simp only [getMutUnchecked, withBuffer, borrowed, Except.map]
    exact ⟨trivial, .aborted panic⟩
  | ok subscriber =>
    simp only [getMutUnchecked, withBuffer, borrowed, Except.map]
    exact ⟨trivial, .returned ⟨buffer, rfl, length, front⟩⟩

/-- An id is drawn beside the buffer. -/
theorem enroll_blind (subscriber : T) :
    Manage.Blind count (enroll subscriber : Manage kernel T SubscriberId) := by
  rintro first _ ⟨buffer, rfl, length, front⟩
  cases added : first.subscribers.add subscriber with
  | error panic =>
    simp only [enroll, withBuffer, added, Except.map]
    exact ⟨trivial, .aborted panic⟩
  | ok drawn =>
    simp only [enroll, withBuffer, added, Except.map]
    exact ⟨trivial, .returned ⟨buffer, rfl, length, front⟩⟩

/-- A removal discards the same events in both buffers. -/
theorem removeSubscriber_blind (id : SubscriberId) :
    Manage.Blind count (removeSubscriber id : Manage kernel T (Except Error T)) := by
  rintro first _ ⟨buffer, rfl, length, front⟩
  have dropped := EpollWrapper.remove_withBuffer first.epollContext buffer id
  have discarded := EpollWrapper.remove_readyEvents first.epollContext id
  cases registered : first.subscribers.subscribers id with
  | none =>
    simp only [removeSubscriber, withBuffer, Subscribers.remove, registered]
    exact ⟨trivial, .returned ⟨buffer, rfl, length, front⟩⟩
  | some subscriber =>
    simp only [removeSubscriber, withBuffer, Subscribers.remove, registered, dropped]
    exact ⟨trivial, .returned (agree_discard _ length front discarded)⟩

/-- A borrow from outside does not look at the buffer. -/
theorem subscriberMut_blind (id : SubscriberId) (update : T → T) :
    Manage.Blind count (subscriberMut id update : Manage kernel T (Except Error T)) := by
  refine Lockstep.read_bind (fun first second agree => ?_)
  have same : second.subscribers = first.subscribers := agree.same.subscribers
  rw [same]
  split
  · have borrowed : Manage.Blind count (do
        let borrowed ← getMutUnchecked id
        store id (update borrowed)
        pure (.ok borrowed) : Manage kernel T (Except Error T)) :=
      (getMutUnchecked_blind id).bind (fun borrowed => (store_blind id (update borrowed)).bind
        (fun _ => Lockstep.keep _))
    exact borrowed.at agree
  · exact Manage.Blind.at (Lockstep.keep _) agree

/-- An operation from outside is an operation. -/
theorem eventOps_blind (id : SubscriberId) (operation : Operation) :
    Manage.Blind count
      (eventOps id operation : Manage kernel T (Except Error (Except Error Unit))) := by
  refine Lockstep.read_bind (fun first second agree => ?_)
  have same : second.subscribers = first.subscribers := agree.same.subscribers
  rw [same]
  split
  · have operated : Manage.Blind count (do
        let result ← operate id operation
        pure (.ok result) : Manage kernel T (Except Error (Except Error Unit))) :=
      (operate_blind id operation).bind (fun _ => Lockstep.keep _)
    exact operated.at agree
  · exact Manage.Blind.at (Lockstep.keep _) agree

/-- How many slots a poll leaves to be read. -/
def reported : Except Error Nat → Nat
  | .ok eventCount => eventCount
  | .error _ => 0

/-- A wait makes the buffers agree on the slots it reports, and asks for as many
events from both. -/
theorem poll_lockstep (milliseconds : Int) (response : Except Errno (List EpollEvent)) :
    Lockstep (Agree 0) (poll milliseconds response : Manage kernel T (Except Error Nat))
      (poll milliseconds response) (fun polled => Agree (reported polled)) := by
  rintro first _ ⟨buffer, rfl, length, _⟩
  cases response with
  | ok events =>
    have front : (events.take buffer.length ++ buffer.drop events.length).take events.length =
        (events.take first.epollContext.readyEvents.length ++
          first.epollContext.readyEvents.drop events.length).take events.length := by
      rw [← length]
      by_cases fits : events.length ≤ buffer.length
      · rw [List.take_of_length_le fits, List.take_left, List.take_left]
      · rw [List.drop_eq_nil_of_le (by omega), List.drop_eq_nil_of_le (by omega)]
    refine ⟨?_, .returned ⟨_, rfl, ?_, front⟩⟩
    · simp only [poll, withBuffer, EpollWrapper.withBuffer, length]
    · simp only [EpollWrapper.poll, List.length_append, List.length_take, List.length_drop]
      change min buffer.length events.length + (buffer.length - events.length) = _
      omega
  | error errno =>
    have unchanged : ∀ wrapper : EpollWrapper kernel, wrapper.poll (.error errno) =
        (if errno = .EINTR then .ok 0 else .error (.epoll errno), wrapper) := by
      intro wrapper
      simp only [EpollWrapper.poll]
      split <;> rfl
    simp only [poll, unchanged, withBuffer, EpollWrapper.withBuffer, length]
    split
    · exact ⟨trivial, .returned ⟨buffer, rfl, length, rfl⟩⟩
    · exact ⟨trivial, .returned ⟨buffer, rfl, length, rfl⟩⟩

/-- A slot on which the buffers agree is read alike. -/
theorem readyEvent_blind {evIndex : Nat} (inside : evIndex < count) :
    Manage.Blind count (readyEvent evIndex : Manage kernel T EpollEvent) := by
  rintro first _ ⟨buffer, rfl, length, front⟩
  have slot : buffer[evIndex]? = first.epollContext.readyEvents[evIndex]? := by
    have read := congrArg (fun slots => slots[evIndex]?) front
    simpa only [List.getElem?_take_of_lt inside] using read
  cases found : first.epollContext.readyEvents[evIndex]? with
  | none =>
    simp only [readyEvent, withBuffer, EpollWrapper.withBuffer, slot, found]
    exact ⟨trivial, .aborted _⟩
  | some event =>
    simp only [readyEvent, withBuffer, EpollWrapper.withBuffer, slot, found]
    exact ⟨trivial, .returned ⟨buffer, rfl, length, front⟩⟩

/-- Perform calls in turn and collect what they return. -/
def transcript (step : Input T → Manage kernel T (Output T)) :
    List (Input T) → Manage kernel T (List (Output T))
  | [] => pure []
  | input :: rest => do
      let output ← step input
      let outputs ← transcript step rest
      pure (output :: outputs)

/-- Calls that keep step one by one keep step in turn, by induction on the calls. -/
theorem transcript_lockstep {step other : Input T → Manage kernel T (Output T)}
    (each : ∀ input, Lockstep (Agree 0) (step input) (other input) (fun _ => Agree 0))
    (inputs : List (Input T)) :
    Lockstep (Agree 0) (transcript step inputs) (transcript other inputs) (fun _ => Agree 0) := by
  induction inputs with
  | nil => exact Lockstep.keep []
  | cons input rest inductionHypothesis =>
    exact (each input).bind (fun _ => inductionHypothesis.bind
      (fun _ => Lockstep.keep _))

/-- Nobody can tell the two outcomes apart: the same was done, with the same
results, and what is left differs at most in the contents of the buffers; or both
panicked, alike. -/
def Indistinguishable {α : Type}
    (first second : Outcome (Observation T) Panic (α × EventManager kernel T)) : Prop :=
  first.log = second.log ∧
    Matched (fun _ => SameExceptBuffer) first.result second.result

/-- What keeps step from buffers that agree nowhere cannot be told apart. -/
theorem indistinguishable_of_lockstep {α : Type} {body other : Manage kernel T α}
    (lockstep : Lockstep (Agree 0) body other (fun _ => Agree 0))
    (same : SameExceptBuffer first second) : Indistinguishable (body first) (other second) := by
  obtain ⟨logged, ended⟩ := lockstep first second same.agree
  exact ⟨logged, ended.mono (fun _ _ _ held => held.same)⟩

section Subscriber

variable [MutEventSubscriber T]

/-- An addition and its `init` do not look at the buffer. -/
theorem addSubscriber_blind (subscriber : T) :
    Manage.Blind count (addSubscriber subscriber : Manage kernel T SubscriberId) :=
  (enroll_blind subscriber).bind (fun id => (getMutUnchecked_blind id).bind (fun _ =>
    (callback_blind id _).bind (fun initialized => (store_blind id initialized).bind (fun _ =>
      Lockstep.keep id))))

/-- Neither does any request. -/
theorem serve_blind (request : Request T) :
    Manage.Blind count (serve request : Manage kernel T (Response request)) := by
  cases request with
  | addSubscriber subscriber => exact addSubscriber_blind subscriber
  | removeSubscriber id => exact removeSubscriber_blind id
  | subscriberMut id update => exact subscriberMut_blind id update
  | eventOps id operation => exact eventOps_blind id operation

/-- Neither does a delivery, once the event is read. -/
theorem process_blind (id : SubscriberId) (event : EpollEvent) :
    Manage.Blind count (process id event : Manage kernel T Unit) :=
  (getMutUnchecked_blind id).bind (fun _ => (observe_blind _).bind (fun _ =>
    (callback_blind id _).bind (fun next => store_blind id next)))

/-- The loop reads only slots on which the buffers agree. -/
theorem dispatchLoop_blind (evIndex remaining : Nat) (endpointEvent : Option EpollEvent)
    (within : evIndex + remaining ≤ count) :
    Manage.Blind count
      (dispatchLoop evIndex remaining endpointEvent : Manage kernel T (Option EpollEvent)) := by
  induction remaining generalizing evIndex endpointEvent with
  | zero => exact Lockstep.keep endpointEvent
  | succ remaining inductionHypothesis =>
    have rest (found : Option EpollEvent) := inductionHypothesis (evIndex + 1) found (by omega)
    refine (readyEvent_blind (by omega)).bind (fun event => ?_)
    by_cases discarded : Discarded event
    · simp only [discarded, if_true]
      exact rest endpointEvent
    · simp only [discarded, if_false]
      refine Lockstep.read_bind (fun first second agree => ?_)
      have sameTable : second.epollContext.subscriberId event.fd =
          first.epollContext.subscriberId event.fd := congrFun agree.same.dispatch event.fd
      rw [sameTable, agree.same.channelFd]
      split
      · rename_i id dispatched
        exact Manage.Blind.at ((process_blind id event).bind (fun _ => rest endpointEvent)) agree
      · split
        · exact Manage.Blind.at (rest (some event)) agree
        · exact Lockstep.abort _

/-- Neither do the closures of the endpoint, by induction on the queue. -/
theorem handleEndpointCalls_blind (closures : List (Closure T)) :
    Manage.Blind count (handleEndpointCalls closures : Manage kernel T Unit) := by
  induction closures with
  | nil => exact Lockstep.keep ()
  | cons closure rest inductionHypothesis =>
    exact (Program.lockstep_interpret serve_blind closure).bind (fun _ => inductionHypothesis)

/-- Neither does what follows the loop. -/
theorem dispatchEndpointEvent_blind (endpointEvent : Option EpollEvent)
    (closures : List (Closure T)) :
    Manage.Blind count
      (dispatchEndpointEvent endpointEvent closures : Manage kernel T Unit) := by
  unfold dispatchEndpointEvent
  split
  · exact Lockstep.keep ()
  · split
    · exact Lockstep.abort _
    · exact handleEndpointCalls_blind closures

/-- The dispatch of a batch looks at the slots of the batch only. -/
theorem dispatchEvents_blind (closures : List (Closure T)) :
    Manage.Blind count (dispatchEvents count closures : Manage kernel T Unit) :=
  (dispatchLoop_blind 0 count none (by omega)).bind
    (fun endpointEvent => dispatchEndpointEvent_blind endpointEvent closures)

/-- A turn of the loop starts from any two buffers of the same length. -/
theorem runWithTimeout_blind (milliseconds : Int) (response : Except Errno (List EpollEvent))
    (closures : List (Closure T)) :
    Manage.Blind 0
      (runWithTimeout milliseconds response closures : Manage kernel T (Except Error Nat)) := by
  refine (poll_lockstep milliseconds response).bind (fun polled => ?_)
  cases polled with
  | error error => exact Lockstep.keep _
  | ok eventCount =>
    exact (dispatchEvents_blind closures).bind (fun _ => Lockstep.ret _ (fun _ _ held => held.zero))

/-- A call looks at no slot that its own wait has not filled.

Proof: the wait makes the buffers agree on the slots it fills, and the dispatch reads no
others. -/
theorem perform_blind (input : Input T) :
    Manage.Blind 0 (perform input : Manage kernel T (Output T)) := by
  cases input with
  | request request =>
    exact (serve_blind request).bind (fun _ => Lockstep.keep _)
  | run milliseconds response closures =>
    exact (runWithTimeout_blind milliseconds response closures).bind
      (fun _ => Lockstep.keep _)

/-- Replace the buffer by a new one of the same length. -/
def allocate : Manage kernel T Unit := fun manager =>
  ⟨[], .ok ((), manager.withBuffer
    (List.replicate manager.epollContext.readyEvents.length .default))⟩

/-- The calls of an implementation that allocates a new buffer for every wait. -/
def performAllocating : Input T → Manage kernel T (Output T)
  | .request request => perform (.request request)
  | .run milliseconds response closures => do
      allocate
      perform (.run milliseconds response closures)

/-- A manager that makes a new buffer for every wait keeps step with the one that reuses
its own. -/
theorem performAllocating_lockstep (input : Input T) :
    Lockstep (Agree 0) (perform input : Manage kernel T (Output T)) (performAllocating input)
      (fun _ => Agree 0) := by
  cases input with
  | request request => exact perform_blind (.request request)
  | run milliseconds response closures =>
    intro first second agree
    have allocated : (allocate : Manage kernel T Unit) second = ⟨[], .ok ((), second.withBuffer
        (List.replicate second.epollContext.readyEvents.length .default))⟩ := rfl
    have fresh : SameExceptBuffer first (second.withBuffer
        (List.replicate second.epollContext.readyEvents.length .default)) := by
      have same := agree.same
      exact ⟨same.subscribers, same.epoll, same.dispatch, same.lists,
        List.length_replicate.trans same.length, same.channelFd⟩
    rw [performAllocating, Exec.bind_ok allocated]
    exact perform_blind (.run milliseconds response closures) _ _ fresh.agree

/-- From managers that differ in the contents of their ready buffers only, any
calls do the same and return the same, and leave managers that differ in the
contents of their buffers only; and so they do when one of the two allocates a new
buffer for every wait.

Proof: a call fills as many slots as its wait reports and reads no others, so it keeps
step with itself from buffers that agree nowhere, and with a call that has a new buffer.
-/
theorem buffer_is_scratch (same : SameExceptBuffer first second) (inputs : List (Input T)) :
    Indistinguishable (transcript perform inputs first) (transcript perform inputs second) ∧
      Indistinguishable (transcript perform inputs first)
        (transcript performAllocating inputs second) :=
  ⟨indistinguishable_of_lockstep (transcript_lockstep perform_blind inputs) same,
    indistinguishable_of_lockstep (transcript_lockstep performAllocating_lockstep inputs) same⟩

end Subscriber

/-- An interrupted wait, and two with fewer events than the buffer has slots. -/
def waits : List (Input Scripted) :=
  [.run 0 (.error .EINTR) [],
    .run 0 (.ok [(Events.newRaw 5 .IN).inner, (Events.newRaw 6 .IN).inner]) [],
    .run 0 (.ok [(Events.newRaw 5 .OUT).inner]) []]

/-- What an earlier wait may have left: an event of descriptor 6, and one of a
descriptor nobody has. -/
theorem buffer_is_scratch_waits :
    Indistinguishable (transcript perform waits (finish removing fresh))
      (transcript perform waits ((finish removing fresh).withBuffer
        [(Events.newRaw 6 .IN).inner, (Events.newRaw 9 .IN).inner, .default, .default])) ∧
    Indistinguishable (transcript perform waits (finish removing fresh))
      (transcript performAllocating waits ((finish removing fresh).withBuffer
        [(Events.newRaw 6 .IN).inner, (Events.newRaw 9 .IN).inner, .default, .default])) :=
  buffer_is_scratch ⟨rfl, rfl, rfl, rfl, rfl, rfl⟩ waits

end EventManager

end EventLoop
