import EventLoop.Dispatch

/-!
# Exact delivery of a batch

A batch the kernel may report holds only registered descriptors, so each of its
events either belongs to a subscriber or to the endpoint. `DeliversExactly` is
what a dispatch owes such a batch: every event in order, to the subscriber its
descriptor was dispatched to when the batch was reported, except the endpoint's
event and the events whose descriptor an earlier callback of the same dispatch
removed. Whether a removed descriptor was added again makes no difference.
-/

namespace EventLoop

open Replay

variable {kernel : Kernel} {T : Type}

/-- The calls owed to a batch, given the subscriber of each descriptor and the
descriptors removed so far. -/
inductive DeliversExactly (channelFd : RawFd) (owner : RawFd → Option SubscriberId) :
    List RawFd → List EpollEvent → List (ProcessCall T) → Prop
  | done (removed : List RawFd) : DeliversExactly channelFd owner removed [] []
  | removed {removed : List RawFd} {event : EpollEvent} {events : List EpollEvent}
      {calls : List (ProcessCall T)} (gone : event.fd ∈ removed)
      (rest : DeliversExactly channelFd owner removed events calls) :
      DeliversExactly channelFd owner removed (event :: events) calls
  | endpoint {removed : List RawFd} {event : EpollEvent} {events : List EpollEvent}
      {calls : List (ProcessCall T)} (own : event.fd = channelFd)
      (rest : DeliversExactly channelFd owner removed events calls) :
      DeliversExactly channelFd owner removed (event :: events) calls
  | delivered {removed : List RawFd} {event : EpollEvent} {events : List EpollEvent}
      {calls : List (ProcessCall T)} (call : ProcessCall T) (pending : event.fd ∉ removed)
      (foreign : event.fd ≠ channelFd) (dispatched : owner event.fd = some call.id)
      (unchanged : call.events = Events.withInner event)
      (rest : DeliversExactly channelFd owner (removed ++ call.removed) events calls) :
      DeliversExactly channelFd owner removed (event :: events) (call :: calls)

/-- Where no event is blank and nobody has a claim on the endpoint, the loop
delivers exactly what it owes. -/
theorem Delivers.exact {channelFd : RawFd} {owner : RawFd → Option SubscriberId}
    {removed : List RawFd} {batch : List EpollEvent} {calls : List (ProcessCall T)}
    (delivers : Delivers channelFd owner removed batch calls) (unclaimed : owner channelFd = none)
    (nonzero : ∀ event ∈ batch, event.events ≠ 0) :
    DeliversExactly channelFd owner removed batch calls := by
  induction delivers with
  | done removed => exact .done removed
  | discarded gone rest inductionHypothesis =>
    exact .removed gone (inductionHypothesis (fun event member =>
      nonzero event (List.mem_cons_of_mem _ member)))
  | blank zero rest inductionHypothesis =>
    exact absurd zero.1 (nonzero _ List.mem_cons_self)
  | endpoint pending unowned own rest inductionHypothesis =>
    exact .endpoint own (inductionHypothesis (fun event member =>
      nonzero event (List.mem_cons_of_mem _ member)))
  | @delivered removed event events calls call pending present dispatched unchanged rest
      inductionHypothesis =>
    have foreign : event.fd ≠ channelFd := by
      intro same
      rw [same, unclaimed] at dispatched
      cases dispatched
    exact .delivered call pending foreign dispatched unchanged (inductionHypothesis
      (fun later member => nonzero later (List.mem_cons_of_mem _ member)))

/-- The observation is not a call of `process`. -/
def Observation.NotProcess : Observation T → Prop
  | .process _ _ => False
  | _ => True

/-- What a callback does within its call is not another call. -/
theorem ProcessCall.callback_notProcess (call : ProcessCall T) :
    ∀ observation ∈ operations call.id call.exchanges ++ [.store call.id call.next],
      observation.NotProcess := by
  intro observation member
  rcases ProcessCall.mem_callback member with ⟨operation, result, rfl⟩ | rfl
  · trivial
  · trivial

namespace EventManager

/-- The manager once a batch is in its buffer. -/
def polled (manager : EventManager kernel T) (batch : List EpollEvent) : EventManager kernel T :=
  { manager with epollContext := (manager.epollContext.poll (.ok batch)).2 }

variable {manager : EventManager kernel T}

/-- A reported event carries the descriptor it is registered under. -/
theorem Consistent.reported (consistent : manager.Consistent) {event : EpollEvent}
    (reported : kernel.Reports manager.epollContext.epoll event) :
    ∃ entry, kernel.interest manager.epollContext.epoll event.fd = some entry ∧
      event.data = entry.data := by
  obtain ⟨fd, entry, registered, verbatim⟩ := reported
  have same : event.fd = fd := by
    rw [EpollEvent.fd, verbatim]
    exact consistent.keyed fd entry registered
  exact ⟨entry, by rw [same]; exact registered, verbatim⟩

/-- A wait changes nothing a registry invariant speaks of. -/
theorem Consistent.polled (consistent : manager.Consistent) (batch : List EpollEvent) :
    (manager.polled batch).Consistent :=
  ⟨consistent.owned, consistent.watchers, consistent.backed, consistent.keyed⟩

/-- The first slots of the buffer then hold the batch. -/
theorem window_polled (batch : List EpollEvent)
    (fits : batch.length ≤ manager.epollContext.readyEvents.length) :
    (manager.polled batch).epollContext.readyEvents.drop 0 =
      batch.map (EpollWrapper.discard []) ++
        manager.epollContext.readyEvents.drop batch.length := by
  rw [EpollWrapper.map_discard_nil, List.drop_zero]
  simp only [polled, EpollWrapper.poll, List.take_of_length_le fits]

section Requests

variable {holds : Observation T → Prop}

/-- What an operation logs is the operation. -/
theorem operate_logs (operations : ∀ id operation result, holds (.operation id operation result))
    (id : SubscriberId) (operation : Operation) :
    Exec.Logs holds (operate id operation : Manage kernel T (Except Error Unit)) := by
  intro manager observation member
  obtain rfl := List.mem_singleton.mp member
  exact operations id operation _

/-- What the end of a borrow logs is what it leaves. -/
theorem store_logs (stores : ∀ id subscriber, holds (.store id subscriber)) (id : SubscriberId)
    (subscriber : T) : Exec.Logs holds (store id subscriber : Manage kernel T Unit) := by
  intro manager observation member
  obtain rfl := List.mem_singleton.mp member
  exact stores id subscriber

/-- A borrow logs nothing. -/
theorem getMutUnchecked_logs (id : SubscriberId) :
    Exec.Logs holds (getMutUnchecked id : Manage kernel T T) := by
  intro manager observation member
  exact absurd member List.not_mem_nil

/-- A removal logs itself, if it removes anything. -/
theorem removeSubscriber_logs (removals : ∀ id, holds (.removeSubscriber id)) (id : SubscriberId) :
    Exec.Logs holds (removeSubscriber id : Manage kernel T (Except Error T)) := by
  intro manager observation member
  simp only [removeSubscriber] at member
  split at member
  · exact absurd member List.not_mem_nil
  · obtain rfl := List.mem_singleton.mp member
    exact removals id

/-- Borrowing a subscriber from outside logs what the caller leaves. -/
theorem subscriberMut_logs (stores : ∀ id subscriber, holds (.store id subscriber))
    (id : SubscriberId) (update : T → T) :
    Exec.Logs holds (subscriberMut id update : Manage kernel T (Except Error T)) := by
  refine Exec.Logs.read.bind (fun manager => ?_)
  split
  · exact (getMutUnchecked_logs id).bind
      (fun borrowed => (store_logs stores id _).bind (fun _ => Exec.Logs.ret _))
  · exact Exec.Logs.ret _

/-- An operation from outside logs the operation. -/
theorem eventOps_logs (operations : ∀ id operation result, holds (.operation id operation result))
    (id : SubscriberId) (operation : Operation) :
    Exec.Logs holds
      (eventOps id operation : Manage kernel T (Except Error (Except Error Unit))) := by
  refine Exec.Logs.read.bind (fun manager => ?_)
  split
  · exact (operate_logs operations id operation).bind (fun _ => Exec.Logs.ret _)
  · exact Exec.Logs.ret _

end Requests

section Subscriber

variable [MutEventSubscriber T]

/-- The loop over a batch the kernel may report: it ends without a panic, having
made the calls `Delivers` says. -/
theorem dispatchLoop_polled (consistent : manager.Consistent) (covered : manager.Covered)
    (batch : List EpollEvent) (fits : batch.length ≤ manager.epollContext.readyEvents.length)
    (reported : ∀ event ∈ batch, kernel.Reports manager.epollContext.epoll event) :
    ∃ (calls : List (ProcessCall T)) (found : Option EpollEvent),
      dispatchLoop 0 batch.length none (manager.polled batch) =
        ⟨calls.flatMap ProcessCall.log,
          .ok (found, (manager.polled batch).after (calls.flatMap ProcessCall.log))⟩ ∧
      Delivers manager.channelFd manager.epollContext.fdDispatch [] batch calls ∧
      (found = none ∨ ∃ event ∈ batch, found = some event ∧ event.fd = manager.channelFd) := by
  have registered : ∀ event ∈ batch,
      (kernel.interest manager.epollContext.epoll event.fd).isSome := by
    intro event member
    obtain ⟨entry, present, _⟩ := consistent.reported (reported event member)
    simp [present]
  rw [dispatchLoop_eq_deliver batch 0 [] none _ (consistent.polled batch)
    (window_polled batch fits)]
  exact deliver_delivers batch [] none manager.epollContext.fdDispatch (consistent.polled batch)
    (fun event member _ => ⟨registered event member, rfl⟩)
    (fun event member => covered.covered event.fd (registered event member))

/-- A turn whose wait fails dispatches nothing, and an interrupt is no failure. -/
theorem runWithTimeout_error (manager : EventManager kernel T) (milliseconds : Int) (errno : Errno)
    (closures : List (Closure T)) :
    runWithTimeout milliseconds (.error errno) closures manager =
      ⟨[.wait milliseconds (BitVec.ofNat 32 manager.epollContext.readyEvents.length)
        (.error errno)],
        .ok (if errno = .EINTR then .ok 0 else .error (.epoll errno), manager)⟩ := by
  by_cases interrupted : errno = .EINTR
  · subst interrupted
    rfl
  · simp [runWithTimeout, poll, EpollWrapper.poll, interrupted, bind, Exec.andThen]

/-- A turn whose wait reports a batch dispatches the batch. -/
theorem runWithTimeout_ok (manager : EventManager kernel T) (milliseconds : Int)
    (batch : List EpollEvent) (closures : List (Closure T)) :
    runWithTimeout milliseconds (.ok batch) closures manager =
      ⟨.wait milliseconds (BitVec.ofNat 32 manager.epollContext.readyEvents.length) (.ok batch) ::
          (dispatchEvents batch.length closures (manager.polled batch)).log,
        (dispatchEvents batch.length closures (manager.polled batch)).result.map
          (fun ended => (.ok batch.length, ended.2))⟩ := by
  have waited : runWithTimeout milliseconds (.ok batch) closures manager =
      ⟨[.wait milliseconds (BitVec.ofNat 32 manager.epollContext.readyEvents.length) (.ok batch)] ++
          ((dispatchEvents batch.length closures >>= fun _ => pure (.ok batch.length))
            (manager.polled batch) : Outcome _ _ (Except Error Nat × EventManager kernel T)).log,
        ((dispatchEvents batch.length closures >>= fun _ => pure (.ok batch.length))
          (manager.polled batch)).result⟩ := rfl
  rw [waited]
  rcases dispatched : dispatchEvents batch.length closures (manager.polled batch) with
    ⟨log, panic | ⟨_, last⟩⟩
  · rw [Exec.bind_error dispatched]
    rfl
  · rw [Exec.bind_ok dispatched]
    simp [Except.map]

/-- Requests make no deliveries.

Proof: by cases on the request; an addition logs itself, the operations of `init` and
what `init` leaves. -/
theorem serve_logs (request : Request T) :
    Exec.Logs Observation.NotProcess (serve request : Manage kernel T (Response request)) := by
  have operations : ∀ id operation result,
      (.operation id operation result : Observation T).NotProcess := fun _ _ _ => trivial
  have stores : ∀ id subscriber, (.store id subscriber : Observation T).NotProcess :=
    fun _ _ => trivial
  cases request with
  | addSubscriber subscriber =>
    have enrolls : Exec.Logs Observation.NotProcess
        (enroll subscriber : Manage kernel T SubscriberId) := by
      intro manager observation member
      obtain rfl := List.mem_singleton.mp member
      trivial
    exact enrolls.bind (fun id => (getMutUnchecked_logs id).bind (fun borrowed =>
      (Program.logs_interpret (operate_logs operations id) _).bind (fun initialized =>
        (store_logs stores id initialized).bind (fun _ => Exec.Logs.ret id))))
  | removeSubscriber id => exact removeSubscriber_logs (fun _ => trivial) id
  | subscriberMut id update => exact subscriberMut_logs stores id update
  | eventOps id operation => exact eventOps_logs operations id operation

/-- Neither do the closures of the endpoint. -/
theorem handleEndpointCalls_logs (closures : List (Closure T)) :
    Exec.Logs Observation.NotProcess
      (handleEndpointCalls closures : Manage kernel T Unit) := by
  induction closures with
  | nil =>
    intro manager observation member
    exact absurd member List.not_mem_nil
  | cons closure rest inductionHypothesis =>
    exact (Program.logs_interpret serve_logs closure).bind (fun _ => inductionHypothesis)

/-- Whether or not the endpoint was found, what follows the loop delivers nothing. -/
theorem dispatchEndpointEvent_logs (endpointEvent : Option EpollEvent)
    (closures : List (Closure T)) :
    Exec.Logs Observation.NotProcess
      (dispatchEndpointEvent endpointEvent closures : Manage kernel T Unit) := by
  unfold dispatchEndpointEvent
  split
  · intro manager observation member
    exact absurd member List.not_mem_nil
  · split
    · intro manager observation member
      exact absurd member List.not_mem_nil
    · exact handleEndpointCalls_logs closures

/-- Every batch the kernel may report is delivered exactly: the calls the dispatch
makes are the ones owed, and what follows them are the endpoint's closures, which
make none. At each call the descriptor still is dispatched to the subscriber
called.

Proof: by induction on the batch the loop makes the calls of `Delivers`, against the
tables as each callback leaves them; and an event of the batch that finds no taker would
contradict the cover of the interest list. -/
theorem dispatchEvents_exact {start manager : EventManager kernel T}
    {history : List (Observation T)} (started : start.Started)
    (reached : Reachable start history manager)
    (avoids : ∀ observation ∈ history, observation.Avoids start.channelFd)
    (deletes : kernel.DeletesPresent) (batch : List EpollEvent) (closures : List (Closure T))
    (fits : batch.length ≤ manager.epollContext.readyEvents.length)
    (reported : ∀ event ∈ batch, kernel.Reports manager.epollContext.epoll event)
    (nonzero : ∀ event ∈ batch, event.events ≠ 0) :
    ∃ (calls : List (ProcessCall T)) (rest : List (Observation T)),
      (dispatchEvents batch.length closures (manager.polled batch)).log =
        calls.flatMap ProcessCall.log ++ rest ∧
      (∀ observation ∈ rest, observation.NotProcess) ∧
      DeliversExactly manager.channelFd manager.epollContext.fdDispatch [] batch calls ∧
      ∀ before id events after,
        (dispatchEvents batch.length closures (manager.polled batch)).log =
          before ++ .process id events :: after →
        ((manager.polled batch).after before).epollContext.fdDispatch events.fd = some id := by
  obtain ⟨valid, rfl⟩ := reached.valid
  have consistent := started.consistent_after valid
  have covered := started.covered_after (deletes_of_deletesPresent deletes start history)
  have unclaimed : (start.after history).epollContext.fdDispatch
      (start.after history).channelFd = none :=
    (started.channelKept_after (sparesChannel_of_avoids avoids)).undispatched
  obtain ⟨calls, found, ran, delivers, _⟩ :=
    dispatchLoop_polled consistent covered batch fits reported
  refine ⟨calls, _, by rw [dispatchEvents, Exec.bind_ok ran],
    dispatchEndpointEvent_logs found closures _, delivers.exact unclaimed nonzero, ?_⟩
  intro before id events after split
  have checked := (dispatchEvents_traced batch.length closures
    ((start.after history).polled batch) trivial).1
  rw [split] at checked
  exact checked.here.2

end Subscriber

/-- Subscriber 1 watches descriptors 5 and 6 and removes 6 at every event. -/
def removing : List (Input Scripted) :=
  [.request (.addSubscriber ⟨[.remove (Events.newRaw 6 .IN)]⟩),
    .request (.eventOps ⟨1⟩ (.add (Events.newRaw 5 .IN))),
    .request (.eventOps ⟨1⟩ (.add (Events.newRaw 6 .IN)))]

/-- The kernel reports both descriptors and the endpoint. -/
def removingBatch : List EpollEvent :=
  [(Events.newRaw 5 .IN).inner, channelEvent 3, (Events.newRaw 6 .IN).inner]

/-- The first callback removes the descriptor of the last event, which is then delivered to
nobody, and the endpoint's event between them calls nobody either. -/
theorem dispatchEvents_exact_removing :
    ∃ (calls : List (ProcessCall Scripted)) (rest : List (Observation Scripted)),
      (dispatchEvents 3 [] ((finish removing fresh).polled removingBatch)).log =
        calls.flatMap ProcessCall.log ++ rest ∧
      (∀ observation ∈ rest, observation.NotProcess) ∧
      DeliversExactly 3 (finish removing fresh).epollContext.fdDispatch [] removingBatch calls ∧
      ∀ before id events after,
        (dispatchEvents 3 [] ((finish removing fresh).polled removingBatch)).log =
          before ++ .process id events :: after →
        (((finish removing fresh).polled removingBatch).after before).epollContext.fdDispatch
          events.fd = some id := by
  have reported : ∀ event ∈ removingBatch,
      Kernel.reference.Reports (finish removing fresh).epollContext.epoll event := by
    intro event member
    simp only [removingBatch, List.mem_cons, List.not_mem_nil, or_false] at member
    rcases member with rfl | rfl | rfl
    · exact ⟨5, _, rfl, rfl⟩
    · exact ⟨3, _, rfl, rfl⟩
    · exact ⟨6, _, rfl, rfl⟩
  exact dispatchEvents_exact fresh_started (reachable_finish (by decide))
    (by decide) Kernel.reference_deletesPresent removingBatch [] (by decide) reported (by decide)

end EventManager

end EventLoop
