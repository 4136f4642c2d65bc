import EventLoop.Delivery
import EventLoop.Library.Unwinding

/-!
# Independent subscribers do not see each other

Let every subscriber keep to a territory, a set of descriptors of its own: what
is dispatched to it lies there and so does every descriptor its callbacks name.
All that a callback can read or write is then the subscriber's own state, its
own list, and the entries of its territory in the dispatch table and in the
interest list, as long as the kernel decides each request by the entry of the
descriptor it names. Events of one subscriber move only its own part, so a
dispatch of a batch in another order, with each subscriber's events in the same
order, comes to the same for everybody.
-/

namespace EventLoop

open Replay Unwinding

variable {kernel : Kernel} {T : Type}

namespace EpollWrapper

/-- The two agree on the descriptors and on the subscriber's list. -/
structure AgreeOn (fds : Set RawFd) (id : SubscriberId) (first second : EpollWrapper kernel) :
    Prop where
  dispatch : ∀ fd ∈ fds, first.fdDispatch fd = second.fdDispatch fd
  interest : ∀ fd ∈ fds, kernel.interest first.epoll fd = kernel.interest second.epoll fd
  list : first.subscriberWatchList id = second.subscriberWatchList id

end EpollWrapper

namespace EpollWrapper

variable {fds : Set RawFd} {id actor : SubscriberId} {first second wrapper next : EpollWrapper kernel}
  {operation : Operation} {outcome : Except Error Unit}

/-- What an operation returns depends on the dispatch entry and the kernel's entry
of the descriptor it names, and on nothing else. -/
theorem AgreeOn.result (agree : AgreeOn fds id first second) (decides : kernel.Local)
    (actor : SubscriberId) (inside : operation.fd ∈ fds) :
    (EventOps.perform first actor operation).1 = (EventOps.perform second actor operation).1 := by
  obtain ⟨verdict, answers⟩ := decides
  have control : ∀ kind, ∀ events : Events, events.fd ∈ fds →
      (EventOps.ctl first kind events).1 = (EventOps.ctl second kind events).1 := by
    intro kind events named
    simp only [EventOps.ctl]
    rw [answers first.epoll, answers second.epoll, agree.interest events.fd named]
  cases operation with
  | add events =>
    rw [EventOps.perform, EventOps.perform, EventOps.add_result, EventOps.add_result,
      agree.dispatch events.fd inside, control .add events inside]
  | modify events => exact control .modify events inside
  | remove events =>
    rw [EventOps.perform, EventOps.perform, EventOps.remove_result, EventOps.remove_result,
      control .delete events inside]

/-- An operation on one of the descriptors keeps the agreement, if it returns the
same on both sides. -/
theorem AgreeOn.performed {firstNext secondNext : EpollWrapper kernel}
    (agree : AgreeOn fds id first second)
    (one : EventOps.Performed first id operation outcome firstNext)
    (two : EventOps.Performed second id operation outcome secondNext) :
    AgreeOn fds id firstNext secondNext := by
  have watched : first.watched id = second.watched id := by
    rw [EpollWrapper.watched, EpollWrapper.watched, agree.list]
  cases one with
  | failed operation error epoll same =>
    cases two with
    | failed _ _ epoll' same' =>
      refine ⟨agree.dispatch, fun fd member => ?_, agree.list⟩
      rw [same, same']
      exact agree.interest fd member
  | added events epoll unclaimed absent written =>
    cases two with
    | added _ epoll' unclaimed' absent' written' =>
      refine ⟨fun fd member => ?_, fun fd member => ?_, ?_⟩
      · simp only [claim_fdDispatch, PartialMap.insert_apply, agree.dispatch fd member]
      · simp only [claim_epoll, written, written', PartialMap.insert_apply,
          agree.interest fd member]
      · rw [claim_watchList, claim_watchList, PartialMap.insert_apply, PartialMap.insert_apply,
          if_pos rfl, if_pos rfl]
        exact congrArg (fun list => some (list ++ [events.fd])) watched
  | modified events epoll present written =>
    cases two with
    | modified _ epoll' present' written' =>
      refine ⟨agree.dispatch, fun fd member => ?_, agree.list⟩
      simp only [written, written', PartialMap.insert_apply, agree.interest fd member]
  | removed events epoll present written =>
    cases two with
    | removed _ epoll' present' written' =>
      refine ⟨fun fd member => ?_, fun fd member => ?_, ?_⟩
      · simp only [unwatch_fdDispatch, removeEvent_fdDispatch, PartialMap.erase_apply,
          agree.dispatch fd member]
      · simp only [unwatch_epoll, removeEvent_epoll, written, written', PartialMap.erase_apply,
          agree.interest fd member]
      · simp only [unwatch_watchList, removeEvent_watchList, agree.list]

/-- An operation by somebody else, on some other descriptor, cannot be seen. -/
theorem agreeOn_foreign (performed : EventOps.Performed wrapper actor operation outcome next)
    (outside : operation.fd ∉ fds) (distinct : id ≠ actor) : AgreeOn fds id next wrapper := by
  have elsewhere : ∀ fd ∈ fds, fd ≠ operation.fd := by
    rintro fd member rfl
    exact outside member
  refine ⟨fun fd member => performed.fdDispatch_other (elsewhere fd member),
    fun fd member => performed.interest_other (elsewhere fd member), ?_⟩
  cases performed with
  | failed operation error epoll same => rfl
  | added events epoll unclaimed absent written => simp [distinct]
  | modified events epoll present written => rfl
  | removed events epoll present written =>
    simp [unwatch_watchList, distinct]

end EpollWrapper

/-- The observation is the subscriber's doing. -/
def Observation.isBy (id : SubscriberId) : Observation T → Bool
  | .operation actor _ _ => actor = id
  | .process actor _ => actor = id
  | .store actor _ => actor = id
  | _ => false

/-- If the observation is an operation, it is on the subscriber's territory. -/
def Observation.StaysIn (territory : SubscriberId → Set RawFd) : Observation T → Prop
  | .operation id performed _ => performed.fd ∈ territory id
  | _ => True

/-- Whether an operation stays in a territory is decided by looking its descriptor up. -/
instance (territory : SubscriberId → Set RawFd) [∀ id fd, Decidable (fd ∈ territory id)]
    (observation : Observation T) : Decidable (observation.StaysIn territory) :=
  match observation with
  | .operation id performed _ => inferInstanceAs (Decidable (performed.fd ∈ territory id))
  | .process _ _ => .isTrue trivial
  | .store _ _ => .isTrue trivial
  | .addSubscriber _ _ => .isTrue trivial
  | .removeSubscriber _ => .isTrue trivial
  | .wait _ _ _ => .isTrue trivial

/-- Everything a call logs is its subscriber's doing. -/
theorem ProcessCall.log_isBy (call : ProcessCall T) {observation : Observation T}
    (member : observation ∈ call.log) (id : SubscriberId) :
    observation.isBy id = true ↔ call.id = id := by
  rcases List.mem_cons.mp member with rfl | inside
  · simp [Observation.isBy]
  · rcases ProcessCall.mem_callback inside with ⟨operation, result, rfl⟩ | rfl
    · simp [Observation.isBy]
    · simp [Observation.isBy]

namespace EventManager

/-- The two managers are the same to a subscriber that keeps to the descriptors. -/
structure SameTo (fds : Set RawFd) (id : SubscriberId) (first second : EventManager kernel T) :
    Prop where
  subscriber : first.subscribers.subscribers id = second.subscribers.subscribers id
  tables : EpollWrapper.AgreeOn fds id first.epollContext second.epollContext

variable {fds : Set RawFd} {id : SubscriberId} {first second third manager : EventManager kernel T}
  {territory : SubscriberId → Set RawFd}

/-- A manager is the same to everybody as itself. -/
theorem SameTo.refl (manager : EventManager kernel T) : SameTo fds id manager manager :=
  ⟨rfl, fun _ _ => rfl, fun _ _ => rfl, rfl⟩

/-- Which of two managers comes first makes no difference. -/
theorem SameTo.symm (same : SameTo fds id first second) : SameTo fds id second first :=
  ⟨same.subscriber.symm, fun fd member => (same.tables.dispatch fd member).symm,
    fun fd member => (same.tables.interest fd member).symm, same.tables.list.symm⟩

/-- A subscriber that cannot tell a first manager from a second nor that from a third
cannot tell the first from the third. -/
theorem SameTo.trans (one : SameTo fds id first second) (two : SameTo fds id second third) :
    SameTo fds id first third :=
  ⟨one.subscriber.trans two.subscriber,
    fun fd member => (one.tables.dispatch fd member).trans (two.tables.dispatch fd member),
    fun fd member => (one.tables.interest fd member).trans (two.tables.interest fd member),
    one.tables.list.trans two.tables.list⟩

/-- A callback on its own territory does the same where the managers are the same
to it, result for result. -/
theorem callback_same (decides : kernel.Local) (program : Callback T)
    (agree : EpollWrapper.AgreeOn fds id first.epollContext second.epollContext)
    (inside : ∀ operation outcome, .operation id operation outcome ∈ (callback id program first).log →
      operation.fd ∈ fds) :
    ∃ (exchanges : List (Operation × Except Error Unit)) (next : T),
      callback id program first =
        ⟨operations id exchanges, .ok (next, first.after (operations id exchanges))⟩ ∧
      callback id program second =
        ⟨operations id exchanges, .ok (next, second.after (operations id exchanges))⟩ ∧
      EpollWrapper.AgreeOn fds id (first.after (operations id exchanges)).epollContext
        (second.after (operations id exchanges)).epollContext := by
  induction program generalizing first second with
  | ret value => exact ⟨[], value, rfl, rfl, agree⟩
  | call operation rest inductionHypothesis =>
    have unfolded : ∀ manager : EventManager kernel T,
        callback id (.call operation rest) manager =
          ⟨.operation id operation (EventOps.perform manager.epollContext id operation).1 ::
              (callback id (rest (EventOps.perform manager.epollContext id operation).1)
                (manager.apply (.operation id operation
                  (EventOps.perform manager.epollContext id operation).1))).log,
            (callback id (rest (EventOps.perform manager.epollContext id operation).1)
              (manager.apply (.operation id operation
                (EventOps.perform manager.epollContext id operation).1))).result⟩ :=
      fun _ => rfl
    rw [unfolded first] at inside
    have named : operation.fd ∈ fds := inside operation _ List.mem_cons_self
    have sameResult := agree.result decides id named
    have one := EventOps.perform_performed first.epollContext id operation
    have two := EventOps.perform_performed second.epollContext id operation
    rw [← sameResult] at two
    have after := agree.performed one two
    obtain ⟨exchanges, next, ranFirst, ranSecond, agreeAfter⟩ :=
      @inductionHypothesis (EventOps.perform first.epollContext id operation).1
        (first.apply (.operation id operation
          (EventOps.perform first.epollContext id operation).1))
        (second.apply (.operation id operation
          (EventOps.perform first.epollContext id operation).1)) after
        (fun later outcome member => inside later outcome (List.mem_cons_of_mem _ member))
    refine ⟨(operation, (EventOps.perform first.epollContext id operation).1) :: exchanges, next,
      ?_, ?_, agreeAfter⟩
    · rw [unfolded first, ranFirst]
      rfl
    · rw [unfolded second, ← sameResult, ranSecond]
      rfl

/-- Calls by others, on their own territory, cannot be seen. The operation reaches the
entries of its descriptor, which is outside this subscriber's territory, and the lists of
its own subscriber. -/
theorem sameTo_foreign {call : ProcessCall T} (valid : manager.Valid call.log)
    (inside : ∀ observation ∈ call.log, observation.StaysIn territory)
    (disjoint : ∀ fd ∈ territory call.id, fd ∉ fds) (distinct : id ≠ call.id) :
    SameTo fds id (manager.after call.log) manager := by
  have step : ∀ (state : EventManager kernel T) observation, SameTo fds id state manager →
      state.Enabled observation ∧ (observation.InCallback ∧ observation.isBy call.id = true ∧
        observation.StaysIn territory) → SameTo fds id (state.apply observation) manager := by
    rintro state observation same ⟨enabled, inCallback, acts, stays⟩
    cases observation with
    | operation actor operation outcome =>
      obtain rfl : actor = call.id := of_decide_eq_true acts
      have unseen := EpollWrapper.agreeOn_foreign
        (EventOps.perform_performed state.epollContext call.id operation)
        (disjoint operation.fd stays) distinct
      have passed : SameTo fds id (state.apply (.operation call.id operation outcome)) state :=
        ⟨rfl, unseen⟩
      exact passed.trans same
    | process actor events => exact same
    | store actor subscriber =>
      obtain rfl : actor = call.id := of_decide_eq_true acts
      refine ⟨?_, same.tables⟩
      rw [← same.subscriber]
      simp [apply, Subscribers.write, distinct]
    | addSubscriber actor subscriber => exact False.elim inCallback
    | removeSubscriber actor => exact False.elim inCallback
    | wait milliseconds maxevents response => exact False.elim inCallback
  refine Along.invariant step (SameTo.refl manager) (valid.and (along_of_forall ?_))
  intro observation member _
  exact ⟨call.log_inCallback observation member, (call.log_isBy member call.id).mpr rfl,
    inside observation member⟩

/-- Callbacks draw no ids. -/
theorem nextId_after {log : List (Observation T)}
    (inside : ∀ observation ∈ log, observation.InCallback) :
    (manager.after log).subscribers.nextId = manager.subscribers.nextId := by
  have step : ∀ (state : EventManager kernel T) (observation : Observation T),
      state.subscribers.nextId = manager.subscribers.nextId → observation.InCallback →
      (state.apply observation).subscribers.nextId = manager.subscribers.nextId := by
    intro state observation same inCallback
    cases observation with
    | operation actor operation outcome => exact same
    | process actor events => exact same
    | store actor subscriber => exact same
    | addSubscriber actor subscriber => exact False.elim inCallback
    | removeSubscriber actor => exact False.elim inCallback
    | wait milliseconds maxevents response => exact False.elim inCallback
  exact Along.invariant step rfl
    (along_of_forall (fun observation member _ => inside observation member))

/-- A descriptor that no callback names keeps its entries. By induction on the history:
every operation in it names another descriptor. -/
theorem unnamed_after {log : List (Observation T)} (valid : manager.Valid log)
    (inside : ∀ observation ∈ log, observation.InCallback) {fd : RawFd}
    (avoids : ∀ observation ∈ log, observation.Avoids fd) :
    (manager.after log).epollContext.fdDispatch fd = manager.epollContext.fdDispatch fd ∧
      kernel.interest (manager.after log).epollContext.epoll fd =
        kernel.interest manager.epollContext.epoll fd := by
  have step : ∀ (state : EventManager kernel T) observation,
      (state.epollContext.fdDispatch fd = manager.epollContext.fdDispatch fd ∧
        kernel.interest state.epollContext.epoll fd =
          kernel.interest manager.epollContext.epoll fd) →
      state.Enabled observation ∧ (observation.InCallback ∧ observation.Avoids fd) →
      (state.apply observation).epollContext.fdDispatch fd =
          manager.epollContext.fdDispatch fd ∧
        kernel.interest (state.apply observation).epollContext.epoll fd =
          kernel.interest manager.epollContext.epoll fd := by
    rintro state observation ⟨dispatch, interest⟩ ⟨_, inCallback, avoided⟩
    cases observation with
    | operation actor operation outcome =>
      have performed := EventOps.perform_performed state.epollContext actor operation
      have elsewhere : fd ≠ operation.fd := fun same => avoided same.symm
      exact ⟨(performed.fdDispatch_other elsewhere).trans dispatch,
        (performed.interest_other elsewhere).trans interest⟩
    | process actor events => exact ⟨dispatch, interest⟩
    | store actor subscriber => exact ⟨dispatch, interest⟩
    | addSubscriber actor subscriber => exact False.elim inCallback
    | removeSubscriber actor => exact False.elim inCallback
    | wait milliseconds maxevents response => exact False.elim inCallback
  exact Along.invariant step ⟨rfl, rfl⟩ (valid.and (along_of_forall
    (fun observation member _ => ⟨inside observation member, avoids observation member⟩)))

section Subscriber

variable [MutEventSubscriber T]

/-- A delivery on the subscriber's own territory is the same call where the
managers are the same to the subscriber. -/
theorem process_same (decides : kernel.Local) {event : EpollEvent}
    (same : SameTo fds id first second) (live : first.Live id)
    (inside : ∀ operation outcome, .operation id operation outcome ∈ (process id event first).log →
      operation.fd ∈ fds) :
    ∃ call : ProcessCall T, call.id = id ∧ call.events = Events.withInner event ∧
      process id event first = ⟨call.log, .ok ((), first.after call.log)⟩ ∧
      process id event second = ⟨call.log, .ok ((), second.after call.log)⟩ ∧
      SameTo fds id (first.after call.log) (second.after call.log) := by
  obtain ⟨subscriber, registered⟩ := Option.isSome_iff_exists.mp live
  have registeredSecond : second.subscribers.subscribers id = some subscriber :=
    same.subscriber.symm.trans registered
  obtain ⟨made, last, ran⟩ := callback_run id
    (MutEventSubscriber.process subscriber (Events.withInner event)) first
  have named : ∀ operation outcome, .operation id operation outcome ∈
      (callback id (MutEventSubscriber.process subscriber (Events.withInner event)) first).log →
      operation.fd ∈ fds := by
    intro operation outcome member
    refine inside operation outcome ?_
    rw [process_of_callback registered ran]
    rw [ran] at member
    exact List.mem_cons_of_mem _ (List.mem_append_left _ member)
  obtain ⟨exchanges, next, ranFirst, ranSecond, agree⟩ :=
    callback_same decides _ same.tables named
  have ended : ∀ manager : EventManager kernel T,
      manager.after (ProcessCall.mk id (Events.withInner event) exchanges next).log =
        (manager.after (operations id exchanges)).apply (.store id next) := by
    intro manager
    simp only [ProcessCall.log, after, replay_cons, replay_append, replay_nil]
    rfl
  refine ⟨⟨id, Events.withInner event, exchanges, next⟩, rfl, rfl,
    process_of_callback registered ranFirst, process_of_callback registeredSecond ranSecond, ?_⟩
  rw [ended first, ended second]
  refine ⟨?_, agree⟩
  simp [apply, Subscribers.write]

end Subscriber

end EventManager

/-- A dispatch under way: the descriptors removed so far, and the manager. -/
structure Dispatching (kernel : Kernel) (T : Type) where
  removed : List RawFd
  manager : EventManager kernel T

namespace Dispatching

/-- The dispatches under way are the same to a subscriber. -/
structure Alike (territory : SubscriberId → Set RawFd) (id : SubscriberId)
    (first second : Dispatching kernel T) : Prop where
  managers : EventManager.SameTo (territory id) id first.manager second.manager
  removed : ∀ fd ∈ territory id, fd ∈ first.removed ↔ fd ∈ second.removed

/-- What lies in nobody's territory, and the id counter, is the same in both. -/
structure SameOutside (territory : SubscriberId → Set RawFd) (first second : EventManager kernel T) :
    Prop where
  counter : first.subscribers.nextId = second.subscribers.nextId
  dispatch : ∀ fd, (∀ id, fd ∉ territory id) →
    first.epollContext.fdDispatch fd = second.epollContext.fdDispatch fd
  interest : ∀ fd, (∀ id, fd ∉ territory id) →
    kernel.interest first.epollContext.epoll fd = kernel.interest second.epollContext.epoll fd

variable {territory : SubscriberId → Set RawFd} {owner : RawFd → Option SubscriberId}

/-- What a call removes lies in its subscriber's territory. -/
theorem removed_inside {call : ProcessCall T}
    (inside : ∀ observation ∈ call.log, observation.StaysIn territory) {fd : RawFd}
    (gone : fd ∈ removedFds call.log) : fd ∈ territory call.id := by
  rw [call.removedFds_log, ProcessCall.removed, List.mem_flatMap] at gone
  obtain ⟨⟨operation, outcome⟩, exchanged, gone⟩ := gone
  have stays : operation.fd ∈ territory call.id := by
    refine inside (.operation call.id operation outcome) (List.mem_cons_of_mem _ ?_)
    exact List.mem_append_left _ (List.mem_map.mpr ⟨(operation, outcome), exchanged, rfl⟩)
  cases operation with
  | add events => cases gone
  | modify events => cases gone
  | remove events =>
    cases outcome with
    | error error => cases gone
    | ok granted =>
      rw [List.mem_singleton.mp gone]
      exact stays

/-- A call inside the territories leaves every descriptor it does not remove with its
owner; the endpoint's has none before and after. -/
theorem owner_after {manager : EventManager kernel T} {call : ProcessCall T} {fd : RawFd}
    (consistent : manager.Consistent) (valid : manager.Valid call.log)
    (inside : ∀ observation ∈ call.log, observation.StaysIn territory)
    (outside : ∀ id, manager.channelFd ∉ territory id)
    (registered : manager.epollContext.fdDispatch fd = owner fd)
    (covered : fd = manager.channelFd ∨ (owner fd).isSome) (kept : fd ∉ call.removed) :
    (manager.after call.log).epollContext.fdDispatch fd = owner fd := by
  cases claimed : owner fd with
  | some id =>
    rw [claimed] at registered
    rw [(EventManager.pending_after valid call.log_inCallback fd
      (consistent.backed fd id registered) (by rwa [call.removedFds_log])).2, registered]
  | none =>
    have own : fd = manager.channelFd := by
      simpa [claimed] using covered
    have avoids : ∀ observation ∈ call.log, observation.Avoids fd := by
      intro observation logged
      have territorial := inside observation logged
      cases observation with
      | operation actor operation outcome =>
        intro named
        rw [own] at named
        exact outside actor (named ▸ territorial)
      | _ => trivial
    rw [(EventManager.unnamed_after valid call.log_inCallback avoids).1, registered, claimed]

variable [MutEventSubscriber T]

/-- What an event makes the manager do: deliver it, unless it is passed over. -/
def emit (state : Dispatching kernel T) (event : EpollEvent) : List (Observation T) :=
  if event.fd ∈ state.removed ∨ EventManager.Discarded event then []
  else
    match state.manager.epollContext.fdDispatch event.fd with
    | some id => (EventManager.process id event state.manager).log
    | none => []

/-- Where it leaves the dispatch. -/
def next (state : Dispatching kernel T) (event : EpollEvent) : Dispatching kernel T :=
  ⟨state.removed ++ removedFds (state.emit event), state.manager.after (state.emit event)⟩

/-- The tables are consistent, an event not passed over goes to the subscriber its
descriptor was dispatched to at first, and its callback keeps to its territory. -/
structure Proper (territory : SubscriberId → Set RawFd) (owner : RawFd → Option SubscriberId)
    (state : Dispatching kernel T) (event : EpollEvent) : Prop where
  consistent : state.manager.Consistent
  unmoved : event.fd ∉ state.removed → ¬ EventManager.Discarded event →
    state.manager.epollContext.fdDispatch event.fd = owner event.fd
  stays : ∀ observation ∈ state.emit event, observation.StaysIn territory

/-- An event is passed over, or found to be nobody's, or delivered. By the two questions
the loop asks of an event: whether it was discarded, and whom its descriptor is dispatched
to. -/
theorem emit_cases (state : Dispatching kernel T) (event : EpollEvent)
    (consistent : state.manager.Consistent) :
    ((event.fd ∈ state.removed ∨ EventManager.Discarded event) ∧ state.emit event = []) ∨
    (¬ (event.fd ∈ state.removed ∨ EventManager.Discarded event) ∧
      state.manager.epollContext.fdDispatch event.fd = none ∧ state.emit event = []) ∨
    (¬ (event.fd ∈ state.removed ∨ EventManager.Discarded event) ∧
      ∃ call : ProcessCall T,
        state.manager.epollContext.fdDispatch event.fd = some call.id ∧
        EventManager.process call.id event state.manager =
          ⟨call.log, .ok ((), state.manager.after call.log)⟩ ∧
        state.manager.Valid call.log ∧ state.emit event = call.log) := by
  by_cases skipped : event.fd ∈ state.removed ∨ EventManager.Discarded event
  · exact Or.inl ⟨skipped, by rw [emit, if_pos skipped]⟩
  · cases dispatched : state.manager.epollContext.fdDispatch event.fd with
    | none =>
      refine Or.inr (Or.inl ⟨skipped, rfl, ?_⟩)
      rw [emit, if_neg skipped, dispatched]
    | some id =>
      obtain ⟨call, rfl, _, returned⟩ :=
        EventManager.process_run id event (consistent.owned event.fd id dispatched).1
      refine Or.inr (Or.inr ⟨skipped, call, rfl, returned,
        EventManager.process_valid dispatched returned, ?_⟩)
      rw [emit, if_neg skipped, dispatched]
      simp only [returned]

/-- Nothing emitted leaves everything in place. -/
theorem next_of_silent {state : Dispatching kernel T} {event : EpollEvent}
    (silent : state.emit event = []) : state.next event = state := by
  simp [next, silent, removedFds]

/-- An event that is not passed over and is the subscriber's is delivered as the
same call to both of two dispatches that are the same to the subscriber. -/
theorem own_event (decides : kernel.Local) {id : SubscriberId} {state other : Dispatching kernel T}
    {event : EpollEvent} (alike : Alike territory id state other)
    (proper : Proper territory owner state event) (mine : owner event.fd = some id)
    (owned : event.fd ∈ territory id) :
    state.emit event = other.emit event ∧
      Alike territory id (state.next event) (other.next event) := by
  have sameSkip : event.fd ∈ state.removed ∨ EventManager.Discarded event ↔
      event.fd ∈ other.removed ∨ EventManager.Discarded event :=
    or_congr (alike.removed event.fd owned) Iff.rfl
  rcases emit_cases state event proper.consistent with ⟨skipped, silent⟩ | ⟨pending, nobody, _⟩ |
    ⟨pending, call, dispatched, returned, _, emits⟩
  · have silentOther : other.emit event = [] := by rw [emit, if_pos (sameSkip.mp skipped)]
    rw [next_of_silent silent, next_of_silent silentOther, silent, silentOther]
    exact ⟨rfl, alike⟩
  · have unmoved := proper.unmoved (fun gone => pending (Or.inl gone))
      (fun blank => pending (Or.inr blank))
    rw [nobody, mine] at unmoved
    cases unmoved
  · have unmoved := proper.unmoved (fun gone => pending (Or.inl gone))
      (fun blank => pending (Or.inr blank))
    obtain rfl : call.id = id := by
      rw [dispatched, mine] at unmoved
      exact Option.some.inj unmoved
    have inside : ∀ operation outcome, .operation call.id operation outcome ∈
        (EventManager.process call.id event state.manager).log → operation.fd ∈ territory call.id := by
      intro operation outcome member
      rw [returned, ← emits] at member
      exact proper.stays _ member
    obtain ⟨again, _, _, ranFirst, ranSecond, same⟩ := EventManager.process_same decides
      alike.managers (proper.consistent.owned event.fd call.id dispatched).1 inside
    have logs : call.log = again.log := by
      rw [returned] at ranFirst
      exact congrArg Outcome.log ranFirst
    have dispatchedOther : other.manager.epollContext.fdDispatch event.fd = some call.id := by
      rw [← alike.managers.tables.dispatch event.fd owned, dispatched]
    have emitsOther : other.emit event = call.log := by
      rw [emit, if_neg (fun skipped => pending (sameSkip.mpr skipped)), dispatchedOther]
      simp only [ranSecond, logs]
    refine ⟨by rw [emits, emitsOther], ?_⟩
    rw [next, next, emits, emitsOther]
    refine ⟨by rw [logs]; exact same, fun fd member => ?_⟩
    rw [List.mem_append, List.mem_append, alike.removed fd member]

/-- Everybody else's events leave the dispatch the same to a subscriber. -/
theorem foreign_event {id : SubscriberId} {state : Dispatching kernel T} {event : EpollEvent}
    (disjoint : ∀ id other fd, fd ∈ territory id → fd ∈ territory other → id = other)
    (proper : Proper territory owner state event) (theirs : owner event.fd ≠ some id) :
    Alike territory id (state.next event) state := by
  rcases emit_cases state event proper.consistent with ⟨_, silent⟩ | ⟨_, _, silent⟩ |
    ⟨pending, call, dispatched, _, valid, emits⟩
  · rw [next_of_silent silent]
    exact ⟨EventManager.SameTo.refl _, fun _ _ => Iff.rfl⟩
  · rw [next_of_silent silent]
    exact ⟨EventManager.SameTo.refl _, fun _ _ => Iff.rfl⟩
  · have unmoved := proper.unmoved (fun gone => pending (Or.inl gone))
      (fun blank => pending (Or.inr blank))
    have distinct : id ≠ call.id := by
      rintro rfl
      exact theirs (unmoved.symm.trans dispatched)
    have inside : ∀ observation ∈ call.log, observation.StaysIn territory := emits ▸ proper.stays
    have apart : ∀ fd ∈ territory call.id, fd ∉ territory id :=
      fun fd there here => distinct (disjoint id call.id fd here there)
    rw [next, emits]
    refine ⟨EventManager.sameTo_foreign valid inside apart distinct, fun fd member => ?_⟩
    rw [List.mem_append]
    exact ⟨fun gone => gone.resolve_right (fun late => apart fd (removed_inside inside late) member),
      Or.inl⟩

/-- Subscribers that keep to disjoint territories are independent. -/
theorem independent (decides : kernel.Local)
    (disjoint : ∀ id other fd, fd ∈ territory id → fd ∈ territory other → id = other)
    (owned : ∀ fd id, owner fd = some id → fd ∈ territory id) :
    Independent (next : Dispatching kernel T → EpollEvent → Dispatching kernel T) emit
      (fun event => owner event.fd)
      Observation.isBy (Alike territory) (Proper territory owner) where
  trans one two := ⟨one.managers.trans two.managers,
    fun fd member => (one.removed fd member).trans (two.removed fd member)⟩
  own alike proper mine := own_event decides alike proper mine (owned _ _ mine)
  foreign proper theirs := foreign_event disjoint proper theirs
  tagged := by
    intro id state event observation proper member
    rcases emit_cases state event proper.consistent with ⟨_, silent⟩ | ⟨_, _, silent⟩ |
      ⟨pending, call, dispatched, _, _, emits⟩
    · rw [silent] at member
      exact absurd member List.not_mem_nil
    · rw [silent] at member
      exact absurd member List.not_mem_nil
    · have unmoved := proper.unmoved (fun gone => pending (Or.inl gone))
        (fun blank => pending (Or.inr blank))
      rw [emits] at member
      rw [call.log_isBy member id, ← unmoved, dispatched]
      exact ⟨congrArg some, Option.some.inj⟩

/-- Delivering a batch is running its events in order. Every event is found where
it was first dispatched: a subscriber's because it is registered and pending, the
endpoint's because it lies in nobody's territory. -/
theorem deliver_emitted (batch : List EpollEvent) :
    ∀ (manager : EventManager kernel T) (removed : List RawFd) (endpointEvent : Option EpollEvent),
      manager.Consistent →
      (∀ event ∈ batch, event.fd ∉ removed →
        manager.epollContext.fdDispatch event.fd = owner event.fd) →
      (∀ event ∈ batch, event.fd = manager.channelFd ∨ (owner event.fd).isSome) →
      (∀ id, manager.channelFd ∉ territory id) →
      (∀ observation ∈ (EventManager.deliver removed batch endpointEvent manager).log,
        observation.StaysIn territory) →
      (∃ found, EventManager.deliver removed batch endpointEvent manager =
        ⟨emitted next emit ⟨removed, manager⟩ batch,
          .ok (found, (replay next ⟨removed, manager⟩ batch).manager)⟩) ∧
      Along next (Proper territory owner) ⟨removed, manager⟩ batch := by
  induction batch with
  | nil =>
    intro manager removed endpointEvent _ _ _ _ _
    exact ⟨⟨endpointEvent, rfl⟩, trivial⟩
  | cons event rest inductionHypothesis =>
    intro manager removed endpointEvent consistent registered covered outside stays
    have restRegistered : ∀ later ∈ rest, later.fd ∉ removed →
        manager.epollContext.fdDispatch later.fd = owner later.fd :=
      fun later member => registered later (List.mem_cons_of_mem _ member)
    have restCovered : ∀ later ∈ rest, later.fd = manager.channelFd ∨ (owner later.fd).isSome :=
      fun later member => covered later (List.mem_cons_of_mem _ member)
    have unmoved : event.fd ∉ removed → ¬ EventManager.Discarded event →
        manager.epollContext.fdDispatch event.fd = owner event.fd :=
      fun pending _ => registered event List.mem_cons_self pending
    rcases emit_cases ⟨removed, manager⟩ event consistent with ⟨skipped, silent⟩ |
      ⟨pending, nobody, silent⟩ | ⟨pending, call, dispatched, returned, valid, emits⟩
    · have proper : Proper territory owner ⟨removed, manager⟩ event :=
        ⟨consistent, unmoved, fun _ member => absurd (silent ▸ member) List.not_mem_nil⟩
      rw [EventManager.deliver, if_pos skipped] at stays ⊢
      obtain ⟨⟨found, ran⟩, checked⟩ := inductionHypothesis manager removed endpointEvent consistent
        restRegistered restCovered outside stays
      rw [Along, emitted, replay_cons, next_of_silent silent, silent]
      exact ⟨⟨found, ran⟩, proper, checked⟩
    · have proper : Proper territory owner ⟨removed, manager⟩ event :=
        ⟨consistent, unmoved, fun _ member => absurd (silent ▸ member) List.not_mem_nil⟩
      have own : event.fd = manager.channelFd := by
        have first := unmoved (fun gone => pending (Or.inl gone))
          (fun blank => pending (Or.inr blank))
        rw [nobody] at first
        simpa [← first] using covered event List.mem_cons_self
      rw [EventManager.deliver_endpoint pending nobody own] at stays ⊢
      obtain ⟨⟨found, ran⟩, checked⟩ := inductionHypothesis manager removed (some event) consistent
        restRegistered restCovered outside stays
      rw [Along, emitted, replay_cons, next_of_silent silent, silent]
      exact ⟨⟨found, ran⟩, proper, checked⟩
    · rw [EventManager.deliver_call pending dispatched returned] at stays ⊢
      have inside : ∀ observation ∈ call.log, observation.StaysIn territory :=
        fun observation member => stays observation (List.mem_append_left _ member)
      have proper : Proper territory owner ⟨removed, manager⟩ event :=
        ⟨consistent, unmoved, emits ▸ inside⟩
      have later : ∀ event ∈ rest, event.fd ∉ removed ++ call.removed →
          (manager.after call.log).epollContext.fdDispatch event.fd = owner event.fd := by
        intro event member remains
        obtain ⟨before, during⟩ := not_or.mp (fun gone => remains (List.mem_append.mpr gone))
        exact owner_after consistent valid inside outside (restRegistered event member before)
          (restCovered event member) during
      obtain ⟨⟨found, ran⟩, checked⟩ := inductionHypothesis (manager.after call.log)
        (removed ++ call.removed) endpointEvent (consistent.after valid) later
        (by simpa using restCovered) (by simpa using outside)
        (fun observation member => stays observation (List.mem_append_right _ member))
      have moved : (next ⟨removed, manager⟩ event : Dispatching kernel T) =
          ⟨removed ++ call.removed, manager.after call.log⟩ := by
        rw [next, emits, call.removedFds_log]
      rw [Along, emitted, replay_cons, moved, emits, ran]
      exact ⟨⟨found, rfl⟩, proper, checked⟩

/-- Events do not reach outside the territories. -/
theorem sameOutside_next {state : Dispatching kernel T} {event : EpollEvent}
    (proper : Proper territory owner state event) :
    SameOutside territory (state.next event).manager state.manager := by
  rcases emit_cases state event proper.consistent with ⟨_, silent⟩ | ⟨_, _, silent⟩ |
    ⟨_, call, _, _, valid, emits⟩
  · rw [next_of_silent silent]
    exact ⟨rfl, fun _ _ => rfl, fun _ _ => rfl⟩
  · rw [next_of_silent silent]
    exact ⟨rfl, fun _ _ => rfl, fun _ _ => rfl⟩
  · have avoids : ∀ fd, (∀ id, fd ∉ territory id) →
        ∀ observation ∈ call.log, observation.Avoids fd := by
      intro fd nobody observation logged
      have territorial := proper.stays observation (emits ▸ logged)
      cases observation with
      | operation actor operation outcome =>
        intro named
        exact nobody actor (named ▸ territorial)
      | _ => trivial
    rw [next, emits]
    exact ⟨EventManager.nextId_after call.log_inCallback,
      fun fd nobody => (EventManager.unnamed_after valid call.log_inCallback (avoids fd nobody)).1,
      fun fd nobody => (EventManager.unnamed_after valid call.log_inCallback (avoids fd nobody)).2⟩

/-- So a whole batch does not. -/
theorem sameOutside_replay {state : Dispatching kernel T} {batch : List EpollEvent}
    (checked : Along next (Proper territory owner) state batch) :
    SameOutside territory (replay next state batch).manager state.manager := by
  have step : ∀ (reached : Dispatching kernel T) event,
      SameOutside territory reached.manager state.manager → Proper territory owner reached event →
      SameOutside territory (reached.next event).manager state.manager := by
    intro reached event same proper
    have passed := sameOutside_next proper
    exact ⟨passed.counter.trans same.counter,
      fun fd nobody => (passed.dispatch fd nobody).trans (same.dispatch fd nobody),
      fun fd nobody => (passed.interest fd nobody).trans (same.interest fd nobody)⟩
  exact Along.invariant step ⟨rfl, fun _ _ => rfl, fun _ _ => rfl⟩ checked

end Dispatching

namespace EventManager

variable {start manager : EventManager kernel T} {history : List (Observation T)}
  {territory : SubscriberId → Set RawFd}

/-- Disjoint territories of the subscribers, none with the endpoint in it, that
hold what is dispatched to each and what is on its list. -/
structure Territories (manager : EventManager kernel T) (territory : SubscriberId → Set RawFd) :
    Prop where
  disjoint : ∀ id other fd, fd ∈ territory id → fd ∈ territory other → id = other
  endpoint : ∀ id, manager.channelFd ∉ territory id
  dispatch : ∀ fd id, manager.epollContext.fdDispatch fd = some id → fd ∈ territory id
  lists : ∀ id, ∀ fd ∈ manager.epollContext.watched id, fd ∈ territory id

variable [MutEventSubscriber T]

/-- The loop over a batch of events that each belong to somebody or to the endpoint
runs them in order. -/
theorem dispatchLoop_emitted (consistent : manager.Consistent)
    (territories : Territories manager territory) {batch : List EpollEvent}
    (fits : batch.length ≤ manager.epollContext.readyEvents.length)
    (owned : ∀ event ∈ batch, event.fd = manager.channelFd ∨
      (manager.epollContext.fdDispatch event.fd).isSome)
    (stays : ∀ observation ∈ (dispatchLoop 0 batch.length none (manager.polled batch)).log,
      observation.StaysIn territory) :
    (∃ found, dispatchLoop 0 batch.length none (manager.polled batch) =
      ⟨emitted Dispatching.next Dispatching.emit ⟨[], manager.polled batch⟩ batch,
        .ok (found, (replay Dispatching.next ⟨[], manager.polled batch⟩ batch).manager)⟩) ∧
    Along Dispatching.next (Dispatching.Proper territory manager.epollContext.fdDispatch)
      ⟨[], manager.polled batch⟩ batch := by
  rw [dispatchLoop_eq_deliver batch 0 [] none _ (consistent.polled batch)
    (window_polled batch fits)] at stays ⊢
  exact Dispatching.deliver_emitted batch (manager.polled batch) [] none (consistent.polled batch)
    (fun _ _ _ => rfl) owned territories.endpoint stays

/-- Two orders of a batch that keep each subscriber's events in order come to the
same: every subscriber gets the same calls with the same results, and ends in the
same state, and the tables and the interest list end the same.

Proof: each subscriber's calls touch its own territory and depend on nothing else. So two
interleavings that agree on every subscriber's own calls agree on what each of them sees
and leaves; and outside all territories nothing changes. -/
theorem dispatch_noninterference (started : start.Started)
    (reached : Reachable start history manager) (decides : kernel.Local)
    (territories : Territories manager territory) {first second : List EpollEvent}
    (fits : first.length ≤ manager.epollContext.readyEvents.length)
    (owned : ∀ event ∈ first, event.fd = manager.channelFd ∨
      (manager.epollContext.fdDispatch event.fd).isSome)
    (reordered : first.Perm second)
    (sameOrder : ∀ id,
      first.filter (fun event => manager.epollContext.fdDispatch event.fd = some id) =
        second.filter (fun event => manager.epollContext.fdDispatch event.fd = some id))
    (staysFirst : ∀ observation ∈ (dispatchLoop 0 first.length none (manager.polled first)).log,
      observation.StaysIn territory)
    (staysSecond : ∀ observation ∈ (dispatchLoop 0 second.length none (manager.polled second)).log,
      observation.StaysIn territory) :
    ∃ foundFirst foundSecond lastFirst lastSecond,
      (dispatchLoop 0 first.length none (manager.polled first)).result =
        .ok (foundFirst, lastFirst) ∧
      (dispatchLoop 0 second.length none (manager.polled second)).result =
        .ok (foundSecond, lastSecond) ∧
      (∀ id, (dispatchLoop 0 first.length none (manager.polled first)).log.filter
          (Observation.isBy id) =
        (dispatchLoop 0 second.length none (manager.polled second)).log.filter
          (Observation.isBy id)) ∧
      lastFirst.subscribers = lastSecond.subscribers ∧
      lastFirst.epollContext.fdDispatch = lastSecond.epollContext.fdDispatch ∧
      lastFirst.epollContext.subscriberWatchList = lastSecond.epollContext.subscriberWatchList ∧
      kernel.interest lastFirst.epollContext.epoll =
        kernel.interest lastSecond.epollContext.epoll := by
  obtain ⟨valid, rfl⟩ := reached.valid
  have consistent := started.consistent_after valid
  generalize start.after history = manager at *
  have ownedSecond : ∀ event ∈ second, event.fd = manager.channelFd ∨
      (manager.epollContext.fdDispatch event.fd).isSome :=
    fun event member => owned event (reordered.mem_iff.mpr member)
  obtain ⟨⟨foundFirst, ranFirst⟩, checkedFirst⟩ :=
    dispatchLoop_emitted consistent territories fits owned staysFirst
  obtain ⟨⟨foundSecond, ranSecond⟩, checkedSecond⟩ :=
    dispatchLoop_emitted consistent territories (reordered.length_eq ▸ fits) ownedSecond staysSecond
  have outsideFirst := Dispatching.sameOutside_replay checkedFirst
  have outsideSecond := Dispatching.sameOutside_replay checkedSecond
  have independent := Dispatching.independent (T := T) decides territories.disjoint
    territories.dispatch
  have alike : ∀ id, Dispatching.Alike territory id
      (⟨[], manager.polled first⟩ : Dispatching kernel T) ⟨[], manager.polled second⟩ :=
    fun id => ⟨⟨rfl, fun _ _ => rfl, fun _ _ => rfl, rfl⟩, fun _ _ => Iff.rfl⟩
  have same := fun id => independent.interleavings id
    (fun held => ⟨held.managers.symm, fun fd member => (held.removed fd member).symm⟩)
    (alike id) checkedFirst checkedSecond (sameOrder id)
  refine ⟨foundFirst, foundSecond, _, _, by rw [ranFirst], by rw [ranSecond],
    fun id => by rw [ranFirst, ranSecond]; exact (same id).1, ?_, ?_, ?_, ?_⟩
  · exact Subscribers.ext (funext (fun id => (same id).2.managers.subscriber))
      (outsideFirst.counter.trans outsideSecond.counter.symm)
  · funext fd
    by_cases claimed : ∃ id, fd ∈ territory id
    · obtain ⟨id, member⟩ := claimed
      exact (same id).2.managers.tables.dispatch fd member
    · have nobody : ∀ id, fd ∉ territory id := not_exists.mp claimed
      exact (outsideFirst.dispatch fd nobody).trans (outsideSecond.dispatch fd nobody).symm
  · exact funext (fun id => (same id).2.managers.tables.list)
  · funext fd
    by_cases claimed : ∃ id, fd ∈ territory id
    · obtain ⟨id, member⟩ := claimed
      exact (same id).2.managers.tables.interest fd member
    · have nobody : ∀ id, fd ∉ territory id := not_exists.mp claimed
      exact (outsideFirst.interest fd nobody).trans (outsideSecond.interest fd nobody).symm

/-- Subscriber 1 watches descriptors 5 and 6 and removes 6 at every event;
subscriber 2 watches 7 and registers 8. -/
def neighbours : List (Input Scripted) :=
  [.request (.addSubscriber ⟨[.remove (Events.newRaw 6 .IN)]⟩),
    .request (.addSubscriber ⟨[.add (Events.newRaw 8 .IN)]⟩),
    .request (.eventOps ⟨1⟩ (.add (Events.newRaw 5 .IN))),
    .request (.eventOps ⟨1⟩ (.add (Events.newRaw 6 .IN))),
    .request (.eventOps ⟨2⟩ (.add (Events.newRaw 7 .IN)))]

/-- The descriptors each of them keeps to. -/
def neighbourhood (id : SubscriberId) : Set RawFd :=
  {fd | id = ⟨1⟩ ∧ (fd = 5 ∨ fd = 6) ∨ id = ⟨2⟩ ∧ (fd = 7 ∨ fd = 8)}

/-- Whether a descriptor is in the neighbourhood is decided by comparing. -/
instance (id : SubscriberId) (fd : RawFd) : Decidable (fd ∈ neighbourhood id) :=
  inferInstanceAs (Decidable (_ ∨ _))

/-- The two neighbours keep to territories that share nothing. -/
theorem neighbours_territories : Territories (finish neighbours fresh) neighbourhood := by
  have dispatch : (finish neighbours fresh).epollContext.fdDispatch = PartialMap.insert
      (PartialMap.insert (PartialMap.insert PartialMap.empty 5 ⟨1⟩) 6 ⟨1⟩) 7 ⟨2⟩ := rfl
  have table : (finish neighbours fresh).epollContext.subscriberWatchList = PartialMap.insert
      (PartialMap.insert (PartialMap.insert PartialMap.empty ⟨1⟩ [5]) ⟨1⟩ [5, 6]) ⟨2⟩ [7] := rfl
  refine ⟨?_, ?_, ?_, ?_⟩
  · rintro id other fd (⟨rfl, rfl | rfl⟩ | ⟨rfl, rfl | rfl⟩) there
    all_goals simpa [neighbourhood, eq_comm] using there
  · rintro id (⟨_, own⟩ | ⟨_, own⟩)
    · exact absurd own (by decide)
    · exact absurd own (by decide)
  · intro fd id dispatched
    simp only [dispatch, PartialMap.insert_apply, PartialMap.empty] at dispatched
    split at dispatched
    · rename_i seven
      exact Or.inr ⟨(Option.some.inj dispatched).symm, Or.inl seven⟩
    · split at dispatched
      · rename_i six
        exact Or.inl ⟨(Option.some.inj dispatched).symm, Or.inr six⟩
      · split at dispatched
        · rename_i five
          exact Or.inl ⟨(Option.some.inj dispatched).symm, Or.inl five⟩
        · cases dispatched
  · intro id fd listed
    simp only [EpollWrapper.watched, table, PartialMap.insert_apply, PartialMap.empty] at listed
    split at listed
    · rename_i two
      exact Or.inr ⟨two, Or.inl (by simpa using listed)⟩
    · split at listed
      · rename_i one
        exact Or.inl ⟨one, by simpa using listed⟩
      · exact absurd listed List.not_mem_nil

/-- Two orders of the same three events. -/
def earlyBatch : List EpollEvent :=
  [(Events.newRaw 5 .IN).inner, (Events.newRaw 6 .IN).inner, (Events.newRaw 7 .IN).inner]

/-- The second subscriber's event comes first. -/
def lateBatch : List EpollEvent :=
  [(Events.newRaw 7 .IN).inner, (Events.newRaw 5 .IN).inner, (Events.newRaw 6 .IN).inner]

/-- Whichever order the events come in, each neighbour sees the same and is left the same. -/
theorem dispatch_noninterference_neighbours :
    ∃ foundEarly foundLate lastEarly lastLate,
      (dispatchLoop 0 3 none ((finish neighbours fresh).polled earlyBatch)).result =
        .ok (foundEarly, lastEarly) ∧
      (dispatchLoop 0 3 none ((finish neighbours fresh).polled lateBatch)).result =
        .ok (foundLate, lastLate) ∧
      (∀ id, (dispatchLoop 0 3 none ((finish neighbours fresh).polled earlyBatch)).log.filter
          (Observation.isBy id) =
        (dispatchLoop 0 3 none ((finish neighbours fresh).polled lateBatch)).log.filter
          (Observation.isBy id)) ∧
      lastEarly.subscribers = lastLate.subscribers ∧
      lastEarly.epollContext.fdDispatch = lastLate.epollContext.fdDispatch ∧
      lastEarly.epollContext.subscriberWatchList = lastLate.epollContext.subscriberWatchList ∧
      Kernel.reference.interest lastEarly.epollContext.epoll =
        Kernel.reference.interest lastLate.epollContext.epoll := by
  have reordered : earlyBatch.Perm lateBatch := by decide
  have sameOrder : ∀ id, earlyBatch.filter (fun event =>
        (finish neighbours fresh).epollContext.fdDispatch event.fd = some id) =
      lateBatch.filter (fun event =>
        (finish neighbours fresh).epollContext.fdDispatch event.fd = some id) := by
    intro id
    have five : (finish neighbours fresh).epollContext.fdDispatch (Events.newRaw 5 .IN).inner.fd =
        some ⟨1⟩ := by decide
    have six : (finish neighbours fresh).epollContext.fdDispatch (Events.newRaw 6 .IN).inner.fd =
        some ⟨1⟩ := by decide
    by_cases one : (⟨1⟩ : SubscriberId) = id
    · subst one
      decide
    · simp only [earlyBatch, lateBatch, List.filter_cons, List.filter_nil, five, six,
        Option.some.injEq, one, decide_false, Bool.false_eq_true, if_false]
  exact dispatch_noninterference fresh_started (reachable_finish (by decide))
    Kernel.reference_local neighbours_territories (by decide) (by decide) reordered sameOrder
    (by decide) (by decide)

end EventManager

end EventLoop
