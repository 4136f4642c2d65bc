import EventLoop.Runs

/-!
# What every history keeps of the registries

`Consistent` holds along every history, under every kernel: a descriptor is only
dispatched to a registered subscriber that has it on its list, and only while
the kernel has it; only registered subscribers have lists; and the kernel keeps
each registration under the descriptor packed into it. Stale and repeated list
entries are not excluded, and cannot be: a removal through a foreign `EventOps`
leaves them behind.

`Covered` ties the kernel's interest list to the dispatch table and needs the
kernel to grant the deletions a leaving subscriber causes. `ChannelKept` says
the endpoint's own registration stands, and needs that no operation names the
endpoint's descriptor.
-/

namespace EventLoop

open Replay

variable {kernel : Kernel}

/-- The operation neither modifies nor removes the descriptor. -/
def Operation.Spares (fd : RawFd) : Operation → Prop
  | .add _ => True
  | .modify events => events.fd ≠ fd
  | .remove events => events.fd ≠ fd

/-- An operation on another descriptor spares this one. -/
theorem Operation.spares_of_ne {fd : RawFd} {operation : Operation}
    (distinct : operation.fd ≠ fd) : operation.Spares fd := by
  cases operation with
  | add events => trivial
  | modify events => exact distinct
  | remove events => exact distinct

namespace EpollWrapper

/-- Agreement of the two tables with each other and with the live subscribers, and
of the interest list with the packed descriptors. -/
structure Consistent (live : SubscriberId → Prop) (wrapper : EpollWrapper kernel) : Prop where
  owned : ∀ fd id, wrapper.fdDispatch fd = some id → live id ∧ fd ∈ wrapper.watched id
  watchers : ∀ id, (wrapper.subscriberWatchList id).isSome → live id
  backed : ∀ fd id, wrapper.fdDispatch fd = some id → (kernel.interest wrapper.epoll fd).isSome
  keyed : ∀ fd entry, kernel.interest wrapper.epoll fd = some entry → entry.fd = fd

/-- Every registered descriptor is dispatched to someone or is the endpoint's; and
the endpoint's, while it is registered for the endpoint, is on no list. -/
structure Covered (channelFd : RawFd) (wrapper : EpollWrapper kernel) : Prop where
  covered : ∀ fd, (kernel.interest wrapper.epoll fd).isSome →
    fd = channelFd ∨ (wrapper.fdDispatch fd).isSome
  unwatched : (kernel.interest wrapper.epoll channelFd).isSome →
    wrapper.fdDispatch channelFd = none → ∀ id, channelFd ∉ wrapper.watched id

/-- The endpoint's descriptor is registered as the manager registered it, and no
subscriber has a claim on it. -/
structure ChannelKept (channelFd : RawFd) (wrapper : EpollWrapper kernel) : Prop where
  registered : kernel.interest wrapper.epoll channelFd =
    some (EventManager.channelEvent channelFd)
  undispatched : wrapper.fdDispatch channelFd = none
  unlisted : ∀ id, channelFd ∉ wrapper.watched id

variable {live : SubscriberId → Prop} {wrapper next : EpollWrapper kernel} {id : SubscriberId}
  {operation : Operation} {result : Except Error Unit} {channelFd : RawFd}

/-- The kernel writes an entry under the descriptor packed into it. -/
theorem Consistent.keyed_written (consistent : Consistent live wrapper) {events : Events}
    {epoll : kernel.State}
    (written : kernel.interest epoll =
      PartialMap.insert (kernel.interest wrapper.epoll) events.fd events.epollEvent) :
    ∀ fd entry, kernel.interest epoll fd = some entry → entry.fd = fd := by
  intro fd entry registered
  rw [written, PartialMap.insert_apply] at registered
  split at registered
  · rename_i same
    obtain rfl := Option.some.inj registered
    exact same.symm
  · exact consistent.keyed fd entry registered

/-- An addition claims the descriptor for a live subscriber, in both tables. The
descriptor was free of dispatch, so nobody is robbed of it, and the kernel wrote the entry
under the descriptor packed into it. -/
theorem Consistent.added (consistent : Consistent live wrapper) (alive : live id) {events : Events}
    {epoll : kernel.State}
    (written : kernel.interest epoll =
      PartialMap.insert (kernel.interest wrapper.epoll) events.fd events.epollEvent) :
    Consistent live (claim { wrapper with epoll := epoll } id events.fd) := by
  constructor
  · intro fd owner dispatched
    simp only [claim_fdDispatch, PartialMap.insert_apply] at dispatched
    rw [claim_watched]
    split at dispatched
    · rename_i same
      obtain rfl : id = owner := Option.some.inj dispatched
      exact ⟨alive, by simp [same]⟩
    · obtain ⟨ownerAlive, listed⟩ := consistent.owned fd owner dispatched
      refine ⟨ownerAlive, ?_⟩
      split
      · rename_i same
        subst same
        exact List.mem_append_left _ listed
      · exact listed
  · intro owner present
    simp only [claim_watchList, PartialMap.insert_apply] at present
    split at present
    · rename_i same
      exact same ▸ alive
    · exact consistent.watchers owner present
  · intro fd owner dispatched
    simp only [claim_fdDispatch, PartialMap.insert_apply] at dispatched
    simp only [claim_epoll, written, PartialMap.insert_apply]
    split
    · rfl
    · rename_i distinct
      simp only [distinct, if_false] at dispatched
      exact consistent.backed fd owner dispatched
  · rw [claim_epoll]
    exact consistent.keyed_written written

/-- A removal drops the dispatch entry of its descriptor and at most one list entry
for the same descriptor. -/
theorem Consistent.removed (consistent : Consistent live wrapper) {events : Events}
    {epoll : kernel.State}
    (written : kernel.interest epoll =
      PartialMap.erase (kernel.interest wrapper.epoll) events.fd) :
    Consistent live ((removeEvent { wrapper with epoll := epoll } events.fd).unwatch
      id events.fd) := by
  constructor
  · intro fd owner dispatched
    simp only [unwatch_fdDispatch, removeEvent_fdDispatch, PartialMap.erase_apply] at dispatched
    split at dispatched
    · simp at dispatched
    · rename_i distinct
      obtain ⟨ownerAlive, listed⟩ := consistent.owned fd owner dispatched
      refine ⟨ownerAlive, ?_⟩
      rw [unwatch_watched]
      split
      · rename_i same
        subst same
        exact (List.mem_erase_of_ne distinct).mpr listed
      · exact listed
  · intro owner present
    rw [unwatch_watchList_isSome] at present
    exact consistent.watchers owner present
  · intro fd owner dispatched
    simp only [unwatch_fdDispatch, removeEvent_fdDispatch, PartialMap.erase_apply] at dispatched
    split at dispatched
    · simp at dispatched
    · rename_i distinct
      simp only [unwatch_epoll, removeEvent_epoll, written, PartialMap.erase_apply, distinct,
        if_false]
      exact consistent.backed fd owner dispatched
  · intro fd entry registered
    simp only [unwatch_epoll, removeEvent_epoll, written, PartialMap.erase_apply] at registered
    split at registered
    · simp at registered
    · exact consistent.keyed fd entry registered

/-- An operation through the `EventOps` of a live subscriber keeps the tables
consistent, on whatever descriptor. -/
theorem Consistent.performed (consistent : Consistent live wrapper) (alive : live id)
    (performed : EventOps.Performed wrapper id operation result next) :
    Consistent live next := by
  cases performed with
  | failed operation error epoll same =>
    refine ⟨consistent.owned, consistent.watchers, ?_, ?_⟩
    · intro fd owner dispatched
      rw [same]
      exact consistent.backed fd owner dispatched
    · intro fd entry registered
      rw [same] at registered
      exact consistent.keyed fd entry registered
  | added events epoll unclaimed absent written => exact consistent.added alive written
  | modified events epoll present written =>
    refine ⟨consistent.owned, consistent.watchers, ?_, consistent.keyed_written written⟩
    intro fd owner dispatched
    rw [written, PartialMap.insert_apply]
    split
    · rfl
    · exact consistent.backed fd owner dispatched
  | removed events epoll present written => exact consistent.removed written

/-- A leaving subscriber takes its list, and with it every descriptor dispatched
to it, so nothing of it is left. -/
theorem Consistent.remove (consistent : Consistent live wrapper) (id : SubscriberId) :
    Consistent (fun other => live other ∧ other ≠ id) (wrapper.remove id) := by
  constructor
  · intro fd owner dispatched
    rw [remove_fdDispatch] at dispatched
    split at dispatched
    · simp at dispatched
    · rename_i unlisted
      obtain ⟨alive, listed⟩ := consistent.owned fd owner dispatched
      have distinct : owner ≠ id := by
        rintro rfl
        exact unlisted listed
      refine ⟨⟨alive, distinct⟩, ?_⟩
      rw [remove_watched]
      simp [distinct, listed]
  · intro owner present
    simp only [remove_watchList, PartialMap.erase_apply] at present
    split at present
    · simp at present
    · rename_i distinct
      exact ⟨consistent.watchers owner present, distinct⟩
  · intro fd owner dispatched
    rw [remove_fdDispatch] at dispatched
    split at dispatched
    · simp at dispatched
    · rename_i unlisted
      rcases remove_interest wrapper id fd with kept | ⟨listed, _⟩
      · rw [kept]
        exact consistent.backed fd owner dispatched
      · exact absurd listed unlisted
  · intro fd entry registered
    rcases remove_interest wrapper id fd with kept | ⟨_, gone⟩
    · rw [kept] at registered
      exact consistent.keyed fd entry registered
    · simp [gone] at registered

/-- Operations keep the interest list covered: what they register they dispatch,
and what they stop dispatching they have unregistered. -/
theorem Covered.performed (covered : Covered channelFd wrapper)
    (performed : EventOps.Performed wrapper id operation result next) :
    Covered channelFd next := by
  cases performed with
  | failed operation error epoll same =>
    constructor
    · intro fd registered
      rw [same] at registered
      exact covered.covered fd registered
    · intro registered
      rw [same] at registered
      exact covered.unwatched registered
  | added events epoll unclaimed absent written =>
    constructor
    · intro fd registered
      simp only [claim_epoll, written, PartialMap.insert_apply] at registered
      simp only [claim_fdDispatch, PartialMap.insert_apply]
      split
      · exact Or.inr rfl
      · rename_i distinct
        simp only [distinct, if_false] at registered
        exact covered.covered fd registered
    · intro registered undispatched owner
      simp only [claim_fdDispatch, PartialMap.insert_apply] at undispatched
      split at undispatched
      · simp at undispatched
      · rename_i distinct
        simp only [claim_epoll, written, PartialMap.insert_apply, distinct, if_false] at registered
        have unlisted := covered.unwatched registered undispatched
        have fresh : channelFd ∉ wrapper.watched id ++ [events.fd] := by simp [unlisted, distinct]
        rw [claim_watched]
        split
        · exact fresh
        · exact unlisted owner
  | modified events epoll present written =>
    have keeps : ∀ fd, (kernel.interest epoll fd).isSome →
        (kernel.interest wrapper.epoll fd).isSome := by
      intro fd registered
      simp only [written, PartialMap.insert_apply] at registered
      split at registered
      · rename_i same
        exact same ▸ present
      · exact registered
    constructor
    · intro fd registered
      exact covered.covered fd (keeps fd registered)
    · intro registered
      exact covered.unwatched (keeps channelFd registered)
  | removed events epoll present written =>
    constructor
    · intro fd registered
      simp only [unwatch_epoll, removeEvent_epoll, written, PartialMap.erase_apply] at registered
      simp only [unwatch_fdDispatch, removeEvent_fdDispatch, PartialMap.erase_apply]
      split at registered
      · simp at registered
      · rename_i distinct
        simp only [distinct, if_false]
        exact covered.covered fd registered
    · intro registered undispatched owner
      simp only [unwatch_epoll, removeEvent_epoll, written, PartialMap.erase_apply] at registered
      simp only [unwatch_fdDispatch, removeEvent_fdDispatch, PartialMap.erase_apply]
        at undispatched
      split at registered
      · simp at registered
      · rename_i distinct
        simp only [distinct, if_false] at undispatched
        have unlisted := covered.unwatched registered undispatched
        rw [unwatch_watched]
        split
        · rename_i same
          exact fun listed => unlisted id (List.mem_of_mem_erase listed)
        · exact unlisted owner

/-- So does dropping a subscriber, when the kernel grants its deletions. What was
dispatched to the subscriber and loses its entry was on its list, and is deleted with it.
-/
theorem Covered.remove (covered : Covered channelFd wrapper) (id : SubscriberId)
    (granted : DeletesAll (wrapper.watched id) wrapper.epoll) :
    Covered channelFd (wrapper.remove id) := by
  have exact (fd : RawFd) := remove_interest_exact wrapper id fd granted
  constructor
  · intro fd registered
    rw [exact fd] at registered
    rw [remove_fdDispatch]
    split at registered
    · simp at registered
    · rename_i unlisted
      simp only [unlisted, if_false]
      exact covered.covered fd registered
  · intro registered undispatched owner
    rw [exact channelFd] at registered
    rw [remove_fdDispatch] at undispatched
    split at registered
    · simp at registered
    · rename_i unlisted
      simp only [unlisted, if_false] at undispatched
      rw [remove_watched]
      split
      · simp
      · exact covered.unwatched registered undispatched owner

/-- Operations that do not modify or remove the endpoint's descriptor leave its
registration alone; adding it fails. What an operation that fails names does not
matter. -/
theorem ChannelKept.performed (kept : ChannelKept channelFd wrapper)
    (spares : result = .ok () → operation.Spares channelFd)
    (performed : EventOps.Performed wrapper id operation result next) :
    ChannelKept channelFd next := by
  cases performed with
  | failed operation error epoll same =>
    exact ⟨by rw [same]; exact kept.registered, kept.undispatched, kept.unlisted⟩
  | added events epoll unclaimed absent written =>
    have distinct : channelFd ≠ events.fd := by
      rintro rfl
      simp [kept.registered] at absent
    constructor
    · simp [written, distinct, kept.registered]
    · simp [distinct, kept.undispatched]
    · intro owner
      have fresh : channelFd ∉ wrapper.watched id ++ [events.fd] := by
        simp [kept.unlisted, distinct]
      rw [claim_watched]
      split
      · exact fresh
      · exact kept.unlisted owner
  | modified events epoll present written =>
    have distinct : channelFd ≠ events.fd := fun same => spares rfl same.symm
    exact ⟨by simp [written, distinct, kept.registered], kept.undispatched, kept.unlisted⟩
  | removed events epoll present written =>
    have distinct : channelFd ≠ events.fd := fun same => spares rfl same.symm
    constructor
    · simp [written, distinct, kept.registered]
    · simp [distinct, kept.undispatched]
    · intro owner
      rw [unwatch_watched]
      split
      · exact fun listed => kept.unlisted id (List.mem_of_mem_erase listed)
      · exact kept.unlisted owner

/-- Dropping a subscriber cannot touch a descriptor that is on no list. -/
theorem ChannelKept.remove (kept : ChannelKept channelFd wrapper) (id : SubscriberId) :
    ChannelKept channelFd (wrapper.remove id) := by
  constructor
  · rcases remove_interest wrapper id channelFd with untouched | ⟨listed, _⟩
    · rw [untouched, kept.registered]
    · exact absurd listed (kept.unlisted id)
  · simp [remove_fdDispatch, kept.undispatched]
  · intro owner
    rw [remove_watched]
    split
    · simp
    · exact kept.unlisted owner

end EpollWrapper

/-- The observation is not an operation on the descriptor. -/
def Observation.Avoids {T : Type} (fd : RawFd) : Observation T → Prop
  | .operation _ performed _ => performed.fd ≠ fd
  | _ => True

/-- Whether an observation names the descriptor is seen from it. -/
instance {T : Type} (fd : RawFd) (observation : Observation T) :
    Decidable (observation.Avoids fd) :=
  match observation with
  | .operation _ performed _ => inferInstanceAs (Decidable (performed.fd ≠ fd))
  | .process _ _ => .isTrue trivial
  | .store _ _ => .isTrue trivial
  | .addSubscriber _ _ => .isTrue trivial
  | .removeSubscriber _ => .isTrue trivial
  | .wait _ _ _ => .isTrue trivial

namespace EventManager

variable {T : Type} {manager : EventManager kernel T} {observation : Observation T}

/-- The tables agree with each other and with the registered subscribers. -/
def Consistent (manager : EventManager kernel T) : Prop :=
  manager.epollContext.Consistent manager.Live

/-- Every registered descriptor is dispatched to someone or is the endpoint's. -/
def Covered (manager : EventManager kernel T) : Prop :=
  manager.epollContext.Covered manager.channelFd

/-- The endpoint's own registration stands. -/
def ChannelKept (manager : EventManager kernel T) : Prop :=
  manager.epollContext.ChannelKept manager.channelFd

/-- If the observation drops a subscriber, the kernel grants the deletions this
causes of descriptors that are registered. -/
def Deletes (manager : EventManager kernel T) : Observation T → Prop
  | .removeSubscriber id =>
      EpollWrapper.DeletesAll (manager.epollContext.watched id) manager.epollContext.epoll
  | _ => True

/-- The endpoint's descriptor is fixed for the manager's life. -/
@[simp] theorem apply_channelFd : (manager.apply observation).channelFd = manager.channelFd := by
  cases observation <;> rfl

/-- No observation changes which descriptor the endpoint has. -/
@[simp] theorem after_channelFd (history : List (Observation T)) :
    (manager.after history).channelFd = manager.channelFd := by
  induction history generalizing manager with
  | nil => rfl
  | cons observation rest inductionHypothesis =>
    rw [after, replay_cons]
    exact inductionHypothesis.trans apply_channelFd

/-- A wait touches nothing but the buffer. -/
theorem poll_tables (wrapper : EpollWrapper kernel) (response : Except Errno (List EpollEvent)) :
    (wrapper.poll response).2.epoll = wrapper.epoll ∧
      (wrapper.poll response).2.fdDispatch = wrapper.fdDispatch ∧
      (wrapper.poll response).2.subscriberWatchList = wrapper.subscriberWatchList := by
  unfold EpollWrapper.poll
  split
  · exact ⟨rfl, rfl, rfl⟩
  · split
    · exact ⟨rfl, rfl, rfl⟩
    · exact ⟨rfl, rfl, rfl⟩

/-- Storing and adding subscribers makes no other subscriber unregistered. -/
theorem live_insert {table : SubscriberId → Option T} {id other : SubscriberId} {subscriber : T}
    (live : (table other).isSome) : (PartialMap.insert table id subscriber other).isSome := by
  rw [PartialMap.insert_apply]
  split
  · rfl
  · exact live

/-- Consistency is kept by every enabled observation. By cases on the observation, and for
operations on what they performed. -/
theorem Consistent.apply (consistent : manager.Consistent) (enabled : manager.Enabled observation) :
    (manager.apply observation).Consistent := by
  cases observation with
  | operation id operation result =>
    exact EpollWrapper.Consistent.performed consistent enabled.1
      (EventOps.perform_performed manager.epollContext id operation)
  | process id events => exact consistent
  | store id subscriber =>
    refine ⟨?_, ?_, consistent.backed, consistent.keyed⟩
    · intro fd owner dispatched
      obtain ⟨live, listed⟩ := consistent.owned fd owner dispatched
      exact ⟨live_insert live, listed⟩
    · intro owner present
      exact live_insert (consistent.watchers owner present)
  | addSubscriber id subscriber =>
    refine ⟨?_, ?_, consistent.backed, consistent.keyed⟩
    · intro fd owner dispatched
      obtain ⟨live, listed⟩ := consistent.owned fd owner dispatched
      exact ⟨live_insert live, listed⟩
    · intro owner present
      exact live_insert (consistent.watchers owner present)
  | removeSubscriber id =>
    have dropped := EpollWrapper.Consistent.remove consistent id
    have live : ∀ other, manager.Live other ∧ other ≠ id →
        (manager.apply (.removeSubscriber id)).Live other := by
      rintro other ⟨alive, distinct⟩
      simpa [Live, EventManager.apply, Subscribers.remove, distinct] using alive
    refine ⟨?_, ?_, dropped.backed, dropped.keyed⟩
    · intro fd owner dispatched
      obtain ⟨alive, listed⟩ := dropped.owned fd owner dispatched
      exact ⟨live owner alive, listed⟩
    · intro owner present
      exact live owner (dropped.watchers owner present)
  | wait milliseconds maxevents response =>
    obtain ⟨epoll, dispatch, lists⟩ := poll_tables manager.epollContext response
    constructor
    · intro fd owner dispatched
      rw [EventManager.apply, dispatch] at dispatched
      obtain ⟨live, listed⟩ := consistent.owned fd owner dispatched
      refine ⟨live, ?_⟩
      rw [EventManager.apply, EpollWrapper.watched, lists]
      exact listed
    · intro owner present
      rw [EventManager.apply, lists] at present
      exact consistent.watchers owner present
    · intro fd owner dispatched
      rw [EventManager.apply, dispatch] at dispatched
      rw [EventManager.apply, epoll]
      exact consistent.backed fd owner dispatched
    · intro fd entry registered
      rw [EventManager.apply, epoll] at registered
      exact consistent.keyed fd entry registered

/-- Coverage is kept by every observation whose deletions the kernel grants. -/
theorem Covered.apply (covered : manager.Covered) (granted : manager.Deletes observation) :
    (manager.apply observation).Covered := by
  cases observation with
  | operation id operation result =>
    exact EpollWrapper.Covered.performed covered
      (EventOps.perform_performed manager.epollContext id operation)
  | process id events => exact covered
  | store id subscriber => exact covered
  | addSubscriber id subscriber => exact covered
  | removeSubscriber id => exact EpollWrapper.Covered.remove covered id granted
  | wait milliseconds maxevents response =>
    obtain ⟨epoll, dispatch, lists⟩ := poll_tables manager.epollContext response
    constructor
    · intro fd registered
      simp only [EventManager.apply, epoll, dispatch] at registered ⊢
      exact covered.covered fd registered
    · intro registered undispatched
      simp only [EventManager.apply, epoll, dispatch, EpollWrapper.watched, lists] at *
      exact covered.unwatched registered undispatched

/-- If the observation is an operation that succeeds, it neither modifies nor removes
the endpoint's descriptor. -/
def SparesChannel (manager : EventManager kernel T) : Observation T → Prop
  | .operation id operation _ =>
      (EventOps.perform manager.epollContext id operation).1 = .ok () →
        operation.Spares manager.channelFd
  | _ => True

/-- The endpoint's registration is kept by every observation that spares its
descriptor. -/
theorem ChannelKept.apply (kept : manager.ChannelKept)
    (spares : manager.SparesChannel observation) :
    (manager.apply observation).ChannelKept := by
  cases observation with
  | operation id operation result =>
    exact EpollWrapper.ChannelKept.performed kept spares
      (EventOps.perform_performed manager.epollContext id operation)
  | process id events => exact kept
  | store id subscriber => exact kept
  | addSubscriber id subscriber => exact kept
  | removeSubscriber id => exact EpollWrapper.ChannelKept.remove kept id
  | wait milliseconds maxevents response =>
    obtain ⟨epoll, dispatch, lists⟩ := poll_tables manager.epollContext response
    constructor
    · simp only [EventManager.apply, epoll]
      exact kept.registered
    · simp only [EventManager.apply, dispatch]
      exact kept.undispatched
    · intro owner
      simp only [EventManager.apply, EpollWrapper.watched, lists]
      exact kept.unlisted owner

/-- What a new manager is: no subscriber, empty tables, and the endpoint's
descriptor as the only registration. -/
theorem Started.shape {start : EventManager kernel T} (started : start.Started) :
    start.subscribers = .new ∧ start.epollContext.fdDispatch = PartialMap.empty ∧
      start.epollContext.subscriberWatchList = PartialMap.empty ∧
      kernel.interest start.epollContext.epoll =
        PartialMap.insert PartialMap.empty start.channelFd (channelEvent start.channelFd) := by
  obtain ⟨capacity, epoll, channelFd, fresh, created⟩ := started
  unfold newWithCapacity at created
  by_cases large : capacity > maxReadyEventsCapacity kernel
  · simp [large, throw, throwThe, MonadExceptOf.throw, bind, Except.bind] at created
  · rcases answer : (kernel.ctl epoll .add channelFd (channelEvent channelFd)).1 with errno | _
    · simp [large, EpollWrapper.new, answer, Except.mapError, bind, Except.bind] at created
    · obtain ⟨_, written⟩ := kernel.granted _ _ _ _ answer
      simp [large, EpollWrapper.new, answer, Except.mapError, bind, Except.bind, pure,
        Except.pure] at created
      subst created
      exact ⟨rfl, rfl, rfl, by rw [← fresh]; exact written⟩

/-- The endpoint's registration carries the endpoint's descriptor. -/
theorem channelEvent_fd (channelFd : RawFd) : (channelEvent channelFd).fd = channelFd := by
  have packed := Events.fd_withDataRaw channelFd 0 .IN
  simpa [Events.fd, Events.withDataRaw, channelEvent, EpollEvent.fd] using packed

/-- A new manager dispatches to nobody and lists nothing, and the only entry in the
interest list is the endpoint's. -/
theorem Started.consistent {start : EventManager kernel T} (started : start.Started) :
    start.Consistent := by
  obtain ⟨_, dispatch, lists, registered⟩ := started.shape
  constructor
  · intro fd owner dispatched
    simp [dispatch, PartialMap.empty] at dispatched
  · intro owner present
    simp [lists, PartialMap.empty] at present
  · intro fd owner dispatched
    simp [dispatch, PartialMap.empty] at dispatched
  · intro fd entry present
    rw [registered, PartialMap.insert_apply] at present
    split at present
    · rename_i same
      obtain rfl := Option.some.inj present
      rw [channelEvent_fd, same]
    · simp [PartialMap.empty] at present

/-- So it is covered. -/
theorem Started.covered {start : EventManager kernel T} (started : start.Started) :
    start.Covered := by
  obtain ⟨_, _, lists, registered⟩ := started.shape
  constructor
  · intro fd present
    rw [registered, PartialMap.insert_apply] at present
    split at present
    · rename_i same
      exact Or.inl same
    · simp [PartialMap.empty] at present
  · intro _ _ owner
    simp [EpollWrapper.watched, lists, PartialMap.empty]

/-- And the endpoint's registration is as the manager made it, claimed by nobody. -/
theorem Started.channelKept {start : EventManager kernel T} (started : start.Started) :
    start.ChannelKept := by
  obtain ⟨_, dispatch, lists, registered⟩ := started.shape
  refine ⟨by simp [registered], by simp [dispatch, PartialMap.empty], ?_⟩
  intro owner
  simp [EpollWrapper.watched, lists, PartialMap.empty]

/-- Consistency is kept along every valid history. -/
theorem Consistent.after (consistent : manager.Consistent) {history : List (Observation T)}
    (valid : manager.Valid history) : (manager.after history).Consistent :=
  Along.invariant (fun _ _ => Consistent.apply) consistent valid

/-- Along every valid history the tables are consistent. -/
theorem Started.consistent_after {start : EventManager kernel T} (started : start.Started)
    {history : List (Observation T)} (valid : start.Valid history) :
    (start.after history).Consistent :=
  started.consistent.after valid

/-- Along every history whose deletions the kernel grants the interest list is
covered. -/
theorem Started.covered_after {start : EventManager kernel T} (started : start.Started)
    {history : List (Observation T)}
    (granted : Along EventManager.apply Deletes start history) :
    (start.after history).Covered :=
  Along.invariant (fun _ _ => Covered.apply) started.covered granted

/-- Along every history in which no operation modified or removed the endpoint's
descriptor its registration stands. -/
theorem Started.channelKept_after {start : EventManager kernel T} (started : start.Started)
    {history : List (Observation T)} (spares : Along EventManager.apply SparesChannel start history) :
    (start.after history).ChannelKept :=
  Along.invariant (fun _ _ => ChannelKept.apply) started.channelKept spares

/-- A history that never names the endpoint's descriptor spares it. The descriptor is
the same all along, since no observation changes it. -/
theorem sparesChannel_of_avoids {start : EventManager kernel T} {history : List (Observation T)}
    (avoids : ∀ observation ∈ history, observation.Avoids start.channelFd) :
    Along EventManager.apply SparesChannel start history := by
  rw [along_iff_split]
  rintro before observation after rfl
  have named := avoids observation (List.mem_append_right _ List.mem_cons_self)
  have same : (start.after before).channelFd = start.channelFd := after_channelFd before
  cases observation with
  | operation id operation result => exact fun _ => Operation.spares_of_ne (same ▸ named)
  | _ => trivial

/-- A kernel that deletes what is registered grants every deletion. -/
theorem deletes_of_deletesPresent (deletes : kernel.DeletesPresent) (start : EventManager kernel T)
    (history : List (Observation T)) : Along EventManager.apply Deletes start history := by
  refine along_of_forall (fun observation _ manager => ?_)
  cases observation with
  | removeSubscriber id => exact EpollWrapper.deletesAll_of_deletesPresent _ deletes _
  | _ => trivial

end EventManager

end EventLoop
