import EventLoop.Dispatch

/-!
# What one subscriber can do to another

A subscriber's registrations are its dispatch entries, its list, the kernel's
entries of its descriptors and the events fetched for it and not yet delivered.
Two operations of the library reach beyond the subscriber that asks for them.
Modifying and removing go to the kernel without a look at the dispatch table, so
they work on any registered descriptor, the endpoint's included; and a removal
of a descriptor that belongs to someone else leaves the owner's list as it was.
Such a stale entry is harmless until a third subscriber registers the same
descriptor and the first one leaves: its list is then taken at its word.

Both effects are characterised exactly. What isolates subscribers is that an
operation respects the dispatch table, or that the kernel refuses its request; and
lists that agree with the dispatch table are what makes a removal of a subscriber
clean.
-/

namespace EventLoop

open Replay

variable {kernel : Kernel}

namespace EpollWrapper

/-- The events fetched for a subscriber and not discarded, slot by slot. -/
def pendingFor (wrapper : EpollWrapper kernel) (id : SubscriberId) : List (Option EpollEvent) :=
  wrapper.readyEvents.map (fun event =>
    if wrapper.fdDispatch event.fd = some id ∧ ¬ EventManager.Discarded event then some event
    else none)

/-- Nothing the subscriber has registered differs. -/
structure SameRegistrations (id : SubscriberId) (wrapper next : EpollWrapper kernel) : Prop where
  dispatch : ∀ fd, next.fdDispatch fd = some id ↔ wrapper.fdDispatch fd = some id
  list : next.subscriberWatchList id = wrapper.subscriberWatchList id
  interest : ∀ fd, wrapper.fdDispatch fd = some id →
    kernel.interest next.epoll fd = kernel.interest wrapper.epoll fd
  pending : next.pendingFor id = wrapper.pendingFor id

/-- Dropping the subscriber deregistered exactly the descriptors dispatched to it
and changed nothing of anybody else. -/
structure CleanRemoval (id : SubscriberId) (wrapper next : EpollWrapper kernel) : Prop where
  dispatch : ∀ fd, next.fdDispatch fd =
    if wrapper.fdDispatch fd = some id then none else wrapper.fdDispatch fd
  interest : ∀ fd, kernel.interest next.epoll fd =
    if wrapper.fdDispatch fd = some id then none else kernel.interest wrapper.epoll fd
  others : ∀ other, other ≠ id → SameRegistrations other wrapper next

/-- No descriptor on the subscriber's list is dispatched to somebody else. -/
def ListsOwn (wrapper : EpollWrapper kernel) (id : SubscriberId) : Prop :=
  ∀ fd ∈ wrapper.watched id, ∀ owner, wrapper.fdDispatch fd = some owner → owner = id

/-- Every list names exactly what is dispatched to its subscriber, once. -/
structure Exclusive (wrapper : EpollWrapper kernel) : Prop where
  sole : ∀ id fd, fd ∈ wrapper.watched id → wrapper.fdDispatch fd = some id
  once : ∀ id, (wrapper.watched id).Nodup

/-- The two registries are inverse to each other: a descriptor is dispatched to
exactly the subscriber on whose list it is, no list repeats a descriptor or shares
one with another, and only live subscribers have a list. -/
structure Inverse (live : SubscriberId → Prop) (wrapper : EpollWrapper kernel) : Prop where
  dispatched : ∀ id fd, wrapper.fdDispatch fd = some id ↔ fd ∈ wrapper.watched id
  once : ∀ id, (wrapper.watched id).Nodup
  apart : ∀ id other, id ≠ other → (wrapper.watched id).Disjoint (wrapper.watched other)
  registered : ∀ id, (wrapper.subscriberWatchList id).isSome → live id

variable {wrapper next : EpollWrapper kernel} {id : SubscriberId} {operation : Operation}
  {result : Except Error Unit} {channelFd : RawFd} {live : SubscriberId → Prop}

/-- Discarding other subscribers' events leaves a subscriber's pending. -/
theorem pendingFor_discard (fds : List RawFd)
    (discarded : next.readyEvents = wrapper.readyEvents.map (discard fds))
    (dispatch : ∀ fd, next.fdDispatch fd = some id ↔ wrapper.fdDispatch fd = some id)
    (foreign : ∀ fd ∈ fds, wrapper.fdDispatch fd ≠ some id) :
    next.pendingFor id = wrapper.pendingFor id := by
  rw [pendingFor, pendingFor, discarded, List.map_map]
  apply List.map_congr_left
  intro event _
  by_cases gone : event.fd ∈ fds
  · have blank : EventManager.Discarded EpollEvent.default := ⟨rfl, rfl⟩
    simp [discard, gone, foreign event.fd gone, blank]
  · simp [discard, gone, dispatch]

/-- Dropping a subscriber is clean exactly when its list names nothing of anybody
else. A stale entry for a descriptor that nobody has is harmless: the kernel
does not have it either, since it is not the endpoint's. -/
theorem remove_clean_iff (consistent : Consistent live wrapper)
    (covered : Covered channelFd wrapper)
    (granted : DeletesAll (wrapper.watched id) wrapper.epoll) :
    CleanRemoval id wrapper (wrapper.remove id) ↔ wrapper.ListsOwn id := by
  constructor
  · intro clean fd listed owner dispatched
    by_contra foreign
    have kept := clean.dispatch fd
    have distinct : some owner ≠ some id := fun same => foreign (Option.some.inj same)
    rw [remove_fdDispatch, if_pos listed, dispatched, if_neg distinct] at kept
    cases kept
  · intro own
    have unclaimed : ∀ fd ∈ wrapper.watched id, wrapper.fdDispatch fd ≠ some id →
        wrapper.fdDispatch fd = none := by
      intro fd listed foreign
      cases dispatched : wrapper.fdDispatch fd with
      | none => rfl
      | some owner => exact absurd (own fd listed owner dispatched ▸ dispatched) foreign
    have dispatch : ∀ fd, (wrapper.remove id).fdDispatch fd =
        if wrapper.fdDispatch fd = some id then none else wrapper.fdDispatch fd := by
      intro fd
      rw [remove_fdDispatch]
      by_cases owned : wrapper.fdDispatch fd = some id
      · rw [if_pos (consistent.owned fd id owned).2, if_pos owned]
      · rw [if_neg owned]
        split
        · rename_i listed
          exact (unclaimed fd listed owned).symm
        · rfl
    have interest : ∀ fd, kernel.interest (wrapper.remove id).epoll fd =
        if wrapper.fdDispatch fd = some id then none else kernel.interest wrapper.epoll fd := by
      intro fd
      rw [remove_interest_exact wrapper id fd granted]
      by_cases owned : wrapper.fdDispatch fd = some id
      · rw [if_pos (consistent.owned fd id owned).2, if_pos owned]
      · rw [if_neg owned]
        split
        · rename_i listed
          cases present : kernel.interest wrapper.epoll fd with
          | none => rfl
          | some entry =>
            have nobody := unclaimed fd listed owned
            rcases covered.covered fd (by simp [present]) with rfl | claimed
            · exact absurd listed (covered.unwatched (by simp [present]) nobody id)
            · simp [nobody] at claimed
        · rfl
    refine ⟨dispatch, interest, fun other distinct => ?_⟩
    have foreign : ∀ fd, wrapper.fdDispatch fd = some other → wrapper.fdDispatch fd ≠ some id := by
      intro fd theirs mine
      rw [theirs] at mine
      exact distinct (Option.some.inj mine)
    have sameDispatch : ∀ fd, (wrapper.remove id).fdDispatch fd = some other ↔
        wrapper.fdDispatch fd = some other := by
      intro fd
      rw [dispatch fd]
      split
      · rename_i mine
        rw [mine]
        exact ⟨nofun, fun same => absurd (Option.some.inj same).symm distinct⟩
      · exact Iff.rfl
    refine ⟨sameDispatch, by simp [distinct], ?_, ?_⟩
    · intro fd theirs
      rw [interest fd, if_neg (foreign fd theirs)]
    · refine pendingFor_discard (wrapper.watched id) (remove_readyEvents wrapper id) sameDispatch ?_
      intro fd listed theirs
      exact distinct (own fd listed other theirs)

/-- Lists stay exact as long as nobody removes what belongs to another. An addition lists
a descriptor that nobody has dispatched, and so nobody lists; a removal by its owner takes
entry and listing away together. -/
theorem Exclusive.performed (exclusive : Exclusive wrapper)
    (own : ∀ fd ∈ operation.removes result, ∀ owner, wrapper.fdDispatch fd = some owner → owner = id)
    (performed : EventOps.Performed wrapper id operation result next) : Exclusive next := by
  cases performed with
  | failed operation error epoll same => exact ⟨exclusive.sole, exclusive.once⟩
  | added events epoll unclaimed absent written =>
    have unlisted : ∀ owner, events.fd ∉ wrapper.watched owner := by
      intro owner listed
      have claimed := exclusive.sole owner events.fd listed
      rw [unclaimed] at claimed
      cases claimed
    refine ⟨fun owner fd listed => ?_, fun owner => ?_⟩
    · rw [claim_fdDispatch, PartialMap.insert_apply]
      rw [claim_watched] at listed
      by_cases named : fd = events.fd
      · rw [if_pos named]
        split at listed
        · rename_i mine
          rw [mine]
        · exact absurd (named ▸ listed) (unlisted owner)
      · rw [if_neg named]
        split at listed
        · rename_i mine
          have before : fd ∈ wrapper.watched id := (List.mem_append.mp listed).resolve_right
            (fun single => named (List.mem_singleton.mp single))
          exact mine ▸ exclusive.sole id fd before
        · exact exclusive.sole owner fd listed
    · have extended : (wrapper.watched id ++ [events.fd]).Nodup :=
        List.nodup_append.mpr ⟨exclusive.once id, List.nodup_singleton _, by
          intro fd listed other single same
          rw [List.mem_singleton.mp single] at same
          exact unlisted id (same ▸ listed)⟩
      rw [claim_watched]
      split
      · exact extended
      · exact exclusive.once owner
  | modified events epoll present written => exact ⟨exclusive.sole, exclusive.once⟩
  | removed events epoll present written =>
    refine ⟨fun owner fd listed => ?_, fun owner => ?_⟩
    · rw [unwatch_fdDispatch, removeEvent_fdDispatch, PartialMap.erase_apply]
      rw [unwatch_watched] at listed
      split at listed
      · rename_i mine
        obtain ⟨distinct, before⟩ := (exclusive.once id).mem_erase_iff.mp listed
        rw [if_neg distinct]
        exact mine ▸ exclusive.sole id fd before
      · rename_i theirs
        have claimed := exclusive.sole owner fd listed
        have distinct : fd ≠ events.fd := by
          rintro rfl
          exact theirs (own _ (by simp [Operation.removes]) owner claimed)
        rw [if_neg distinct]
        exact claimed
    · rw [unwatch_watched]
      split
      · exact (exclusive.once id).erase events.fd
      · exact exclusive.once owner

/-- Dropping a subscriber keeps the other lists exact. -/
theorem Exclusive.remove (exclusive : Exclusive wrapper) (id : SubscriberId) :
    Exclusive (wrapper.remove id) := by
  refine ⟨fun other fd listed => ?_, fun other => ?_⟩
  · rw [remove_watched] at listed
    split at listed
    · exact absurd listed List.not_mem_nil
    · rename_i distinct
      have theirs := exclusive.sole other fd listed
      have unlisted : fd ∉ wrapper.watched id := by
        intro mine
        rw [exclusive.sole id fd mine] at theirs
        exact distinct (Option.some.inj theirs).symm
      rw [remove_fdDispatch, if_neg unlisted, theirs]
  · rw [remove_watched]
    split
    · exact List.nodup_nil
    · exact exclusive.once other

/-- Under exact lists every subscriber's list names only what is its own. -/
theorem Exclusive.listsOwn (exclusive : Exclusive wrapper) (id : SubscriberId) :
    wrapper.ListsOwn id := by
  intro fd listed owner dispatched
  rw [exclusive.sole id fd listed] at dispatched
  exact (Option.some.inj dispatched).symm

/-- Consistency finds every dispatched descriptor on its owner's list; exact lists
give the other direction. -/
theorem Exclusive.inverse (exclusive : Exclusive wrapper) (consistent : Consistent live wrapper) :
    Inverse live wrapper := by
  constructor
  · intro id fd
    constructor
    · intro dispatched
      exact (consistent.owned fd id dispatched).2
    · intro listed
      exact exclusive.sole id fd listed
  · exact exclusive.once
  · intro id other distinct fd mine theirs
    have owner := exclusive.sole id fd mine
    rw [exclusive.sole other fd theirs] at owner
    exact distinct (Option.some.inj owner).symm
  · exact consistent.watchers

end EpollWrapper

namespace EventManager

variable {T : Type} {start manager : EventManager kernel T} {history : List (Observation T)}

/-- The observation is not a successful removal of another subscriber's descriptor. -/
def RemovesOwn (manager : EventManager kernel T) : Observation T → Prop
  | .operation id operation result => ∀ fd ∈ operation.removes result, ∀ owner,
      manager.epollContext.fdDispatch fd = some owner → owner = id
  | _ => True

/-- Nobody comes to list a descriptor twice, or one that another lists, as long as
subscribers remove only what is theirs. -/
theorem exclusive_apply {observation : Observation T}
    (exclusive : manager.epollContext.Exclusive)
    (held : manager.Enabled observation ∧ manager.RemovesOwn observation) :
    (manager.apply observation).epollContext.Exclusive := by
  obtain ⟨enabled, own⟩ := held
  cases observation with
  | operation id operation result =>
    have performed := EventOps.perform_performed manager.epollContext id operation
    rw [← enabled.2] at performed
    exact exclusive.performed own performed
  | process id events => exact exclusive
  | store id subscriber => exact exclusive
  | addSubscriber id subscriber => exact exclusive
  | removeSubscriber id => exact exclusive.remove id
  | wait milliseconds maxevents response =>
    obtain ⟨_, dispatch, lists⟩ := poll_tables manager.epollContext response
    constructor
    · simp only [EventManager.apply, EpollWrapper.watched, dispatch, lists]
      exact exclusive.sole
    · simp only [EventManager.apply, EpollWrapper.watched, lists]
      exact exclusive.once

/-- In a run where nobody removes what belongs to another, lists are exact. -/
theorem Started.exclusive_after (started : start.Started) (valid : start.Valid history)
    (own : Along apply RemovesOwn start history) :
    (start.after history).epollContext.Exclusive := by
  have initial : start.epollContext.Exclusive := by
    obtain ⟨_, _, lists, _⟩ := started.shape
    refine ⟨fun id fd listed => ?_, fun id => ?_⟩
    · simp [EpollWrapper.watched, lists, PartialMap.empty] at listed
    · simp [EpollWrapper.watched, lists, PartialMap.empty]
  have step : ∀ (manager : EventManager kernel T) observation, manager.epollContext.Exclusive →
      manager.Enabled observation ∧ manager.RemovesOwn observation →
      (manager.apply observation).epollContext.Exclusive := fun _ _ => exclusive_apply
  exact Along.invariant step initial (valid.and own)

variable [MutEventSubscriber T]

/-- At every moment of every run, removing a registered subscriber is clean exactly
when no descriptor on its list is dispatched to somebody else; and that is so at
every moment of a run in which no subscriber successfully removed a descriptor of
another.

Proof: a removal walks the watch list and takes the dispatch entry, the events and the
registration of each descriptor on it, whoever they belong to. So what it takes is the
subscriber's own exactly if all it lists is, and no list comes to hold another's
descriptor while removals respect owners. -/
theorem removeSubscriber_clean_iff (started : start.Started) (deletes : kernel.DeletesPresent) :
    (∀ history, Visited start history → ∀ id subscriber,
      (start.after history).subscribers.subscribers id = some subscriber →
      ∃ next, (removeSubscriber id (start.after history)).result = .ok (.ok subscriber, next) ∧
        (EpollWrapper.CleanRemoval id (start.after history).epollContext next.epollContext ↔
          (start.after history).epollContext.ListsOwn id)) ∧
    (∀ history, Visited start history → Along apply RemovesOwn start history →
      ∀ id subscriber, (start.after history).subscribers.subscribers id = some subscriber →
      ∃ next, (removeSubscriber id (start.after history)).result = .ok (.ok subscriber, next) ∧
        EpollWrapper.CleanRemoval id (start.after history).epollContext next.epollContext) := by
  have general : ∀ history, Visited start history → ∀ id subscriber,
      (start.after history).subscribers.subscribers id = some subscriber →
      ∃ next, (removeSubscriber id (start.after history)).result = .ok (.ok subscriber, next) ∧
        (EpollWrapper.CleanRemoval id (start.after history).epollContext next.epollContext ↔
          (start.after history).epollContext.ListsOwn id) := by
    intro history visited id subscriber registered
    refine ⟨(start.after history).apply (.removeSubscriber id), ?_, ?_⟩
    · simp only [removeSubscriber, Subscribers.remove, registered]
      rfl
    · exact EpollWrapper.remove_clean_iff (started.consistent_after visited.valid)
        (started.covered_after (deletes_of_deletesPresent deletes start history))
        (EpollWrapper.deletesAll_of_deletesPresent _ deletes _)
  refine ⟨general, fun history visited own id subscriber registered => ?_⟩
  obtain ⟨next, removed, exactly⟩ := general history visited id subscriber registered
  exact ⟨next, removed, exactly.mpr ((started.exclusive_after visited.valid own).listsOwn id)⟩

/-- Two subscribers; the first watches descriptors 5 and 6, then only 6. -/
def orderly : List (Input Scripted) :=
  [.request (.addSubscriber ⟨[]⟩), .request (.addSubscriber ⟨[]⟩),
    .request (.eventOps ⟨1⟩ (.add (Events.newRaw 5 .IN))),
    .request (.eventOps ⟨1⟩ (.add (Events.newRaw 6 .IN))),
    .request (.eventOps ⟨1⟩ (.remove (Events.newRaw 5 .IN)))]

/-- The moment after it is one of a run. -/
theorem orderly_visited : Visited fresh (performAll orderly fresh).log :=
  (reachable_finish (by decide)).visited (.request (.removeSubscriber ⟨1⟩))

/-- The only removal in it is one of the subscriber's own. -/
theorem orderly_removesOwn : Along apply RemovesOwn fresh (performAll orderly fresh).log := by
  refine ⟨trivial, trivial, trivial, trivial, nofun, nofun, ?_, trivial⟩
  intro fd removed owner dispatched
  obtain rfl := List.mem_singleton.mp removed
  exact (Option.some.inj dispatched).symm

/-- Then the second subscriber registers descriptor 7. -/
def adjoining : List (Input Scripted) :=
  orderly ++ [.request (.eventOps ⟨2⟩ (.add (Events.newRaw 7 .IN)))]

/-- A wait that reports the descriptors of both. -/
def bothReported : Input Scripted :=
  .run (-1) (.ok [(Events.newRaw 6 .IN).inner, (Events.newRaw 7 .IN).inner]) []

/-- The history up to the moment when both events are fetched and none is delivered. -/
def bothPending : List (Observation Scripted) :=
  (performAll adjoining fresh).log ++
    (perform bothReported (finish adjoining fresh)).log.take 1

/-- That is a moment inside a run. -/
theorem bothPending_visited : Visited fresh bothPending :=
  ⟨_, _, bothReported, reachable_finish (by decide),
    (List.prefix_append_right_inj _).mpr (List.take_prefix _ _)⟩

/-- Up to it nobody removed what belongs to another. -/
theorem bothPending_removesOwn : Along apply RemovesOwn fresh bothPending := by
  refine ⟨trivial, trivial, trivial, trivial, nofun, nofun, ?_, nofun, trivial, trivial⟩
  intro fd removed owner dispatched
  obtain rfl := List.mem_singleton.mp removed
  exact (Option.some.inj dispatched).symm

/-- Removed at that moment, the first subscriber takes its own pending event with it and
leaves the second one's to be delivered. -/
theorem removeSubscriber_clean_pending :
    ∃ subscriber next,
      (removeSubscriber ⟨1⟩ (fresh.after bothPending)).result = .ok (.ok subscriber, next) ∧
        EpollWrapper.CleanRemoval ⟨1⟩ (fresh.after bothPending).epollContext
          next.epollContext ∧
        next.epollContext.pendingFor ⟨1⟩ = [none, none, none, none] ∧
        next.epollContext.pendingFor ⟨2⟩ =
          [none, some (Events.newRaw 7 .IN).inner, none, none] := by
  obtain ⟨next, removed, clean⟩ :=
    (removeSubscriber_clean_iff fresh_started Kernel.reference_deletesPresent).2 _
      bothPending_visited bothPending_removesOwn ⟨1⟩ ⟨[]⟩ rfl
  have others := clean.others ⟨2⟩ (by decide)
  obtain rfl := Prod.mk.inj (Except.ok.inj removed) |>.2
  exact ⟨⟨[]⟩, _, removed, clean, by decide, others.pending.trans (by decide)⟩

/-- At every moment of a run in which no subscriber successfully removed a
descriptor of another, inside a callback or between calls, the two registries are
inverse to each other.

Proof: along runs whose removals respect owners no descriptor is listed twice, by one
subscriber or by two; with consistency, which every run keeps, each registry then
determines the other. -/
theorem registries_inverse (started : start.Started) (visited : Visited start history)
    (own : Along apply RemovesOwn start history) :
    (start.after history).epollContext.Inverse (start.after history).Live :=
  (started.exclusive_after visited.valid own).inverse (started.consistent_after visited.valid)

/-- After the orderly run descriptor 6 is dispatched to the first subscriber, and
descriptor 5, which it removed, is on no list. -/
theorem registries_inverse_orderly :
    (fresh.after (performAll orderly fresh).log).epollContext.Inverse
        (fresh.after (performAll orderly fresh).log).Live ∧
      (fresh.after (performAll orderly fresh).log).epollContext.watched ⟨1⟩ = [6] :=
  ⟨registries_inverse fresh_started orderly_visited orderly_removesOwn, by decide⟩

/-- The first subscriber watches descriptor 5, the second removes it, and the third
registers it. -/
def handedOver : List (Input Scripted) :=
  [.request (.addSubscriber ⟨[]⟩), .request (.addSubscriber ⟨[]⟩),
    .request (.addSubscriber ⟨[]⟩),
    .request (.eventOps ⟨1⟩ (.add (Events.newRaw 5 .IN))),
    .request (.eventOps ⟨2⟩ (.remove (Events.newRaw 5 .IN))),
    .request (.eventOps ⟨3⟩ (.add (Events.newRaw 5 .IN)))]

/-- Removing the first subscriber then takes the third one's registration away. -/
theorem removeSubscriber_collateral :
    Reachable fresh (performAll handedOver fresh).log (finish handedOver fresh) ∧
      (finish handedOver fresh).epollContext.fdDispatch 5 = some ⟨3⟩ ∧
      ∃ subscriber next,
        (removeSubscriber ⟨1⟩ (finish handedOver fresh)).result = .ok (.ok subscriber, next) ∧
        next.epollContext.fdDispatch 5 = none ∧
        Kernel.reference.interest next.epollContext.epoll 5 = none ∧
        ¬ EpollWrapper.CleanRemoval ⟨1⟩ (finish handedOver fresh).epollContext
          next.epollContext := by
  have third : (finish handedOver fresh).epollContext.fdDispatch 5 = some ⟨3⟩ := by decide
  refine ⟨reachable_finish (by decide), third, ⟨[]⟩,
    (finish handedOver fresh).apply (.removeSubscriber ⟨1⟩), rfl, by decide, rfl, fun clean => ?_⟩
  have kept := clean.dispatch 5
  rw [third] at kept
  exact absurd kept (by decide)

end EventManager

namespace EventOps

variable {wrapper next : EpollWrapper kernel} {id : SubscriberId} {operation : Operation}
  {result : Except Error Unit} {channelFd : RawFd} {live : SubscriberId → Prop}

/-- The operation is an addition, or it names neither the endpoint's descriptor
nor another subscriber's. -/
def Respects (channelFd : RawFd) (wrapper : EpollWrapper kernel) (id : SubscriberId)
    (operation : Operation) : Prop :=
  operation.Spares channelFd ∧
    ∀ owner, wrapper.fdDispatch operation.fd = some owner → owner ≠ id →
      ∃ events, operation = .add events

/-- The kernel refuses the request the operation would make of it, as things stand.
An operation may be refused for reasons that show in no table, such as a mask the
kernel does not allow. -/
def Refused (wrapper : EpollWrapper kernel) (operation : Operation) : Prop :=
  ∃ errno, (kernel.ctl wrapper.epoll operation.request operation.fd
    operation.events.epollEvent).1 = .error errno

/-- The endpoint's descriptor is registered for exactly `IN`. -/
def EndpointReady (channelFd : RawFd) (wrapper : EpollWrapper kernel) : Prop :=
  ∃ entry, kernel.interest wrapper.epoll channelFd = some entry ∧ entry.eventSet = .IN

/-- The operation touches nothing of any other subscriber, leaves the endpoint
registered for exactly `IN`, and fails on what is not the subscriber's own. -/
structure Isolated (channelFd : RawFd) (wrapper : EpollWrapper kernel) (id : SubscriberId)
    (operation : Operation) : Prop where
  others : ∀ other, other ≠ id →
    EpollWrapper.SameRegistrations other wrapper (perform wrapper id operation).2
  endpoint : EndpointReady channelFd (perform wrapper id operation).2
  refused : operation.fd = channelFd ∨
      (∃ owner, wrapper.fdDispatch operation.fd = some owner ∧ owner ≠ id) →
    ∃ error, (perform wrapper id operation).1 = .error error

/-- An entry stays as it is unless a successful operation names it. -/
theorem Performed.interest_refused {fd : RawFd}
    (performed : Performed wrapper id operation result next)
    (refused : operation.fd = fd → ∃ error, result = .error error) :
    kernel.interest next.epoll fd = kernel.interest wrapper.epoll fd := by
  by_cases named : fd = operation.fd
  · obtain ⟨error, rfl⟩ := refused named.symm
    cases performed with
    | failed operation error epoll same => rw [same]
  · exact performed.interest_other named

/-- An addition succeeds only on a descriptor that nobody has. -/
theorem Performed.added_free {events : Events}
    (performed : Performed wrapper id (.add events) (.ok ()) next) :
    wrapper.fdDispatch events.fd = none ∧ kernel.interest wrapper.epoll events.fd = none := by
  cases performed with
  | added _ epoll unclaimed absent written => exact ⟨unclaimed, absent⟩

/-- An operation that fails on what is dispatched to another subscriber leaves every
other subscriber's registrations alone. A failure changes no table, an addition
succeeds only on a descriptor nobody has, and a modification or a removal that
succeeds names a descriptor that is the caller's or nobody's. -/
theorem Performed.others (performed : Performed wrapper id operation result next)
    (refused : (∃ owner, wrapper.fdDispatch operation.fd = some owner ∧ owner ≠ id) →
      ∃ error, result = .error error)
    {other : SubscriberId} (distinct : other ≠ id) :
    EpollWrapper.SameRegistrations other wrapper next := by
  have elsewhere : result = .ok () → ∀ fd, wrapper.fdDispatch fd = some other →
      fd ≠ operation.fd := by
    rintro rfl fd theirs rfl
    obtain ⟨_, impossible⟩ := refused ⟨other, theirs, distinct⟩
    cases impossible
  have interest : result = .ok () → ∀ fd, wrapper.fdDispatch fd = some other →
      kernel.interest next.epoll fd = kernel.interest wrapper.epoll fd :=
    fun granted fd theirs => performed.interest_other (elsewhere granted fd theirs)
  cases performed with
  | failed operation error epoll same =>
    exact ⟨fun _ => Iff.rfl, rfl, fun fd _ => by rw [same], rfl⟩
  | added events epoll unclaimed absent written =>
    have dispatch : ∀ fd, PartialMap.insert wrapper.fdDispatch events.fd id fd = some other ↔
        wrapper.fdDispatch fd = some other := by
      intro fd
      rw [PartialMap.insert_apply]
      split
      · rename_i same
        rw [same, unclaimed]
        exact ⟨fun mine => absurd (Option.some.inj mine).symm distinct, nofun⟩
      · exact Iff.rfl
    refine ⟨dispatch, by simp [distinct], interest rfl, ?_⟩
    exact EpollWrapper.pendingFor_discard [] (EpollWrapper.map_discard_nil _).symm dispatch
      (fun _ member => absurd member List.not_mem_nil)
  | modified events epoll present written =>
    exact ⟨fun _ => Iff.rfl, rfl, interest rfl, rfl⟩
  | removed events epoll present written =>
    have dispatch : ∀ fd, PartialMap.erase wrapper.fdDispatch events.fd fd = some other ↔
        wrapper.fdDispatch fd = some other := by
      intro fd
      rw [PartialMap.erase_apply]
      split
      · rename_i same
        exact ⟨nofun, fun theirs => absurd same (elsewhere rfl fd theirs)⟩
      · exact Iff.rfl
    refine ⟨?_, ?_, interest rfl, ?_⟩
    · simpa using dispatch
    · simp [EpollWrapper.unwatch_watchList, distinct]
    · refine EpollWrapper.pendingFor_discard [events.fd] (by simp) (by simpa using dispatch) ?_
      intro fd named theirs
      exact elsewhere rfl fd theirs (List.mem_singleton.mp named)

/-- An operation whose request the kernel refuses fails. An addition may fail before it
asks. -/
theorem perform_refused (refused : Refused wrapper operation) :
    ∃ error, (perform wrapper id operation).1 = .error error := by
  obtain ⟨errno, answer⟩ := refused
  cases operation with
  | add events =>
    have denied : (ctl wrapper .add events).1 = .error (.epoll errno) :=
      congrArg Prod.fst (ctl_error answer)
    by_cases taken : (wrapper.fdDispatch events.fd).isSome = true
    · exact ⟨.fdAlreadyRegistered, (add_result wrapper id events).trans (if_pos taken)⟩
    · exact ⟨.epoll errno, ((add_result wrapper id events).trans (if_neg taken)).trans denied⟩
  | modify events => exact ⟨.epoll errno, congrArg Prod.fst (ctl_error answer)⟩
  | remove events =>
    exact ⟨.epoll errno, (remove_result wrapper id events).trans
      (congrArg Prod.fst (ctl_error answer))⟩

/-- A modification or a removal fails for no other reason. -/
theorem refused_of_failed {error : Error} (change : ∀ events, operation ≠ .add events)
    (failed : (perform wrapper id operation).1 = .error error) : Refused wrapper operation := by
  rcases answer : (kernel.ctl wrapper.epoll operation.request operation.fd
    operation.events.epollEvent).1 with errno | _
  · exact ⟨errno, answer⟩
  · cases operation with
    | add events => exact absurd rfl (change events)
    | modify events =>
      have granted : (perform wrapper id (.modify events)).1 = .ok () :=
        congrArg Prod.fst (ctl_ok answer)
      rw [granted] at failed
      cases failed
    | remove events =>
      have granted : (perform wrapper id (.remove events)).1 = .ok () :=
        (remove_result wrapper id events).trans (congrArg Prod.fst (ctl_ok answer))
      rw [granted] at failed
      cases failed

/-- An operation that respects the dispatch table and the endpoint fails on what is not
the subscriber's own: it is an addition, and these succeed only on a descriptor that
is neither dispatched nor registered. -/
theorem Respects.refused (respects : Respects channelFd wrapper id operation)
    (ready : EndpointReady channelFd wrapper)
    (foreign : operation.fd = channelFd ∨
      ∃ owner, wrapper.fdDispatch operation.fd = some owner ∧ owner ≠ id) :
    ∃ error, (perform wrapper id operation).1 = .error error := by
  obtain ⟨spares, own⟩ := respects
  obtain ⟨entry, registered, _⟩ := ready
  have added : ∃ events, operation = .add events := by
    rcases foreign with named | ⟨owner, theirs, distinct⟩
    · cases operation with
      | add events => exact ⟨events, rfl⟩
      | modify events => exact absurd named spares
      | remove events => exact absurd named spares
    · exact own owner theirs distinct
  obtain ⟨events, rfl⟩ := added
  have performed := perform_performed wrapper id (.add events)
  rcases outcome : (perform wrapper id (.add events)).1 with error | _
  · exact ⟨error, rfl⟩
  · rw [outcome] at performed
    obtain ⟨unclaimed, absent⟩ := performed.added_free
    rcases foreign with named | ⟨owner, theirs, _⟩
    · change events.fd = channelFd at named
      rw [named, registered] at absent
      cases absent
    · change wrapper.fdDispatch events.fd = some owner at theirs
      rw [unclaimed] at theirs
      cases theirs

/-- Subscribers are isolated from an operation exactly when the endpoint is as it should
be before it and the operation respects the dispatch table and the endpoint, or the
kernel refuses its request. This is so for every kernel.

Proof: what is isolated fails on foreign descriptors, and a failing modification or
removal is one the kernel refused. Conversely, either alternative makes the operation
fail on foreign descriptors; a failure changes nothing, and a success then names a
descriptor that is the caller's or nobody's. -/
theorem isolated_iff :
    Isolated channelFd wrapper id operation ↔ EndpointReady channelFd wrapper ∧
      (Respects channelFd wrapper id operation ∨ Refused wrapper operation) := by
  have performed := perform_performed wrapper id operation
  constructor
  · intro isolated
    obtain ⟨entry, registered, readable⟩ := isolated.endpoint
    have unchanged := performed.interest_refused (fun named => isolated.refused (Or.inl named))
    refine ⟨⟨entry, unchanged ▸ registered, readable⟩, ?_⟩
    by_cases foreign : operation.fd = channelFd ∨
        ∃ owner, wrapper.fdDispatch operation.fd = some owner ∧ owner ≠ id
    · obtain ⟨error, failed⟩ := isolated.refused foreign
      by_cases added : ∃ events, operation = .add events
      · obtain ⟨events, rfl⟩ := added
        exact Or.inl ⟨trivial, fun _ _ _ => ⟨events, rfl⟩⟩
      · exact Or.inr (refused_of_failed (fun events same => added ⟨events, same⟩) failed)
    · rw [not_or] at foreign
      exact Or.inl ⟨Operation.spares_of_ne foreign.1, fun owner theirs distinct =>
        absurd ⟨owner, theirs, distinct⟩ foreign.2⟩
  · rintro ⟨ready, harmless⟩
    have refused : operation.fd = channelFd ∨
        (∃ owner, wrapper.fdDispatch operation.fd = some owner ∧ owner ≠ id) →
        ∃ error, (perform wrapper id operation).1 = .error error := by
      intro foreign
      rcases harmless with respects | denied
      · exact respects.refused ready foreign
      · exact perform_refused denied
    obtain ⟨entry, registered, readable⟩ := ready
    refine ⟨fun other distinct => performed.others (fun foreign => refused (Or.inr foreign))
      distinct, ⟨entry, ?_, readable⟩, refused⟩
    rw [performed.interest_refused (fun named => refused (Or.inl named)), registered]

end EventOps

namespace EventManager

variable {T : Type} {start : EventManager kernel T}

/-- The observation respects the dispatch table and the endpoint. -/
def Respectful (manager : EventManager kernel T) : Observation T → Prop
  | .operation id operation _ =>
      EventOps.Respects manager.channelFd manager.epollContext id operation
  | _ => True

/-- The observation respects the dispatch table and the endpoint, or it is an operation
whose request the kernel refuses. -/
def Contained (manager : EventManager kernel T) : Observation T → Prop
  | .operation id operation _ =>
      EventOps.Respects manager.channelFd manager.epollContext id operation ∨
        EventOps.Refused manager.epollContext operation
  | _ => True

/-- What is contained spares the endpoint's descriptor: an operation that is refused
does not succeed. -/
theorem Contained.sparesChannel {manager : EventManager kernel T} {observation : Observation T}
    (contained : manager.Contained observation) : manager.SparesChannel observation := by
  cases observation with
  | operation id operation result =>
    intro granted
    rcases contained with respects | refused
    · exact respects.1
    · obtain ⟨error, failed⟩ := EventOps.perform_refused refused
      rw [granted] at failed
      cases failed
  | _ => trivial

variable [MutEventSubscriber T]

/-- At every moment of every run, under every kernel, an operation through the
`EventOps` of any subscriber isolates the others exactly when the endpoint's
registration stands and the operation respects the dispatch table and the endpoint, or
the kernel refuses its request; and in a run whose operations are all of these two
kinds the endpoint's registration stands at every moment.

Proof: the first part is the characterisation of a single operation. For the second,
an operation of either kind does not succeed in modifying or removing the endpoint's
descriptor, and no other observation touches its registration. -/
theorem operation_isolated_iff (started : start.Started) :
    (∀ history, Visited start history → ∀ id operation, (start.after history).Live id →
      (EventOps.Isolated start.channelFd (start.after history).epollContext id operation ↔
        EventOps.EndpointReady start.channelFd (start.after history).epollContext ∧
          (EventOps.Respects start.channelFd (start.after history).epollContext id operation ∨
            EventOps.Refused (start.after history).epollContext operation))) ∧
    (∀ history, Visited start history → Along apply Contained start history →
      ∀ id operation, (start.after history).Live id →
        (EventOps.Respects start.channelFd (start.after history).epollContext id operation ∨
          EventOps.Refused (start.after history).epollContext operation) →
        EventOps.Isolated start.channelFd (start.after history).epollContext id operation) := by
  refine ⟨fun _ _ _ _ _ => EventOps.isolated_iff, ?_⟩
  intro history _ contained id operation _ harmless
  have kept := started.channelKept_after
    (contained.mono (fun _ _ held => Contained.sparesChannel held))
  have standing := kept.registered
  rw [after_channelFd] at standing
  exact EventOps.isolated_iff.mpr ⟨⟨_, standing, rfl⟩, harmless⟩

/-- After the orderly run the second subscriber asks for a descriptor of its own. -/
theorem operation_isolated_orderly :
    EventOps.Isolated 3 (finish orderly fresh).epollContext ⟨2⟩
      (.add (Events.newRaw 7 .IN)) := by
  have contained : Along apply Contained fresh (performAll orderly fresh).log := by
    refine ⟨trivial, trivial, trivial, trivial, ?_, ?_, ?_, trivial⟩
    · exact Or.inl ⟨trivial, fun _ _ _ => ⟨_, rfl⟩⟩
    · exact Or.inl ⟨trivial, fun _ _ _ => ⟨_, rfl⟩⟩
    · have elsewhere : (5 : RawFd) ≠ 3 := by decide
      refine Or.inl ⟨elsewhere, fun owner theirs foreign => ?_⟩
      exact absurd (Option.some.inj theirs).symm foreign
  exact (operation_isolated_iff fresh_started).2 _ orderly_visited contained ⟨2⟩
    (.add (Events.newRaw 7 .IN)) rfl (Or.inl ⟨trivial, fun _ _ _ => ⟨_, rfl⟩⟩)

/-- After the orderly run the second subscriber removes the first one's descriptor,
and succeeds. -/
theorem operation_not_isolated :
    Reachable fresh (performAll orderly fresh).log (finish orderly fresh) ∧
      (finish orderly fresh).Live ⟨2⟩ ∧
      (finish orderly fresh).epollContext.fdDispatch 6 = some ⟨1⟩ ∧
      (EventOps.perform (finish orderly fresh).epollContext ⟨2⟩
        (.remove (Events.newRaw 6 .IN))).1 = .ok () ∧
      (EventOps.perform (finish orderly fresh).epollContext ⟨2⟩
        (.remove (Events.newRaw 6 .IN))).2.fdDispatch 6 = none ∧
      ¬ EventOps.Isolated 3 (finish orderly fresh).epollContext ⟨2⟩
        (.remove (Events.newRaw 6 .IN)) := by
  have theirs : (finish orderly fresh).epollContext.fdDispatch 6 = some ⟨1⟩ := by decide
  have granted : (EventOps.perform (finish orderly fresh).epollContext ⟨2⟩
      (.remove (Events.newRaw 6 .IN))).1 = .ok () := by decide
  refine ⟨reachable_finish (by decide), rfl, theirs, granted, by decide, fun isolated => ?_⟩
  obtain ⟨error, failed⟩ := isolated.refused (Or.inr ⟨⟨1⟩, theirs, by decide⟩)
  rw [granted] at failed
  cases failed

end EventManager

end EventLoop
