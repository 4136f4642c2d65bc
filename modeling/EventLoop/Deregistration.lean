import EventLoop.Runs

/-!
# Two ways to deregister a subscriber

A subscriber's descriptors are dropped one by one through its `EventOps`, or all
at once when the subscriber is removed. The first way edits the list by position
and stops at a kernel that refuses; the second takes the list as it is and looks
at no answer. Dropping some descriptors first makes no difference to what the
removal leaves behind: each single removal from the list keeps the result of
dropping the subscriber, from any state, stale and repeated entries included.
-/

namespace EventLoop

variable {kernel : Kernel}

namespace EpollWrapper

/-- The contexts differ at most in the kernel's hidden state. -/
structure SameTables (first second : EpollWrapper kernel) : Prop where
  dispatch : first.fdDispatch = second.fdDispatch
  lists : first.subscriberWatchList = second.subscriberWatchList
  interest : kernel.interest first.epoll = kernel.interest second.epoll
  ready : first.readyEvents = second.readyEvents

/-- Tables are the same as themselves. -/
theorem SameTables.refl (wrapper : EpollWrapper kernel) : SameTables wrapper wrapper :=
  ⟨rfl, rfl, rfl, rfl⟩

/-- Tables that are the same as a third's are the same. -/
theorem SameTables.trans {first second third : EpollWrapper kernel}
    (left : SameTables first second) (right : SameTables second third) :
    SameTables first third :=
  ⟨left.dispatch.trans right.dispatch, left.lists.trans right.lists,
    left.interest.trans right.interest, left.ready.trans right.ready⟩

/-- The subscriber has the descriptor on its list, or the kernel does not have it. -/
def Tracked (wrapper : EpollWrapper kernel) (id : SubscriberId) (fd : RawFd) : Prop :=
  fd ∈ wrapper.watched id ∨ kernel.interest wrapper.epoll fd = none

variable {wrapper next : EpollWrapper kernel} {id : SubscriberId} {events : Events}
  {result : Except Error Unit}

/-- A removal takes a descriptor off the list only together with its registration. -/
theorem Tracked.performed {fd : RawFd} (tracked : wrapper.Tracked id fd)
    (performed : EventOps.Performed wrapper id (.remove events) result next) :
    next.Tracked id fd := by
  cases performed with
  | failed operation error epoll same =>
    rw [Tracked, same]
    exact tracked
  | removed events epoll present written =>
    by_cases named : fd = events.fd
    · right
      rw [unwatch_epoll, removeEvent_epoll, written, named, PartialMap.erase_apply, if_pos rfl]
    · rcases tracked with listed | absent
      · left
        rw [unwatch_watched, if_pos rfl]
        exact (List.mem_erase_of_ne named).mpr listed
      · right
        rw [unwatch_epoll, removeEvent_epoll, written, PartialMap.erase_apply, if_neg named]
        exact absent

/-- Off the list or on it, the removed descriptor is among those dropped in the end. -/
theorem mem_erase_or {fds : List RawFd} {fd tested : RawFd} (listed : fd ∈ fds) :
    (tested ∈ fds.erase fd ∨ tested = fd) ↔ tested ∈ fds := by
  constructor
  · rintro (kept | rfl)
    · exact List.mem_of_mem_erase kept
    · exact listed
  · intro member
    by_cases named : tested = fd
    · exact Or.inr named
    · exact Or.inl ((List.mem_erase_of_ne named).mpr member)

/-- Dropping a subscriber leaves the same behind after a removal of one of its
descriptors. -/
theorem remove_after_removal (deletes : kernel.DeletesPresent)
    (tracked : wrapper.Tracked id events.fd)
    (performed : EventOps.Performed wrapper id (.remove events) result next) :
    SameTables (next.remove id) (wrapper.remove id) := by
  have registered (context : EpollWrapper kernel) (fd : RawFd) :=
    remove_interest_exact context id fd (deletesAll_of_deletesPresent _ deletes context.epoll)
  cases performed with
  | failed operation error epoll same =>
    constructor
    · funext fd
      simp only [remove_fdDispatch]
      rfl
    · simp only [remove_watchList]
    · funext fd
      simp only [registered, same]
      rfl
    · simp only [remove_readyEvents]
      rfl
  | removed events epoll present written =>
    have listed : events.fd ∈ wrapper.watched id := by
      refine tracked.resolve_right (fun absent => ?_)
      simp [absent] at present
    constructor
    · funext fd
      simp only [remove_fdDispatch, unwatch_fdDispatch, unwatch_watched, if_true,
        removeEvent_fdDispatch, PartialMap.erase_apply]
      rw [← ite_or]
      exact if_congr (mem_erase_or listed) rfl rfl
    · funext other
      simp only [remove_watchList, PartialMap.erase_apply]
      split
      · rfl
      · rename_i distinct
        rw [unwatch_watchList, if_neg distinct, removeEvent_watchList]
    · funext fd
      simp only [registered, unwatch_epoll, unwatch_watched, if_true, removeEvent_epoll, written,
        PartialMap.erase_apply]
      rw [← ite_or]
      exact if_congr (mem_erase_or listed) rfl rfl
    · simp only [remove_readyEvents, unwatch_readyEvents, unwatch_watched, if_true,
        removeEvent_readyEvents, List.map_map]
      apply List.map_congr_left
      intro event _
      have members : event.fd ∈ [events.fd] ++ (wrapper.watched id).erase events.fd ↔
          event.fd ∈ wrapper.watched id := by
        rw [← mem_erase_or listed, List.mem_append, List.mem_singleton, or_comm]
      exact (discard_discard _ _ event).trans (if_congr members rfl rfl)

end EpollWrapper

namespace EventManager

variable {T : Type}

/-- Remove each in turn through the subscriber's `EventOps`, ignoring errors. -/
def removeEach (id : SubscriberId) : List Events → Manage kernel T Unit
  | [] => pure ()
  | events :: rest => do
      let _ ← eventOps id (.remove events)
      removeEach id rest

/-- The removals complete, touch nothing but the epoll context, and keep what
removing the subscriber would leave behind. -/
theorem removeEach_run (deletes : kernel.DeletesPresent) {id : SubscriberId} {subscriber : T}
    (removals : List Events) (manager : EventManager kernel T)
    (registered : manager.subscribers.subscribers id = some subscriber)
    (tracked : ∀ events ∈ removals, manager.epollContext.Tracked id events.fd) :
    ∃ log next, removeEach id removals manager = ⟨log, .ok ((), next)⟩ ∧
      next.subscribers = manager.subscribers ∧ next.channelFd = manager.channelFd ∧
      EpollWrapper.SameTables (next.epollContext.remove id) (manager.epollContext.remove id) := by
  induction removals generalizing manager with
  | nil => exact ⟨[], manager, rfl, rfl, rfl, EpollWrapper.SameTables.refl _⟩
  | cons events rest inductionHypothesis =>
    have performed := EventOps.perform_performed manager.epollContext id (.remove events)
    have live : manager.subscribers.contains id = true := by
      simp [Subscribers.contains, registered]
    have removed : eventOps id (.remove events) manager =
        ⟨[.operation id (.remove events)
            (EventOps.perform manager.epollContext id (.remove events)).1],
          .ok (.ok (EventOps.perform manager.epollContext id (.remove events)).1,
            { manager with
              epollContext := (EventOps.perform manager.epollContext id (.remove events)).2 })⟩ := by
      simp only [eventOps, Exec.read_bind, live, if_true]
      rfl
    have later : ∀ other ∈ rest, EpollWrapper.Tracked
        (EventOps.perform manager.epollContext id (.remove events)).2 id other.fd := by
      intro other member
      exact (tracked other (List.mem_cons_of_mem events member)).performed performed
    obtain ⟨log, next, ran, subscribers, channel, same⟩ := inductionHypothesis
      { manager with epollContext := (EventOps.perform manager.epollContext id (.remove events)).2 }
      registered later
    have first := EpollWrapper.remove_after_removal deletes
      (tracked events List.mem_cons_self) performed
    rw [removeEach, Exec.bind_ok removed, ran]
    exact ⟨_, next, rfl, subscribers, channel, same.trans first⟩

/-- Removing any descriptors of a registered subscriber's list through its
`EventOps`, in any order and any number of times, and then the subscriber itself,
returns the same subscriber and leaves the same manager as removing the
subscriber alone.

Proof: each removal takes one descriptor away and leaves the rest of the list, so by
induction the removal of the subscriber takes what is left; removals of descriptors that
are gone already fail and change nothing. -/
theorem deregistration_agrees (deletes : kernel.DeletesPresent) (manager : EventManager kernel T)
    (id : SubscriberId) (subscriber : T)
    (registered : manager.subscribers.subscribers id = some subscriber) (removals : List Events)
    (listed : ∀ events ∈ removals, events.fd ∈ manager.epollContext.watched id) :
    ∃ next alone,
      ((removeEach id removals >>= fun _ => removeSubscriber id) manager).result =
        .ok (.ok subscriber, next) ∧
      (removeSubscriber id manager).result = .ok (.ok subscriber, alone) ∧
      next.subscribers = alone.subscribers ∧ next.channelFd = alone.channelFd ∧
      EpollWrapper.SameTables next.epollContext alone.epollContext := by
  have single : ∀ other : EventManager kernel T,
      other.subscribers.subscribers id = some subscriber →
      (removeSubscriber id other).result =
        .ok (.ok subscriber, other.apply (.removeSubscriber id)) := by
    intro other present
    simp only [removeSubscriber, Subscribers.remove, present]
    rfl
  obtain ⟨log, middle, ran, subscribers, channel, same⟩ := removeEach_run deletes removals manager
    registered (fun events member => Or.inl (listed events member))
  have present : middle.subscribers.subscribers id = some subscriber := by
    rw [subscribers]
    exact registered
  refine ⟨middle.apply (.removeSubscriber id), manager.apply (.removeSubscriber id), ?_,
    single manager registered, ?_, channel, same⟩
  · rw [Exec.bind_ok ran]
    exact single middle present
  · simp only [apply, subscribers]

/-- The second subscriber removes descriptor 5 of the first, which registers it
again: its list names 5 twice. -/
def relisted : List (Input Scripted) :=
  [.request (.addSubscriber ⟨[]⟩), .request (.addSubscriber ⟨[]⟩),
    .request (.eventOps ⟨1⟩ (.add (Events.newRaw 5 .IN))),
    .request (.eventOps ⟨1⟩ (.add (Events.newRaw 6 .IN))),
    .request (.eventOps ⟨2⟩ (.remove (Events.newRaw 5 .IN))),
    .request (.eventOps ⟨1⟩ (.add (Events.newRaw 5 .IN)))]

/-- Of the three removals the second fails, and descriptor 5 stays on the list. -/
theorem deregistration_agrees_relisted :
    (finish relisted fresh).epollContext.watched ⟨1⟩ = [5, 6, 5] ∧
    ∃ next alone,
      ((removeEach ⟨1⟩ [Events.newRaw 5 .IN, Events.newRaw 5 .IN, Events.newRaw 6 .IN] >>=
        fun _ => removeSubscriber ⟨1⟩) (finish relisted fresh)).result = .ok (.ok ⟨[]⟩, next) ∧
      (removeSubscriber ⟨1⟩ (finish relisted fresh)).result = .ok (.ok ⟨[]⟩, alone) ∧
      next.subscribers = alone.subscribers ∧ next.channelFd = alone.channelFd ∧
      EpollWrapper.SameTables next.epollContext alone.epollContext :=
  ⟨by decide, deregistration_agrees Kernel.reference_deletesPresent (finish relisted fresh) ⟨1⟩ ⟨[]⟩
    rfl [Events.newRaw 5 .IN, Events.newRaw 5 .IN, Events.newRaw 6 .IN] (by decide)⟩

end EventManager

end EventLoop
