import EventLoop.Delivery

/-!
# What is left of consistency when descriptors are closed

Consistency says of every dispatched descriptor that the kernel has it registered. A
descriptor that is closed while it is registered leaves the kernel's list without the
manager being told, so this much is lost. The rest stands: the owner of a dispatched
descriptor is registered and lists it, and the kernel keeps each entry under the
descriptor packed into it. `Sound` is that rest. It is kept by whatever keeps
consistency, and by a shrinking interest list.

The endpoint's own registration is not dispatched to anybody, and the manager relies on
its flags. `Attuned` says that it asks for exactly `IN` as long as it stands; a
subscriber may change that by modifying the endpoint's descriptor, and in no other way.
-/

namespace EventLoop

open Replay

variable {kernel : Kernel}

namespace EpollWrapper

/-- Agreement of the two tables with each other and with the live subscribers, and of the
interest list with the packed descriptors, whether or not the kernel has what is
dispatched. -/
structure Sound (live : SubscriberId → Prop) (wrapper : EpollWrapper kernel) : Prop where
  owned : ∀ fd id, wrapper.fdDispatch fd = some id → live id ∧ fd ∈ wrapper.watched id
  watchers : ∀ id, (wrapper.subscriberWatchList id).isSome → live id
  keyed : ∀ fd entry, kernel.interest wrapper.epoll fd = some entry → entry.fd = fd

variable {live : SubscriberId → Prop} {wrapper next : EpollWrapper kernel} {id : SubscriberId}
  {operation : Operation} {result : Except Error Unit}

/-- What is consistent is sound. -/
theorem Consistent.sound (consistent : Consistent live wrapper) : Sound live wrapper :=
  ⟨consistent.owned, consistent.watchers, consistent.keyed⟩

/-- Fewer subscribers listing less is not sound by itself, more live ones are. -/
theorem Sound.mono {more : SubscriberId → Prop} (sound : Sound live wrapper)
    (wider : ∀ id, live id → more id) : Sound more wrapper := by
  refine ⟨?_, fun id present => wider id (sound.watchers id present), sound.keyed⟩
  intro fd id dispatched
  obtain ⟨alive, listed⟩ := sound.owned fd id dispatched
  exact ⟨wider id alive, listed⟩

/-- An interest list that only lost entries is as sound. -/
theorem Sound.shrunk (sound : Sound live wrapper) {epoll : kernel.State}
    (shrunk : ∀ fd entry, kernel.interest epoll fd = some entry →
      kernel.interest wrapper.epoll fd = some entry) :
    Sound live { wrapper with epoll := epoll } :=
  ⟨sound.owned, sound.watchers, fun fd entry registered =>
    sound.keyed fd entry (shrunk fd entry registered)⟩

/-- The kernel writes an entry under the descriptor packed into it. -/
theorem Sound.keyed_written (sound : Sound live wrapper) {events : Events} {epoll : kernel.State}
    (written : kernel.interest epoll =
      PartialMap.insert (kernel.interest wrapper.epoll) events.fd events.epollEvent) :
    ∀ fd entry, kernel.interest epoll fd = some entry → entry.fd = fd := by
  intro fd entry registered
  rw [written] at registered
  rcases PartialMap.insert_eq_some registered with ⟨rfl, rfl⟩ | ⟨_, before⟩
  · rfl
  · exact sound.keyed fd entry before

/-- Operations of a live subscriber keep the tables sound, on whatever descriptor. A claim
is made for a live subscriber that lists the descriptor; a removal takes an entry away,
and a foreign one leaves the owner's listing over. -/
theorem Sound.performed (sound : Sound live wrapper) (alive : live id)
    (performed : EventOps.Performed wrapper id operation result next) : Sound live next := by
  cases performed with
  | failed operation error epoll same =>
    exact sound.shrunk (fun fd entry registered => by rwa [same] at registered)
  | added events epoll unclaimed absent written =>
    refine ⟨?_, ?_, ?_⟩
    · intro fd owner dispatched
      rw [claim_fdDispatch] at dispatched
      rw [claim_watched]
      rcases PartialMap.insert_eq_some dispatched with ⟨rfl, rfl⟩ | ⟨_, before⟩
      · exact ⟨alive, by simp⟩
      · obtain ⟨ownerAlive, listed⟩ := sound.owned fd owner before
        refine ⟨ownerAlive, ?_⟩
        split
        · rename_i same
          subst same
          exact List.mem_append_left _ listed
        · exact listed
    · intro owner present
      simp only [claim_watchList, PartialMap.insert_apply] at present
      split at present
      · rename_i same
        exact same ▸ alive
      · exact sound.watchers owner present
    · rw [claim_epoll]
      exact sound.keyed_written written
  | modified events epoll present written =>
    exact ⟨sound.owned, sound.watchers, sound.keyed_written written⟩
  | removed events epoll present written =>
    refine ⟨?_, ?_, ?_⟩
    · intro fd owner dispatched
      simp only [unwatch_fdDispatch, removeEvent_fdDispatch, PartialMap.erase_apply] at dispatched
      split at dispatched
      · cases dispatched
      · rename_i distinct
        obtain ⟨ownerAlive, listed⟩ := sound.owned fd owner dispatched
        refine ⟨ownerAlive, ?_⟩
        rw [unwatch_watched]
        split
        · rename_i same
          subst same
          exact (List.mem_erase_of_ne distinct).mpr listed
        · exact listed
    · intro owner present
      rw [unwatch_watchList_isSome] at present
      exact sound.watchers owner present
    · intro fd entry registered
      simp only [unwatch_epoll, removeEvent_epoll, written, PartialMap.erase_apply] at registered
      split at registered
      · cases registered
      · exact sound.keyed fd entry registered

/-- A leaving subscriber takes along every descriptor dispatched to it, also those the
kernel no longer has. -/
theorem Sound.remove (sound : Sound live wrapper) (id : SubscriberId) :
    Sound (fun other => live other ∧ other ≠ id) (wrapper.remove id) := by
  refine ⟨?_, ?_, ?_⟩
  · intro fd owner dispatched
    rw [remove_fdDispatch] at dispatched
    split at dispatched
    · cases dispatched
    · rename_i unlisted
      obtain ⟨alive, listed⟩ := sound.owned fd owner dispatched
      have distinct : owner ≠ id := by
        rintro rfl
        exact unlisted listed
      refine ⟨⟨alive, distinct⟩, ?_⟩
      rw [remove_watched, if_neg distinct]
      exact listed
  · intro owner present
    simp only [remove_watchList, PartialMap.erase_apply] at present
    split at present
    · cases present
    · rename_i distinct
      exact ⟨sound.watchers owner present, distinct⟩
  · intro fd entry registered
    rcases remove_interest wrapper id fd with kept | ⟨_, gone⟩
    · rw [kept] at registered
      exact sound.keyed fd entry registered
    · rw [gone] at registered
      cases registered

/-- If the endpoint's descriptor is registered and nobody is dispatched for it, it is
registered for exactly `IN`. -/
def Attuned (channelFd : RawFd) (wrapper : EpollWrapper kernel) : Prop :=
  ∀ entry, kernel.interest wrapper.epoll channelFd = some entry →
    wrapper.fdDispatch channelFd = none → entry.eventSet = .IN

variable {channelFd : RawFd}

/-- Only modifying the endpoint's descriptor can change what it is registered for: adding
it dispatches it to whoever adds it, and removing it leaves no entry. -/
theorem Attuned.performed (attuned : Attuned channelFd wrapper)
    (performed : EventOps.Performed wrapper id operation result next)
    (unmodified : ∀ events, operation = .modify events → result = .ok () →
      events.fd ≠ channelFd) : Attuned channelFd next := by
  intro entry registered unclaimed
  by_cases named : channelFd = operation.fd
  · cases performed with
    | failed operation error epoll same =>
      change kernel.interest epoll channelFd = some entry at registered
      rw [same] at registered
      exact attuned entry registered unclaimed
    | added events epoll free absent written =>
      change channelFd = events.fd at named
      simp [named] at unclaimed
    | modified events epoll present written =>
      exact absurd named.symm (unmodified events rfl rfl)
    | removed events epoll present written =>
      change channelFd = events.fd at named
      simp [named, written] at registered
  · rw [performed.interest_other named] at registered
    rw [performed.fdDispatch_other named] at unclaimed
    exact attuned entry registered unclaimed

/-- Removing a subscriber takes entry and dispatch away together, if the kernel agrees. -/
theorem Attuned.remove (attuned : Attuned channelFd wrapper) (id : SubscriberId)
    (granted : DeletesAll (wrapper.watched id) wrapper.epoll) :
    Attuned channelFd (wrapper.remove id) := by
  intro entry registered unclaimed
  rw [remove_interest_exact wrapper id channelFd granted] at registered
  rw [remove_fdDispatch] at unclaimed
  by_cases listed : channelFd ∈ wrapper.watched id
  · rw [if_pos listed] at registered
    cases registered
  · rw [if_neg listed] at registered unclaimed
    exact attuned entry registered unclaimed

/-- Fewer entries leave fewer to be wrong. -/
theorem Attuned.shrunk (attuned : Attuned channelFd wrapper) {epoll : kernel.State}
    (shrunk : ∀ fd entry, kernel.interest epoll fd = some entry →
      kernel.interest wrapper.epoll fd = some entry) :
    Attuned channelFd { wrapper with epoll := epoll } :=
  fun entry registered unclaimed => attuned entry (shrunk channelFd entry registered) unclaimed

end EpollWrapper

namespace EventManager

variable {T : Type} {manager : EventManager kernel T} {observation : Observation T}

/-- The tables agree with each other and with the registered subscribers, whether or not
the kernel has what is dispatched. -/
def Sound (manager : EventManager kernel T) : Prop :=
  manager.epollContext.Sound manager.Live

/-- Consistent tables are sound. -/
theorem Consistent.sound (consistent : manager.Consistent) : manager.Sound :=
  EpollWrapper.Consistent.sound consistent

/-- A wait changes nothing soundness speaks of. -/
theorem Sound.polled (sound : manager.Sound) (batch : List EpollEvent) :
    (manager.polled batch).Sound :=
  ⟨sound.owned, sound.watchers, sound.keyed⟩

/-- Soundness is kept by every enabled observation. By cases: operations are those of live
subscribers, an addition dispatches nothing yet, and a removal takes everything its
subscriber has. -/
theorem Sound.apply (sound : manager.Sound) (enabled : manager.Enabled observation) :
    (manager.apply observation).Sound := by
  cases observation with
  | operation id operation result =>
    exact EpollWrapper.Sound.performed sound enabled.1
      (EventOps.perform_performed manager.epollContext id operation)
  | process id events => exact sound
  | store id subscriber => exact EpollWrapper.Sound.mono sound (fun _ live => live_insert live)
  | addSubscriber id subscriber =>
    exact EpollWrapper.Sound.mono sound (fun _ live => live_insert live)
  | removeSubscriber id =>
    refine EpollWrapper.Sound.mono (EpollWrapper.Sound.remove sound id) ?_
    rintro other ⟨alive, distinct⟩
    simpa [Live, EventManager.apply, Subscribers.remove, distinct] using alive
  | wait milliseconds maxevents response =>
    obtain ⟨epoll, dispatch, lists⟩ := poll_tables manager.epollContext response
    refine ⟨?_, ?_, ?_⟩
    · intro fd owner dispatched
      rw [EventManager.apply, dispatch] at dispatched
      obtain ⟨live, listed⟩ := sound.owned fd owner dispatched
      refine ⟨live, ?_⟩
      rw [EventManager.apply, EpollWrapper.watched, lists]
      exact listed
    · intro owner present
      rw [EventManager.apply, lists] at present
      exact sound.watchers owner present
    · intro fd entry registered
      rw [EventManager.apply, epoll] at registered
      exact sound.keyed fd entry registered

/-- The endpoint's own registration asks for exactly `IN`, if it stands. -/
def Attuned (manager : EventManager kernel T) : Prop :=
  manager.epollContext.Attuned manager.channelFd

/-- The observation is not a modification of the endpoint's descriptor that succeeded. -/
def LeavesEndpoint (manager : EventManager kernel T) : Observation T → Prop
  | .operation _ (.modify events) (.ok _) => events.fd ≠ manager.channelFd
  | _ => True

/-- What the endpoint is registered for is kept by every enabled observation that does not
modify it, where the kernel grants the deletions a leaving subscriber causes. -/
theorem Attuned.apply (attuned : manager.Attuned) (enabled : manager.Enabled observation)
    (granted : manager.Deletes observation) (leaves : manager.LeavesEndpoint observation) :
    (manager.apply observation).Attuned := by
  cases observation with
  | operation id operation result =>
    refine EpollWrapper.Attuned.performed attuned
      (EventOps.perform_performed manager.epollContext id operation) ?_
    rintro events rfl succeeded
    rw [← enabled.2] at succeeded
    subst succeeded
    exact leaves
  | process id events => exact attuned
  | store id subscriber => exact attuned
  | addSubscriber id subscriber => exact attuned
  | removeSubscriber id => exact EpollWrapper.Attuned.remove attuned id granted
  | wait milliseconds maxevents response =>
    obtain ⟨epoll, dispatch, _⟩ := poll_tables manager.epollContext response
    intro entry registered unclaimed
    simp only [EventManager.apply, epoll] at registered
    simp only [EventManager.apply, dispatch] at unclaimed
    exact attuned entry registered unclaimed

/-- A new manager registered its endpoint for `IN`. -/
theorem Started.attuned (started : manager.Started) : manager.Attuned := by
  intro entry registered _
  rw [started.channelKept.registered] at registered
  obtain rfl := Option.some.inj registered
  rfl

/-- The tables are sound and cover the interest list, and the endpoint is registered for
what the manager expects of it. -/
structure Firm (manager : EventManager kernel T) : Prop where
  sound : manager.Sound
  covered : manager.Covered
  attuned : manager.Attuned

/-- They stay so under the same conditions. -/
theorem Firm.apply (firm : manager.Firm) (enabled : manager.Enabled observation)
    (granted : manager.Deletes observation) (leaves : manager.LeavesEndpoint observation) :
    (manager.apply observation).Firm :=
  ⟨firm.sound.apply enabled, firm.covered.apply granted, firm.attuned.apply enabled granted leaves⟩

/-- So they are along every valid history that meets these. -/
theorem Firm.after (firm : manager.Firm) {history : List (Observation T)}
    (valid : manager.Valid history)
    (granted : Along EventManager.apply EventManager.Deletes manager history)
    (leaves : Along EventManager.apply EventManager.LeavesEndpoint manager history) :
    (manager.after history).Firm :=
  Along.invariant (fun _ _ held checked => held.apply checked.1 checked.2.1 checked.2.2) firm
    (valid.and (granted.and leaves))

/-- The tables of a new manager are firm. -/
theorem Started.firm (started : manager.Started) : manager.Firm :=
  ⟨started.consistent.sound, started.covered, started.attuned⟩

/-- An event that epoll may report: it carries the word of a registered descriptor, and
flags that one asks for or that are always reported. The endpoint's eventfd neither
fails nor hangs up, so for the endpoint it is flags that were asked for, and some. -/
def MayReport (manager : EventManager kernel T) (event : EpollEvent) : Prop :=
  kernel.ReportsWithin manager.epollContext.epoll event ∧
    (event.fd = manager.channelFd → manager.epollContext.fdDispatch event.fd = none →
      event.eventSet ≠ 0 ∧ event.eventSet &&& (.ERROR ||| .HANG_UP) = 0)

/-- Firm tables have a taker for every event epoll may report: a subscriber, or the
endpoint, and then the event is `IN`. -/
theorem Firm.taken (firm : manager.Firm) {event : EpollEvent} (reported : manager.MayReport event) :
    (manager.epollContext.fdDispatch event.fd).isSome ∨
      event.fd = manager.channelFd ∧ event.eventSet = .IN := by
  obtain ⟨⟨fd, entry, registered, verbatim, within⟩, plain⟩ := reported
  cases dispatched : manager.epollContext.fdDispatch event.fd with
  | some id => exact Or.inl rfl
  | none =>
    have named : event.fd = fd := by
      rw [EpollEvent.fd, verbatim]
      exact firm.sound.keyed fd entry registered
    rw [← named] at registered
    rcases firm.covered.covered event.fd (by simp [registered]) with own | claimed
    · obtain ⟨present, free⟩ := plain own dispatched
      have asked : entry.eventSet = .IN :=
        firm.attuned entry (own ▸ registered) (own ▸ dispatched)
      rw [asked] at within
      exact Or.inr ⟨own, EventSet.eq_in within free present⟩
    · simp [dispatched] at claimed

end EventManager

end EventLoop
