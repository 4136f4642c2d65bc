import EventLoop.Kernel

/-!
# The epoll context of a manager and the operations subscribers have on it

Two tables say who watches what. `fdDispatch` names the one subscriber a
descriptor's events go to; it decides dispatch. `subscriberWatchList` lists, for
each subscriber, the descriptors to drop when that subscriber leaves. They are
written at different places: adding a descriptor writes both, dropping a
subscriber takes its whole list, and removing one descriptor clears its dispatch
entry but shortens only the list of the subscriber that asked for the removal.

A removal also discards events already fetched for that descriptor, by zeroing
them in the ready buffer. `Performed` says once what an operation can do; later
proofs argue from it and not from the code of the operations.
-/

namespace EventLoop

/-- Identifies a registered subscriber. -/
structure SubscriberId where
  value : BitVec 64
deriving DecidableEq, Repr

/-- The epoll related state of a manager. -/
structure EpollWrapper (kernel : Kernel) where
  epoll : kernel.State
  /-- The subscriber each descriptor's events are dispatched to. -/
  fdDispatch : RawFd → Option SubscriberId
  /-- The descriptors recorded for each subscriber, in the order they were added. -/
  subscriberWatchList : SubscriberId → Option (List RawFd)
  /-- Scratch buffer for the events of the current poll. -/
  readyEvents : List EpollEvent

variable {kernel : Kernel}

namespace EpollWrapper

/-- Wrap a new epoll instance, if the kernel gave one. -/
def new (readyEventsCapacity : Nat) (epoll : Except Errno kernel.State) :
    Except Error (EpollWrapper kernel) :=
  match epoll with
  | .error errno => .error (.epoll errno)
  | .ok epoll => .ok
      { epoll := epoll
        fdDispatch := PartialMap.empty
        subscriberWatchList := PartialMap.empty
        readyEvents := List.replicate readyEventsCapacity .default }

/-- Take the kernel's response to a wait. Reported events overwrite the front of
the buffer, which keeps its length; an interrupted wait counts as no event. -/
def poll (wrapper : EpollWrapper kernel) (response : Except Errno (List EpollEvent)) :
    Except Error Nat × EpollWrapper kernel :=
  match response with
  | .ok events => (.ok events.length, { wrapper with
      readyEvents := events.take wrapper.readyEvents.length ++
        wrapper.readyEvents.drop events.length })
  | .error errno =>
      if errno = .EINTR then (.ok 0, wrapper) else (.error (.epoll errno), wrapper)

/-- Discard the event if it was fetched for one of the descriptors. -/
def discard (fds : List RawFd) (event : EpollEvent) : EpollEvent :=
  if event.fd ∈ fds then .default else event

/-- Stop dispatching the descriptor and discard what was fetched for it. -/
def removeEvent (wrapper : EpollWrapper kernel) (fd : RawFd) : EpollWrapper kernel :=
  { wrapper with
    fdDispatch := PartialMap.erase wrapper.fdDispatch fd
    readyEvents := wrapper.readyEvents.map
      (fun event => if event.fd = fd then .default else event) }

/-- The loop over a leaving subscriber's descriptors. The kernel's answers are
ignored. -/
def removeFds : List RawFd → EpollWrapper kernel → EpollWrapper kernel
  | [], wrapper => wrapper
  | fd :: rest, wrapper =>
      removeFds rest
        (removeEvent { wrapper with epoll := (kernel.ctl wrapper.epoll .delete fd .default).2 } fd)

/-- Drop a subscriber: take its list and remove every descriptor on it. -/
def remove (wrapper : EpollWrapper kernel) (subscriberId : SubscriberId) : EpollWrapper kernel :=
  removeFds ((wrapper.subscriberWatchList subscriberId).getD [])
    { wrapper with
      subscriberWatchList := PartialMap.erase wrapper.subscriberWatchList subscriberId }

/-- The subscriber the descriptor's events go to. -/
def subscriberId (wrapper : EpollWrapper kernel) (fd : RawFd) : Option SubscriberId :=
  wrapper.fdDispatch fd

/-- Dispatch the descriptor to the subscriber and append it to the subscriber's
list, which is created if there was none. -/
def claim (wrapper : EpollWrapper kernel) (subscriberId : SubscriberId) (fd : RawFd) :
    EpollWrapper kernel :=
  { wrapper with
    fdDispatch := PartialMap.insert wrapper.fdDispatch fd subscriberId
    subscriberWatchList := PartialMap.insert wrapper.subscriberWatchList subscriberId
      ((wrapper.subscriberWatchList subscriberId).getD [] ++ [fd]) }

/-- Take the first occurrence of the descriptor off the subscriber's list. -/
def unwatch (wrapper : EpollWrapper kernel) (subscriberId : SubscriberId) (fd : RawFd) :
    EpollWrapper kernel :=
  match wrapper.subscriberWatchList subscriberId with
  | some watchList => { wrapper with
      subscriberWatchList :=
        PartialMap.insert wrapper.subscriberWatchList subscriberId (watchList.erase fd) }
  | none => wrapper

/-- The descriptors recorded for a subscriber. -/
def watched (wrapper : EpollWrapper kernel) (subscriberId : SubscriberId) : List RawFd :=
  (wrapper.subscriberWatchList subscriberId).getD []

section Effects

variable (wrapper : EpollWrapper kernel) (id other : SubscriberId) (fd : RawFd) (fds : List RawFd)

/-- A claim is made in the tables; the kernel has been asked already. -/
@[simp] theorem claim_epoll : (wrapper.claim id fd).epoll = wrapper.epoll := rfl

/-- The descriptor is dispatched to the subscriber. -/
@[simp] theorem claim_fdDispatch :
    (wrapper.claim id fd).fdDispatch = PartialMap.insert wrapper.fdDispatch fd id := rfl

/-- It comes last in the subscriber's watch list, which is made if there was none. -/
@[simp] theorem claim_watchList : (wrapper.claim id fd).subscriberWatchList =
    PartialMap.insert wrapper.subscriberWatchList id (wrapper.watched id ++ [fd]) := rfl

/-- Only that watch list grows. -/
@[simp] theorem claim_watched : (wrapper.claim id fd).watched other =
    if other = id then wrapper.watched id ++ [fd] else wrapper.watched other := by
  simp only [watched, claim_watchList, PartialMap.insert_apply]
  split <;> rfl

/-- Discarding events and the dispatch entry does not involve the kernel. -/
@[simp] theorem removeEvent_epoll : (wrapper.removeEvent fd).epoll = wrapper.epoll := rfl

/-- The descriptor is dispatched to nobody. -/
@[simp] theorem removeEvent_fdDispatch :
    (wrapper.removeEvent fd).fdDispatch = PartialMap.erase wrapper.fdDispatch fd := rfl

/-- Watch lists stay: whoever calls takes the descriptor off its own. -/
@[simp] theorem removeEvent_watchList :
    (wrapper.removeEvent fd).subscriberWatchList = wrapper.subscriberWatchList := rfl

/-- Every event of the buffer that carries the descriptor is replaced by the default one. -/
@[simp] theorem removeEvent_readyEvents :
    (wrapper.removeEvent fd).readyEvents = wrapper.readyEvents.map (discard [fd]) := by
  apply List.map_congr_left
  intro event _
  simp only [discard, List.mem_singleton]

/-- Taking a descriptor off a watch list does not involve the kernel. -/
@[simp] theorem unwatch_epoll : (wrapper.unwatch id fd).epoll = wrapper.epoll := by
  unfold unwatch
  split <;> rfl

/-- It leaves the dispatch table. -/
@[simp] theorem unwatch_fdDispatch : (wrapper.unwatch id fd).fdDispatch = wrapper.fdDispatch := by
  unfold unwatch
  split <;> rfl

/-- It leaves the buffer. -/
@[simp] theorem unwatch_readyEvents :
    (wrapper.unwatch id fd).readyEvents = wrapper.readyEvents := by
  unfold unwatch
  split <;> rfl

/-- Only the list of the subscriber that asked is shortened. -/
theorem unwatch_watchList : (wrapper.unwatch id fd).subscriberWatchList other =
    if other = id then (wrapper.subscriberWatchList id).map (List.erase · fd)
    else wrapper.subscriberWatchList other := by
  unfold unwatch
  split
  · rename_i watchList present
    simp [present]
  · rename_i absent
    split
    · rename_i same
      simp [same, absent]
    · rfl

/-- The first occurrence goes from that watch list; the others stay as they are. -/
@[simp] theorem unwatch_watched : (wrapper.unwatch id fd).watched other =
    if other = id then (wrapper.watched id).erase fd else wrapper.watched other := by
  simp only [watched, unwatch_watchList]
  split
  · cases wrapper.subscriberWatchList id <;> rfl
  · rfl

/-- No list appears or disappears. -/
@[simp] theorem unwatch_watchList_isSome :
    ((wrapper.unwatch id fd).subscriberWatchList other).isSome =
      (wrapper.subscriberWatchList other).isSome := by
  rw [unwatch_watchList]
  split
  · rename_i same
    simp [same]
  · rfl

/-- A discarded event stays discarded, so discarding in turn discards the union. -/
theorem discard_discard (first second : List RawFd) (event : EpollEvent) :
    discard second (discard first event) = discard (first ++ second) event := by
  by_cases gone : event.fd ∈ first
  · simp [discard, gone]
  · simp [discard, gone]

/-- Discarding for no descriptor changes nothing. -/
@[simp] theorem map_discard_nil (events : List EpollEvent) : events.map (discard []) = events := by
  induction events with
  | nil => rfl
  | cons event rest inductionHypothesis =>
    rw [List.map_cons, inductionHypothesis]
    simp [discard]

/-- The loop keeps every list; the leaving subscriber's own was taken before it. -/
@[simp] theorem removeFds_watchList :
    (removeFds fds wrapper).subscriberWatchList = wrapper.subscriberWatchList := by
  induction fds generalizing wrapper with
  | nil => rfl
  | cons fd rest inductionHypothesis => rw [removeFds, inductionHypothesis, removeEvent_watchList]

/-- After the loop none of the descriptors is dispatched to anyone. -/
theorem removeFds_fdDispatch (tested : RawFd) :
    (removeFds fds wrapper).fdDispatch tested =
      if tested ∈ fds then none else wrapper.fdDispatch tested := by
  induction fds generalizing wrapper with
  | nil => simp [removeFds]
  | cons fd rest inductionHypothesis =>
    simp only [removeFds, inductionHypothesis, removeEvent_fdDispatch, PartialMap.erase_apply,
      List.mem_cons]
    by_cases later : tested ∈ rest
    · simp [later]
    · simp [later]

/-- After the loop every event fetched for one of the descriptors is discarded. -/
theorem removeFds_readyEvents :
    (removeFds fds wrapper).readyEvents = wrapper.readyEvents.map (discard fds) := by
  induction fds generalizing wrapper with
  | nil => rw [removeFds, map_discard_nil]
  | cons fd rest inductionHypothesis =>
    simp only [removeFds, inductionHypothesis, removeEvent_readyEvents, List.map_map]
    apply List.map_congr_left
    intro event _
    exact discard_discard [fd] rest event

/-- The loop never writes an entry of the interest list: it deletes some of the
named descriptors and leaves all other entries. -/
theorem removeFds_interest (tested : RawFd) :
    kernel.interest (removeFds fds wrapper).epoll tested = kernel.interest wrapper.epoll tested ∨
      tested ∈ fds ∧ kernel.interest (removeFds fds wrapper).epoll tested = none := by
  induction fds generalizing wrapper with
  | nil => exact Or.inl rfl
  | cons fd rest inductionHypothesis =>
    rw [removeFds]
    rcases inductionHypothesis (removeEvent { wrapper with
        epoll := (kernel.ctl wrapper.epoll .delete fd .default).2 } fd) with kept | ⟨member, gone⟩
    · rw [kept]
      simp only [removeEvent_epoll]
      by_cases same : tested = fd
      · subst same
        rcases Kernel.interest_delete wrapper.epoll tested tested .default with untouched | deleted
        · exact Or.inl untouched
        · exact Or.inr ⟨List.mem_cons_self, deleted⟩
      · exact Or.inl (Kernel.interest_other wrapper.epoll .delete fd tested .default same)
    · exact Or.inr ⟨List.mem_cons_of_mem fd member, gone⟩

/-- The kernel grants every deletion of a registered descriptor that the loop
asks for. Deleting a descriptor that is no longer registered may fail. -/
def DeletesAll : List RawFd → kernel.State → Prop
  | [], _ => True
  | fd :: rest, epoll =>
      ((kernel.interest epoll fd).isSome → (kernel.ctl epoll .delete fd .default).1 = .ok ()) ∧
        DeletesAll rest (kernel.ctl epoll .delete fd .default).2

/-- Under a kernel that deletes what is registered, so does every loop. -/
theorem deletesAll_of_deletesPresent (deletes : kernel.DeletesPresent) (epoll : kernel.State) :
    DeletesAll fds epoll := by
  induction fds generalizing epoll with
  | nil => trivial
  | cons fd rest inductionHypothesis =>
    exact ⟨deletes epoll fd .default, inductionHypothesis _⟩

/-- When its deletions are granted, the loop unregisters exactly the descriptors
it is given. -/
theorem removeFds_interest_exact (granted : DeletesAll fds wrapper.epoll) (tested : RawFd) :
    kernel.interest (removeFds fds wrapper).epoll tested =
      if tested ∈ fds then none else kernel.interest wrapper.epoll tested := by
  induction fds generalizing wrapper with
  | nil => simp [removeFds]
  | cons fd rest inductionHypothesis =>
    rw [removeFds, inductionHypothesis _ granted.2]
    simp only [removeEvent_epoll, List.mem_cons]
    by_cases later : tested ∈ rest
    · simp [later]
    · by_cases same : tested = fd
      · subst same
        simp only [later, or_false, if_true, if_false]
        cases present : kernel.interest wrapper.epoll tested with
        | none =>
          rcases Kernel.interest_delete wrapper.epoll tested tested .default with kept | deleted
          · rw [kept, present]
          · exact deleted
        | some entry =>
          have answer := granted.1 (by simp [present])
          exact Kernel.interest_granted wrapper.epoll .delete tested .default answer
      · simp only [later, same, or_false, if_false]
        exact Kernel.interest_other wrapper.epoll .delete fd tested .default same

/-- A removed subscriber has no watch list. -/
@[simp] theorem remove_watchList : (wrapper.remove id).subscriberWatchList =
    PartialMap.erase wrapper.subscriberWatchList id := by
  simp only [remove, removeFds_watchList]

/-- So it watches nothing, and nobody else's watch list changes. -/
@[simp] theorem remove_watched : (wrapper.remove id).watched other =
    if other = id then [] else wrapper.watched other := by
  simp only [watched, remove_watchList, PartialMap.erase_apply]
  split <;> rfl

/-- What it watched is dispatched to nobody, and everything else as before. -/
theorem remove_fdDispatch : (wrapper.remove id).fdDispatch fd =
    if fd ∈ wrapper.watched id then none else wrapper.fdDispatch fd :=
  removeFds_fdDispatch _ _ fd

/-- The buffer loses the events of all it watched. -/
theorem remove_readyEvents : (wrapper.remove id).readyEvents =
    wrapper.readyEvents.map (discard (wrapper.watched id)) :=
  removeFds_readyEvents _ _

/-- The kernel's entry for a descriptor stays, or it was watched and is deleted; whether
it is deleted is the kernel's to say, for the answer is not looked at. -/
theorem remove_interest : kernel.interest (wrapper.remove id).epoll fd =
      kernel.interest wrapper.epoll fd ∨
    fd ∈ wrapper.watched id ∧ kernel.interest (wrapper.remove id).epoll fd = none :=
  removeFds_interest _ _ fd

/-- If the kernel grants the deletions the subscriber's entries go, and no others. -/
theorem remove_interest_exact (granted : DeletesAll (wrapper.watched id) wrapper.epoll) :
    kernel.interest (wrapper.remove id).epoll fd =
      if fd ∈ wrapper.watched id then none else kernel.interest wrapper.epoll fd :=
  removeFds_interest_exact
    { wrapper with subscriberWatchList := PartialMap.erase wrapper.subscriberWatchList id } _
    granted fd

end Effects

end EpollWrapper

/-- What a subscriber may ask of the `EventOps` it is given. -/
inductive Operation where
  | add (events : Events)
  | modify (events : Events)
  | remove (events : Events)
deriving DecidableEq, Repr

namespace Operation

/-- The `Events` an operation is called with. -/
def events : Operation → Events
  | .add events => events
  | .modify events => events
  | .remove events => events

/-- The descriptor the operation names. -/
def fd (operation : Operation) : RawFd := operation.events.fd

/-- The control request the operation comes down to. -/
def request : Operation → ControlOperation
  | .add _ => .add
  | .modify _ => .modify
  | .remove _ => .delete

end Operation

namespace EventOps

/-- Pass a control request on to the kernel. The operations of an `EventOps` take
the epoll context it borrows and the subscriber it is bound to. -/
def ctl (wrapper : EpollWrapper kernel) (operation : ControlOperation) (events : Events) :
    Except Error Unit × EpollWrapper kernel :=
  let answer := kernel.ctl wrapper.epoll operation events.fd events.epollEvent
  (answer.1.mapError .epoll, { wrapper with epoll := answer.2 })

/-- Register a descriptor, unless it is dispatched already: the kernel is asked, and if it
grants the request the descriptor is claimed for the subscriber. -/
def add (wrapper : EpollWrapper kernel) (subscriberId : SubscriberId) (events : Events) :
    Except Error Unit × EpollWrapper kernel :=
  if (wrapper.fdDispatch events.fd).isSome then (.error .fdAlreadyRegistered, wrapper)
  else
    match ctl wrapper .add events with
    | (.error error, wrapper) => (.error error, wrapper)
    | (.ok (), wrapper) => (.ok (), wrapper.claim subscriberId events.fd)

/-- Change the event set and the data of a registration; only the kernel is asked. -/
def modify (wrapper : EpollWrapper kernel) (events : Events) :
    Except Error Unit × EpollWrapper kernel :=
  ctl wrapper .modify events

/-- Unregister a descriptor: the kernel is asked first, and then the dispatch entry, the
pending events and the subscriber's watch list entry go. -/
def remove (wrapper : EpollWrapper kernel) (subscriberId : SubscriberId) (events : Events) :
    Except Error Unit × EpollWrapper kernel :=
  match ctl wrapper .delete events with
  | (.error error, wrapper) => (.error error, wrapper)
  | (.ok (), wrapper) => (.ok (), (wrapper.removeEvent events.fd).unwatch subscriberId events.fd)

/-- Perform an operation with the `EventOps` bound to the subscriber. -/
def perform (wrapper : EpollWrapper kernel) (subscriberId : SubscriberId) :
    Operation → Except Error Unit × EpollWrapper kernel
  | .add events => add wrapper subscriberId events
  | .modify events => modify wrapper events
  | .remove events => remove wrapper subscriberId events

/-- Everything an operation can do: fail and leave all but the kernel's hidden
state alone, or have exactly the effect of its kind. -/
inductive Performed (wrapper : EpollWrapper kernel) (subscriberId : SubscriberId) :
    Operation → Except Error Unit → EpollWrapper kernel → Prop
  | failed (operation : Operation) (error : Error) (epoll : kernel.State)
      (same : kernel.interest epoll = kernel.interest wrapper.epoll) :
      Performed wrapper subscriberId operation (.error error) { wrapper with epoll := epoll }
  | added (events : Events) (epoll : kernel.State)
      (unclaimed : wrapper.fdDispatch events.fd = none)
      (absent : kernel.interest wrapper.epoll events.fd = none)
      (written : kernel.interest epoll =
        PartialMap.insert (kernel.interest wrapper.epoll) events.fd events.epollEvent) :
      Performed wrapper subscriberId (.add events) (.ok ())
        (EpollWrapper.claim { wrapper with epoll := epoll } subscriberId events.fd)
  | modified (events : Events) (epoll : kernel.State)
      (present : (kernel.interest wrapper.epoll events.fd).isSome)
      (written : kernel.interest epoll =
        PartialMap.insert (kernel.interest wrapper.epoll) events.fd events.epollEvent) :
      Performed wrapper subscriberId (.modify events) (.ok ()) { wrapper with epoll := epoll }
  | removed (events : Events) (epoll : kernel.State)
      (present : (kernel.interest wrapper.epoll events.fd).isSome)
      (written : kernel.interest epoll =
        PartialMap.erase (kernel.interest wrapper.epoll) events.fd) :
      Performed wrapper subscriberId (.remove events) (.ok ())
        ((EpollWrapper.removeEvent { wrapper with epoll := epoll } events.fd).unwatch
          subscriberId events.fd)

/-- A failed control request changes no entry of the interest list. -/
theorem ctl_error {wrapper : EpollWrapper kernel} {operation : ControlOperation} {events : Events}
    {errno : Errno}
    (answer : (kernel.ctl wrapper.epoll operation events.fd events.epollEvent).1 = .error errno) :
    ctl wrapper operation events = (.error (.epoll errno),
      { wrapper with
        epoll := (kernel.ctl wrapper.epoll operation events.fd events.epollEvent).2 }) := by
  simp only [ctl, answer, Except.mapError]

/-- A granted control request returns success. -/
theorem ctl_ok {wrapper : EpollWrapper kernel} {operation : ControlOperation} {events : Events}
    (answer : (kernel.ctl wrapper.epoll operation events.fd events.epollEvent).1 = .ok ()) :
    ctl wrapper operation events = (.ok (),
      { wrapper with
        epoll := (kernel.ctl wrapper.epoll operation events.fd events.epollEvent).2 }) := by
  simp only [ctl, answer, Except.mapError]

/-- An addition returns what the kernel answers, unless the descriptor is taken. -/
theorem add_result (wrapper : EpollWrapper kernel) (subscriberId : SubscriberId) (events : Events) :
    (add wrapper subscriberId events).1 =
      if (wrapper.fdDispatch events.fd).isSome then .error .fdAlreadyRegistered
      else (ctl wrapper .add events).1 := by
  unfold add
  split
  · rfl
  · rcases ctl wrapper .add events with ⟨error | _, after⟩ <;> rfl

/-- A removal returns what the kernel answers. -/
theorem remove_result (wrapper : EpollWrapper kernel) (subscriberId : SubscriberId)
    (events : Events) :
    (remove wrapper subscriberId events).1 = (ctl wrapper .delete events).1 := by
  unfold remove
  rcases ctl wrapper .delete events with ⟨error | _, after⟩ <;> rfl

/-- Every operation does one of these things. The operations reach the maps only
after the kernel granted their request. -/
theorem perform_performed (wrapper : EpollWrapper kernel) (subscriberId : SubscriberId)
    (operation : Operation) :
    Performed wrapper subscriberId operation (perform wrapper subscriberId operation).1
      (perform wrapper subscriberId operation).2 := by
  cases operation with
  | add events =>
    by_cases claimed : (wrapper.fdDispatch events.fd).isSome = true
    · simp only [perform, add, claimed, if_true]
      exact .failed _ _ wrapper.epoll rfl
    · have unclaimed : wrapper.fdDispatch events.fd = none := by simpa using claimed
      simp only [perform, add, claimed]
      rcases answer : (kernel.ctl wrapper.epoll .add events.fd events.epollEvent).1 with errno | _
      · rw [ctl_error answer]
        exact .failed _ _ _ (kernel.refused _ _ _ _ _ answer)
      · obtain ⟨absent, written⟩ := kernel.granted _ _ _ _ answer
        rw [ctl_ok answer]
        exact .added events _ unclaimed absent written
  | modify events =>
    simp only [perform, modify]
    rcases answer : (kernel.ctl wrapper.epoll .modify events.fd events.epollEvent).1 with errno | _
    · rw [ctl_error answer]
      exact .failed _ _ _ (kernel.refused _ _ _ _ _ answer)
    · obtain ⟨present, written⟩ := kernel.granted _ _ _ _ answer
      rw [ctl_ok answer]
      exact .modified events _ present written
  | remove events =>
    simp only [perform, remove]
    rcases answer : (kernel.ctl wrapper.epoll .delete events.fd events.epollEvent).1 with errno | _
    · rw [ctl_error answer]
      exact .failed _ _ _ (kernel.refused _ _ _ _ _ answer)
    · obtain ⟨present, written⟩ := kernel.granted _ _ _ _ answer
      rw [ctl_ok answer]
      exact .removed events _ present written

section Other

variable {wrapper next : EpollWrapper kernel} {id : SubscriberId} {operation : Operation}
  {result : Except Error Unit}

/-- Operations change no entry of the interest list but the one they name. -/
theorem Performed.interest_other (performed : Performed wrapper id operation result next)
    {fd : RawFd} (distinct : fd ≠ operation.fd) :
    kernel.interest next.epoll fd = kernel.interest wrapper.epoll fd := by
  cases performed with
  | failed operation error epoll same => rw [same]
  | added events epoll unclaimed absent written =>
    rw [EpollWrapper.claim_epoll, written, PartialMap.insert_apply]
    exact if_neg distinct
  | modified events epoll present written =>
    rw [written, PartialMap.insert_apply]
    exact if_neg distinct
  | removed events epoll present written =>
    rw [EpollWrapper.unwatch_epoll, EpollWrapper.removeEvent_epoll, written,
      PartialMap.erase_apply]
    exact if_neg distinct

/-- Nor any dispatch entry but that descriptor's. -/
theorem Performed.fdDispatch_other (performed : Performed wrapper id operation result next)
    {fd : RawFd} (distinct : fd ≠ operation.fd) : next.fdDispatch fd = wrapper.fdDispatch fd := by
  cases performed with
  | failed operation error epoll same => rfl
  | added events epoll unclaimed absent written =>
    rw [EpollWrapper.claim_fdDispatch, PartialMap.insert_apply]
    exact if_neg distinct
  | modified events epoll present written => rfl
  | removed events epoll present written =>
    rw [EpollWrapper.unwatch_fdDispatch, EpollWrapper.removeEvent_fdDispatch,
      PartialMap.erase_apply]
    exact if_neg distinct

end Other

end EventOps

end EventLoop
