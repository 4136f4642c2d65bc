import EventLoop.Delivery

/-!
# Where a delivered event comes from

Two ledgers read the tables off the history. Who a descriptor is dispatched to
is whoever added it last, as long as it was not removed and the subscriber not
dropped since; what the kernel has for a descriptor is what was given with the
last successful addition or modification of it.

A third reading ties each call to a wait: the event is one of the batch the
latest wait returned, and since then nothing but callbacks has run and none of
them removed its descriptor. Put together, every call is to the subscriber that
added the descriptor last, with the data and within the mask that were last
given for it when the wait returned.
-/

namespace EventLoop

open Replay

variable {kernel : Kernel} {T : Type}

/-- Additions and modifications give the kernel a mask and data. -/
def Operation.Registers : Operation → Prop
  | .add _ => True
  | .modify _ => True
  | .remove _ => False

namespace Observation

/-- A successful operation on the descriptor. -/
def Touches (fd : RawFd) : Observation T → Prop
  | .operation _ performed (.ok _) => performed.fd = fd
  | _ => False

/-- A successful addition or removal of the descriptor. -/
def Moves (fd : RawFd) : Observation T → Prop
  | .operation _ (.add events) (.ok _) => events.fd = fd
  | .operation _ (.remove events) (.ok _) => events.fd = fd
  | _ => False

/-- A successful addition of the descriptor by the subscriber. -/
def AddedBy (id : SubscriberId) (fd : RawFd) (observation : Observation T) : Prop :=
  ∃ events, observation = .operation id (.add events) (.ok ()) ∧ events.fd = fd

/-- A successful addition or modification of the descriptor, with these events. -/
def Registered (fd : RawFd) (events : Events) (observation : Observation T) : Prop :=
  ∃ writer operation, observation = .operation writer operation (.ok ()) ∧
    operation.Registers ∧ operation.events = events ∧ events.fd = fd

/-- Neither moves the descriptor nor drops the subscriber. -/
def Keeps (id : SubscriberId) (fd : RawFd) (observation : Observation T) : Prop :=
  ¬ observation.Moves fd ∧ observation ≠ .removeSubscriber id

/-- A wait for events. -/
def IsWait : Observation T → Prop
  | .wait _ _ _ => True
  | _ => False

end Observation

namespace EventManager

/-- Every dispatched descriptor was added by its subscriber and kept since. -/
def DispatchRecorded (history : List (Observation T)) (manager : EventManager kernel T) : Prop :=
  ∀ fd id, manager.epollContext.fdDispatch fd = some id →
    Since (Observation.AddedBy id fd) (Observation.Keeps id fd) history

/-- Every registration was made by the last successful operation on its descriptor,
or is the endpoint's own and was never touched. -/
def InterestRecorded (history : List (Observation T)) (manager : EventManager kernel T) : Prop :=
  ∀ fd entry, kernel.interest manager.epollContext.epoll fd = some entry →
    (∃ events, events.epollEvent = entry ∧ Since (Observation.Registered fd events)
      (fun observation => ¬ observation.Touches fd) history) ∨
    (fd = manager.channelFd ∧ ∀ observation ∈ history, ¬ observation.Touches fd)

variable {manager start : EventManager kernel T} {history : List (Observation T)}
  {observation : Observation T}

/-- Every observation keeps the record of the dispatch table.

Proof: by cases on the observation. A successful addition starts the record of its
descriptor; a removal by its subscriber, or of its subscriber, takes the entry away, and
whatever else is observed keeps it. -/
theorem DispatchRecorded.apply (recorded : DispatchRecorded history manager)
    (consistent : manager.Consistent) (enabled : manager.Enabled observation) :
    DispatchRecorded (history ++ [observation]) (manager.apply observation) := by
  intro fd id dispatched
  have unmoved : manager.epollContext.fdDispatch fd = some id → observation.Keeps id fd →
      Since (Observation.AddedBy id fd) (Observation.Keeps id fd) (history ++ [observation]) :=
    fun before keeps => (recorded fd id before).extend keeps
  cases observation with
  | operation actor operation result =>
    have performed := EventOps.perform_performed manager.epollContext actor operation
    rw [← enabled.2] at performed
    simp only [EventManager.apply] at dispatched
    generalize (EventOps.perform manager.epollContext actor operation).2 = next at *
    cases performed with
    | failed operation error epoll same =>
      refine unmoved dispatched ⟨?_, by simp⟩
      cases operation <;> exact not_false
    | added events epoll unclaimed absent written =>
      rw [EpollWrapper.claim_fdDispatch, PartialMap.insert_apply] at dispatched
      split at dispatched
      · rename_i same
        obtain rfl := Option.some.inj dispatched
        exact Since.now ⟨events, rfl, same.symm⟩
      · rename_i distinct
        exact unmoved dispatched ⟨fun same => distinct same.symm, by simp⟩
    | modified events epoll present written => exact unmoved dispatched ⟨not_false, by simp⟩
    | removed events epoll present written =>
      rw [EpollWrapper.unwatch_fdDispatch, EpollWrapper.removeEvent_fdDispatch,
        PartialMap.erase_apply] at dispatched
      split at dispatched
      · cases dispatched
      · rename_i distinct
        exact unmoved dispatched ⟨fun same => distinct same.symm, by simp⟩
  | process other events => exact unmoved dispatched ⟨not_false, by simp⟩
  | store other subscriber => exact unmoved dispatched ⟨not_false, by simp⟩
  | addSubscriber other subscriber => exact unmoved dispatched ⟨not_false, by simp⟩
  | removeSubscriber other =>
    have survives : manager.epollContext.fdDispatch fd = some id ∧ other ≠ id := by
      simp only [EventManager.apply] at dispatched
      rw [EpollWrapper.remove_fdDispatch] at dispatched
      split at dispatched
      · cases dispatched
      · rename_i unlisted
        refine ⟨dispatched, ?_⟩
        rintro rfl
        exact unlisted (consistent.owned fd other dispatched).2
    exact unmoved survives.1
      ⟨not_false, fun same => survives.2 (Observation.removeSubscriber.inj same)⟩
  | wait milliseconds maxevents response =>
    obtain ⟨_, dispatch, _⟩ := poll_tables manager.epollContext response
    rw [EventManager.apply, dispatch] at dispatched
    exact unmoved dispatched ⟨not_false, by simp⟩

/-- Every observation keeps the record of the interest list: a successful operation writes
the entry anew or takes it away, and every other one leaves it. -/
theorem InterestRecorded.apply (recorded : InterestRecorded history manager)
    (enabled : manager.Enabled observation) :
    InterestRecorded (history ++ [observation]) (manager.apply observation) := by
  intro fd entry registered
  have untouched : kernel.interest manager.epollContext.epoll fd = some entry →
      ¬ observation.Touches fd →
      (∃ events, events.epollEvent = entry ∧ Since (Observation.Registered fd events)
        (fun observation => ¬ observation.Touches fd) (history ++ [observation])) ∨
      (fd = manager.channelFd ∧
        ∀ other ∈ history ++ [observation], ¬ other.Touches fd) := by
    intro before leaves
    rcases recorded fd entry before with ⟨events, same, since⟩ | ⟨own, never⟩
    · exact Or.inl ⟨events, same, since.extend leaves⟩
    · refine Or.inr ⟨own, fun other member => ?_⟩
      rcases List.mem_append.mp member with earlier | last
      · exact never other earlier
      · rw [List.mem_singleton.mp last]
        exact leaves
  rw [apply_channelFd]
  cases observation with
  | operation actor operation result =>
    have performed := EventOps.perform_performed manager.epollContext actor operation
    rw [← enabled.2] at performed
    simp only [EventManager.apply] at registered
    generalize (EventOps.perform manager.epollContext actor operation).2 = next at *
    cases performed with
    | failed operation error epoll same =>
      rw [same] at registered
      exact untouched registered not_false
    | added events epoll unclaimed absent written =>
      rw [EpollWrapper.claim_epoll, written, PartialMap.insert_apply] at registered
      split at registered
      · rename_i same
        exact Or.inl ⟨events, Option.some.inj registered,
          Since.now ⟨actor, .add events, rfl, trivial, rfl, same.symm⟩⟩
      · rename_i distinct
        exact untouched registered (fun same => distinct same.symm)
    | modified events epoll present written =>
      rw [written, PartialMap.insert_apply] at registered
      split at registered
      · rename_i same
        exact Or.inl ⟨events, Option.some.inj registered,
          Since.now ⟨actor, .modify events, rfl, trivial, rfl, same.symm⟩⟩
      · rename_i distinct
        exact untouched registered (fun same => distinct same.symm)
    | removed events epoll present written =>
      rw [EpollWrapper.unwatch_epoll, EpollWrapper.removeEvent_epoll, written,
        PartialMap.erase_apply] at registered
      split at registered
      · cases registered
      · rename_i distinct
        exact untouched registered (fun same => distinct same.symm)
  | process other events => exact untouched registered not_false
  | store other subscriber => exact untouched registered not_false
  | addSubscriber other subscriber => exact untouched registered not_false
  | removeSubscriber other =>
    simp only [EventManager.apply] at registered
    rcases EpollWrapper.remove_interest manager.epollContext other fd with kept | ⟨_, gone⟩
    · rw [kept] at registered
      exact untouched registered not_false
    · rw [gone] at registered
      cases registered
  | wait milliseconds maxevents response =>
    obtain ⟨epoll, _, _⟩ := poll_tables manager.epollContext response
    rw [EventManager.apply, epoll] at registered
    exact untouched registered not_false

/-- Along every valid history both ledgers are right. Consistency is kept beside them, for
the record of the dispatch table needs it. -/
theorem Started.recorded_after (started : start.Started) (valid : start.Valid history) :
    DispatchRecorded history (start.after history) ∧
      InterestRecorded history (start.after history) := by
  have step : ∀ (past : List (Observation T)) (manager : EventManager kernel T) observation,
      manager.Consistent ∧ DispatchRecorded past manager ∧ InterestRecorded past manager →
      manager.Enabled observation →
      (manager.apply observation).Consistent ∧
        DispatchRecorded (past ++ [observation]) (manager.apply observation) ∧
        InterestRecorded (past ++ [observation]) (manager.apply observation) := by
    rintro past manager observation ⟨consistent, dispatch, interest⟩ enabled
    exact ⟨consistent.apply enabled, dispatch.apply consistent enabled, interest.apply enabled⟩
  obtain ⟨_, dispatch, _, registered⟩ := started.shape
  have initialDispatch : DispatchRecorded [] start := by
    intro fd id dispatched
    simp [dispatch, PartialMap.empty] at dispatched
  have initialInterest : InterestRecorded [] start := by
    intro fd entry present
    rw [registered, PartialMap.insert_apply] at present
    split at present
    · rename_i same
      exact Or.inr ⟨same, fun _ member => absurd member List.not_mem_nil⟩
    · simp [PartialMap.empty] at present
  exact (Along.history_invariant step []
    ⟨started.consistent, initialDispatch, initialInterest⟩ valid).2

end EventManager

/-- What the latest wait returned, and what was observed since. -/
structure Turn (T : Type) where
  batch : List EpollEvent
  since : List (Observation T)

namespace Turn

/-- Before the first wait there is no batch. -/
def initial : Turn T := ⟨[], []⟩

/-- A wait begins a new turn; a failed one brings no events. -/
def apply (turn : Turn T) : Observation T → Turn T
  | .wait _ _ (.ok batch) => ⟨batch, []⟩
  | .wait _ _ (.error _) => ⟨[], []⟩
  | observation => ⟨turn.batch, turn.since ++ [observation]⟩

/-- A call in the turn is for an event of its batch, only callbacks have run since
the wait, and none of them removed the event's descriptor. -/
def Serves (turn : Turn T) : Observation T → Prop
  | .process _ events => events.inner ∈ turn.batch ∧
      (∀ observation ∈ turn.since, observation.InCallback) ∧ events.fd ∉ removedFds turn.since
  | _ => True

/-- Callbacks do not end the turn. -/
theorem replay_inside (turn : Turn T) {log : List (Observation T)}
    (inside : ∀ observation ∈ log, observation.InCallback) :
    replay apply turn log = ⟨turn.batch, turn.since ++ log⟩ := by
  induction log generalizing turn with
  | nil => simp
  | cons observation rest inductionHypothesis =>
    have continued : turn.apply observation = ⟨turn.batch, turn.since ++ [observation]⟩ := by
      cases observation with
      | wait milliseconds maxevents response => exact False.elim (inside _ List.mem_cons_self)
      | _ => rfl
    rw [replay_cons, continued,
      inductionHypothesis _ (fun other member => inside other (List.mem_cons_of_mem _ member))]
    simp

/-- What makes no calls serves any turn. -/
theorem serves_quiet (turn : Turn T) {log : List (Observation T)}
    (quiet : ∀ observation ∈ log, observation.NotProcess) : Along apply Serves turn log := by
  refine along_of_forall (fun observation member state => ?_)
  have silent := quiet observation member
  cases observation with
  | process id events => exact False.elim silent
  | _ => trivial

/-- The turn is read off the history: it began with the latest wait. By induction on the
history from its end: the last observation is the wait, or what came before it began the
turn. -/
theorem began (history : List (Observation T)) :
    (replay apply initial history).batch = [] ∨
      ∃ before milliseconds maxevents,
        history = before ++ .wait milliseconds maxevents (.ok (replay apply initial history).batch) ::
          (replay apply initial history).since ∧
        ∀ observation ∈ (replay apply initial history).since, ¬ observation.IsWait := by
  have step : ∀ (past : List (Observation T)) (turn : Turn T) observation,
      (turn.batch = [] ∨ ∃ before milliseconds maxevents,
        past = before ++ .wait milliseconds maxevents (.ok turn.batch) :: turn.since ∧
        ∀ other ∈ turn.since, ¬ other.IsWait) → True →
      ((turn.apply observation).batch = [] ∨ ∃ before milliseconds maxevents,
        past ++ [observation] = before ++ .wait milliseconds maxevents
          (.ok (turn.apply observation).batch) :: (turn.apply observation).since ∧
        ∀ other ∈ (turn.apply observation).since, ¬ other.IsWait) := by
    intro past turn observation sofar _
    have continued : ¬ observation.IsWait →
        turn.apply observation = ⟨turn.batch, turn.since ++ [observation]⟩ →
        ((turn.apply observation).batch = [] ∨ ∃ before milliseconds maxevents,
          past ++ [observation] = before ++ .wait milliseconds maxevents
            (.ok (turn.apply observation).batch) :: (turn.apply observation).since ∧
          ∀ other ∈ (turn.apply observation).since, ¬ other.IsWait) := by
      intro inside moved
      rw [moved]
      rcases sofar with none | ⟨before, milliseconds, maxevents, rfl, waitless⟩
      · exact Or.inl none
      · refine Or.inr ⟨before, milliseconds, maxevents, by simp, ?_⟩
        intro other member
        rcases List.mem_append.mp member with earlier | last
        · exact waitless other earlier
        · rw [List.mem_singleton.mp last]
          exact inside
    cases observation with
    | wait milliseconds maxevents response =>
      cases response with
      | error errno => exact Or.inl rfl
      | ok batch =>
        exact Or.inr ⟨past, milliseconds, maxevents, rfl,
          fun _ member => absurd member List.not_mem_nil⟩
    | _ => exact continued not_false rfl
  exact Along.history_invariant step [] (Or.inl rfl)
    (along_of_forall (fun _ _ _ => trivial))

end Turn

/-- A call serves the turn if its event is in the batch and was not removed; the
rest of its log makes no call. -/
theorem ProcessCall.serves (call : ProcessCall T) {turn : Turn T}
    (fetched : call.events.inner ∈ turn.batch)
    (inside : ∀ observation ∈ turn.since, observation.InCallback)
    (pending : call.events.fd ∉ removedFds turn.since) :
    Along Turn.apply Turn.Serves turn call.log :=
  ⟨⟨fetched, inside, pending⟩, Turn.serves_quiet _ call.callback_notProcess⟩

namespace EventManager

/-- The events of a wait carry the word of a registration and flags it may report. -/
def ReportsHonestly (manager : EventManager kernel T) : Observation T → Prop
  | .wait _ _ (.ok batch) =>
      ∀ event ∈ batch, kernel.ReportsWithin manager.epollContext.epoll event
  | _ => True

/-- An operation that succeeds named a descriptor that is not negative. The kernel refuses
a negative descriptor with `EBADF`, and a request it grants is one it was asked. -/
theorem nonnegative_of_granted (rejects : kernel.RejectsNegative) {wrapper : EpollWrapper kernel}
    {id : SubscriberId} {operation : Operation}
    (granted : (EventOps.perform wrapper id operation).1 = .ok ()) :
    operation.fd.msb = false := by
  have refused : ∀ control events, events.fd.msb = true →
      ∃ error, (EventOps.ctl wrapper control events).1 = .error error := by
    intro control events negative
    rcases answer : (kernel.ctl wrapper.epoll control events.fd events.epollEvent).1 with errno | _
    · exact ⟨.epoll errno, by rw [EventOps.ctl_error answer]⟩
    · exact absurd answer (rejects wrapper.epoll control events.fd events.epollEvent negative)
  cases negative : operation.fd.msb with
  | false => rfl
  | true =>
    cases operation with
    | add events =>
      obtain ⟨error, failed⟩ := refused .add events negative
      rw [EventOps.perform, EventOps.add_result, failed] at granted
      split at granted <;> cases granted
    | modify events =>
      obtain ⟨error, failed⟩ := refused .modify events negative
      rw [EventOps.perform, EventOps.modify, failed] at granted
      cases granted
    | remove events =>
      obtain ⟨error, failed⟩ := refused .delete events negative
      rw [EventOps.perform, EventOps.remove_result, failed] at granted
      cases granted

/-- Where the event of a call comes from. -/
structure Routed (history : List (Observation T)) (id : SubscriberId) (events : Events) : Prop where
  /-- The subscriber added the descriptor last, and since then neither was the
  descriptor removed nor the subscriber dropped. -/
  added : Since (Observation.AddedBy id events.fd) (Observation.Keeps id events.fd) history
  /-- The event is in the batch of the latest wait. The last successful addition or
  modification of the descriptor before that wait gave it its data and a mask it
  stays within. -/
  reported : ∃ before milliseconds maxevents batch since registered,
    history = before ++ .wait milliseconds maxevents (.ok batch) :: since ∧
    (∀ observation ∈ since, ¬ observation.IsWait) ∧
    events.inner ∈ batch ∧
    Since (Observation.Registered events.fd registered)
      (fun observation => ¬ observation.Touches events.fd) before ∧
    events.data = registered.data ∧ events.eventSet.Within registered.eventSet ∧
    ∀ source data mask, registered = Events.withDataRaw source data mask →
      events.fd = source ∧ events.data = data ∧ events.eventSet.Within mask

variable {manager start : EventManager kernel T} {history : List (Observation T)}
  [MutEventSubscriber T]

/-- The dispatch loop serves the turn. Its unread slots are the rest of the batch,
with what was removed since the wait discarded; past the batch it reads nothing,
or off the end of the buffer. -/
theorem dispatchLoop_serves (full : List EpollEvent) (remaining : Nat) :
    ∀ (manager : EventManager kernel T) (evIndex : Nat) (batch stale : List EpollEvent)
      (since : List (Observation T)) (endpointEvent : Option EpollEvent),
      manager.Consistent → (∀ event ∈ batch, event ∈ full) →
      (∀ observation ∈ since, observation.InCallback) →
      manager.epollContext.readyEvents.drop evIndex =
        batch.map (EpollWrapper.discard (removedFds since)) ++ stale →
      (remaining ≤ batch.length ∨ stale = []) →
      Along Turn.apply Turn.Serves ⟨full, since⟩
        (dispatchLoop evIndex remaining endpointEvent manager).log := by
  induction remaining with
  | zero =>
    intro manager evIndex batch stale since endpointEvent _ _ _ _ _
    exact trivial
  | succ remaining inductionHypothesis =>
    intro manager evIndex batch stale since endpointEvent consistent fetched inside window within
    cases batch with
    | nil =>
      have ended : stale = [] := within.resolve_left (by simp)
      have outside : manager.epollContext.readyEvents[evIndex]? = none := by
        have first := congrArg (fun slots => slots[0]?) window
        simpa only [ended, List.getElem?_drop, Nat.add_zero, List.map_nil, List.append_nil,
          List.getElem?_nil] using first
      have found : (readyEvent evIndex : Manage kernel T EpollEvent) manager =
          ⟨[], .error .indexOutOfBounds⟩ := by
        simp only [readyEvent, outside]
      rw [dispatchLoop, Exec.bind_error found]
      trivial
    | cons event rest =>
      have slot : manager.epollContext.readyEvents[evIndex]? =
          some (EpollWrapper.discard (removedFds since) event) := by
        have first := congrArg (fun slots => slots[0]?) window
        simpa only [List.getElem?_drop, Nat.add_zero, List.map_cons, List.cons_append,
          List.getElem?_cons_zero] using first
      have following : manager.epollContext.readyEvents.drop (evIndex + 1) =
          rest.map (EpollWrapper.discard (removedFds since)) ++ stale := by
        rw [← List.drop_drop, window]
        rfl
      have found : (readyEvent evIndex : Manage kernel T EpollEvent) manager =
          ⟨[], .ok (EpollWrapper.discard (removedFds since) event, manager)⟩ := by
        simp only [readyEvent, slot]
      have restFetched : ∀ later ∈ rest, later ∈ full :=
        fun later member => fetched later (List.mem_cons_of_mem _ member)
      have restWithin : remaining ≤ rest.length ∨ stale = [] :=
        within.imp_left (fun bound => by simpa using bound)
      have passed : ∀ endpointEvent, Along Turn.apply Turn.Serves ⟨full, since⟩
          (dispatchLoop (evIndex + 1) remaining endpointEvent manager).log :=
        fun endpointEvent => inductionHypothesis manager (evIndex + 1) rest stale since
          endpointEvent consistent restFetched inside following restWithin
      by_cases discarded : Discarded (EpollWrapper.discard (removedFds since) event)
      · rw [dispatchLoop, Exec.bind_ok found, if_pos discarded]
        exact passed endpointEvent
      · have pending : event.fd ∉ removedFds since := by
          intro gone
          exact discarded (by simp [EpollWrapper.discard, gone, Discarded])
        have intact : EpollWrapper.discard (removedFds since) event = event := by
          simp [EpollWrapper.discard, pending]
        rw [intact] at slot found discarded
        cases dispatched : manager.epollContext.fdDispatch event.fd with
        | some id =>
          obtain ⟨call, _, unchanged, returned⟩ :=
            process_run id event (consistent.owned event.fd id dispatched).1
          have valid : manager.Valid call.log := process_valid dispatched returned
          have shifted : (manager.after call.log).epollContext.readyEvents.drop (evIndex + 1) =
              rest.map (EpollWrapper.discard (removedFds (since ++ call.log))) ++
                stale.map (EpollWrapper.discard call.removed) := by
            rw [removedFds_append, call.removedFds_log]
            exact window_after valid following
          have served : Along Turn.apply Turn.Serves ⟨full, since⟩ call.log :=
            call.serves (by rw [unchanged]; exact fetched event List.mem_cons_self) inside
              (by rw [unchanged]; exact pending)
          rw [dispatchLoop_call slot discarded dispatched returned]
          refine (along_append _ _ _).mpr ⟨served, ?_⟩
          rw [Turn.replay_inside _ call.log_inCallback]
          refine inductionHypothesis (manager.after call.log) (evIndex + 1) rest _
            (since ++ call.log) endpointEvent (consistent.after valid) restFetched ?_ shifted
            (restWithin.imp_right (fun ended => by rw [ended]; rfl))
          intro observation member
          rcases List.mem_append.mp member with earlier | later
          · exact inside observation earlier
          · exact call.log_inCallback observation later
        | none =>
          rw [dispatchLoop, Exec.bind_ok found, if_neg discarded, Exec.read_bind]
          simp only [EpollWrapper.subscriberId, dispatched]
          by_cases own : event.fd = manager.channelFd
          · simp only [own, if_true]
            exact passed (some event)
          · simp only [own, if_false]
            trivial

/-- Every call of the manager's interface serves its turn. A request makes no calls of
`process`; a turn of the loop begins with a wait, and its calls are for the events that
wait fetched. -/
theorem perform_serves (consistent : manager.Consistent) (input : Input T) (turn : Turn T) :
    Along Turn.apply Turn.Serves turn (perform input manager).log := by
  cases input with
  | request request =>
    have quiet : Exec.Logs Observation.NotProcess
        (perform (.request request) : Manage kernel T (Output T)) :=
      (serve_logs request).bind (fun _ => Exec.Logs.ret _)
    exact Turn.serves_quiet turn (quiet manager)
  | run milliseconds response closures =>
    cases response with
    | error errno =>
      have ran := runWithTimeout_error manager milliseconds errno closures
      rw [perform, Exec.bind_ok ran]
      exact ⟨trivial, trivial⟩
    | ok batch =>
      have window : (manager.polled batch).epollContext.readyEvents.drop 0 =
          (batch.take manager.epollContext.readyEvents.length).map
              (EpollWrapper.discard (removedFds ([] : List (Observation T)))) ++
            manager.epollContext.readyEvents.drop batch.length := by
        rw [removedFds, EpollWrapper.map_discard_nil]
        rfl
      have within : batch.length ≤ (batch.take manager.epollContext.readyEvents.length).length ∨
          manager.epollContext.readyEvents.drop batch.length = [] := by
        rw [List.length_take, List.drop_eq_nil_iff]
        omega
      have served := dispatchLoop_serves batch batch.length (manager.polled batch) 0
        (batch.take manager.epollContext.readyEvents.length)
        (manager.epollContext.readyEvents.drop batch.length) [] none (consistent.polled batch)
        (fun event member => List.mem_of_mem_take member)
        (fun _ member => absurd member List.not_mem_nil) window within
      have dispatched : Along Turn.apply Turn.Serves ⟨batch, []⟩
          (dispatchEvents batch.length closures (manager.polled batch)).log := by
        obtain ⟨rest, split, nothing | ⟨found, middle, rfl⟩⟩ := Exec.bind_log
          (dispatchLoop 0 batch.length none)
          (fun endpointEvent => dispatchEndpointEvent endpointEvent closures)
          (manager.polled batch)
        · rw [dispatchEvents, split, nothing, List.append_nil]
          exact served
        · rw [dispatchEvents, split]
          exact (along_append _ _ _).mpr ⟨served, Turn.serves_quiet _
            (dispatchEndpointEvent_logs found closures middle)⟩
      obtain ⟨rest, split, last⟩ := Exec.bind_log
        (runWithTimeout milliseconds (.ok batch) closures)
        (fun eventCount => (pure (.ran eventCount) : Manage kernel T (Output T))) manager
      have nothing : rest = [] := by
        rcases last with nothing | ⟨_, _, nothing⟩
        · exact nothing
        · exact nothing
      rw [perform, split, nothing, List.append_nil, runWithTimeout_ok]
      exact ⟨trivial, dispatched⟩

/-- At every moment of every run each call so far served its turn. -/
theorem Visited.serves (started : start.Started) (visited : Visited start history) :
    Along Turn.apply Turn.Serves Turn.initial history := by
  have completed : ∀ past manager, Reachable start past manager →
      Along Turn.apply Turn.Serves Turn.initial past := by
    intro past manager reached
    induction reached with
    | start => trivial
    | @step past manager next reached input output returned inductionHypothesis =>
      obtain ⟨valid, rfl⟩ := reached.valid
      exact (along_append _ _ _).mpr
        ⟨inductionHypothesis, perform_serves (started.consistent_after valid) input _⟩
  obtain ⟨past, manager, input, reached, later, whole⟩ := visited
  obtain ⟨valid, rfl⟩ := reached.valid
  have complete : Along Turn.apply Turn.Serves Turn.initial (history ++ later) := by
    rw [whole]
    exact (along_append _ _ _).mpr ⟨completed past _ reached,
      perform_serves (started.consistent_after valid) input _⟩
  exact ((along_append _ _ _).mp complete).1

/-- At every call of every run the event is routed.

Proof: the histories of both tables are kept along the run. The call is for an event of
the latest batch, whose registration the wait reports with its data word; what packs a
descriptor into that word is the operation that wrote the entry, and nobody can have taken
the descriptor over since the wait. -/
theorem process_routed (started : start.Started) (rejects : kernel.RejectsNegative)
    {id : SubscriberId} {events : Events}
    (visited : Visited start (history ++ [.process id events]))
    (honest : Along apply ReportsHonestly start history) : Routed history id events := by
  obtain ⟨valid, called, _⟩ := (along_append _ _ _).mp visited.valid
  obtain ⟨fetched, inside, pending⟩ := (visited.serves started).here
  refine ⟨(started.recorded_after valid).1 events.fd id called.2, ?_⟩
  rcases Turn.began history with nothing | ⟨before, milliseconds, maxevents, split, waitless⟩
  · rw [nothing] at fetched
    exact absurd fetched List.not_mem_nil
  · generalize (replay Turn.apply Turn.initial history).batch = batch at *
    generalize (replay Turn.apply Turn.initial history).since = since at *
    subst split
    obtain ⟨validBefore, _, validSince⟩ := (along_append _ _ _).mp valid
    have consistent := started.consistent_after validBefore
    obtain ⟨fd, entry, registered, verbatim, flags⟩ := honest.here events.inner fetched
    -- the word names the descriptor, so the entry is the descriptor's own
    obtain rfl : events.fd = fd := by
      rw [Events.fd, verbatim]
      exact consistent.keyed fd entry registered
    -- nobody can have taken the descriptor over since the wait
    have dispatched : (start.after before).epollContext.fdDispatch events.fd = some id := by
      have same := (pending_after validSince inside events.fd
        (Option.isSome_iff_exists.mpr ⟨entry, registered⟩) pending).2
      have now := called.2
      rw [replay_append, replay_cons] at now
      exact same.symm.trans now
    obtain ⟨dispatchRecorded, interestRecorded⟩ := started.recorded_after validBefore
    rcases interestRecorded events.fd entry registered with ⟨given, rfl, written⟩ | ⟨_, never⟩
    · refine ⟨before, milliseconds, maxevents, batch, since, given, rfl, waitless, fetched, written,
        ?_, flags, ?_⟩
      · rw [Events.data, Events.data, verbatim]
        rfl
      · intro source data mask same
        obtain ⟨earlier, observation, later, rfl, ⟨writer, operation, rfl, _, packed, named⟩, _⟩ :=
          written
        have source_fd : given.fd = source := by rw [same, Events.fd_withDataRaw]
        have nonnegative : source.msb = false := by
          have granted := nonnegative_of_granted rejects validBefore.here.2.symm
          rwa [Operation.fd, packed, source_fd] at granted
        refine ⟨named.symm.trans source_fd, ?_, ?_⟩
        · rw [Events.data, verbatim, ← Events.data_withDataRaw source data mask nonnegative, ← same]
          rfl
        · rw [same] at flags
          exact flags
    · obtain ⟨earlier, observation, later, rfl, ⟨added, rfl, named⟩, _⟩ :=
        dispatchRecorded events.fd id dispatched
      exact False.elim (never (.operation id (.add added) (.ok ())) (by simp) named)

/-- A subscriber adds descriptor 5 with data 7, then changes it to data 9. -/
def relabelled : List (Input Scripted) :=
  [.request (.addSubscriber ⟨[]⟩),
    .request (.eventOps ⟨1⟩ (.add (Events.withDataRaw 5 7 .IN))),
    .request (.eventOps ⟨1⟩ (.modify (Events.withDataRaw 5 9 .OUT)))]

/-- What the kernel then reports for it. -/
def relabelledEvent : EpollEvent := ⟨.OUT ||| .HANG_UP, (Events.withDataRaw 5 9 .OUT).inner.data⟩

/-- An event whose registration was modified since it was added is routed to the
subscriber that added it, with the data of the modification. -/
theorem process_routed_relabelled :
    Routed ((performAll relabelled fresh).log ++ [.wait (-1) 4 (.ok [relabelledEvent])]) ⟨1⟩
      ⟨relabelledEvent⟩ := by
  have visited : Visited fresh ((performAll relabelled fresh).log ++
      [.wait (-1) 4 (.ok [relabelledEvent])] ++ [.process ⟨1⟩ ⟨relabelledEvent⟩]) :=
    ⟨(performAll relabelled fresh).log, finish relabelled fresh,
      .run (-1) (.ok [relabelledEvent]) [], reachable_finish (by decide),
      [.store ⟨1⟩ ⟨[]⟩], rfl⟩
  refine process_routed fresh_started Kernel.reference_rejectsNegative visited ?_
  refine ⟨trivial, trivial, trivial, trivial, ?_, trivial⟩
  intro event member
  obtain rfl := List.mem_singleton.mp member
  exact ⟨5, _, rfl, rfl, by decide⟩

end EventManager

end EventLoop
