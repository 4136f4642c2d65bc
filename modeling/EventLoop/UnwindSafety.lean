import EventLoop.Counters
import EventLoop.Ownership

/-!
# A caught panic does not corrupt the manager

A panic can leave a callback anywhere: between two of its operations, in the
middle of a batch, inside the `init` of a subscriber that was just enrolled, or
inside a closure. Whoever catches it has a manager whose tables agree as they do
after any other call. So the calls after it meet no panic of the manager's own,
but for the id counter: a fetched event that is not discarded always has a taker,
whatever the callbacks before it did and however they ended.
-/

namespace EventLoop

open Replay

namespace EventManager

variable {kernel : Kernel} {T : Type}

/-- What a callback may be observed to do, where it may. -/
def Inside (manager : EventManager kernel T) (observation : Observation T) : Prop :=
  manager.Enabled observation ∧ observation.InCallback

/-- Each of the first slots of the buffer holds an event that was discarded, that
is dispatched to somebody, or that is the endpoint's and reports what it should. -/
def Awaits (eventCount : Nat) (manager : EventManager kernel T) : Prop :=
  ∀ index < eventCount, ∃ event, manager.epollContext.readyEvents[index]? = some event ∧
    (Discarded event ∨ (manager.epollContext.fdDispatch event.fd).isSome ∨
      event.fd = manager.channelFd ∧ event.eventSet = .IN)

/-- An operation may take the dispatch entry of an event away, but then it discards
the event. -/
theorem Awaits.performed {eventCount : Nat} {manager : EventManager kernel T}
    {id : SubscriberId} {operation : Operation} {result : Except Error Unit}
    {next : EpollWrapper kernel} (awaits : manager.Awaits eventCount)
    (performed : EventOps.Performed manager.epollContext id operation result next) :
    Awaits eventCount { manager with epollContext := next } := by
  intro index inside
  obtain ⟨event, fetched, taken⟩ := awaits index inside
  refine ⟨EpollWrapper.discard (operation.removes result) event, ?_, ?_⟩
  · change next.readyEvents[index]? = _
    rw [performed.readyEvents, List.getElem?_map, fetched]
    rfl
  · by_cases gone : event.fd ∈ operation.removes result
    · rw [EpollWrapper.discard, if_pos gone]
      exact Or.inl ⟨rfl, rfl⟩
    · rw [EpollWrapper.discard, if_neg gone]
      refine taken.imp_right (Or.imp_left fun dispatched => ?_)
      change (next.fdDispatch event.fd).isSome
      cases performed with
      | failed operation error epoll same => exact dispatched
      | added events epoll unclaimed absent written =>
        rw [EpollWrapper.claim_fdDispatch, PartialMap.insert_apply]
        split
        · rfl
        · exact dispatched
      | modified events epoll present written => exact dispatched
      | removed events epoll present written =>
        have elsewhere : event.fd ≠ events.fd := by simpa [Operation.removes] using gone
        simpa [elsewhere] using dispatched

/-- Nothing a callback does leaves a fetched event without a taker. -/
theorem Awaits.apply {eventCount : Nat} {manager : EventManager kernel T}
    {observation : Observation T} (awaits : manager.Awaits eventCount)
    (inside : manager.Inside observation) : (manager.apply observation).Awaits eventCount := by
  obtain ⟨_, within⟩ := inside
  cases observation with
  | operation id operation result =>
    exact awaits.performed (EventOps.perform_performed manager.epollContext id operation)
  | process id events => exact awaits
  | store id subscriber => exact awaits
  | addSubscriber id subscriber => exact within.elim
  | removeSubscriber id => exact within.elim
  | wait milliseconds maxevents response => exact within.elim

/-- A batch that the kernel may report finds its takers in firm tables. -/
theorem awaits_polled {manager : EventManager kernel T} (firm : manager.Firm)
    {batch : List EpollEvent} (fits : batch.length ≤ manager.epollContext.readyEvents.length)
    (reported : ∀ event ∈ batch, manager.MayReport event) :
    (manager.polled batch).Awaits batch.length := by
  intro index inside
  have fetched : (manager.polled batch).epollContext.readyEvents[index]? = batch[index]? := by
    simp only [polled, EpollWrapper.poll, List.take_of_length_le fits]
    exact List.getElem?_append_left inside
  rw [fetched]
  exact ⟨batch[index], List.getElem?_eq_getElem inside,
    Or.inr (firm.taken (reported batch[index] (List.getElem_mem inside)))⟩

end EventManager

namespace World

variable {kernel : Kernel} {H T : Type}

/-- A computation of the manager's thread logs a history of the manager that is
enabled in the given sense and leads to the manager it leaves. -/
abbrev Traced {α : Type} (enabled : EventManager kernel T → Observation T → Prop)
    (pre : World kernel H T → Prop) (body : Manage kernel H T α)
    (post : α → World kernel H T → Prop) (fault : Fault → World kernel H T → Prop) : Prop :=
  Attempt.Traced World.manager EventManager.apply enabled pre body post fault

/-- A panic the callers have to answer for: of a callback, whose subscriber is still
registered, of a closure, or of the last id there is. -/
def Blamed : Fault → World kernel H T → Prop
  | .callback id _, world => world.manager.Live id
  | .closure _, _ => True
  | .manager panic, world =>
      panic = .nextIdOverflow ∧ world.manager.subscribers.nextId = BitVec.allOnes 64

section Callbacks

variable {enabled : EventManager kernel T → Observation T → Prop}
  {fault : Fault → World kernel H T → Prop}

/-- A computation of the manager that never panics. -/
theorem within_total {α : Type} {body : EventManager.Manage kernel T α}
    {pre : EventManager kernel T → Prop} {post : α → EventManager kernel T → Prop}
    (traced : Exec.Traced EventManager.apply enabled pre body post (fun _ _ => False)) :
    Traced enabled (fun world => pre world.manager) (within body)
      (fun value world => post value world.manager) fault := by
  intro world holds
  obtain ⟨checked, ended⟩ := traced world.manager holds
  rcases run : body world.manager with ⟨log, panic | ⟨value, manager⟩⟩
  · rw [run] at ended
    exact ended.elim
  · rw [run] at checked ended
    rw [within, Attempt.within_ok run]
    exact ⟨checked, ended.1, ended.2⟩

/-- Borrowing a subscriber changes nothing, and a missing one is the only way it
fails. -/
theorem getMutUnchecked_traced (id : SubscriberId) {pre : World kernel H T → Prop}
    (justified : ∀ world, pre world → ¬ world.manager.Live id →
      fault (.manager .unwrapNone) world) :
    Traced enabled pre (within (EventManager.getMutUnchecked id) : Manage kernel H T T)
      (fun _ world => world.manager.Live id ∧ pre world) fault := by
  intro world holds
  cases registered : world.manager.subscribers.subscribers id with
  | none =>
    have missing : ¬ world.manager.Live id := by simp [EventManager.Live, registered]
    rw [getMutUnchecked_none registered]
    exact ⟨trivial, rfl, justified world holds missing⟩
  | some subscriber =>
    have live : world.manager.Live id := by simp [EventManager.Live, registered]
    rw [getMutUnchecked_some registered]
    exact ⟨trivial, rfl, live, holds⟩

/-- The others reach the shared memory and nothing of the manager. -/
theorem borrow_traced (pre : EventManager kernel T → Prop) :
    Traced enabled (fun world => pre world.manager) (borrow : Manage kernel H T H)
      (fun _ world => pre world.manager) fault := by
  intro world holds
  exact ⟨trivial, rfl, holds⟩

/-- A callback does what callbacks may do, and its subscriber is registered however
it ends. -/
theorem callback_traced (id : SubscriberId) (handler : H → Handler (T × H))
    (blamed : ∀ payload world, world.manager.Live id → fault (.callback id payload) world) :
    Traced EventManager.Inside (fun world => world.manager.Live id)
      (callback id handler : Manage kernel H T Unit) (fun _ _ => True) fault := by
  have operated : ∀ operation : Operation, Traced EventManager.Inside
      (fun world => world.manager.Live id)
      (within (EventManager.operate id operation) : Manage kernel H T (Except Error Unit))
      (fun _ world => world.manager.Live id) fault := by
    intro operation
    have once : Exec.Traced EventManager.apply EventManager.Inside
        (fun manager : EventManager kernel T => manager.Live id)
        (EventManager.operate id operation) (fun _ manager => manager.Live id)
        (fun _ _ => False) := by
      intro manager live
      exact ⟨⟨⟨⟨live, rfl⟩, trivial⟩, trivial⟩, rfl, live⟩
    exact within_total once
  have concluded : ∀ ending : Ending (T × H), Traced EventManager.Inside
      (fun world => world.manager.Live id) (conclude id ending : Manage kernel H T Unit)
      (fun _ _ => True) fault := by
    intro ending world live
    have stored : (conclude id ending world : Aftermath _ _ _ _).state.manager.Live id := by
      simp [conclude, EventManager.Live, Subscribers.write]
    refine ⟨⟨⟨live, trivial⟩, trivial⟩, rfl, ?_⟩
    cases panicked : ending.panic with
    | none => simp only [conclude, panicked]
    | some payload =>
      simp only [conclude, panicked] at stored ⊢
      exact blamed payload _ stored
  refine (borrow_traced (fun manager => manager.Live id)).bind (fun heap => ?_)
  exact (Program.attempt_interpret (handler heap) (fun operation _ => operated operation)).bind
    (fun ending => (concluded ending).consequence (fun _ _ held => held) (fun _ held => held.1)
      (fun _ _ held => held) (fun _ _ held => held))

/-- Drawing an id either registers the subscriber under it or finds no id left. -/
theorem enroll_traced (subscriber : T) :
    Traced EventManager.Enabled (fun _ => True)
      (enroll subscriber : Manage kernel H T SubscriberId)
      (fun id world => world.manager.Live id) Blamed := by
  intro world _
  by_cases last : world.manager.subscribers.nextId = BitVec.allOnes 64
  · have refused : enroll subscriber world = ⟨[], world, .error (.manager .nextIdOverflow)⟩ := by
      simp only [enroll, Subscribers.add, last, if_true]
    rw [refused]
    exact ⟨trivial, rfl, rfl, last⟩
  · simp only [enroll, Subscribers.add, last, if_false]
    refine ⟨⟨rfl, trivial⟩, rfl, ?_⟩
    simp [EventManager.Live]

end Callbacks

/-- The panics the dispatch of a batch may end in, given what holds of the manager
all along: they are those of callbacks, and the manager's own where what holds does
not rule them out. The endpoint's events are as good as what holds makes them. -/
structure Excuses (eventCount : Nat) (keeps : EventManager kernel T → Prop)
    (good : EpollEvent → Prop) (fault : Fault → World kernel H T → Prop) : Prop where
  kept : ∀ manager observation, keeps manager → EventManager.Inside manager observation →
    keeps (manager.apply observation)
  called : ∀ id payload world, keeps world.manager → world.manager.Live id →
    fault (.callback id payload) world
  unowned : ∀ id fd world, keeps world.manager →
    world.manager.epollContext.fdDispatch fd = some id → ¬ world.manager.Live id →
      fault (.manager .unwrapNone) world
  missing : ∀ index world, keeps world.manager → index < eventCount →
    world.manager.epollContext.readyEvents[index]? = none →
      fault (.manager .indexOutOfBounds) world
  unclaimed : ∀ index event world, keeps world.manager → index < eventCount →
    world.manager.epollContext.readyEvents[index]? = some event →
    ¬ EventManager.Discarded event → world.manager.epollContext.fdDispatch event.fd = none →
    event.fd ≠ world.manager.channelFd → fault (.manager .unregisteredFd) world
  endpoint : ∀ index event manager, keeps manager → index < eventCount →
    manager.epollContext.readyEvents[index]? = some event → ¬ EventManager.Discarded event →
    manager.epollContext.fdDispatch event.fd = none → event.fd = manager.channelFd → good event

/-- Nothing but that a callback's subscriber is registered. -/
def Loose : Fault → World kernel H T → Prop
  | .callback id _, world => world.manager.Live id
  | _, _ => True

/-- Of what the callers answer for, a callback's subscriber is registered. -/
theorem Blamed.loose {reason : Fault} {world : World kernel H T} (blamed : Blamed reason world) :
    Loose reason world := by
  cases reason with
  | callback id payload => exact blamed
  | closure payload => trivial
  | manager panic => trivial

/-- Every panic is excused where nothing is known of the manager. -/
theorem loose_excuses (eventCount : Nat) : Excuses eventCount (fun _ : EventManager kernel T => True)
    (fun _ => True) (Loose : Fault → World kernel H T → Prop) where
  kept _ _ _ _ := trivial
  called _ _ _ _ live := live
  unowned _ _ _ _ _ _ := trivial
  missing _ _ _ _ _ := trivial
  unclaimed _ _ _ _ _ _ _ _ _ := trivial
  endpoint _ _ _ _ _ _ _ _ _ := trivial

/-- Sound tables that have a taker for every event excuse no panic of the
manager's own. -/
theorem strict_excuses (eventCount : Nat) : Excuses eventCount
    (fun manager : EventManager kernel T => manager.Sound ∧ manager.Awaits eventCount)
    (fun event => event.eventSet = .IN) (Blamed : Fault → World kernel H T → Prop) where
  kept manager observation held inside := ⟨held.1.apply inside.1, held.2.apply inside⟩
  called _ _ _ _ live := live
  unowned id fd world held dispatched missing :=
    absurd (held.1.owned fd id dispatched).1 missing
  missing index world held inside absent := by
    obtain ⟨event, fetched, _⟩ := held.2 index inside
    rw [absent] at fetched
    cases fetched
  unclaimed index event world held inside fetched kept undispatched foreign := by
    obtain ⟨other, same, taken⟩ := held.2 index inside
    obtain rfl := Option.some.inj (fetched.symm.trans same)
    rcases taken with discarded | dispatched | ⟨own, _⟩
    · exact absurd discarded kept
    · simp [undispatched] at dispatched
    · exact absurd own foreign
  endpoint index event manager held inside fetched kept undispatched own := by
    obtain ⟨other, same, taken⟩ := held.2 index inside
    obtain rfl := Option.some.inj (fetched.symm.trans same)
    rcases taken with discarded | dispatched | ⟨_, readable⟩
    · exact absurd discarded kept
    · simp [undispatched] at dispatched
    · exact readable

section Loop

variable [SharedSubscriber H T] {eventCount : Nat} {keeps : EventManager kernel T → Prop}
  {good : EpollEvent → Prop} {fault : Fault → World kernel H T → Prop}

/-- A delivery to the subscriber the descriptor is dispatched to. Its subscriber is
registered, or the excuses say what a missing one comes to; the callback keeps what holds.
-/
theorem process_traced (excuses : Excuses eventCount keeps good fault) (id : SubscriberId)
    (event : EpollEvent) :
    Traced EventManager.Inside
      (fun world => keeps world.manager ∧
        world.manager.epollContext.fdDispatch event.fd = some id)
      (process id event : Manage kernel H T Unit) (fun _ world => keeps world.manager) fault := by
  have announced : Exec.Traced EventManager.apply EventManager.Inside
      (fun manager : EventManager kernel T => manager.Live id ∧ keeps manager ∧
        manager.epollContext.fdDispatch event.fd = some id)
      (EventManager.observe (.process id (Events.withInner event)))
      (fun _ manager => manager.Live id ∧ keeps manager) (fun _ _ => False) := by
    rintro manager ⟨live, held, dispatched⟩
    exact ⟨⟨⟨⟨live, dispatched⟩, trivial⟩, trivial⟩, rfl, live, held⟩
  refine Attempt.Traced.bind (getMutUnchecked_traced id ?_) (fun subscriber =>
    (within_total announced).bind (fun _ => ?_))
  · rintro world ⟨held, dispatched⟩ missing
    exact excuses.unowned id event.fd world held dispatched missing
  · have called : Traced EventManager.Inside (fun world => world.manager.Live id)
        (callback id (SharedSubscriber.process subscriber (Events.withInner event)) :
          Manage kernel H T Unit)
        (fun _ _ => True) (fun reason world => keeps world.manager → fault reason world) :=
      callback_traced id _ (fun payload world live held =>
        excuses.called id payload world held live)
    exact (called.invariant excuses.kept).consequence (fun _ _ held => held)
      (fun _ held => held) (fun _ _ held => held.2) (fun _ _ held => held.1 held.2)

/-- The dispatch loop, from any slot on. By induction on the slots: each slot is read, and
its event is passed over, delivered, kept as the endpoint's, or excused. -/
theorem dispatchLoop_traced (excuses : Excuses eventCount keeps good fault) (evIndex : Nat)
    (remaining : Nat) (within : evIndex + remaining = eventCount)
    (endpointEvent : Option EpollEvent) (found : ∀ event, endpointEvent = some event → good event) :
    Traced EventManager.Inside (fun world => keeps world.manager)
      (dispatchLoop evIndex remaining endpointEvent : Manage kernel H T (Option EpollEvent))
      (fun last world => keeps world.manager ∧ ∀ event, last = some event → good event) fault := by
  induction remaining generalizing evIndex endpointEvent with
  | zero => exact Attempt.Traced.ret endpointEvent (fun _ held => ⟨held, found⟩)
  | succ remaining inductionHypothesis =>
    have inside : evIndex < eventCount := by omega
    have rest := inductionHypothesis (evIndex + 1) (by omega)
    have slot : Traced EventManager.Inside (fun world => keeps world.manager)
        (World.within (EventManager.readyEvent evIndex) : Manage kernel H T EpollEvent)
        (fun event world => keeps world.manager ∧
          world.manager.epollContext.readyEvents[evIndex]? = some event) fault := by
      intro world held
      cases fetched : world.manager.epollContext.readyEvents[evIndex]? with
      | none =>
        have failed : EventManager.readyEvent evIndex world.manager =
            ⟨[], .error .indexOutOfBounds⟩ := by
          simp only [EventManager.readyEvent, fetched]
        rw [World.within, Attempt.within_error failed]
        exact ⟨trivial, rfl, excuses.missing evIndex world held inside fetched⟩
      | some event =>
        have read : EventManager.readyEvent evIndex world.manager =
            ⟨[], .ok (event, world.manager)⟩ := by
          simp only [EventManager.readyEvent, fetched]
        rw [World.within, Attempt.within_ok read]
        exact ⟨trivial, rfl, held, fetched⟩
    refine slot.bind (fun event => ?_)
    by_cases discarded : EventManager.Discarded event
    · simp only [discarded, if_true]
      exact (rest endpointEvent found).consequence (fun _ _ held => held) (fun _ held => held.1)
        (fun _ _ held => held) (fun _ _ held => held)
    · simp only [discarded, if_false]
      refine Attempt.Traced.read_bind (fun now => ?_)
      split
      · rename_i id dispatched
        refine Attempt.Traced.bind ((process_traced excuses id event).consequence
          (fun _ _ held => held) ?_ (fun _ _ held => held) (fun _ _ held => held))
          (fun _ => rest endpointEvent found)
        rintro world ⟨rfl, held, _⟩
        exact ⟨held, dispatched⟩
      · rename_i undispatched
        split
        · rename_i own
          intro world holds
          obtain ⟨rfl, held, fetched⟩ := holds
          have fine : good event := excuses.endpoint evIndex event world.manager held inside
            fetched discarded undispatched own
          exact rest (some event) (fun other same => Option.some.inj same ▸ fine) world held
        · rename_i foreign
          refine Attempt.Traced.abort _ ?_
          rintro world ⟨rfl, held, fetched⟩
          exact excuses.unclaimed evIndex event world held inside fetched discarded undispatched
            foreign

end Loop

/-- What epoll promises of its response to a wait: no more events than there is room for,
and each of them one it may report. -/
def Honest (world : World kernel H T) : Input T → Prop
  | .run _ (.ok batch) _ =>
      batch.length ≤ world.manager.epollContext.readyEvents.length ∧
        ∀ event ∈ batch, world.manager.MayReport event
  | _ => True

/-- A wait on firm tables finds a taker for every event. What the response puts in the
buffer is what the kernel may report of those tables, and each such event is dispatched or
the endpoint's. -/
theorem wait_traced (milliseconds : Int) (response : Except Errno (List EpollEvent))
    (closures : List (Closure T)) :
    Traced EventManager.Enabled
      (fun world => world.manager.Firm ∧ world.Honest (.run milliseconds response closures))
      (within (EventManager.poll milliseconds response) : Manage kernel H T (Except Error Nat))
      (fun polled world => ∀ eventCount, polled = .ok eventCount →
        world.manager.Sound ∧ world.manager.Awaits eventCount) Blamed := by
  rintro world ⟨firm, honest⟩
  have ran : within (EventManager.poll milliseconds response) world =
      ⟨[.wait milliseconds (BitVec.ofNat 32 world.manager.epollContext.readyEvents.length)
          response],
        { world with manager := { world.manager with
            epollContext := (world.manager.epollContext.poll response).2 } },
        .ok (world.manager.epollContext.poll response).1⟩ := Attempt.within_ok rfl
  rw [ran]
  refine ⟨⟨rfl, trivial⟩, rfl, ?_⟩
  cases response with
  | ok batch =>
    intro eventCount counted
    obtain rfl : batch.length = eventCount := Except.ok.inj counted
    exact ⟨firm.sound.polled batch, EventManager.awaits_polled firm honest.1 honest.2⟩
  | error errno =>
    intro eventCount counted
    by_cases interrupted : errno = .EINTR
    · simp only [EpollWrapper.poll, interrupted, if_true, Except.ok.injEq] at counted ⊢
      subst counted
      exact ⟨firm.sound, fun index inside => absurd inside (Nat.not_lt_zero index)⟩
    · simp [EpollWrapper.poll, interrupted] at counted

section Calls

variable [SharedSubscriber H T]

/-- A subscriber whose `init` panics stays enrolled. -/
theorem addSubscriber_traced (subscriber : T) :
    Traced EventManager.Enabled (fun _ => True)
      (addSubscriber subscriber : Manage kernel H T SubscriberId) (fun _ _ => True) Blamed := by
  refine (enroll_traced subscriber).bind (fun id => ?_)
  refine Attempt.Traced.bind (getMutUnchecked_traced id
    (fun world live missing => absurd live missing)) (fun borrowed => ?_)
  have initialized : Traced EventManager.Inside (fun world => world.manager.Live id)
      (callback id (SharedSubscriber.init borrowed) : Manage kernel H T Unit) (fun _ _ => True)
      Blamed := callback_traced id _ (fun _ _ live => live)
  exact (initialized.consequence (fun _ _ held => held.1) (fun _ held => held.1)
    (fun _ _ held => held) (fun _ _ held => held)).bind
    (fun _ => Attempt.Traced.ret id (fun _ _ => trivial))

/-- A request panics in a callback, or for want of an id. -/
theorem serve_traced (request : Request T) :
    Traced EventManager.Enabled (fun _ => True)
      (serve request : Manage kernel H T (Response request)) (fun _ _ => True) Blamed := by
  cases request with
  | addSubscriber subscriber => exact addSubscriber_traced subscriber
  | removeSubscriber id =>
    have once : EventManager.Manage.Traced (fun _ => True)
        (EventManager.removeSubscriber id : EventManager.Manage kernel T (Except Error T))
        (fun _ _ => True) (fun _ _ => False) := EventManager.removeSubscriber_traced id
    exact within_total once
  | subscriberMut id update =>
    have once : EventManager.Manage.Traced (fun _ => True)
        (EventManager.subscriberMut id update : EventManager.Manage kernel T (Except Error T))
        (fun _ _ => True) (fun _ _ => False) := EventManager.subscriberMut_traced id update
    exact within_total once
  | eventOps id operation =>
    have once : EventManager.Manage.Traced (fun _ => True)
        (EventManager.eventOps id operation :
          EventManager.Manage kernel T (Except Error (Except Error Unit)))
        (fun _ _ => True) (fun _ _ => False) := EventManager.eventOps_traced id operation
    exact within_total once

/-- So does a closure, if it does not panic itself. -/
theorem invoke_traced (closure : Closure T) :
    Traced EventManager.Enabled (fun _ => True) (invoke closure : Manage kernel H T Unit)
      (fun _ _ => True) Blamed := by
  refine (Program.attempt_interpret closure (fun request _ => serve_traced request)).bind
    (fun panic => ?_)
  cases panic with
  | none => exact Attempt.Traced.ret () (fun _ _ => trivial)
  | some payload => exact Attempt.Traced.abort _ (fun _ _ => trivial)

/-- So do the closures one after the other, as far as they get, by induction on the queue. -/
theorem handleEndpointCalls_traced (closures : List (Closure T)) :
    Traced EventManager.Enabled (fun _ => True)
      (handleEndpointCalls closures : Manage kernel H T Unit) (fun _ _ => True) Blamed := by
  induction closures with
  | nil => exact Attempt.Traced.ret () (fun _ _ => trivial)
  | cons closure rest inductionHypothesis =>
    exact (invoke_traced closure).bind (fun _ => inductionHypothesis)

variable {eventCount : Nat} {keeps : EventManager kernel T → Prop} {good : EpollEvent → Prop}
  {fault : Fault → World kernel H T → Prop}

/-- A batch and the closures after it. -/
theorem dispatchEvents_traced (excuses : Excuses eventCount keeps good fault)
    (served : ∀ reason world, Blamed reason world → fault reason world)
    (odd : ∀ event world, good event → event.eventSet ≠ .IN →
      fault (.manager .endpointEventSet) world)
    (closures : List (Closure T)) :
    Traced EventManager.Enabled (fun world => keeps world.manager)
      (dispatchEvents eventCount closures : Manage kernel H T Unit) (fun _ _ => True) fault := by
  have looped := dispatchLoop_traced excuses 0 eventCount (Nat.zero_add _) none nofun
  refine Attempt.Traced.bind (looped.consequence (fun _ _ held => held.1) (fun _ held => held)
    (fun _ _ held => held.2) (fun _ _ held => held)) (fun found => ?_)
  cases found with
  | none => exact Attempt.Traced.ret () (fun _ _ => trivial)
  | some event =>
    rw [dispatchEndpointEvent]
    split
    · rename_i unexpected
      exact Attempt.Traced.abort _ (fun world held => odd event world (held event rfl) unexpected)
    · exact (handleEndpointCalls_traced closures).consequence (fun _ _ held => held)
        (fun _ _ => trivial) (fun _ _ held => held) served

/-- Every call logs a valid history, however it ends. Nothing is assumed of the tables, so
every panic is excused. -/
theorem perform_traced (input : Input T) :
    Traced EventManager.Enabled (fun _ => True) (perform input : Manage kernel H T (Output T))
      (fun _ _ => True) Loose := by
  have done : ∀ output : Output T, Traced EventManager.Enabled (fun _ => True)
      (pure output : Manage kernel H T (Output T)) (fun _ _ => True) Loose :=
    fun output => Attempt.Traced.ret output (fun _ _ => trivial)
  cases input with
  | request request =>
    exact ((serve_traced request).consequence (fun _ _ held => held) (fun _ held => held)
      (fun _ _ held => held) (fun _ _ held => held.loose)).bind (fun _ => done _)
  | run milliseconds response closures =>
    have waited : EventManager.Manage.Traced (fun _ => True)
        (EventManager.poll milliseconds response : EventManager.Manage kernel T (Except Error Nat))
        (fun _ _ => True) (fun _ _ => False) := EventManager.poll_traced milliseconds response
    have ran : Traced EventManager.Enabled (fun _ => True)
        (runWithTimeout milliseconds response closures : Manage kernel H T (Except Error Nat))
        (fun _ _ => True) Loose := by
      refine (within_total waited).bind (fun polled => ?_)
      cases polled with
      | error error => exact Attempt.Traced.ret _ (fun _ _ => trivial)
      | ok eventCount =>
        exact (dispatchEvents_traced (loose_excuses eventCount) (fun _ _ held => held.loose)
          (fun _ _ _ _ => trivial) closures).bind (fun _ => Attempt.Traced.ret _ (fun _ _ => trivial))
    exact ran.bind (fun _ => done _)

/-- A history of caught panics is valid and leads to the manager that is left. -/
theorem Reaches.valid {allowed : Input T → Prop} {start world : World kernel H T}
    {history : List (Observation T)} (reached : Reaches allowed start history world) :
    start.manager.Valid history ∧ world.manager = start.manager.after history := by
  induction reached with
  | start => exact ⟨trivial, rfl⟩
  | @step history world reached input may inductionHypothesis =>
    obtain ⟨valid, led⟩ := inductionHypothesis
    obtain ⟨checked, ended, _⟩ := perform_traced input world trivial
    rw [led] at checked ended
    exact ⟨(along_append _ _ _).mpr ⟨valid, checked⟩, ended.trans (replay_append _ _ _ _).symm⟩

/-- A turn of the loop on firm tables. -/
theorem runWithTimeout_traced (milliseconds : Int) (response : Except Errno (List EpollEvent))
    (closures : List (Closure T)) :
    Traced EventManager.Enabled
      (fun world => world.manager.Firm ∧ world.Honest (.run milliseconds response closures))
      (runWithTimeout milliseconds response closures : Manage kernel H T (Except Error Nat))
      (fun _ _ => True) Blamed := by
  refine (wait_traced milliseconds response closures).bind (fun polled => ?_)
  cases polled with
  | error error => exact Attempt.Traced.ret _ (fun _ _ => trivial)
  | ok eventCount =>
    have dispatched : Traced EventManager.Enabled
        (fun world => world.manager.Sound ∧ world.manager.Awaits eventCount)
        (dispatchEvents eventCount closures : Manage kernel H T Unit) (fun _ _ => True) Blamed :=
      dispatchEvents_traced (strict_excuses eventCount) (fun _ _ held => held)
        (fun _ _ readable odd => absurd readable odd) closures
    exact (dispatched.consequence (fun _ _ held => held) (fun _ held => held eventCount rfl)
      (fun _ _ held => held) (fun _ _ held => held)).bind
      (fun _ => Attempt.Traced.ret _ (fun _ _ => trivial))

/-- A call that epoll answers as it promises panics only in the callers' code, or for
want of an id. -/
theorem perform_blamed {world : World kernel H T} (firm : world.manager.Firm) {input : Input T}
    (honest : world.Honest input) {reason : Fault}
    (panicked : (perform input world).result = .error reason) :
    Blamed reason (perform input world).state := by
  have traced : Traced EventManager.Enabled
      (fun now => now.manager.Firm ∧ now.Honest input)
      (perform input : Manage kernel H T (Output T)) (fun _ _ => True) Blamed := by
    cases input with
    | request request =>
      exact ((serve_traced request).bind (fun _ => Attempt.Traced.ret _ (fun _ _ => trivial))
        ).consequence (fun _ _ held => held) (fun _ _ => trivial) (fun _ _ held => held)
        (fun _ _ held => held)
    | run milliseconds response closures =>
      exact (runWithTimeout_traced milliseconds response closures).bind
        (fun _ => Attempt.Traced.ret _ (fun _ _ => trivial))
  have ended := (traced world ⟨firm, honest⟩).2.2
  rw [panicked] at ended
  exact ended

/-- Whatever panics were caught before, and at every moment of the next call, the
tables are consistent and cover what the kernel has registered; and as long as no
subscriber modified the endpoint's registration, the next call panics only in a
callback, whose subscriber it leaves registered, in a closure, or because the last id
is used up.

Proof: however a call ends, its log is a valid history that leads to the manager it
leaves, and consistency and cover are kept along valid histories. On such tables a
wait finds a taker for every event it may report, callbacks keep it so, and what is
left is the panics of others. -/
theorem unwind_safe {start world : World kernel H T} {history : List (Observation T)}
    (started : start.manager.Started) (deletes : kernel.DeletesPresent)
    (reached : Reaches (fun _ => True) start history world) (input : Input T) :
    (∀ moment, moment <+: history ++ (perform input world).log →
      (start.manager.after moment).Consistent ∧ (start.manager.after moment).Covered) ∧
    world.manager = start.manager.after history ∧
    (Along EventManager.apply EventManager.LeavesEndpoint start.manager history →
      ∀ reason, world.Honest input → (perform input world).result = .error reason →
        Blamed reason (perform input world).state) := by
  obtain ⟨valid, led⟩ := reached.valid
  refine ⟨?_, led, ?_⟩
  · rintro moment ⟨later, whole⟩
    have checked := (reached.step input trivial).valid.1
    rw [← whole] at checked
    exact ⟨started.consistent_after ((along_append _ _ _).mp checked).1,
      started.covered_after (EventManager.deletes_of_deletesPresent deletes _ moment)⟩
  · intro leaves reason honest panicked
    have firm := started.firm.after valid
      (EventManager.deletes_of_deletesPresent deletes _ history) leaves
    rw [← led] at firm
    exact perform_blamed firm honest panicked

end Calls

/-- A counting subscriber is added on descriptor 5, and a second one on the endpoint's,
which its `init` cannot register; it panics and stays enrolled. -/
def refusedInit : List (Input CounterSubscriber) :=
  [.request (.addSubscriber ⟨⟨5, 0⟩⟩), .request (.addSubscriber ⟨⟨3, 0⟩⟩)]

/-- The endpoint is rung and descriptor 5 hangs up. -/
def rungAndHungUp : Input CounterSubscriber :=
  .run (-1) (.ok [EventManager.channelEvent 3, (Events.newRaw 5 .HANG_UP).epollEvent]) []

/-- After the panic of that `init` was caught, a wait reports the endpoint and a descriptor
that hung up, as epoll may. The call panics in the first subscriber's callback and
leaves it registered. -/
theorem unwind_safe_refusedInit :
    ∃ history world, Reaches (fun _ => True)
        (fresh () : World Kernel.reference Unit CounterSubscriber) history world ∧
      (fresh () : World Kernel.reference Unit CounterSubscriber).manager.after history =
        world.manager ∧ world.manager.Consistent ∧ world.manager.Live ⟨2⟩ ∧
      world.Honest rungAndHungUp ∧
      (perform rungAndHungUp world).result = .error (.callback ⟨1⟩
        (.message "Cannot continue execution. Associated fd was closed.")) ∧
      (perform rungAndHungUp world).state.manager.Live ⟨1⟩ := by
  have reached : Reaches (fun _ => True)
      (fresh () : World Kernel.reference Unit CounterSubscriber)
      ([] ++ (performAll refusedInit (fresh ())).1) (performAll refusedInit (fresh ())).2 :=
    Reaches.start.performAll (fun _ _ => trivial)
  have leaves : Along EventManager.apply EventManager.LeavesEndpoint
      (fresh () : World Kernel.reference Unit CounterSubscriber).manager
      ([] ++ (performAll refusedInit (fresh ())).1) :=
    ⟨trivial, trivial, trivial, trivial, trivial, trivial, trivial⟩
  have honest : (performAll refusedInit
      (fresh () : World Kernel.reference Unit CounterSubscriber)).2.Honest rungAndHungUp := by
    refine ⟨by decide, fun event member => ?_⟩
    simp only [List.mem_cons, List.not_mem_nil, or_false] at member
    rcases member with rfl | rfl
    · exact ⟨⟨3, _, rfl, rfl, by decide⟩, fun _ _ => by decide⟩
    · have other : (Events.newRaw 5 .HANG_UP).epollEvent.fd ≠ 3 := by decide
      exact ⟨⟨5, _, rfl, rfl, by decide⟩, fun own => absurd own other⟩
  obtain ⟨safe, led, blamed⟩ := unwind_safe (fresh_started ()) Kernel.reference_deletesPresent
    reached rungAndHungUp
  have panicked : (perform rungAndHungUp (performAll refusedInit
      (fresh () : World Kernel.reference Unit CounterSubscriber)).2).result =
      .error (.callback ⟨1⟩
        (.message "Cannot continue execution. Associated fd was closed.")) := rfl
  refine ⟨_, _, reached, led.symm, ?_, rfl, honest, panicked, blamed leaves _ honest panicked⟩
  rw [led]
  exact (safe _ (List.prefix_append _ _)).1

end World

end EventLoop
