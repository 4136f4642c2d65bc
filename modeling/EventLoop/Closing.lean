import EventLoop.UnwindSafety
import EventLoop.Library.Transition

/-!
# Descriptors that are closed behind the manager's back

A descriptor may be closed while it is registered, by a subscriber at the end of a
callback or by another thread at any time. The kernel then drops it from its interest
list and tells nobody. Here the manager's thread goes one callback at a time, and
between any two of its steps the interest list may shrink.

The tables stay sound, every event that can be reported still has a taker, and the
manager meets no panic of its own, as long as nobody modifies the endpoint's
registration and the kernel deletes what a leaving subscriber still has registered.
A descriptor whose number is closed while a duplicate keeps its file open stays
registered, and there the kernel does not: that case is apart. And the closed
descriptor's dispatch entry is left over: while its owner is registered the number
can neither be registered again, by anybody, nor be unregistered, for the check
against the dispatch table comes before the kernel is asked and a removal asks the
kernel first.
-/

namespace EventLoop

open Replay Transition

variable {kernel : Kernel} {H T : Type}

/-- The interest list of the second state has no entry that the first has not. -/
def Kernel.Shrinks (kernel : Kernel) (before after : kernel.State) : Prop :=
  ∀ fd entry, kernel.interest after fd = some entry → kernel.interest before fd = some entry

/-- How an operation fails on a descriptor that is dispatched and no longer registered:
an addition before the kernel is asked, any other in the kernel. -/
def Operation.Refused : Operation → Except Error Unit → Prop
  | .add _, result => result = .error .fdAlreadyRegistered
  | .modify _, result => ∃ errno, result = .error (.epoll errno)
  | .remove _, result => ∃ errno, result = .error (.epoll errno)

namespace EventManager

variable {manager : EventManager kernel T}

/-- The descriptor is dispatched to the subscriber, and the kernel no longer has it. -/
structure Stale (owner : SubscriberId) (fd : RawFd) (manager : EventManager kernel T) : Prop where
  dispatched : manager.epollContext.fdDispatch fd = some owner
  gone : kernel.interest manager.epollContext.epoll fd = none

variable {owner : SubscriberId} {fd : RawFd}

/-- Every operation on a stale descriptor is refused, whoever makes it. An addition meets
the dispatch entry before the kernel is asked; a modification or a removal asks the
kernel, which has nothing under that number. -/
theorem Stale.refused (stale : manager.Stale owner fd) (id : SubscriberId) {operation : Operation}
    (same : operation.fd = fd) :
    operation.Refused (EventOps.perform manager.epollContext id operation).1 := by
  have denied : ∀ (request : ControlOperation) (events : Events), events.fd = fd →
      (∀ entry, request.Applicable entry → entry.isSome) →
      ∃ errno, (EventOps.ctl manager.epollContext request events).1 = .error (.epoll errno) := by
    intro request events named applies
    rcases answer : (kernel.ctl manager.epollContext.epoll request events.fd
      events.epollEvent).1 with errno | _
    · exact ⟨errno, by rw [EventOps.ctl_error answer]⟩
    · have present := applies _ (kernel.granted _ _ _ _ answer).1
      rw [named, stale.gone] at present
      cases present
  cases operation with
  | add events =>
    have taken : manager.epollContext.fdDispatch events.fd = some owner := by
      rw [← stale.dispatched]
      exact congrArg _ same
    simp [EventOps.perform, EventOps.add, taken, Operation.Refused]
  | modify events => exact denied .modify events same (fun _ applies => applies)
  | remove events =>
    obtain ⟨errno, failed⟩ := denied .delete events same (fun _ applies => applies)
    refine ⟨errno, ?_⟩
    rcases run : EventOps.ctl manager.epollContext .delete events with ⟨_ | _, wrapper⟩
    · rw [run] at failed
      simp only [EventOps.perform, EventOps.remove, run]
      exact failed
    · rw [run] at failed
      cases failed

/-- No operation reaches it, and none makes anybody list it. A successful operation names
a descriptor that was free of dispatch, or that the kernel had, and a stale one is
neither. -/
theorem Stale.performed (stale : manager.Stale owner fd) {id : SubscriberId}
    {operation : Operation} {result : Except Error Unit} {next : EpollWrapper kernel}
    (performed : EventOps.Performed manager.epollContext id operation result next) :
    Stale owner fd { manager with epollContext := next } ∧
      ∀ other, fd ∈ next.watched other → fd ∈ manager.epollContext.watched other := by
  have elsewhere : ∀ {named : RawFd},
      (kernel.interest manager.epollContext.epoll named).isSome → fd ≠ named := by
    rintro named present rfl
    rw [stale.gone] at present
    cases present
  cases performed with
  | failed operation error epoll same =>
    refine ⟨⟨stale.dispatched, ?_⟩, fun _ listed => listed⟩
    change kernel.interest epoll fd = none
    rw [same]
    exact stale.gone
  | added events epoll unclaimed absent written =>
    have distinct : fd ≠ events.fd := by
      rintro rfl
      rw [stale.dispatched] at unclaimed
      cases unclaimed
    refine ⟨⟨?_, ?_⟩, ?_⟩
    · simpa [distinct] using stale.dispatched
    · simpa [written, distinct] using stale.gone
    · intro other listed
      rw [EpollWrapper.claim_watched] at listed
      split at listed
      · rename_i same
        subst same
        rcases List.mem_append.mp listed with before | now
        · exact before
        · exact absurd (List.mem_singleton.mp now) distinct
      · exact listed
  | modified events epoll present written =>
    refine ⟨⟨stale.dispatched, ?_⟩, fun _ listed => listed⟩
    simpa [written, elsewhere present] using stale.gone
  | removed events epoll present written =>
    have distinct := elsewhere present
    refine ⟨⟨?_, ?_⟩, ?_⟩
    · simpa [distinct] using stale.dispatched
    · simpa [written, distinct] using stale.gone
    · intro other listed
      rw [EpollWrapper.unwatch_watched] at listed
      split at listed
      · rename_i same
        subst same
        exact List.mem_of_mem_erase listed
      · exact listed

/-- The descriptor stays stale while no subscriber that lists it is removed, and no other
comes to list it. -/
theorem Stale.apply (stale : manager.Stale owner fd) {observation : Observation T}
    (kept : ∀ id, observation = .removeSubscriber id → fd ∉ manager.epollContext.watched id) :
    (manager.apply observation).Stale owner fd ∧
      ∀ id, fd ∈ (manager.apply observation).epollContext.watched id →
        fd ∈ manager.epollContext.watched id := by
  cases observation with
  | operation id operation result =>
    exact stale.performed (EventOps.perform_performed manager.epollContext id operation)
  | process id events => exact ⟨stale, fun _ listed => listed⟩
  | store id subscriber => exact ⟨⟨stale.dispatched, stale.gone⟩, fun _ listed => listed⟩
  | addSubscriber id subscriber => exact ⟨⟨stale.dispatched, stale.gone⟩, fun _ listed => listed⟩
  | removeSubscriber id =>
    have unlisted := kept id rfl
    refine ⟨⟨?_, ?_⟩, ?_⟩
    · change (manager.epollContext.remove id).fdDispatch fd = some owner
      rw [EpollWrapper.remove_fdDispatch, if_neg unlisted]
      exact stale.dispatched
    · change kernel.interest (manager.epollContext.remove id).epoll fd = none
      rcases EpollWrapper.remove_interest manager.epollContext id fd with same | ⟨listed, _⟩
      · rw [same]
        exact stale.gone
      · exact absurd listed unlisted
    · intro other listed
      change fd ∈ (manager.epollContext.remove id).watched other at listed
      rw [EpollWrapper.remove_watched] at listed
      split at listed
      · cases listed
      · exact listed
  | wait milliseconds maxevents response =>
    obtain ⟨epoll, dispatch, lists⟩ := poll_tables manager.epollContext response
    refine ⟨⟨?_, ?_⟩, ?_⟩
    · rw [EventManager.apply, dispatch]
      exact stale.dispatched
    · rw [EventManager.apply, epoll]
      exact stale.gone
    · intro id listed
      rw [EventManager.apply, EpollWrapper.watched, lists] at listed
      exact listed

end EventManager

namespace World

/-- The manager over another state of the kernel. -/
def onto (world : World kernel H T) (epoll : kernel.State) : World kernel H T :=
  { world with manager := { world.manager with
      epollContext := { world.manager.epollContext with epoll := epoll } } }

/-- Where the manager's thread stands: outside the manager, or in the middle of a batch
with the slot that is next, the number of slots to dispatch, and the endpoint's event
if it was found. -/
inductive Stage where
  | idle
  | batch (evIndex eventCount : Nat) (endpointEvent : Option EpollEvent)

/-- What a wait leads to. -/
def Stage.polled : Except Fault (Except Error Nat) → Stage
  | .ok (.ok eventCount) => .batch 0 eventCount none
  | _ => .idle

/-- What the dispatch of a slot leads to. A panic leaves the manager. -/
def Stage.dispatched (evIndex eventCount : Nat) : Except Fault (Option EpollEvent) → Stage
  | .ok endpointEvent => .batch (evIndex + 1) eventCount endpointEvent
  | .error _ => .idle

/-- What a step logs, and the panic it ended in, if it did. -/
structure Happening (T : Type) where
  log : List (Observation T)
  panic : Option Fault

/-- Tables that are firm are so with fewer entries in the interest list. -/
theorem firm_shrunk {world : World kernel H T} (firm : world.manager.Firm) {epoll : kernel.State}
    (shrinks : kernel.Shrinks world.manager.epollContext.epoll epoll) :
    (world.onto epoll).manager.Firm := by
  have before : ∀ fd, (kernel.interest epoll fd).isSome →
      (kernel.interest world.manager.epollContext.epoll fd).isSome := by
    intro fd registered
    obtain ⟨entry, present⟩ := Option.isSome_iff_exists.mp registered
    rw [shrinks fd entry present]
    rfl
  refine ⟨EpollWrapper.Sound.shrunk firm.sound shrinks, ⟨?_, ?_⟩,
    EpollWrapper.Attuned.shrunk firm.attuned shrinks⟩
  · exact fun fd registered => firm.covered.covered fd (before fd registered)
  · exact fun registered => firm.covered.unwatched (before _ registered)

/-- Every slot of the batch has a taker, and the endpoint's event is a good one. -/
def Stage.Awaited (manager : EventManager kernel T) : Stage → Prop
  | .idle => True
  | .batch _ eventCount endpointEvent =>
      manager.Awaits eventCount ∧ ∀ event, endpointEvent = some event → event.eventSet = .IN

/-- Less is asked of a shorter batch. -/
theorem Excuses.narrow {eventCount fewer : Nat} {keeps : EventManager kernel T → Prop}
    {good : EpollEvent → Prop} {fault : Fault → World kernel H T → Prop}
    (excuses : Excuses eventCount keeps good fault) (shorter : fewer ≤ eventCount) :
    Excuses fewer keeps good fault where
  kept := excuses.kept
  called := excuses.called
  unowned := excuses.unowned
  missing index world held inside := excuses.missing index world held (inside.trans_le shorter)
  unclaimed index event world held inside :=
    excuses.unclaimed index event world held (inside.trans_le shorter)
  endpoint index event manager held inside :=
    excuses.endpoint index event manager held (inside.trans_le shorter)

variable [SharedSubscriber H T]

/-- What a wait that epoll answers as it promises, one slot of the batch, the check of the
endpoint's event, or a request from outside or of a closure does; or descriptors are
closed. -/
inductive Tick : World kernel H T × Stage → Happening T → World kernel H T × Stage → Prop
  | serve (world : World kernel H T) (request : Request T) :
      Tick (world, .idle) ⟨(serve request world).log, (serve request world).reason⟩
        ((serve request world).state, .idle)
  | wait (world : World kernel H T) (milliseconds : Int)
      (response : Except Errno (List EpollEvent)) {closures : List (Closure T)}
      (honest : world.Honest (.run milliseconds response closures)) :
      Tick (world, .idle)
        ⟨(within (EventManager.poll milliseconds response) world).log,
          (within (EventManager.poll milliseconds response) world).reason⟩
        ((within (EventManager.poll milliseconds response) world).state,
          .polled (within (EventManager.poll milliseconds response) world).result)
  | slot (world : World kernel H T) {evIndex eventCount : Nat}
      (endpointEvent : Option EpollEvent) (inside : evIndex < eventCount) :
      Tick (world, .batch evIndex eventCount endpointEvent)
        ⟨(dispatchLoop evIndex 1 endpointEvent world).log,
          (dispatchLoop evIndex 1 endpointEvent world).reason⟩
        ((dispatchLoop evIndex 1 endpointEvent world).state,
          .dispatched evIndex eventCount (dispatchLoop evIndex 1 endpointEvent world).result)
  | finish (world : World kernel H T) (eventCount : Nat) (endpointEvent : Option EpollEvent) :
      Tick (world, .batch eventCount eventCount endpointEvent)
        ⟨(dispatchEndpointEvent endpointEvent [] world).log,
          (dispatchEndpointEvent endpointEvent [] world).reason⟩
        ((dispatchEndpointEvent endpointEvent [] world).state, .idle)
  | close (world : World kernel H T) (stage : Stage) {epoll : kernel.State}
      (shrinks : kernel.Shrinks world.manager.epollContext.epoll epoll) :
      Tick (world, stage) ⟨[], none⟩ (world.onto epoll, stage)

/-- What a step can do to the manager: it moves along a valid history, or the interest list
shrinks under it. -/
theorem Tick.inversion {state next : World kernel H T × Stage} {happening : Happening T}
    (tick : Tick state happening next) :
    (state.1.manager.Valid happening.log ∧
      next.1.manager = state.1.manager.after happening.log) ∨
    ∃ epoll, kernel.Shrinks state.1.manager.epollContext.epoll epoll ∧ happening.log = [] ∧
      next.1 = state.1.onto epoll := by
  cases tick with
  | serve world request =>
    obtain ⟨valid, led, _⟩ := serve_traced request world trivial
    exact Or.inl ⟨valid, led⟩
  | wait world milliseconds response honest =>
    have waited : EventManager.Manage.Traced (fun _ => True)
        (EventManager.poll milliseconds response : EventManager.Manage kernel T (Except Error Nat))
        (fun _ _ => True) (fun _ _ => False) := EventManager.poll_traced milliseconds response
    have traced : Traced EventManager.Enabled (fun _ => True)
        (within (EventManager.poll milliseconds response) : Manage kernel H T (Except Error Nat))
        (fun _ _ => True) Loose := within_total waited
    obtain ⟨valid, led, _⟩ := traced world trivial
    exact Or.inl ⟨valid, led⟩
  | @slot world evIndex eventCount endpointEvent inside =>
    obtain ⟨valid, led, _⟩ := dispatchLoop_traced (loose_excuses (evIndex + 1)) evIndex 1 rfl
      endpointEvent (fun _ _ => trivial) world trivial
    exact Or.inl ⟨valid.mono (fun _ _ held => held.1), led⟩
  | finish world eventCount endpointEvent =>
    refine Or.inl ?_
    cases endpointEvent with
    | none => exact ⟨trivial, rfl⟩
    | some event =>
      rw [dispatchEndpointEvent]
      split
      · exact ⟨trivial, rfl⟩
      · exact ⟨trivial, rfl⟩
  | close world stage shrinks => exact Or.inr ⟨_, shrinks, rfl, rfl⟩

/-- Every step keeps the tables sound, whatever the kernel refuses. -/
theorem Tick.sound {state next : World kernel H T × Stage} {happening : Happening T}
    (sound : state.1.manager.Sound) (tick : Tick state happening next) :
    next.1.manager.Sound := by
  rcases tick.inversion with ⟨valid, led⟩ | ⟨epoll, shrinks, _, left⟩
  · rw [led]
    exact Along.invariant (fun _ _ held enabled => held.apply enabled) sound valid
  · rw [left]
    exact EpollWrapper.Sound.shrunk sound shrinks

/-- A step in which the kernel grants the deletions of registered descriptors that the
removal of a subscriber causes, and no subscriber modifies the endpoint's
registration. -/
structure Regular (state : World kernel H T × Stage) (happening : Happening T)
    (next : World kernel H T × Stage) : Prop where
  tick : Tick state happening next
  granted : Along EventManager.apply EventManager.Deletes state.1.manager happening.log
  leaves : Along EventManager.apply EventManager.LeavesEndpoint state.1.manager happening.log

/-- Every such step keeps the tables firm. -/
theorem Regular.firm {state next : World kernel H T × Stage} {happening : Happening T}
    (firm : state.1.manager.Firm) (regular : Regular state happening next) : next.1.manager.Firm := by
  rcases regular.tick.inversion with ⟨valid, led⟩ | ⟨epoll, shrinks, _, left⟩
  · rw [led]
    exact firm.after valid regular.granted regular.leaves
  · rw [left]
    exact firm_shrunk firm shrinks

/-- A step from firm tables panics without fault of the manager, and leaves a taker for
every slot that is to come. -/
theorem Tick.blamed {state next : World kernel H T × Stage} {happening : Happening T}
    (firm : state.1.manager.Firm) (awaited : state.2.Awaited state.1.manager)
    (tick : Tick state happening next) :
    next.2.Awaited next.1.manager ∧
      ∀ reason, happening.panic = some reason → Blamed reason next.1 := by
  cases tick with
  | serve world request => exact ⟨trivial, fun _ => (serve_traced request).aborted trivial⟩
  | @wait world milliseconds response closures honest =>
    have traced := @wait_traced kernel H T milliseconds response closures
    refine ⟨?_, fun _ => traced.aborted ⟨firm, honest⟩⟩
    have ended := (traced world ⟨firm, honest⟩).2.2
    rcases result : (within (EventManager.poll milliseconds response) world).result with
      reason | error | eventCount
    · trivial
    · trivial
    · rw [result] at ended
      exact ⟨(ended eventCount rfl).2, fun _ missing => by cases missing⟩
  | @slot world evIndex eventCount endpointEvent inside =>
    obtain ⟨awaits, good⟩ := awaited
    have traced := @dispatchLoop_traced kernel H T _ _ _ _ _
      ((strict_excuses eventCount).narrow inside) evIndex 1 rfl endpointEvent good
    refine ⟨?_, fun _ => traced.aborted ⟨firm.sound, awaits⟩⟩
    have ended := (traced world ⟨firm.sound, awaits⟩).2.2
    rcases result : (dispatchLoop evIndex 1 endpointEvent world).result with reason | found
    · trivial
    · rw [result] at ended
      exact ⟨ended.1.2, ended.2⟩
  | finish world eventCount endpointEvent =>
    refine ⟨trivial, ?_⟩
    cases endpointEvent with
    | none => exact fun _ panicked => by cases panicked
    | some event =>
      have readable : ¬ event.eventSet ≠ .IN := fun odd => odd (awaited.2 event rfl)
      rw [dispatchEndpointEvent, if_neg readable]
      exact fun _ panicked => by cases panicked
  | close world stage shrinks =>
    refine ⟨?_, fun _ panicked => by cases panicked⟩
    cases stage with
    | idle => trivial
    | batch evIndex eventCount endpointEvent => exact awaited

/-- In every run of the manager's thread with descriptors closed between its steps, in
which the kernel deletes what a leaving subscriber still has registered and nobody
modifies the endpoint's registration: the tables are sound and cover what the kernel
has registered, and the next step panics only in a callback, whose subscriber it leaves
registered, or because the last id is used up.

Proof: by induction on the run, firm tables and a taker for every slot of the batch
that is under way. A closed descriptor only takes an entry away, which leaves less to
cover and fewer events to report; those already fetched keep their takers, since the
dispatch table is not told. -/
theorem survives_closing {start : World kernel H T} (started : start.manager.Started)
    {history : List (Happening T)} {world : World kernel H T} {stage : Stage}
    (run : Run Regular (start, .idle) history (world, stage)) :
    world.manager.Sound ∧ world.manager.Covered ∧
      ∀ happening next, Tick (world, stage) happening next →
        ∀ reason, happening.panic = some reason → Blamed reason next.1 := by
  have poised : world.manager.Firm ∧ stage.Awaited world.manager := by
    refine run.invariant
      (fun _ state => state.1.manager.Firm ∧ state.2.Awaited state.1.manager)
      ⟨started.firm, trivial⟩ ?_
    rintro _ state happening next ⟨firm, awaited⟩ regular
    exact ⟨regular.firm firm, (regular.tick.blamed firm awaited).1⟩
  exact ⟨poised.1.sound, poised.1.covered, fun _ _ tick => (tick.blamed poised.1 poised.2).2⟩

section Steps

/-- Steps lead from one state to the other and log the observations. -/
def Ticks (state : World kernel H T × Stage) (log : List (Observation T))
    (next : World kernel H T × Stage) : Prop :=
  ∃ history, Run Tick state history next ∧ history.flatMap Happening.log = log

/-- No step at all is a run of steps. -/
theorem Ticks.refl (state : World kernel H T × Stage) : Ticks state [] state :=
  ⟨[], .nil, rfl⟩

/-- One step is a run of steps. -/
theorem Ticks.single {state next : World kernel H T × Stage} {happening : Happening T}
    (tick : Tick state happening next) : Ticks state happening.log next :=
  ⟨[happening], Run.nil.snoc tick, by simp⟩

/-- Runs of steps are composed, and so are their logs. -/
theorem Ticks.trans {state middle next : World kernel H T × Stage}
    {log more : List (Observation T)} (first : Ticks state log middle)
    (second : Ticks middle more next) : Ticks state (log ++ more) next := by
  obtain ⟨history, run, rfl⟩ := first
  obtain ⟨later, rest, rfl⟩ := second
  exact ⟨history ++ later, run.append rest, List.flatMap_append⟩

/-- The attempt is made of steps, from one stage to the one its result leads to. -/
def Unfolds {α : Type} (before : Stage) (after : Except Fault α → Stage)
    (body : Manage kernel H T α) : Prop :=
  ∀ world, Ticks (world, before) (body world).log ((body world).state, after (body world).result)

/-- Sequencing: the second part unfolds from the stage in which the first one returns, and
an abort of the first leads to the same stage as one of the whole. -/
theorem Unfolds.bind {α β : Type} {before : Stage} {middle : Except Fault α → Stage}
    {after : Except Fault β → Stage} {first : Manage kernel H T α} {next : α → Manage kernel H T β}
    (initial : Unfolds before middle first)
    (stopped : ∀ reason, middle (.error reason) = after (.error reason))
    (rest : ∀ value, Unfolds (middle (.ok value)) after (next value)) :
    Unfolds before after (first >>= next) := by
  intro world
  have begun := initial world
  rcases run : first world with ⟨log, between, reason | value⟩
  · rw [run] at begun
    rw [Attempt.bind_error run, ← stopped reason]
    exact begun
  · rw [run] at begun
    rw [Attempt.bind_ok run]
    exact begun.trans (rest value between)

/-- Returning takes no step, so the stage has to be the one it is to end in. -/
theorem Unfolds.ret {α : Type} {stage : Stage} {after : Except Fault α → Stage} (value : α)
    (same : after (.ok value) = stage) : Unfolds stage after (pure value : Manage kernel H T α) := by
  intro world
  rw [← same]
  exact .refl _

/-- Neither does aborting. -/
theorem Unfolds.abort {α : Type} {stage : Stage} {after : Except Fault α → Stage} (reason : Fault)
    (same : after (.error reason) = stage) :
    Unfolds stage after (Attempt.abort reason : Manage kernel H T α) := by
  intro world
  rw [← same]
  exact .refl _

/-- The loop takes one slot and goes on with the next. -/
theorem dispatchLoop_succ (evIndex remaining : Nat) (endpointEvent : Option EpollEvent) :
    (dispatchLoop evIndex (remaining + 1) endpointEvent : Manage kernel H T _) =
      dispatchLoop evIndex 1 endpointEvent >>= dispatchLoop (evIndex + 1) remaining := by
  simp only [dispatchLoop, Attempt.bind_assoc]
  congr 1
  funext event
  by_cases discarded : EventManager.Discarded event
  · simp only [discarded, if_true]
    rfl
  · simp only [discarded, if_false, Attempt.bind_assoc]
    congr 1
    funext world
    cases world.manager.epollContext.subscriberId event.fd with
    | some id =>
      simp only [Attempt.bind_assoc]
      rfl
    | none =>
      by_cases own : event.fd = world.manager.channelFd
      · simp only [own, if_true]
        rfl
      · simp only [own, if_false]
        rfl

/-- Where the dispatch of a whole batch leads. -/
def Stage.drained (eventCount : Nat) : Except Fault (Option EpollEvent) → Stage
  | .ok endpointEvent => .batch eventCount eventCount endpointEvent
  | .error _ => .idle

/-- The dispatch loop is one step for each slot.

Proof: by induction on the slots to go, the first slot apart from the rest; a slot whose
dispatch panics leaves the manager at once. -/
theorem dispatchLoop_unfolds (evIndex remaining : Nat) (endpointEvent : Option EpollEvent) :
    Unfolds (.batch evIndex (evIndex + remaining) endpointEvent) (.drained (evIndex + remaining))
      (dispatchLoop evIndex remaining endpointEvent : Manage kernel H T _) := by
  induction remaining generalizing evIndex endpointEvent with
  | zero => exact .ret endpointEvent rfl
  | succ remaining inductionHypothesis =>
    have slot : Unfolds (.batch evIndex (evIndex + (remaining + 1)) endpointEvent)
        (.dispatched evIndex (evIndex + (remaining + 1)))
        (dispatchLoop evIndex 1 endpointEvent : Manage kernel H T _) :=
      fun world => .single (.slot world endpointEvent (by omega))
    rw [dispatchLoop_succ]
    refine slot.bind (fun _ => rfl) (fun found => ?_)
    have rest := inductionHypothesis (evIndex + 1) found
    rwa [Nat.add_right_comm evIndex 1 remaining] at rest

/-- Closures are made of their requests. -/
theorem handleEndpointCalls_unfolds (closures : List (Closure T)) :
    Unfolds .idle (fun _ => .idle) (handleEndpointCalls closures : Manage kernel H T Unit) := by
  have program : ∀ closure : Closure T, Unfolds .idle (fun _ => .idle)
      (Program.interpret serve closure : Manage kernel H T (Option Payload)) := by
    intro closure
    induction closure with
    | ret panic => exact .ret panic rfl
    | call request next inductionHypothesis =>
      have served : Unfolds .idle (fun _ => .idle)
          (serve request : Manage kernel H T (Response request)) :=
        fun world => .single (.serve world request)
      exact served.bind (fun _ => rfl) inductionHypothesis
  induction closures with
  | nil => exact .ret () rfl
  | cons closure rest inductionHypothesis =>
    have invoked : Unfolds .idle (fun _ => .idle) (invoke closure : Manage kernel H T Unit) := by
      refine (program closure).bind (fun _ => rfl) (fun panic => ?_)
      cases panic with
      | none => exact .ret () rfl
      | some payload => exact .abort _ rfl
    exact invoked.bind (fun _ => rfl) (fun _ => inductionHypothesis)

/-- The dispatch of a batch is its slots, the check of the endpoint's event, and the
requests of the closures. -/
theorem dispatchEvents_unfolds (eventCount : Nat) (closures : List (Closure T)) :
    Unfolds (.batch 0 eventCount none) (fun _ => .idle)
      (dispatchEvents eventCount closures : Manage kernel H T Unit) := by
  have looped := @dispatchLoop_unfolds kernel H T _ 0 eventCount none
  rw [Nat.zero_add] at looped
  refine looped.bind (fun _ => rfl) (fun found => ?_)
  have checked : Unfolds (.batch eventCount eventCount found) (fun _ => .idle)
      (dispatchEndpointEvent found [] : Manage kernel H T Unit) :=
    fun world => .single (.finish world eventCount found)
  cases found with
  | none => exact checked
  | some event =>
    by_cases odd : event.eventSet ≠ .IN
    · rw [dispatchEndpointEvent, if_pos odd] at checked ⊢
      exact checked
    · rw [dispatchEndpointEvent, if_neg odd] at checked ⊢
      exact checked.bind (fun _ => rfl) (fun _ => handleEndpointCalls_unfolds closures)

/-- A call that epoll answers as it promises is made of steps, with nothing closed
between them. -/
theorem perform_ticks {world : World kernel H T} {input : Input T} (honest : world.Honest input) :
    Ticks (world, .idle) (perform input world).log ((perform input world).state, .idle) := by
  cases input with
  | request request =>
    have served : Unfolds .idle (fun _ => .idle)
        (serve request : Manage kernel H T (Response request)) :=
      fun world => .single (.serve world request)
    have made : Unfolds .idle (fun _ => .idle)
        (perform (.request request) : Manage kernel H T (Output T)) :=
      served.bind (fun _ => rfl) (fun _ => .ret _ rfl)
    exact made world
  | run milliseconds response closures =>
    have waited : Ticks (world, .idle)
        (within (EventManager.poll milliseconds response) world).log
        ((within (EventManager.poll milliseconds response) world).state,
          .polled (within (EventManager.poll milliseconds response) world).result) :=
      .single (.wait world milliseconds response honest)
    have dispatched : ∀ eventCount, Unfolds (.batch 0 eventCount none) (fun _ => .idle)
        (dispatchEvents eventCount closures >>= fun _ => pure (.ok eventCount) :
          Manage kernel H T (Except Error Nat)) :=
      fun eventCount => (dispatchEvents_unfolds eventCount closures).bind (fun _ => rfl)
        (fun _ => .ret _ rfl)
    have ran : Ticks (world, .idle) (runWithTimeout milliseconds response closures world).log
        ((runWithTimeout milliseconds response closures world).state, .idle) := by
      rw [runWithTimeout]
      rcases run : within (EventManager.poll milliseconds response) world with
        ⟨log, after, reason | polled⟩
      · rw [run] at waited
        rw [Attempt.bind_error run]
        exact waited
      · rw [run] at waited
        rw [Attempt.bind_ok run]
        cases polled with
        | error error => exact waited.trans (.refl _)
        | ok eventCount => exact waited.trans (dispatched eventCount after)
    rw [perform]
    rcases run : runWithTimeout milliseconds response closures world with
      ⟨log, after, reason | eventCount⟩
    · rw [run] at ran
      rw [Attempt.bind_error run]
      exact ran
    · rw [run] at ran
      rw [Attempt.bind_ok run]
      exact ran.trans (.refl _)

end Steps

/-- Nothing has come of the descriptor so far: it is stale, whoever lists it listed it
before, and what was asked of it was refused. -/
structure Stuck (owner : SubscriberId) (fd : RawFd) (before : EventManager kernel T)
    (past : List (Observation T)) (now : EventManager kernel T) : Prop where
  stale : now.Stale owner fd
  listers : ∀ id, fd ∈ now.epollContext.watched id → fd ∈ before.epollContext.watched id
  refused : ∀ id operation result, .operation id operation result ∈ past →
    operation.fd = fd → operation.Refused result

/-- A stuck descriptor stays stuck under every observation but the removal of one that
listed it at the start.

Proof: the entry stays by `Stale.apply`, and every operation on it is refused by
`Stale.refused`; who lists it now listed it before. -/
theorem Stuck.apply {owner : SubscriberId} {fd : RawFd} {before now : EventManager kernel T}
    {past : List (Observation T)} (stuck : Stuck owner fd before past now)
    {observation : Observation T} (enabled : now.Enabled observation)
    (kept : ∀ id, fd ∈ before.epollContext.watched id → observation ≠ .removeSubscriber id) :
    Stuck owner fd before (past ++ [observation]) (now.apply observation) := by
  have moved := stuck.stale.apply (fun id removed listed =>
    kept id (stuck.listers id listed) removed)
  refine ⟨moved.1, fun id listed => stuck.listers id (moved.2 id listed), ?_⟩
  intro id operation result member same
  rcases List.mem_append.mp member with earlier | last
  · exact stuck.refused id operation result earlier same
  · obtain rfl := List.mem_singleton.mp last
    rw [enabled.2]
    exact stuck.stale.refused id same

/-- A step leaves it stuck. -/
theorem Tick.stuck {owner : SubscriberId} {fd : RawFd} {before : EventManager kernel T}
    {past : List (Observation T)} {state next : World kernel H T × Stage}
    {happening : Happening T} (stuck : Stuck owner fd before past state.1.manager)
    (tick : Tick state happening next)
    (kept : ∀ id, fd ∈ before.epollContext.watched id → .removeSubscriber id ∉ happening.log) :
    Stuck owner fd before (past ++ happening.log) next.1.manager := by
  rcases tick.inversion with ⟨valid, led⟩ | ⟨epoll, shrinks, silent, left⟩
  · rw [led]
    have spared : Along EventManager.apply (fun _ observation => ∀ id,
        fd ∈ before.epollContext.watched id → observation ≠ .removeSubscriber id)
        state.1.manager happening.log :=
      along_of_forall (fun observation member _ id listed same =>
        kept id listed (same ▸ member))
    exact (valid.and spared).history_invariant
      (fun _ _ _ held enabled => held.apply enabled.1 enabled.2) past stuck
  · rw [left, silent, List.append_nil]
    refine ⟨⟨stuck.stale.dispatched, ?_⟩, stuck.listers, stuck.refused⟩
    rcases entry : kernel.interest epoll fd with _ | event
    · exact entry
    · have present := shrinks fd event entry
      rw [stuck.stale.gone] at present
      cases present

/-- Once a registered descriptor is closed, then in every run after it in which no
subscriber that lists it is removed, everything asked of the descriptor is refused,
whoever asks and whatever else is closed: it cannot be added, modified or removed. It
stays so until its owner is removed, which is granted and takes the entry away.

Proof: by induction on the run after the closing. An addition is refused by the dispatch
table, anything else by the kernel, so nothing that is asked of the descriptor changes
it; and the tables stay sound, so its owner is registered and lists it. -/
theorem stuck_until_removed {start : World kernel H T} (started : start.manager.Started)
    {history later : List (Happening T)} {world final : World kernel H T} {stage last : Stage}
    (run : Run Tick (start, .idle) history (world, stage)) {owner : SubscriberId} {fd : RawFd}
    (stale : world.manager.Stale owner fd) (rest : Run Tick (world, stage) later (final, last))
    (kept : ∀ id, fd ∈ world.manager.epollContext.watched id →
      ∀ happening ∈ later, .removeSubscriber id ∉ happening.log) :
    (∀ happening ∈ later, ∀ id operation result,
      .operation id operation result ∈ happening.log → operation.fd = fd →
        operation.Refused result) ∧
    final.manager.Stale owner fd ∧
    ∃ subscriber, (serve (.removeSubscriber owner) final).result = .ok (.ok subscriber) ∧
      (serve (.removeSubscriber owner) final).state.manager.epollContext.fdDispatch fd = none := by
  have sound : final.manager.Sound :=
    (run.append rest).invariant (fun _ state => state.1.manager.Sound) started.consistent.sound
      (fun _ _ _ _ sound tick => tick.sound sound)
  have stuck : (∀ happening ∈ later, ∀ id, fd ∈ world.manager.epollContext.watched id →
        .removeSubscriber id ∉ happening.log) →
      Stuck owner fd world.manager (later.flatMap Happening.log) final.manager := by
    refine rest.invariant (fun past state => (∀ happening ∈ past, ∀ id,
        fd ∈ world.manager.epollContext.watched id → .removeSubscriber id ∉ happening.log) →
      Stuck owner fd world.manager (past.flatMap Happening.log) state.1.manager)
      (fun _ => ⟨stale, fun _ listed => listed, fun _ _ _ member => by cases member⟩) ?_
    intro past state happening next inductionHypothesis tick spared
    have before := inductionHypothesis
      (fun other member => spared other (List.mem_append_left _ member))
    have moved := tick.stuck before (spared happening (by simp))
    simpa using moved
  have now := stuck (fun happening member id listed => kept id listed happening member)
  refine ⟨?_, now.stale, ?_⟩
  · intro happening member id operation result logged same
    exact now.refused id operation result (List.mem_flatMap.mpr ⟨happening, member, logged⟩) same
  · obtain ⟨live, listed⟩ := sound.owned fd owner now.stale.dispatched
    obtain ⟨subscriber, registered⟩ := Option.isSome_iff_exists.mp live
    have removed : EventManager.removeSubscriber owner final.manager =
        ⟨[.removeSubscriber owner], .ok (.ok subscriber,
          { final.manager with
            subscribers := (final.manager.subscribers.remove owner).2
            epollContext := final.manager.epollContext.remove owner })⟩ := by
      simp only [EventManager.removeSubscriber, Subscribers.remove, registered]
    have served : within (EventManager.removeSubscriber owner) final =
        ⟨[.removeSubscriber owner],
          { final with manager := { final.manager with
              subscribers := (final.manager.subscribers.remove owner).2
              epollContext := final.manager.epollContext.remove owner } },
          .ok (.ok subscriber)⟩ := Attempt.within_ok removed
    have freed : (final.manager.epollContext.remove owner).fdDispatch fd = none := by
      rw [EpollWrapper.remove_fdDispatch, if_pos listed]
    have left := congrArg
      (fun aftermath => aftermath.state.manager.epollContext.fdDispatch fd) served
    exact ⟨subscriber, congrArg Aftermath.result served, left.trans freed⟩

section Closed

/-- The descriptor is closed and leaves the interest list. -/
def close (world : World Kernel.reference H T) (fd : RawFd) (nonnegative : fd.msb = false) :
    World Kernel.reference H T :=
  world.onto (InterestList.write world.manager.epollContext.epoll fd none nonnegative)

/-- Closing a descriptor is a step of the reference kernel: the number leaves the interest
list, and no other does. -/
theorem Tick.closed (world : World Kernel.reference H T) (stage : Stage) (fd : RawFd)
    (nonnegative : fd.msb = false) :
    Tick (world, stage) ⟨[], none⟩ (world.close fd nonnegative, stage) := by
  refine Tick.close world stage ?_
  intro other entry registered
  change Function.update (InterestList.entries world.manager.epollContext.epoll) fd none other =
    some entry at registered
  by_cases same : other = fd
  · rw [same, Function.update_self] at registered
    cases registered
  · rwa [Function.update_of_ne same] at registered

/-- A counting subscriber is added on descriptor 5. -/
def openCounter : World Kernel.reference Unit CounterSubscriber :=
  (serve (.addSubscriber ⟨⟨5, 0⟩⟩) (fresh ())).state

/-- The descriptor is closed. -/
def closedCounter : World Kernel.reference Unit CounterSubscriber := openCounter.close 5 rfl

/-- The steps up to there. Nobody is removed in them and nothing is modified. -/
theorem closedCounter_run : ∃ history : List (Happening CounterSubscriber),
    Run Regular (fresh (), .idle) history (closedCounter, .idle) := by
  rw [closedCounter, openCounter]
  exact ⟨_, (Run.nil.snoc ⟨Tick.serve _ _, ⟨trivial, trivial, trivial, trivial⟩,
    ⟨trivial, trivial, trivial, trivial⟩⟩).snoc ⟨Tick.closed _ .idle 5 rfl, trivial, trivial⟩⟩

/-- Another counting subscriber is added, on descriptor 7. -/
def joined : World Kernel.reference Unit CounterSubscriber :=
  (serve (.addSubscriber ⟨⟨7, 0⟩⟩) closedCounter).state

/-- It is removed again. -/
def passedBy : World Kernel.reference Unit CounterSubscriber :=
  (serve (.removeSubscriber ⟨2⟩) joined).state

/-- The steps up to there: the kernel deletes descriptor 7. -/
theorem passedBy_run : ∃ history : List (Happening CounterSubscriber),
    Run Regular (fresh (), .idle) history (passedBy, .idle) := by
  obtain ⟨history, run⟩ := closedCounter_run
  have added : Regular (closedCounter, .idle)
      ⟨(serve (.addSubscriber ⟨⟨7, 0⟩⟩) closedCounter).log,
        (serve (.addSubscriber ⟨⟨7, 0⟩⟩) closedCounter).reason⟩ (joined, .idle) :=
    ⟨.serve _ _, ⟨trivial, trivial, trivial, trivial⟩, ⟨trivial, trivial, trivial, trivial⟩⟩
  have removed : Regular (joined, .idle) ⟨(serve (.removeSubscriber ⟨2⟩) joined).log,
      (serve (.removeSubscriber ⟨2⟩) joined).reason⟩ (passedBy, .idle) :=
    ⟨.serve _ _, ⟨⟨fun _ => rfl, trivial⟩, trivial⟩, ⟨trivial, trivial⟩⟩
  exact ⟨_, (run.snoc added).snoc removed⟩

/-- A third subscriber, on the closed descriptor 5, panics in `init`, and stays. -/
theorem survives_closing_reused :
    passedBy.manager.Sound ∧ passedBy.manager.Covered ∧
      (serve (.addSubscriber ⟨⟨5, 0⟩⟩) passedBy).reason =
        some (.callback ⟨3⟩ (.expect "Cannot register event." .fdAlreadyRegistered)) ∧
      (serve (.addSubscriber ⟨⟨5, 0⟩⟩) passedBy).state.manager.Live ⟨3⟩ := by
  obtain ⟨history, run⟩ := passedBy_run
  obtain ⟨sound, covered, blamed⟩ := survives_closing (fresh_started ()) run
  have panicked : (serve (.addSubscriber ⟨⟨5, 0⟩⟩) passedBy).reason =
      some (.callback ⟨3⟩ (.expect "Cannot register event." .fdAlreadyRegistered)) := rfl
  have stays := blamed _ _ (.serve passedBy (.addSubscriber ⟨⟨5, 0⟩⟩)) _ panicked
  exact ⟨sound, covered, panicked, stays⟩

/-- Its attempt to register the descriptor is refused, and the entry is left as it was. -/
theorem stuck_until_removed_reused :
    closedCounter.manager.Stale ⟨1⟩ 5 ∧
      (∀ id operation result, .operation id operation result ∈
          (serve (.addSubscriber ⟨⟨5, 0⟩⟩) closedCounter).log →
        operation.fd = 5 → operation.Refused result) ∧
      (serve (.addSubscriber ⟨⟨5, 0⟩⟩) closedCounter).state.manager.Stale ⟨1⟩ 5 := by
  obtain ⟨history, run⟩ := closedCounter_run
  have stale : closedCounter.manager.Stale ⟨1⟩ 5 := ⟨rfl, rfl⟩
  have rest := Run.nil.snoc (Tick.serve closedCounter (.addSubscriber ⟨⟨5, 0⟩⟩))
  have kept : ∀ id, ∀ observation ∈ (serve (.addSubscriber ⟨⟨5, 0⟩⟩) closedCounter).log,
      observation ≠ .removeSubscriber id := by
    intro id observation member
    have logged : (serve (.addSubscriber ⟨⟨5, 0⟩⟩) closedCounter).log =
        [.addSubscriber ⟨2⟩ ⟨⟨5, 0⟩⟩,
          .operation ⟨2⟩ (.add (Events.newRaw 5 .IN)) (.error .fdAlreadyRegistered),
          .store ⟨2⟩ ⟨⟨5, 0⟩⟩] := rfl
    rw [logged] at member
    simp only [List.mem_cons, List.not_mem_nil, or_false] at member
    rcases member with rfl | rfl | rfl <;> exact fun same => by cases same
  obtain ⟨refused, still, _⟩ := stuck_until_removed (fresh_started ())
    (run.mono Regular.tick) stale rest (by
      intro id _ happening member removed
      obtain rfl := List.mem_singleton.mp member
      exact kept id _ removed rfl)
  exact ⟨stale, refused _ List.mem_cons_self, still⟩

end Closed

end World

end EventLoop
