import EventLoop.World

/-!
# Subscribers that count

The counting subscriber of the test utilities counts the events it processes. It
panics when it cannot register, when its descriptor hangs up, and when the count is
full.

What a subscriber's callbacks make of a value it holds can be read off the
history of a run, whatever else the run does and wherever it panics: `tally`
follows the value along the history, and every run ends with the value its history
gives. For a counter this is the number of events it processed.
-/

namespace EventLoop

open Replay

namespace Handler

variable {S : Type}

/-- Perform an operation and `expect` it to succeed. A panic leaves the subscriber as
it is by then. -/
def expect (message : String) (left : S) (operation : Operation) (next : Handler S) : Handler S :=
  .call operation (fun result =>
    match result with
    | .ok () => next
    | .error error => .ret ⟨left, some (.expect message error)⟩)

/-- How a counting subscriber reacts to an event: it counts for `IN`, and gives up its
descriptor and panics when that hangs up. -/
def react (subscriber : S) (events : Events) (count : Ending S) : Handler S :=
  if events.eventSet = .IN then .ret count
  else if events.eventSet = .ERROR then .ret ⟨subscriber, none⟩
  else if events.eventSet = .HANG_UP then
    expect "Encountered error during cleanup." subscriber (.remove events)
      (.ret ⟨subscriber, some (.message "Cannot continue execution. Associated fd was closed.")⟩)
  else .ret ⟨subscriber, none⟩

end Handler

/-- A count of events and the eventfd they arrive on. -/
structure Counter where
  eventFd : RawFd
  counter : BitVec 64

/-- Counts what it processes. -/
structure CounterSubscriber where
  inner : Counter

namespace CounterSubscriber

/-- One more. The addition panics when it overflows, as in a build with overflow
checks. -/
def increment (subscriber : CounterSubscriber) : Ending CounterSubscriber :=
  if subscriber.inner.counter = BitVec.allOnes 64 then ⟨subscriber, some .overflow⟩
  else ⟨⟨{ subscriber.inner with counter := subscriber.inner.counter + 1 }⟩, none⟩

/-- The counting subscriber of the utilities: it registers its descriptor for `IN`,
expects that to succeed, and counts. -/
instance : FallibleSubscriber CounterSubscriber where
  process subscriber events := Handler.react subscriber events subscriber.increment
  init subscriber := Handler.expect "Cannot register event." subscriber
    (.add (Events.newRaw subscriber.inner.eventFd .IN)) (.ret ⟨subscriber, none⟩)

end CounterSubscriber

/-- The observation gives the id to a subscriber or takes it away. -/
def Observation.Registers {T : Type} (id : SubscriberId) : Observation T → Prop
  | .addSubscriber other _ => other = id
  | .removeSubscriber other => other = id
  | _ => False

/-- Which observations register the id is seen from them. -/
instance {T : Type} (id : SubscriberId) (observation : Observation T) :
    Decidable (observation.Registers id) :=
  match observation with
  | .addSubscriber other _ => inferInstanceAs (Decidable (other = id))
  | .removeSubscriber other => inferInstanceAs (Decidable (other = id))
  | .operation _ _ _ => .isFalse (fun impossible => impossible)
  | .process _ _ => .isFalse (fun impossible => impossible)
  | .store _ _ => .isFalse (fun impossible => impossible)
  | .wait _ _ _ => .isFalse (fun impossible => impossible)

namespace World

variable {kernel : Kernel} {S V : Type}

/-- The events delivered to the subscriber in a history, in order. -/
def delivered (id : SubscriberId) (history : List (Observation S)) : List Events :=
  history.filterMap (fun observation =>
    match observation with
    | .process other events => if other = id then some events else none
    | _ => none)

/-- The value each registered subscriber holds. -/
def values (value : S → V) (manager : EventManager kernel S) : SubscriberId → Option V :=
  fun id => (manager.subscribers.subscribers id).map value

/-- How an observation moves the values: a new subscriber brings its own, a removed
one takes it away, and a delivery changes the value of the subscriber it is made
to. -/
def tally (value : S → V) (bump : V → Events → V) (table : SubscriberId → Option V) :
    Observation S → SubscriberId → Option V
  | .addSubscriber id subscriber => PartialMap.insert table id (value subscriber)
  | .removeSubscriber id => PartialMap.erase table id
  | .process id events => Function.update table id ((table id).map (bump · events))
  | _ => table

/-- Operations and stores move no value. -/
theorem replay_tally_operations {value : S → V} {bump : V → Events → V} {id : SubscriberId}
    {log : List (Observation S)} (own : ∀ observation ∈ log, ∃ operation result,
      observation = .operation id operation result) (table : SubscriberId → Option V) :
    replay (tally value bump) table log = table := by
  induction log with
  | nil => rfl
  | cons observation rest inductionHypothesis =>
    obtain ⟨operation, result, rfl⟩ := own observation List.mem_cons_self
    exact inductionHypothesis (fun other member => own other (List.mem_cons_of_mem _ member))

/-- Between two registrations of an id its value follows the deliveries. By induction on
the log: only a delivery to the id or a registration of it touches its entry, and there
are none of the latter. -/
theorem replay_tally_delivered {value : S → V} {bump : V → Events → V} {id : SubscriberId}
    {later : List (Observation S)} (kept : ∀ observation ∈ later, ¬ observation.Registers id)
    {table : SubscriberId → Option V} {held : V} (found : table id = some held) :
    replay (tally value bump) table later id = some ((delivered id later).foldl bump held) := by
  induction later generalizing table held with
  | nil => exact found
  | cons observation rest inductionHypothesis =>
    have follow := @inductionHypothesis
      (fun other member => kept other (List.mem_cons_of_mem observation member))
    have unregistered := kept observation List.mem_cons_self
    cases observation with
    | operation other operation result => exact follow found
    | store other subscriber => exact follow found
    | wait milliseconds maxevents response => exact follow found
    | addSubscriber other subscriber =>
      have elsewhere : id ≠ other := by
        rintro rfl
        exact unregistered rfl
      exact follow (by simpa [tally, elsewhere] using found)
    | removeSubscriber other =>
      have elsewhere : id ≠ other := by
        rintro rfl
        exact unregistered rfl
      exact follow (by simpa [tally, elsewhere] using found)
    | process other events =>
      by_cases here : other = id
      · subst here
        have moved : tally value bump table (.process other events) other =
            some (bump held events) := by
          simp [tally, found]
        rw [replay_cons, follow moved]
        simp [delivered]
      · have elsewhere : id ≠ other := fun same => here same.symm
        rw [replay_cons, follow (by simpa [tally, elsewhere] using found)]
        simp [delivered, here]

/-- Callers who borrow a subscriber leave its value. -/
def Tame (value : S → V) : Request S → Prop
  | .subscriberMut _ update => ∀ subscriber, value (update subscriber) = value subscriber
  | _ => True

/-- So do the requests of a call, and those its closures may make. -/
def Input.Tame (value : S → V) : Input S → Prop
  | .request asked => World.Tame value asked
  | .run _ _ closures => ∀ closure ∈ closures, ∀ asked, closure.Asks asked →
      World.Tame value asked

/-- The values the computation leaves are the ones its log leads to. -/
abbrev Follows {α : Type} (value : S → V) (bump : V → Events → V)
    (pre : World kernel Unit S → Prop) (body : Manage kernel Unit S α)
    (post : α → World kernel Unit S → Prop) : Prop :=
  Attempt.Traced (fun world => values value world.manager) (tally value bump) (fun _ _ => True)
    pre body post (fun _ _ => True)

section Follows

variable {value : S → V} {bump : V → Events → V}

/-- Nothing is asked along the log. -/
theorem along_true (table : SubscriberId → Option V) (log : List (Observation S)) :
    Along (tally value bump) (fun _ _ => True) table log :=
  along_of_forall (fun _ _ _ => trivial)

/-- A callback that leaves the value of its subscriber. -/
theorem callback_follows (id : SubscriberId) (handler : Unit → Handler (S × Unit))
    (subscriber : S)
    (kept : ∀ ending, (handler ()).Yields ending → value ending.value.1 = value subscriber) :
    Follows value bump
      (fun world : World kernel Unit S =>
        world.manager.subscribers.subscribers id = some subscriber)
      (callback id handler) (fun _ _ => True) := by
  intro world registered
  obtain ⟨log, epollContext, ending, yields, ran, own⟩ := callback_run id handler world
  rw [ran]
  refine ⟨along_true _ _, ?_, ?_⟩
  · rw [replay_append, replay_tally_operations own]
    funext other
    by_cases here : other = id
    · subst here
      simpa [values, Subscribers.write, tally, registered] using kept ending yields
    · simp [values, Subscribers.write, tally, here]
  · cases ending.panic <;> trivial

/-- Computations without a callback need only be followed on the manager, and those
that panic must have changed nothing. -/
theorem within_follows {α : Type} {body : EventManager.Manage kernel S α}
    (followed : ∀ manager, replay (tally value bump) (values value manager) (body manager).log =
      match (body manager).result with
      | .ok (_, next) => values value next
      | .error _ => values value manager) :
    Follows value bump (fun _ => True) (within body : Manage kernel Unit S α)
      (fun _ _ => True) := by
  intro world _
  have led := followed world.manager
  rcases run : body world.manager with ⟨log, panic | ⟨result, next⟩⟩
  · rw [run] at led
    rw [within, Attempt.within_error run]
    exact ⟨along_true _ _, led.symm, trivial⟩
  · rw [run] at led
    rw [within, Attempt.within_ok run]
    exact ⟨along_true _ _, led.symm, trivial⟩

variable [FallibleSubscriber S]

/-- What callbacks do to the value: each delivery moves it by `bump`, whether or not
the callback panics, and `init` leaves it. -/
structure Counts (value : S → V) (bump : V → Events → V) : Prop where
  processed : ∀ (subscriber : S) events ending,
    (FallibleSubscriber.process subscriber events).Yields ending →
      value ending.value = bump (value subscriber) events
  initialized : ∀ (subscriber : S) ending, (FallibleSubscriber.init subscriber).Yields ending →
    value ending.value = value subscriber

/-- A delivery moves the value of the subscriber it is made to. The callback stores what
the bump says, whether it returns or panics, and the operations before that store touch no
subscriber. -/
theorem process_follows (counts : Counts value bump) (id : SubscriberId) (event : EpollEvent) :
    Follows value bump (fun _ => True) (process id event : Manage kernel Unit S Unit)
      (fun _ _ => True) := by
  intro world _
  cases registered : world.manager.subscribers.subscribers id with
  | none =>
    rw [process, Attempt.bind_error (getMutUnchecked_none registered)]
    exact ⟨trivial, rfl, trivial⟩
  | some subscriber =>
    have announced : within (EventManager.observe (.process id (Events.withInner event))) world =
        ⟨[.process id (Events.withInner event)], world, .ok ()⟩ := Attempt.within_ok rfl
    obtain ⟨log, epollContext, ending, yields, ran, own⟩ := callback_run id
      (SharedSubscriber.process subscriber (Events.withInner event)) world
    obtain ⟨inner, ended, rfl⟩ := yields.of_map
    have moved := counts.processed subscriber (Events.withInner event) inner ended
    rw [process, Attempt.bind_ok (getMutUnchecked_some registered), Attempt.bind_ok announced, ran]
    refine ⟨along_true _ _, ?_, ?_⟩
    · simp only [List.nil_append, List.singleton_append, replay_cons, replay_append,
        replay_tally_operations own]
      funext other
      by_cases here : other = id
      · subst here
        simpa [values, Subscribers.write, tally, registered] using moved
      · simp [values, Subscribers.write, tally, here]
    · cases inner.panic <;> trivial

/-- An addition changes the table of counts as its log says: the new id has the count it
was added with, whatever becomes of `init`. -/
theorem addSubscriber_follows (counts : Counts value bump) (subscriber : S) :
    Follows value bump (fun _ => True)
      (addSubscriber subscriber : Manage kernel Unit S SubscriberId) (fun _ _ => True) := by
  have enrolled : Follows value bump (fun _ => True)
      (enroll subscriber : Manage kernel Unit S SubscriberId) (fun _ _ => True) := by
    intro world _
    by_cases last : world.manager.subscribers.nextId = BitVec.allOnes 64
    · simp only [enroll, Subscribers.add, last, if_true]
      exact ⟨trivial, rfl, trivial⟩
    · simp only [enroll, Subscribers.add, last, if_false]
      refine ⟨along_true _ _, ?_, trivial⟩
      funext other
      by_cases here : other = ⟨world.manager.subscribers.nextId⟩
      · simp [values, tally, here]
      · simp [values, tally, here]
  refine enrolled.bind (fun id => ?_)
  have borrowed : Follows value bump (fun _ => True)
      (within (EventManager.getMutUnchecked id) : Manage kernel Unit S S)
      (fun found world => world.manager.subscribers.subscribers id = some found) := by
    intro world _
    cases registered : world.manager.subscribers.subscribers id with
    | none =>
      rw [getMutUnchecked_none registered]
      exact ⟨trivial, rfl, trivial⟩
    | some found =>
      rw [getMutUnchecked_some registered]
      exact ⟨trivial, rfl, registered⟩
  refine borrowed.bind (fun found => ?_)
  refine (callback_follows id _ found ?_).bind (fun _ => Attempt.Traced.ret id (fun _ _ => trivial))
  intro ending yields
  obtain ⟨inner, ended, rfl⟩ := yields.of_map
  exact counts.initialized found inner ended

/-- So does every tame request: a removal takes a count away, and a caller that borrows a
subscriber leaves its count. -/
theorem serve_follows (counts : Counts value bump) {request : Request S}
    (tame : Tame value request) :
    Follows value bump (fun _ => True)
      (serve request : Manage kernel Unit S (Response request)) (fun _ _ => True) := by
  cases request with
  | addSubscriber subscriber => exact addSubscriber_follows counts subscriber
  | removeSubscriber id =>
    refine within_follows (fun manager => ?_)
    cases registered : manager.subscribers.subscribers id with
    | none => simp only [EventManager.removeSubscriber, Subscribers.remove, registered, replay_nil]
    | some subscriber =>
      simp only [EventManager.removeSubscriber, Subscribers.remove, registered]
      funext other
      by_cases here : other = id
      · simp [values, tally, here]
      · simp [values, tally, here]
  | subscriberMut id update =>
    refine within_follows (fun manager => ?_)
    cases registered : manager.subscribers.subscribers id with
    | none => simp [EventManager.subscriberMut, Subscribers.contains, registered]
    | some subscriber =>
      rw [EventManager.subscriberMut_some update registered]
      funext other
      by_cases here : other = id
      · simp [values, tally, Subscribers.write, here, registered, tame subscriber]
      · simp [values, tally, Subscribers.write, here]
  | eventOps id operation =>
    refine within_follows (fun manager => ?_)
    by_cases registered : manager.subscribers.contains id = true
    · simp only [EventManager.eventOps, Exec.read_bind, registered, if_true]
      rfl
    · simp only [EventManager.eventOps, Exec.read_bind, registered]
      rfl

/-- The dispatch loop makes deliveries and nothing else. By induction on the slots: each
is passed over, delivered, or kept as the endpoint's. -/
theorem dispatchLoop_follows (counts : Counts value bump) (evIndex remaining : Nat)
    (endpointEvent : Option EpollEvent) :
    Follows value bump (fun _ => True)
      (dispatchLoop evIndex remaining endpointEvent : Manage kernel Unit S (Option EpollEvent))
      (fun _ _ => True) := by
  induction remaining generalizing evIndex endpointEvent with
  | zero => exact Attempt.Traced.ret endpointEvent (fun _ _ => trivial)
  | succ remaining inductionHypothesis =>
    have slot : Follows value bump (fun _ => True)
        (within (EventManager.readyEvent evIndex) : Manage kernel Unit S EpollEvent)
        (fun _ _ => True) := by
      refine within_follows (fun manager => ?_)
      unfold EventManager.readyEvent
      cases manager.epollContext.readyEvents[evIndex]? <;> rfl
    refine slot.bind (fun event => ?_)
    by_cases discarded : EventManager.Discarded event
    · simp only [discarded, if_true]
      exact inductionHypothesis (evIndex + 1) endpointEvent
    · simp only [discarded, if_false]
      refine Attempt.Traced.read_bind (fun now => ?_)
      have anyway : ∀ {α : Type} {body : Manage kernel Unit S α},
          Follows value bump (fun _ => True) body (fun _ _ => True) →
          Follows value bump (fun world => world = now ∧ True) body (fun _ _ => True) :=
        fun follows => follows.consequence (fun _ _ held => held) (fun _ _ => trivial)
          (fun _ _ held => held) (fun _ _ held => held)
      split
      · exact anyway ((process_follows counts _ event).bind
          (fun _ => inductionHypothesis (evIndex + 1) endpointEvent))
      · split
        · exact anyway (inductionHypothesis (evIndex + 1) (some event))
        · exact Attempt.Traced.abort _ (fun _ _ => trivial)

/-- So do closures whose requests are tame, by induction on the queue. -/
theorem handleEndpointCalls_follows (counts : Counts value bump) {closures : List (Closure S)}
    (tame : ∀ closure ∈ closures, ∀ asked, closure.Asks asked → Tame value asked) :
    Follows value bump (fun _ => True)
      (handleEndpointCalls closures : Manage kernel Unit S Unit) (fun _ _ => True) := by
  induction closures with
  | nil => exact Attempt.Traced.ret () (fun _ _ => trivial)
  | cons closure rest inductionHypothesis =>
    have invoked : Follows value bump (fun _ => True)
        (invoke closure : Manage kernel Unit S Unit) (fun _ _ => True) := by
      refine (Program.attempt_interpret closure (fun request asked =>
        serve_follows counts (tame closure List.mem_cons_self request asked))).bind
        (fun panic => ?_)
      cases panic with
      | none => exact Attempt.Traced.ret () (fun _ _ => trivial)
      | some payload => exact Attempt.Traced.abort _ (fun _ _ => trivial)
    exact invoked.bind (fun _ => inductionHypothesis
      (fun other member => tame other (List.mem_cons_of_mem _ member)))

/-- Every tame call is followed, however it ends. A turn of the loop is a wait, which
touches no subscriber, then the batch and the closures. -/
theorem perform_follows (counts : Counts value bump) {input : Input S} (tame : input.Tame value) :
    Follows value bump (fun _ => True) (perform input : Manage kernel Unit S (Output S))
      (fun _ _ => True) := by
  cases input with
  | request request =>
    exact (serve_follows counts tame).bind (fun _ => Attempt.Traced.ret _ (fun _ _ => trivial))
  | run milliseconds response closures =>
    have waited : Follows value bump (fun _ => True)
        (within (EventManager.poll milliseconds response) : Manage kernel Unit S (Except Error Nat))
        (fun _ _ => True) := within_follows (fun _ => rfl)
    have dispatched : ∀ eventCount, Follows value bump (fun _ => True)
        (dispatchEvents eventCount closures : Manage kernel Unit S Unit) (fun _ _ => True) := by
      intro eventCount
      refine (dispatchLoop_follows counts 0 eventCount none).bind (fun found => ?_)
      cases found with
      | none => exact Attempt.Traced.ret () (fun _ _ => trivial)
      | some event =>
        rw [dispatchEndpointEvent]
        split
        · exact Attempt.Traced.abort _ (fun _ _ => trivial)
        · exact handleEndpointCalls_follows counts tame
    have ran : Follows value bump (fun _ => True)
        (runWithTimeout milliseconds response closures : Manage kernel Unit S (Except Error Nat))
        (fun _ _ => True) := by
      refine waited.bind (fun polled => ?_)
      cases polled with
      | error error => exact Attempt.Traced.ret _ (fun _ _ => trivial)
      | ok eventCount =>
        exact (dispatched eventCount).bind (fun _ => Attempt.Traced.ret _ (fun _ _ => trivial))
    exact ran.bind (fun _ => Attempt.Traced.ret _ (fun _ _ => trivial))

/-- Along every run of tame calls, caught panics included, the values are the ones the
history gives. -/
theorem values_reached (counts : Counts value bump) {start world : World kernel Unit S}
    {history : List (Observation S)}
    (reached : Reaches (Input.Tame value) start history world) :
    values value world.manager =
      replay (tally value bump) (values value start.manager) history := by
  induction reached with
  | start => rfl
  | @step history world reached input tame inductionHypothesis =>
    have led := (perform_follows counts tame world trivial).2.1
    rw [replay_append, ← inductionHypothesis]
    exact led

/-- So a registered subscriber holds what the deliveries since its registration have made
of the value it was added with. -/
theorem value_since (counts : Counts value bump) {start world : World kernel Unit S}
    {before later : List (Observation S)} {id : SubscriberId} {subscriber : S}
    (reached : Reaches (Input.Tame value) start
      (before ++ .addSubscriber id subscriber :: later) world)
    (kept : ∀ observation ∈ later, ¬ observation.Registers id) :
    ∃ now, world.manager.subscribers.subscribers id = some now ∧
      value now = (delivered id later).foldl bump (value subscriber) := by
  have followed := congrFun (values_reached counts reached) id
  have brought : ∀ table, tally value bump table (.addSubscriber id subscriber) id =
      some (value subscriber) := by
    intro table
    simp [tally]
  rw [replay_append, replay_cons, replay_tally_delivered kept (brought _)] at followed
  exact Option.map_eq_some_iff.mp followed

end Follows

end World

namespace CounterSubscriber

variable {kernel : Kernel}

/-- One more for an event that is exactly `IN`, up to the largest count. -/
def bump (count : Nat) (events : Events) : Nat :=
  if events.eventSet = .IN then min (count + 1) (2 ^ 64 - 1) else count

/-- The count a subscriber holds. -/
def count (subscriber : CounterSubscriber) : Nat := subscriber.inner.counter.toNat

/-- A full count stays where it is, with a panic. -/
theorem count_increment (subscriber : CounterSubscriber) :
    count subscriber.increment.value = min (count subscriber + 1) (2 ^ 64 - 1) := by
  have bound := subscriber.inner.counter.isLt
  unfold increment
  split
  · rename_i full
    have last : count subscriber = 2 ^ 64 - 1 := by
      rw [count, full]
      decide
    change count subscriber = _
    omega
  · rename_i room
    have below : subscriber.inner.counter.toNat ≠ 2 ^ 64 - 1 := by
      intro last
      apply room
      apply BitVec.eq_of_toNat_eq
      rw [last]
      decide
    have next : count ⟨{ subscriber.inner with counter := subscriber.inner.counter + 1 }⟩ =
        count subscriber + 1 := by
      have one : (1 : BitVec 64).toNat = 1 := by decide
      simp only [count, BitVec.toNat_add, one]
      omega
    rw [next]
    simp only [count]
    omega

/-- An `expect` leaves what it is given or what comes after it leaves. -/
theorem expect_yields {S : Type} {message : String} {left : S} {operation : Operation}
    {next : Handler S} {ending : Ending S}
    (yields : (Handler.expect message left operation next).Yields ending) :
    ending.value = left ∨ next.Yields ending := by
  cases yields with
  | call response rest =>
    cases response with
    | ok _ => exact Or.inr rest
    | error error =>
      cases rest with
      | ret => exact Or.inl rfl

/-- The subscriber counts what it processes and nothing else, panics or not. By cases on
the event set: only exactly `IN` reaches the count, and the other branches leave the
subscriber. -/
theorem counts : World.Counts count bump := by
  have same : ∀ (subscriber : CounterSubscriber) panic ending,
      (Program.ret ⟨subscriber, panic⟩ : Handler CounterSubscriber).Yields ending →
      ending.value = subscriber := by
    intro subscriber panic ending yields
    cases yields with
    | ret => rfl
  constructor
  · intro subscriber events ending yields
    change (Handler.react subscriber events subscriber.increment).Yields ending at yields
    unfold Handler.react at yields
    split at yields
    · rename_i readable
      cases yields with
      | ret => rw [count_increment, bump, if_pos readable]
    · rename_i other
      have left : ending.value = subscriber := by
        split at yields
        · exact same subscriber _ ending yields
        · split at yields
          · exact (expect_yields yields).elim (fun left => left) (same subscriber _ ending)
          · exact same subscriber _ ending yields
      rw [left, bump, if_neg other]
  · intro subscriber ending yields
    have left : ending.value = subscriber :=
      (expect_yields yields).elim (fun left => left) (same subscriber none ending)
    rw [left]

/-- Events that are exactly `IN` are counted until the count is full. -/
theorem foldl_bump (events : List Events) {held : Nat} (bound : held ≤ 2 ^ 64 - 1) :
    events.foldl bump held =
      min (held + events.countP (fun event => event.eventSet = .IN)) (2 ^ 64 - 1) := by
  induction events generalizing held with
  | nil => exact (Nat.min_eq_left bound).symm
  | cons event rest inductionHypothesis =>
    rw [List.foldl_cons, bump]
    split
    · rename_i readable
      rw [inductionHypothesis (Nat.min_le_right _ _), List.countP_cons_of_pos (by simp [readable])]
      omega
    · rename_i other
      rw [inductionHypothesis bound, List.countP_cons_of_neg (by simp [other])]

/-- At the end of every run in which nobody else writes counts, and however many of
its calls ended in a panic, a registered subscriber has counted exactly the `IN`
events delivered to it since it was added, until its count is full.

Proof: every call, however it ends, changes the table of counts as its log says, so the
count is the initial one bumped once for each delivery logged since; and a full count is
not bumped any further. -/
theorem counts_deliveries {start world : World kernel Unit CounterSubscriber}
    {before later : List (Observation CounterSubscriber)} {id : SubscriberId}
    {subscriber : CounterSubscriber}
    (reached : World.Reaches (World.Input.Tame count) start
      (before ++ .addSubscriber id subscriber :: later) world)
    (kept : ∀ observation ∈ later, ¬ observation.Registers id) :
    ∃ now, world.manager.subscribers.subscribers id = some now ∧
      count now = min (count subscriber +
        (World.delivered id later).countP (fun events => events.eventSet = .IN)) (2 ^ 64 - 1) := by
  obtain ⟨now, registered, counted⟩ := World.value_since counts reached kept
  have bound : count subscriber ≤ 2 ^ 64 - 1 :=
    Nat.le_sub_one_of_lt subscriber.inner.counter.isLt
  refine ⟨now, registered, ?_⟩
  rw [counted, foldl_bump _ bound]

/-- A subscriber is added and counts one event; then its descriptor hangs up, which it
answers with a panic. -/
def hangingUp : List (World.Input CounterSubscriber) :=
  [.request (.addSubscriber ⟨⟨5, 0⟩⟩), .run (-1) (.ok [(Events.newRaw 5 .IN).epollEvent]) [],
    .run (-1) (.ok [(Events.newRaw 5 .HANG_UP).epollEvent]) []]

/-- The panic takes nothing away from the count. -/
theorem counts_deliveries_hangingUp :
    ∃ now, (World.performAll hangingUp (World.fresh ())).2.manager.subscribers.subscribers ⟨1⟩ =
        some now ∧ count now = 1 := by
  have tame : ∀ input ∈ hangingUp, World.Input.Tame count input := by
    intro input member
    simp only [hangingUp, List.mem_cons, List.not_mem_nil, or_false] at member
    rcases member with rfl | rfl | rfl
    · trivial
    · exact fun closure listed => absurd listed List.not_mem_nil
    · exact fun closure listed => absurd listed List.not_mem_nil
  have reached : World.Reaches (World.Input.Tame count) (World.fresh ())
      ([] ++ (World.performAll hangingUp (World.fresh ())).1)
      (World.performAll hangingUp (World.fresh () : World Kernel.reference Unit _)).2 :=
    World.Reaches.start.performAll tame
  have rest : ∀ observation ∈ (World.performAll hangingUp
      (World.fresh () : World Kernel.reference Unit CounterSubscriber)).1.tail,
      ¬ observation.Registers ⟨1⟩ := by decide
  exact @counts_deliveries _ _ _ [] _ ⟨1⟩ ⟨⟨5, 0⟩⟩ reached rest

end CounterSubscriber

end EventLoop
