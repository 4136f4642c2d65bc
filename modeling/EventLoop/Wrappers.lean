import EventLoop.UnwindSafety

/-!
# Subscribers behind handles and locks

A subscriber is rarely given to the manager as it is. `Arc` and `Rc` share it with
others, `Mutex` and `RefCell` give a callback its exclusive access, and `Box` only
moves it. The implementations for these types differ in what a panic leaves. A
mutex that is locked for the callback is poisoned when the callback panics, and
panics itself whenever it is locked again. A mutex that the manager owns outright
is not locked but reached directly: it is checked for poison as well, and a panic
of the callback does not poison it.

So a shared subscriber that panicked is never run again, by any handle to it, and
costs a panic each time something is reported for it; an owned one is run again on
whatever the panic left of it. The first is said of the logs of the calls, so of
every callback that begins in the middle of a batch, in a closure or from outside,
and of what the mutex protects.
-/

namespace EventLoop

/-- Subscribers whose callbacks need no exclusive access: what they change is inside a
cell of theirs. -/
class EventSubscriber (S : Type) where
  process : S → Events → Handler S
  init : S → Handler S

/-- A cell that checks at run time that it is borrowed once at a time. -/
structure RefCell (S : Type) where
  value : S
  borrowed : Bool

/-- A lock and what it protects. Which thread holds it is not part of the model: a
callback begins when the manager's thread has it. -/
structure Mutex (S : Type) where
  value : S
  poisoned : Bool

/-- A subscriber that is somewhere else and owned all the same. -/
structure Box (S : Type) where
  content : S

/-- A handle to a subscriber that others have handles to as well. -/
structure Arc (S : Type) where
  address : Nat
deriving DecidableEq

/-- The same within one thread. -/
structure Rc (S : Type) where
  address : Nat
deriving DecidableEq

variable {S : Type}

/-- Borrow the cell for the callback; the borrow ends with it, also when it panics. -/
def RefCell.borrowMut (cell : RefCell S) (inner : S → Handler S) : Handler (RefCell S) :=
  if cell.borrowed then .ret ⟨cell, some .borrowMutError⟩
  else (inner cell.value).map (fun ending => ⟨⟨ending.value, false⟩, ending.panic⟩)

/-- Lock the mutex for the callback and `unwrap`. A panic under the lock poisons it. -/
def Mutex.lock (mutex : Mutex S) (inner : S → Handler S) : Handler (Mutex S) :=
  if mutex.poisoned then .ret ⟨mutex, some .poisonError⟩
  else (inner mutex.value).map
    (fun ending => ⟨⟨ending.value, ending.panic.isSome⟩, ending.panic⟩)

/-- Reach what the mutex protects without locking it and `unwrap`. -/
def Mutex.getMut (mutex : Mutex S) (inner : S → Handler S) : Handler (Mutex S) :=
  if mutex.poisoned then .ret ⟨mutex, some .poisonError⟩
  else (inner mutex.value).map (fun ending => ⟨⟨ending.value, false⟩, ending.panic⟩)

/-- Follow the box: the callback changes its content. -/
def Box.deref (box : Box S) (inner : S → Handler S) : Handler (Box S) :=
  (inner box.content).map (fun ending => ⟨⟨ending.value⟩, ending.panic⟩)

/-- Follow the handle: the callback changes the cell at its address. -/
def Arc.deref (handle : Arc S) (heap : Nat → S) (inner : S → Handler S) :
    Handler (Arc S × (Nat → S)) :=
  (inner (heap handle.address)).map (fun ending =>
    ⟨(handle, Function.update heap handle.address ending.value), ending.panic⟩)

/-- Follow the handle, within one thread. -/
def Rc.deref (handle : Rc S) (heap : Nat → S) (inner : S → Handler S) :
    Handler (Rc S × (Nat → S)) :=
  (inner (heap handle.address)).map (fun ending =>
    ⟨(handle, Function.update heap handle.address ending.value), ending.panic⟩)

section Instances

/-- A cell is borrowed for each callback. -/
instance [FallibleSubscriber S] : EventSubscriber (RefCell S) where
  process cell events := cell.borrowMut (FallibleSubscriber.process · events)
  init cell := cell.borrowMut FallibleSubscriber.init

/-- Also where it is owned outright. -/
instance [FallibleSubscriber S] : FallibleSubscriber (RefCell S) where
  process cell events := cell.borrowMut (FallibleSubscriber.process · events)
  init cell := cell.borrowMut FallibleSubscriber.init

/-- A shared mutex is locked for each callback. -/
instance [FallibleSubscriber S] : EventSubscriber (Mutex S) where
  process mutex events := mutex.lock (FallibleSubscriber.process · events)
  init mutex := mutex.lock FallibleSubscriber.init

/-- An owned one is reached without its lock. -/
instance [FallibleSubscriber S] : FallibleSubscriber (Mutex S) where
  process mutex events := mutex.getMut (FallibleSubscriber.process · events)
  init mutex := mutex.getMut FallibleSubscriber.init

/-- A box of a shared subscriber is one. -/
instance [EventSubscriber S] : EventSubscriber (Box S) where
  process box events := box.deref (EventSubscriber.process · events)
  init box := box.deref EventSubscriber.init

/-- And so is a box of one that needs exclusive access. -/
instance [FallibleSubscriber S] : FallibleSubscriber (Box S) where
  process box events := box.deref (FallibleSubscriber.process · events)
  init box := box.deref FallibleSubscriber.init

/-- A handle reaches its subscriber through the shared memory. -/
instance [EventSubscriber S] : SharedSubscriber (Nat → S) (Arc S) where
  process handle events heap := handle.deref heap (EventSubscriber.process · events)
  init handle heap := handle.deref heap EventSubscriber.init

/-- So does one within a thread. -/
instance [EventSubscriber S] : SharedSubscriber (Nat → S) (Rc S) where
  process handle events heap := handle.deref heap (EventSubscriber.process · events)
  init handle heap := handle.deref heap EventSubscriber.init

end Instances

/-- What a callback under the lock of a shared mutex leaves: the handle, every other
cell, and a mutex that is poisoned exactly if the callback panicked. A poisoned one
it leaves altogether. -/
structure Arc.Locked (handle : Arc (Mutex S)) (heap : Nat → Mutex S)
    (ending : Ending (Arc (Mutex S) × (Nat → Mutex S))) : Prop where
  same : ending.value.1 = handle
  elsewhere : ∀ address, address ≠ handle.address → ending.value.2 address = heap address
  poisoned : (ending.value.2 handle.address).poisoned = ending.panic.isSome
  refused : (heap handle.address).poisoned = true →
    ending.value.2 = heap ∧ ending.panic = some .poisonError

/-- A poisoned mutex is left as it is, with a panic. -/
theorem Mutex.lock_poisoned {mutex : Mutex S} (inner : S → Handler S)
    (poisoned : mutex.poisoned = true) : mutex.lock inner = .ret ⟨mutex, some .poisonError⟩ := by
  simp only [Mutex.lock, poisoned, if_true]

/-- After a lock the mutex is poisoned exactly if the callback panicked. -/
theorem Mutex.lock_yields {mutex : Mutex S} {inner : S → Handler S} {ending : Ending (Mutex S)}
    (yields : (mutex.lock inner).Yields ending) : ending.value.poisoned = ending.panic.isSome := by
  unfold Mutex.lock at yields
  split at yields
  · rename_i poisoned
    cases yields with
    | ret => exact poisoned
  · obtain ⟨last, _, rfl⟩ := yields.of_map
    rfl

/-- A callback under the lock of a handle's mutex leaves what `Arc.Locked` says: the lock
either fails, with the memory as it was, or ends with the callback. -/
theorem Arc.locked {handle : Arc (Mutex S)} {heap : Nat → Mutex S} {inner : S → Handler S}
    {ending : Ending (Arc (Mutex S) × (Nat → Mutex S))}
    (yields : (handle.deref heap (fun mutex => mutex.lock inner)).Yields ending) :
    handle.Locked heap ending := by
  obtain ⟨left, yielded, rfl⟩ := yields.of_map
  refine ⟨rfl, fun address distinct => Function.update_of_ne distinct _ _, ?_, ?_⟩
  · simpa only [Function.update_self] using Mutex.lock_yields yielded
  · intro poisoned
    change ((heap handle.address).lock inner).Yields left at yielded
    rw [Mutex.lock_poisoned inner poisoned] at yielded
    cases yielded with
    | ret => exact ⟨Function.update_eq_self _ _, rfl⟩

namespace World

variable {kernel : Kernel}

/-- The others keep the property of the cell. -/
def Keeping (others : Nat → (Nat → Mutex S) → Nat → Mutex S) (address : Nat)
    (good : Mutex S → Prop) : Prop :=
  ∀ look heap, good (heap address) → good (others look heap address)

/-- The others never clear the poison of a mutex. -/
def Lasting (others : Nat → (Nat → Mutex S) → Nat → Mutex S) : Prop :=
  ∀ address, Keeping others address (fun mutex => mutex.poisoned = true)

/-- What the cell has become is the others' doing alone: every property they keep is
kept. -/
def Untouched (address : Nat) (world next : World kernel (Nat → Mutex S) (Arc (Mutex S))) : Prop :=
  ∀ good : Mutex S → Prop, Keeping world.others address good →
    good (world.heap address) → good (next.heap address)

/-- A poisoned mutex is left to the others, so poison stays, and a callback's panic leaves
its subscriber's mutex poisoned. -/
structure Poisons (world : World kernel (Nat → Mutex S) (Arc (Mutex S)))
    (ending : Except Fault Unit) (next : World kernel (Nat → Mutex S) (Arc (Mutex S))) : Prop where
  others : next.others = world.others
  untouched : Lasting world.others → ∀ address, (world.heap address).poisoned = true →
    Untouched address world next
  panicked : ∀ id payload, ending = .error (.callback id payload) →
    ∃ handle : Arc (Mutex S), next.manager.subscribers.subscribers id = some handle ∧
      (next.heap handle.address).poisoned = true

/-- The mutex is poisoned and the others will not clear it. -/
structure Closed (handle : Arc (Mutex S))
    (world : World kernel (Nat → Mutex S) (Arc (Mutex S))) : Prop where
  lasting : Lasting world.others
  poisoned : (world.heap handle.address).poisoned = true

/-- A closed mutex stays closed, for its poison is a property the others keep. -/
theorem Poisons.closed {world next : World kernel (Nat → Mutex S) (Arc (Mutex S))}
    {ending : Except Fault Unit} {handle : Arc (Mutex S)} (moved : Poisons world ending next)
    (closed : Closed handle world) : Closed handle next where
  lasting := by
    rw [moved.others]
    exact closed.lasting
  poisoned := moved.untouched closed.lasting handle.address closed.poisoned _
    (closed.lasting handle.address) closed.poisoned

/-- A callback through a handle poisons as it should. The others look first, and keep
poison and what else they keep; the lock of a poisoned mutex leaves the memory, and any
other ends with the poison that the callback's panic is. -/
theorem callback_poisons (id : SubscriberId) (handle : Arc (Mutex S))
    {handler : (Nat → Mutex S) → Handler (Arc (Mutex S) × (Nat → Mutex S))}
    (locks : ∀ heap ending, (handler heap).Yields ending → handle.Locked heap ending) :
    Attempt.Moves Poisons (callback id handler : Manage kernel _ _ Unit) := by
  intro world
  obtain ⟨log, epollContext, ending, yields, ran, _⟩ := callback_run id handler world
  have locked := locks _ ending yields
  rw [ran]
  refine ⟨rfl, ?_, ?_⟩
  · intro lasting address poisoned good keeping held
    have seen := lasting address world.looks world.heap poisoned
    have still := keeping world.looks world.heap held
    by_cases here : address = handle.address
    · subst here
      change good (ending.value.2 handle.address)
      rw [(locked.refused seen).1]
      exact still
    · change good (ending.value.2 address)
      rw [locked.elsewhere address here]
      exact still
  · intro other payload failed
    cases panic : ending.panic with
    | none =>
      rw [panic] at failed
      cases failed
    | some reason =>
      rw [panic] at failed
      obtain ⟨rfl, rfl⟩ := Fault.callback.inj (Except.error.inj failed)
      refine ⟨handle, ?_, ?_⟩
      · simp [Subscribers.write, locked.same]
      · change (ending.value.2 handle.address).poisoned = true
        rw [locked.poisoned, panic]
        rfl

/-- A callback through a handle to a poisoned mutex ends before it began. The lock fails,
so no operation is made, and the handle that is stored is the one that was. -/
theorem callback_poisoned {world : World kernel (Nat → Mutex S) (Arc (Mutex S))}
    {id : SubscriberId} {handle : Arc (Mutex S)} (inner : S → Handler S)
    (registered : world.manager.subscribers.subscribers id = some handle)
    (poisoned : (world.others world.looks world.heap handle.address).poisoned = true) :
    callback id (fun heap => handle.deref heap (fun mutex => mutex.lock inner)) world =
      ⟨[.store id handle],
        { world with heap := world.others world.looks world.heap, looks := world.looks + 1 },
        .error (.callback id .poisonError)⟩ := by
  have refused : handle.deref (world.others world.looks world.heap)
      (fun mutex => mutex.lock inner) =
        .ret ⟨(handle, world.others world.looks world.heap), some .poisonError⟩ := by
    simp [Arc.deref, Mutex.lock_poisoned inner poisoned, Program.map]
  have unchanged : world.manager.subscribers.write id handle = world.manager.subscribers := by
    rw [Subscribers.write, PartialMap.insert, ← registered, Function.update_eq_self]
  have looked : borrow world = ⟨[], { world with
      heap := world.others world.looks world.heap, looks := world.looks + 1 },
      .ok (world.others world.looks world.heap)⟩ := rfl
  have left : callback id (fun heap => handle.deref heap (fun mutex => mutex.lock inner)) world =
      ⟨[.store id handle],
        { world with
          manager := { world.manager with subscribers := world.manager.subscribers.write id handle }
          heap := world.others world.looks world.heap
          looks := world.looks + 1 }, .error (.callback id .poisonError)⟩ := by
    rw [callback, Attempt.bind_ok looked, refused]
    rfl
  rw [left, unchanged]

/-- A callback of a subscriber registered as the handle begins: it is called with an event,
or it was just added and its `init` comes next. -/
def Begins (handle : Arc (Mutex S)) (manager : EventManager kernel (Arc (Mutex S))) :
    Observation (Arc (Mutex S)) → Prop
  | .process id _ => manager.subscribers.subscribers id = some handle
  | .addSubscriber _ subscriber => subscriber = handle
  | _ => False

/-- The callback that begins is not run: nothing follows it in the log but that the handle
is stored as it was, and the call panics with what the poisoned mutex gives. -/
def Unrun (handle : Arc (Mutex S)) :
    Observation (Arc (Mutex S)) → List (Observation (Arc (Mutex S))) → Fault → Prop
  | .process id _, rest, reason =>
      rest = [.store id handle] ∧ reason = .callback id .poisonError
  | .addSubscriber id _, rest, reason =>
      rest = [.store id handle] ∧ reason = .callback id .poisonError
  | _, _, _ => False

/-- No callback begins with what a callback does. -/
theorem callback_begins_none (handle : Arc (Mutex S)) (id : SubscriberId)
    (handler : (Nat → Mutex S) → Handler (Arc (Mutex S) × (Nat → Mutex S)))
    (world : World kernel (Nat → Mutex S) (Arc (Mutex S))) :
    ∀ observation ∈ (callback id handler world).log, ∀ manager : EventManager kernel _,
      ¬ Begins handle manager observation := by
  obtain ⟨log, epollContext, ending, yields, ran, own⟩ := callback_run id handler world
  rw [ran]
  intro observation member manager begins
  rcases List.mem_append.mp member with inside | last
  · obtain ⟨operation, result, rfl⟩ := own observation inside
    exact begins
  · obtain rfl := List.mem_singleton.mp last
    exact begins

variable [FallibleSubscriber S]

/-- The manager and every callback under a lock poison as they should. -/
theorem poisons_confines :
    Confines (Poisons : World kernel (Nat → Mutex S) (Arc (Mutex S)) → _ → _ → Prop) where
  managed world manager := ⟨rfl, fun _ _ _ _ _ held => held, fun _ _ failed => by cases failed⟩
  panicked world panic := ⟨rfl, fun _ _ _ _ _ held => held, fun _ _ failed => by cases failed⟩
  unwound world payload := ⟨rfl, fun _ _ _ _ _ held => held, fun _ _ failed => by cases failed⟩
  followed first ending second third moved later := by
    refine ⟨later.others.trans moved.others, ?_, later.panicked⟩
    intro lasting address poisoned good keeping held
    have before : Closed ⟨address⟩ first := ⟨lasting, poisoned⟩
    have closed := moved.closed before
    have still : Keeping second.others address good := by
      rw [moved.others]
      exact keeping
    exact later.untouched closed.lasting address closed.poisoned good still
      (moved.untouched lasting address poisoned good keeping held)
  processed id handle events := callback_poisons id handle (fun _ _ yields => Arc.locked yields)
  initialized id handle := callback_poisons id handle (fun _ _ yields => Arc.locked yields)

/-- Poison stays through every run. -/
theorem Reaches.poisons {allowed : Input (Arc (Mutex S)) → Prop}
    {start world : World kernel (Nat → Mutex S) (Arc (Mutex S))}
    {history : List (Observation (Arc (Mutex S)))}
    (reached : Reaches allowed start history world) : Poisons start (.ok ()) world := by
  induction reached with
  | start => exact poisons_confines.managed start start.manager
  | @step history world reached input may inductionHypothesis =>
    have moved := poisons_confines.perform input world
    have further : Poisons world (.ok ()) (perform input world).state :=
      ⟨moved.others, moved.untouched, fun _ _ failed => by cases failed⟩
    exact poisons_confines.followed _ _ _ _ inductionHypothesis further

/-- Nothing is run for a handle to a poisoned mutex: a delivery to it panics at once and
leaves the manager as it is, and adding it again panics in `init`. -/
structure Barred (handle : Arc (Mutex S))
    (world : World kernel (Nat → Mutex S) (Arc (Mutex S))) : Prop where
  poisoned : (world.heap handle.address).poisoned = true
  delivery : ∀ id event, world.manager.subscribers.subscribers id = some handle →
    process id event world =
      ⟨[.process id (Events.withInner event), .store id handle],
        { world with heap := world.others world.looks world.heap, looks := world.looks + 1 },
        .error (.callback id .poisonError)⟩
  addition : world.manager.subscribers.nextId ≠ BitVec.allOnes 64 →
    addSubscriber handle world =
      ⟨[.addSubscriber ⟨world.manager.subscribers.nextId⟩ handle,
          .store ⟨world.manager.subscribers.nextId⟩ handle],
        { world with
          manager := world.manager.apply
            (.addSubscriber ⟨world.manager.subscribers.nextId⟩ handle)
          heap := world.others world.looks world.heap
          looks := world.looks + 1 },
        .error (.callback ⟨world.manager.subscribers.nextId⟩ .poisonError)⟩

/-- A closed mutex bars its handles.

Proof: the lock fails on what the others have left of the mutex, so the callback makes
no operation and stores the handle that is stored already. -/
theorem Closed.barred {world : World kernel (Nat → Mutex S) (Arc (Mutex S))}
    {handle : Arc (Mutex S)} (closed : Closed handle world) : Barred handle world := by
  have seen := closed.lasting handle.address world.looks world.heap closed.poisoned
  refine ⟨closed.poisoned, ?_, ?_⟩
  · intro id event registered
    have announced : within (EventManager.observe (.process id (Events.withInner event))) world =
        ⟨[.process id (Events.withInner event)], world, .ok ()⟩ := Attempt.within_ok rfl
    have refused : callback id (SharedSubscriber.process handle (Events.withInner event)) world =
        ⟨[.store id handle],
          { world with heap := world.others world.looks world.heap, looks := world.looks + 1 },
          .error (.callback id .poisonError)⟩ :=
      callback_poisoned (FallibleSubscriber.process · (Events.withInner event)) registered seen
    rw [process, Attempt.bind_ok (getMutUnchecked_some registered), Attempt.bind_ok announced,
      refused]
    rfl
  · intro room
    let id : SubscriberId := ⟨world.manager.subscribers.nextId⟩
    let enrolled : World kernel (Nat → Mutex S) (Arc (Mutex S)) :=
      { world with manager := world.manager.apply (.addSubscriber id handle) }
    have drawn : enroll handle world =
        ⟨[.addSubscriber id handle], enrolled, .ok id⟩ := by
      simp only [enroll, Subscribers.add, room, if_false]
      rfl
    have registered : enrolled.manager.subscribers.subscribers id = some handle := by
      simp [enrolled, EventManager.apply]
    have refused : callback id (SharedSubscriber.init handle) enrolled =
        ⟨[.store id handle],
          { enrolled with heap := world.others world.looks world.heap, looks := world.looks + 1 },
          .error (.callback id .poisonError)⟩ :=
      callback_poisoned FallibleSubscriber.init registered seen
    rw [addSubscriber, Attempt.bind_ok drawn, Attempt.bind_ok (getMutUnchecked_some registered),
      Attempt.bind_error refused]
    rfl

/-- What a call leaves that runs no callback for the handle: every one that begins in its
log is not run, and what the mutex protects is as the others left it. -/
structure Shuns {α : Type} (handle : Arc (Mutex S))
    (world : World kernel (Nat → Mutex S) (Arc (Mutex S)))
    (aftermath : Aftermath (World kernel (Nat → Mutex S) (Arc (Mutex S)))
      (Observation (Arc (Mutex S))) Fault α) : Prop where
  callbacks : Attempt.Ends World.manager EventManager.apply (Begins handle) (Unrun handle) world
    aftermath
  untouched : Untouched handle.address world aftermath.state

/-- From every world in which the mutex is closed, a computation stops at the callbacks of
its handles. -/
abbrev Refrains {α : Type} (handle : Arc (Mutex S))
    (body : Manage kernel (Nat → Mutex S) (Arc (Mutex S)) α) : Prop :=
  Attempt.Stops World.manager EventManager.apply (Begins handle) (Unrun handle) (Closed handle)
    body

/-- A computation of the manager alone begins no callback. -/
theorem within_refrains (handle : Arc (Mutex S)) {α : Type}
    {body : EventManager.Manage kernel (Arc (Mutex S)) α}
    (traced : EventManager.Manage.Traced (fun _ => True) body (fun _ _ => True) (fun _ _ => False))
    (quiet : Exec.Logs (fun observation => ∀ manager : EventManager kernel (Arc (Mutex S)),
      ¬ Begins handle manager observation) body) :
    Refrains handle (within body) := by
  intro world closed
  refine ⟨(poisons_confines.within body world).closed closed, ?_⟩
  obtain ⟨checked, ended⟩ := traced world.manager trivial
  have silent := quiet world.manager
  rcases run : body world.manager with ⟨log, panic | ⟨value, manager⟩⟩
  · rw [run] at ended
    exact ended.elim
  · rw [run] at ended silent
    rw [within, Attempt.within_ok run]
    refine ⟨ended.1, ?_⟩
    intro past observation rest split begins
    have member : observation ∈ log := by
      rw [show log = past ++ observation :: rest from split]
      simp
    exact absurd begins (silent observation member _)

/-- A delivery is not run for the handle, and begins nothing else.

Proof: a subscriber other than the handle is called with the event, which begins no
callback of the handle's, and neither does anything the callback does. The handle's own
delivery is the one that `Barred` describes. -/
theorem process_refrains (handle : Arc (Mutex S)) (id : SubscriberId) (event : EpollEvent) :
    Refrains handle (process id event : Manage kernel (Nat → Mutex S) (Arc (Mutex S)) Unit) := by
  intro world closed
  have moved : Poisons world _ (process id event world).state :=
    ((poisons_confines.within (EventManager.getMutUnchecked id)).bind poisons_confines.followed
      (fun subscriber => (poisons_confines.within (EventManager.observe _)).bind
        poisons_confines.followed
        (fun _ => poisons_confines.processed id subscriber (Events.withInner event)))) world
  refine ⟨moved.closed closed, ?_⟩
  cases registered : world.manager.subscribers.subscribers id with
  | none =>
    rw [process, Attempt.bind_error (getMutUnchecked_none registered)]
    exact .silent
  | some subscriber =>
    have live : world.manager.Live id := by simp [EventManager.Live, registered]
    let called := callback id (SharedSubscriber.process subscriber (Events.withInner event)) world
    have ran : process id event world =
        ⟨.process id (Events.withInner event) :: called.log, called.state, called.result⟩ := by
      have announced : within (EventManager.observe (.process id (Events.withInner event))) world =
          ⟨[.process id (Events.withInner event)], world, .ok ()⟩ := Attempt.within_ok rfl
      rw [process, Attempt.bind_ok (getMutUnchecked_some registered), Attempt.bind_ok announced]
      rfl
    have traced : Traced EventManager.Inside (fun world => world.manager.Live id)
        (callback id (SharedSubscriber.process subscriber (Events.withInner event)) :
          Manage kernel (Nat → Mutex S) (Arc (Mutex S)) Unit)
        (fun _ _ => True) (fun _ _ => True) := callback_traced id _ (fun _ _ _ => trivial)
    rw [ran]
    refine .headed rfl (traced world live).2.1 ?_ (callback_begins_none handle id _ world)
    intro begins
    have refused := ran.symm.trans (closed.barred.delivery id event begins)
    have logged := congrArg Aftermath.log refused
    have failed := congrArg Aftermath.result refused
    refine ⟨.callback id .poisonError, ?_, (List.cons.inj logged).2, rfl⟩
    change called.result = _ at failed
    simp only [Aftermath.reason, failed]

/-- An addition begins the `init` of what is added, and nothing else.

Proof: as for a delivery, with the addition in the place of the call and the addition
that `Barred` describes. -/
theorem addSubscriber_refrains (handle subscriber : Arc (Mutex S)) :
    Refrains handle (addSubscriber subscriber :
      Manage kernel (Nat → Mutex S) (Arc (Mutex S)) SubscriberId) := by
  intro world closed
  have moved : Poisons world _ (addSubscriber subscriber world).state :=
    poisons_confines.serve (.addSubscriber subscriber) world
  refine ⟨moved.closed closed, ?_⟩
  have led := (addSubscriber_traced subscriber world trivial).2.1
  by_cases last : world.manager.subscribers.nextId = BitVec.allOnes 64
  · have refused : enroll subscriber world = ⟨[], world, .error (.manager .nextIdOverflow)⟩ := by
      simp only [enroll, Subscribers.add, last, if_true]
    rw [addSubscriber, Attempt.bind_error refused]
    exact .silent
  · let id : SubscriberId := ⟨world.manager.subscribers.nextId⟩
    let enrolled : World kernel (Nat → Mutex S) (Arc (Mutex S)) :=
      { world with manager := world.manager.apply (.addSubscriber id subscriber) }
    let called := callback id (SharedSubscriber.init subscriber) enrolled
    have logged : (addSubscriber subscriber world).log =
        .addSubscriber id subscriber :: called.log := by
      have drawn : enroll subscriber world =
          ⟨[.addSubscriber id subscriber], enrolled, .ok id⟩ := by
        simp only [enroll, Subscribers.add, last, if_false]
        rfl
      have registered : enrolled.manager.subscribers.subscribers id = some subscriber := by
        simp [enrolled, EventManager.apply]
      rw [addSubscriber, Attempt.bind_ok drawn, Attempt.bind_ok (getMutUnchecked_some registered)]
      rcases ran : callback id (SharedSubscriber.init subscriber) enrolled with
        ⟨log, final, reason | _⟩
      · rw [Attempt.bind_error ran]
        simp [called, ran]
      · rw [Attempt.bind_ok ran]
        simp [called, ran, pure, Attempt.ret]
    refine .headed logged led ?_ (callback_begins_none handle id _ enrolled)
    rintro (rfl : subscriber = handle)
    have refused := closed.barred.addition last
    rw [refused] at logged
    refine ⟨.callback id .poisonError, ?_, (List.cons.inj logged).2.symm, rfl⟩
    rw [refused]
    rfl

/-- Every request refrains. -/
theorem serve_refrains (handle : Arc (Mutex S)) (request : Request (Arc (Mutex S))) :
    Refrains handle (serve request :
      Manage kernel (Nat → Mutex S) (Arc (Mutex S)) (Response request)) := by
  cases request with
  | addSubscriber subscriber => exact addSubscriber_refrains handle subscriber
  | removeSubscriber id =>
    exact within_refrains handle (EventManager.removeSubscriber_traced id)
      (EventManager.removeSubscriber_logs (fun _ _ begins => begins) id)
  | subscriberMut id update =>
    exact within_refrains handle (EventManager.subscriberMut_traced id update)
      (EventManager.subscriberMut_logs (fun _ _ _ begins => begins) id update)
  | eventOps id operation =>
    exact within_refrains handle (EventManager.eventOps_traced id operation)
      (EventManager.eventOps_logs (fun _ _ _ _ begins => begins) id operation)

/-- So does the dispatch loop, by induction on the slots to go. -/
theorem dispatchLoop_refrains (handle : Arc (Mutex S)) (evIndex remaining : Nat)
    (endpointEvent : Option EpollEvent) :
    Refrains handle (dispatchLoop evIndex remaining endpointEvent :
      Manage kernel (Nat → Mutex S) (Arc (Mutex S)) (Option EpollEvent)) := by
  induction remaining generalizing evIndex endpointEvent with
  | zero => exact .ret endpointEvent
  | succ remaining inductionHypothesis =>
    have slot : Refrains handle (within (EventManager.readyEvent evIndex) :
        Manage kernel (Nat → Mutex S) (Arc (Mutex S)) EpollEvent) := by
      intro world closed
      cases fetched : world.manager.epollContext.readyEvents[evIndex]? with
      | none =>
        have failed : EventManager.readyEvent evIndex world.manager =
            ⟨[], .error .indexOutOfBounds⟩ := by
          simp only [EventManager.readyEvent, fetched]
        rw [within, Attempt.within_error failed]
        exact ⟨closed, .silent⟩
      | some event =>
        have read : EventManager.readyEvent evIndex world.manager =
            ⟨[], .ok (event, world.manager)⟩ := by
          simp only [EventManager.readyEvent, fetched]
        rw [within, Attempt.within_ok read]
        exact ⟨closed, .silent⟩
    refine slot.bind (fun event => ?_)
    by_cases discarded : EventManager.Discarded event
    · simp only [discarded, if_true]
      exact inductionHypothesis (evIndex + 1) endpointEvent
    · simp only [discarded, if_false]
      refine .read_bind (fun now => ?_)
      split
      · rename_i id dispatched
        exact (process_refrains handle id event).bind
          (fun _ => inductionHypothesis (evIndex + 1) endpointEvent)
      · split
        · exact inductionHypothesis (evIndex + 1) (some event)
        · exact .abort _

/-- So do the closures of the endpoint, by induction on the queue. -/
theorem handleEndpointCalls_refrains (handle : Arc (Mutex S))
    (closures : List (Closure (Arc (Mutex S)))) :
    Refrains handle (handleEndpointCalls closures :
      Manage kernel (Nat → Mutex S) (Arc (Mutex S)) Unit) := by
  induction closures with
  | nil => exact .ret ()
  | cons closure rest inductionHypothesis =>
    have invoked : Refrains handle (invoke closure :
        Manage kernel (Nat → Mutex S) (Arc (Mutex S)) Unit) := by
      refine (Program.stops_interpret (serve_refrains handle) closure).bind (fun panic => ?_)
      cases panic with
      | none => exact .ret ()
      | some payload => exact .abort _
    exact invoked.bind (fun _ => inductionHypothesis)

/-- Every call refrains. By its parts: a wait begins no callback, and the batch and the
closures refrain. -/
theorem perform_refrains (handle : Arc (Mutex S)) (input : Input (Arc (Mutex S))) :
    Refrains handle (perform input :
      Manage kernel (Nat → Mutex S) (Arc (Mutex S)) (Output (Arc (Mutex S)))) := by
  cases input with
  | request request => exact (serve_refrains handle request).bind (fun _ => .ret _)
  | run milliseconds response closures =>
    have polled : Refrains handle (within (EventManager.poll milliseconds response) :
        Manage kernel (Nat → Mutex S) (Arc (Mutex S)) (Except Error Nat)) := by
      refine within_refrains handle (EventManager.poll_traced milliseconds response) ?_
      intro manager observation member
      obtain rfl := List.mem_singleton.mp member
      exact fun _ begins => begins
    have ran : Refrains handle (runWithTimeout milliseconds response closures :
        Manage kernel (Nat → Mutex S) (Arc (Mutex S)) (Except Error Nat)) := by
      refine polled.bind (fun waited => ?_)
      cases waited with
      | error error => exact .ret _
      | ok eventCount =>
        refine Attempt.Stops.bind ?_ (fun _ => .ret _)
        refine (dispatchLoop_refrains handle 0 eventCount none).bind (fun found => ?_)
        cases found with
        | none => exact .ret ()
        | some event =>
          rw [dispatchEndpointEvent]
          split
          · exact .abort _
          · exact handleEndpointCalls_refrains handle closures
    exact ran.bind (fun _ => .ret _)

/-- A call over a closed mutex shuns its handles. -/
theorem Closed.shuns {world : World kernel (Nat → Mutex S) (Arc (Mutex S))}
    {handle : Arc (Mutex S)} (closed : Closed handle world) (input : Input (Arc (Mutex S))) :
    Shuns handle world (perform input world) :=
  ⟨(perform_refrains handle input world closed).2,
    (poisons_confines.perform input world).untouched closed.lasting handle.address closed.poisoned⟩

/-- Once a callback has panicked under the lock of a shared mutex, then in every call
after it, whatever other threads do short of clearing the poison, no callback is run
for that mutex again, through whichever registration: every one that begins anywhere in
the call's log ends the call with the poison error, having done nothing, and what the
mutex protects changes only by what the others do to it.

Proof: the panic leaves the mutex poisoned, a poisoned mutex is left to the others by
every callback, so it is closed at every step of every later call; and at each delivery
and addition of a handle to a closed mutex the lock fails first. -/
theorem barred_for_good {world : World kernel (Nat → Mutex S) (Arc (Mutex S))}
    (lasting : Lasting world.others) {input : Input (Arc (Mutex S))} {id : SubscriberId}
    {payload : Payload}
    (panicked : (perform input world).result = .error (.callback id payload)) :
    ∃ handle, (perform input world).state.manager.subscribers.subscribers id = some handle ∧
      ∀ later final, Reaches (fun _ => True) (perform input world).state later final →
        Untouched handle.address (perform input world).state final ∧ Barred handle final ∧
          ∀ next, Shuns handle final (perform next final) := by
  have moved := poisons_confines.perform input world
  obtain ⟨handle, registered, poisoned⟩ := moved.panicked id payload (by rw [panicked]; rfl)
  refine ⟨handle, registered, ?_⟩
  intro later final reached
  have kept := reached.poisons
  have closed : Closed handle (perform input world).state := by
    refine ⟨?_, poisoned⟩
    rw [moved.others]
    exact lasting
  exact ⟨kept.untouched closed.lasting handle.address poisoned, (kept.closed closed).barred,
    (kept.closed closed).shuns⟩

/-- Two counting subscribers behind shared mutexes, added to a new manager; the first one
has counted as far as it can. -/
def sharedCounters : World Kernel.reference (Nat → Mutex CounterSubscriber)
    (Arc (Mutex CounterSubscriber)) :=
  (performAll [.request (.addSubscriber ⟨0⟩), .request (.addSubscriber ⟨1⟩)]
    (fresh (fun address => if address = 0 then ⟨⟨⟨5, BitVec.allOnes 64⟩⟩, false⟩
      else ⟨⟨⟨6, 0⟩⟩, false⟩))).2

/-- The first one's descriptor is readable. -/
def oneReadable : Input (Arc (Mutex CounterSubscriber)) :=
  .run (-1) (.ok [(Events.newRaw 5 .IN).epollEvent]) []

/-- Both descriptors are readable, the second one's first. -/
def bothReadable : Input (Arc (Mutex CounterSubscriber)) :=
  .run (-1) (.ok [(Events.newRaw 6 .IN).epollEvent, (Events.newRaw 5 .IN).epollEvent]) []

/-- The count overflows, and its callback panics. In the batch after it the second
subscriber counts, and the callback that panicked begins and is not run. -/
theorem barred_for_good_overflowing :
    Lasting sharedCounters.others ∧
      (perform oneReadable sharedCounters).result = .error (.callback ⟨1⟩ .overflow) ∧
      (∃ waited, (perform bothReadable (perform oneReadable sharedCounters).state).log =
        [waited, .process ⟨2⟩ (Events.withInner (Events.newRaw 6 .IN).epollEvent), .store ⟨2⟩ ⟨1⟩,
          .process ⟨1⟩ (Events.withInner (Events.newRaw 5 .IN).epollEvent), .store ⟨1⟩ ⟨0⟩]) ∧
      ∃ handle, (perform oneReadable sharedCounters).state.manager.subscribers.subscribers ⟨1⟩ =
          some handle ∧
        ∀ later final,
          Reaches (fun _ => True) (perform oneReadable sharedCounters).state later final →
          Untouched handle.address (perform oneReadable sharedCounters).state final ∧
            Barred handle final ∧ ∀ next, Shuns handle final (perform next final) := by
  have lasting : Lasting sharedCounters.others := fun _ _ _ poisoned => poisoned
  have panicked : (perform oneReadable sharedCounters).result =
      .error (.callback ⟨1⟩ .overflow) := rfl
  exact ⟨lasting, panicked, ⟨_, rfl⟩, barred_for_good lasting panicked⟩

end World

end EventLoop
