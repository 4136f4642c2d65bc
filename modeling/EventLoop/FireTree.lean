import EventLoop.Submission
import EventLoop.Library.Exhaustion

/-!
# A drain comes to its end

A closure may fire further closures while it runs, so the queue grows while it is
drained and its length is no measure of what is left to do. What is left is a
forest: the closures in the queue, with everything they can fire. Every step of a
drain takes one item of that forest, or of the little the loop itself has to do,
and puts back only items below it; by the hydra argument there is no endless
drain. Nor does one get stuck, unless a closure makes the manager panic.

Here no thread sends or kicks while the manager drains. Threads that wait for a
result may receive it.
-/

namespace EventLoop

open Transition Relation

variable {types : ResultTypes} {service : Service}

/-- The steps of a drain, and of calls that receive what it sends. -/
def Action.Drains : Action types service → Prop
  | .write _ => True
  | .receive _ => True
  | .read => True
  | .take _ => True
  | .empty => True
  | .request => True
  | .fire _ => True
  | .resume => True
  | .kickInside => True
  | .finish _ _ => True
  | _ => False

/-- A step while the manager drains and nobody sends. -/
def Drain (system : System types service) (action : Action types service)
    (next : System types service) : Prop :=
  Step system action next ∧ action.Drains

/-- The running closure's request makes the manager panic. -/
def System.Panicked (system : System types service) : Prop :=
  ∃ message request next, system.control = .running message (.request request next) ∧
    service.serve request system.manager = none

/-- Only finitely many calls were made. -/
def System.FiniteCalls (system : System types service) : Prop :=
  ∃ bound : Nat, ∀ call : Nat, bound ≤ call → system.callers call = none

/-- No call but the running closure's own fire is between its two steps. -/
structure Solo (system : System types service) : Prop where
  alive : system.control ≠ .dropped
  writer : ∀ call caller, system.callers call = some caller → caller.phase = .enqueued →
    ∃ message next, system.control = .firing message call next
  fired : ∀ message call next, system.control = .firing message call next →
    ∃ caller, system.callers call = some caller ∧ caller.blocking = false ∧
      caller.phase ≠ .waiting
  finite : system.FiniteCalls

/-- A step makes at most one call more. -/
theorem System.FiniteCalls.step {system next : System types service} {action : Action types service}
    (finite : system.FiniteCalls) (stepped : Step system action next) : next.FiniteCalls := by
  obtain ⟨bound, none⟩ := finite
  have grown : ∀ (call : Nat) (caller : Caller types), ∃ larger : Nat, ∀ other : Nat,
      larger ≤ other → PartialMap.insert system.callers call caller other = .none := by
    intro call caller
    refine ⟨max bound (call + 1), fun other beyond => ?_⟩
    have distinct : other ≠ call := by omega
    rw [PartialMap.insert_apply, if_neg distinct]
    exact none other (by omega)
  have move := stepped.callers
  unfold System.FiniteCalls
  generalize next.callers = callers at move
  cases move with
  | same => exact ⟨bound, none⟩
  | accepted message enqueues => exact grown _ _
  | refused message => exact grown _ _
  | written call caller found phase => exact grown _ _
  | received call caller found phase outcome ended => exact grown _ _

/-- So every run has made finitely many. -/
theorem System.FiniteCalls.of_run {manager : service.State} {history : List (Action types service)}
    {system : System types service} (run : Run Step (System.initial manager) history system) :
    system.FiniteCalls :=
  run.invariant (fun _ state => state.FiniteCalls) ⟨0, fun _ _ => rfl⟩
    (fun _ _ _ _ finite stepped => finite.step stepped)

/-- A fire of the running closure does not wait once it has written. -/
theorem Caller.written_fire {caller : Caller types} (fire : caller.blocking = false)
    (result : Except Errno Unit) : ∃ outcome, caller.written result = .returned outcome := by
  cases result with
  | ok => exact ⟨.fired, by simp [Caller.written, fire]⟩
  | error errno => exact ⟨_, rfl⟩

namespace Solo

variable {system next : System types service} {action : Action types service}

/-- Before a drain starts nobody is between the two steps of a call. -/
theorem of_notified (notified : system.control = .notified) (quiet : ¬ system.Writing)
    (finite : system.FiniteCalls) : Solo system where
  alive := by simp [notified]
  writer call caller found phase := absurd ⟨call, caller, found, phase⟩ quiet
  fired message call next firing := by simp [notified] at firing
  finite := finite

/-- Where no closure is inside a fire, nobody is between the two steps of a call. -/
theorem not_writing (solo : Solo system)
    (outside : ∀ message call next, system.control ≠ .firing message call next) :
    ¬ system.Writing := by
  rintro ⟨call, caller, found, phase⟩
  obtain ⟨message, next, firing⟩ := solo.writer call caller found phase
  exact outside message call next firing

/-- A step that touches no call, from and to where no closure is inside a fire. -/
theorem quiet (solo : Solo system) (stepped : Step system action next)
    (same : next.callers = system.callers)
    (before : ∀ message call task, system.control ≠ .firing message call task)
    (after : ∀ message call task, next.control ≠ .firing message call task)
    (alive : next.control ≠ .dropped) : Solo next where
  alive := alive
  writer call caller found phase := by
    rw [same] at found
    exact absurd ⟨call, caller, found, phase⟩ (solo.not_writing before)
  fired message call task firing := absurd firing (after message call task)
  finite := solo.finite.step stepped

/-- Who is to write is the running closure's own fire, and it returns with that. -/
theorem own_write (solo : Solo system) {call : CallId} {caller : Caller types}
    (found : system.callers call = some caller) (phase : caller.phase = .enqueued) :
    ∃ message task outcome, system.control = .firing message call task ∧
      caller.blocking = false ∧ caller.written system.eventFd.write.1 = .returned outcome := by
  obtain ⟨message, task, firing⟩ := solo.writer call caller found phase
  obtain ⟨own, registered, fire, _⟩ := solo.fired message call task firing
  obtain rfl : caller = own := Option.some.inj (found.symm.trans registered)
  obtain ⟨outcome, returned⟩ := caller.written_fire fire system.eventFd.write.1
  exact ⟨message, task, outcome, firing, fire, returned⟩

/-- A call that waits for a result is not that fire. -/
theorem fire_ne_waiting (solo : Solo system) {message : FnMsg types service} {call other : CallId}
    {task : Except Error Unit → Task types service message.code} {caller : Caller types}
    (firing : system.control = .firing message other task)
    (found : system.callers call = some caller) (phase : caller.phase = .waiting) :
    other ≠ call := by
  obtain ⟨own, registered, _, going⟩ := solo.fired message other task firing
  rintro rfl
  obtain rfl : caller = own := Option.some.inj (found.symm.trans registered)
  exact going phase

/-- The running closure's own fire writes the eventfd. -/
theorem write (solo : Solo system) {call : CallId} {caller : Caller types}
    (found : system.callers call = some caller) (phase : caller.phase = .enqueued) :
    Solo (system.write call caller) := by
  obtain ⟨message, task, outcome, firing, fire, returned⟩ := solo.own_write found phase
  refine ⟨solo.alive, ?_, ?_, solo.finite.step (.write found phase)⟩
  · intro other moved there waiting
    obtain ⟨rfl, rfl⟩ | ⟨distinct, before⟩ := PartialMap.insert_eq_some there
    · simp [returned] at waiting
    · exact solo.writer other moved before waiting
  · intro message' other task' firing'
    obtain ⟨_, rfl, _⟩ := Control.firing.inj (firing.symm.trans firing')
    refine ⟨{ caller with phase := .returned outcome }, ?_, fire, by simp⟩
    simp [System.write, System.settle, returned]

/-- A call that waited returns; it is not the running closure's fire. -/
theorem receive (solo : Solo system) {call : CallId} {caller : Caller types}
    {outcome : CallOutcome types caller.code}
    (stepped : Step system action (system.receive call caller outcome))
    (found : system.callers call = some caller) (phase : caller.phase = .waiting) :
    Solo (system.receive call caller outcome) := by
  refine ⟨solo.alive, ?_, ?_, solo.finite.step stepped⟩
  · intro other moved there enqueued
    obtain ⟨rfl, rfl⟩ | ⟨distinct, before⟩ := PartialMap.insert_eq_some there
    · simp at enqueued
    · exact solo.writer other moved before enqueued
  · intro message other task firing
    obtain ⟨own, registered, fire, going⟩ := solo.fired message other task firing
    have distinct : other ≠ call := solo.fire_ne_waiting firing found phase
    exact ⟨own, by simp [System.receive, System.settle, distinct, registered], fire, going⟩

/-- A step of a drain keeps it so: the only call that comes to be between its two steps is
the running closure's own fire, and no closure runs on before that has written. -/
theorem step (solo : Solo system) (drained : Drain system action next) : Solo next := by
  obtain ⟨stepped, drains⟩ := drained
  cases stepped with
  | write found phase => exact solo.write found phase
  | receive found phase reply => exact solo.receive (.receive found phase reply) found phase
  | disconnected found phase reply =>
    exact solo.receive (.disconnected found phase reply) found phase
  | read idle =>
    exact solo.quiet (.read idle) rfl (by simp [idle]) (by simp) (by simp)
  | take draining first =>
    exact solo.quiet (.take draining first) rfl (by simp [draining]) (by simp) (by simp)
  | empty draining none =>
    exact solo.quiet (.empty draining none) rfl (by simp [draining]) (by simp) (by simp)
  | request running served =>
    exact solo.quiet (.request running served) rfl (by simp [running]) (by simp) (by simp)
  | kickInside running =>
    exact solo.quiet (.kickInside running) rfl (by simp [running]) (by simp) (by simp)
  | finish running =>
    exact solo.quiet (.finish running) rfl (by simp [running]) (by simp [System.finish])
      (by simp [System.finish])
  | @fire message call body task running fresh =>
    refine ⟨by simp, ?_, ?_, solo.finite.step (.fire running fresh)⟩
    · intro other moved there enqueued
      obtain ⟨rfl, rfl⟩ | ⟨_, before⟩ := PartialMap.insert_eq_some there
      · exact ⟨message, task, rfl⟩
      · exact absurd ⟨other, moved, before, enqueued⟩ (solo.not_writing (by simp [running]))
    · intro message' other task' firing
      obtain ⟨_, rfl, _⟩ := Control.firing.inj firing
      exact ⟨⟨types.unit, false, .enqueued⟩, by simp [System.accept, FnMsg.fire], rfl, by simp⟩
  | @resume message call task caller outcome firing found phase =>
    refine ⟨by simp, ?_, by simp, solo.finite.step (.resume firing found phase)⟩
    intro other moved there enqueued
    obtain ⟨_, _, firing'⟩ := solo.writer other moved there enqueued
    obtain ⟨_, rfl, _⟩ := Control.firing.inj (firing.symm.trans firing')
    obtain rfl : caller = moved := Option.some.inj (found.symm.trans there)
    rw [phase] at enqueued
    cases enqueued
  | send => exact drains.elim
  | reject => exact drains.elim
  | kick => exact drains.elim
  | act => exact drains.elim
  | wait => exact drains.elim
  | dismiss => exact drains.elim
  | drop => exact drains.elim

/-- So does every part of a drain. -/
theorem of_run (solo : Solo system) {history : List (Action types service)}
    (drain : Run Drain system history next) : Solo next :=
  drain.invariant (fun _ state => Solo state) solo
    (fun _ _ _ _ held drained => held.step drained)

end Solo

/-- What is left to do, item by item. -/
inductive Item (types : ResultTypes) (service : Service) where
  /-- The eventfd is to be read. -/
  | arrival
  /-- A `try_recv` is to report `Empty`. -/
  | polling
  /-- A message is to be taken. -/
  | queued {code : types.Code} (task : Task types service code)
  /-- A closure is to run on. -/
  | running {code : types.Code} (task : Task types service code)
  /-- A fire of a closure is to write the eventfd. -/
  | writing {code : types.Code} (next : Except Error Unit → Task types service code)
  /-- A fire of a closure is to return. -/
  | written {code : types.Code} (next : Except Error Unit → Task types service code)
  /-- A call is to receive its result. -/
  | waiting (call : CallId)

/-- Doing the second item leaves the first to do, perhaps among others. -/
inductive Item.Below : Item types service → Item types service → Prop
  | polled : Below .polling .arrival
  | taken {code : types.Code} (task : Task types service code) :
      Below (.running task) (.queued task)
  | answered {code : types.Code} {request : service.Req}
      {next : service.Res request → Task types service code} (response : service.Res request) :
      Below (.running (next response)) (.running (.request request next))
  | fired {code : types.Code} {body : Task types service types.unit}
      {next : Except Error Unit → Task types service code} :
      Below (.queued body) (.running (.fire body next))
  | firing {code : types.Code} {body : Task types service types.unit}
      {next : Except Error Unit → Task types service code} :
      Below (.writing next) (.running (.fire body next))
  | announced {code : types.Code} (next : Except Error Unit → Task types service code) :
      Below (.written next) (.writing next)
  | resumed {code : types.Code} {next : Except Error Unit → Task types service code}
      (result : Except Error Unit) : Below (.running (next result)) (.written next)
  | kicked {code : types.Code} {next : Except Error Unit → Task types service code}
      (result : Except Error Unit) : Below (.running (next result)) (.running (.kick next))

namespace Item

variable {code : types.Code} {task : Task types service code}
  {next : Except Error Unit → Task types service code}

/-- A message is well founded if running its closure is. -/
theorem acc_queued (ran : Acc Below (.running task : Item types service)) :
    Acc Below (.queued task : Item types service) := by
  refine .intro _ (fun _ below => ?_)
  cases below with
  | taken => exact ran

/-- A fire that has to return is well founded if running on with any result is. -/
theorem acc_written (each : ∀ result, Acc Below (.running (next result) : Item types service)) :
    Acc Below (.written next : Item types service) := by
  refine .intro _ (fun _ below => ?_)
  cases below with
  | resumed result => exact each result

/-- So is one that has to write first. -/
theorem acc_writing (each : ∀ result, Acc Below (.running (next result) : Item types service)) :
    Acc Below (.writing next : Item types service) := by
  refine .intro _ (fun _ below => ?_)
  cases below with
  | announced => exact acc_written each

/-- A closure is a well-founded tree, and so is what running it leaves to do. -/
theorem acc_running (task : Task types service code) :
    Acc Below (.running task : Item types service) := by
  induction task with
  | ret value =>
    refine .intro _ (fun _ below => ?_)
    cases below
  | request request next inductionHypothesis =>
    refine .intro _ (fun _ below => ?_)
    cases below with
    | answered response => exact inductionHypothesis response
  | fire body next bodyHypothesis nextHypothesis =>
    refine .intro _ (fun _ below => ?_)
    cases below with
    | fired => exact acc_queued bodyHypothesis
    | firing => exact acc_writing nextHypothesis
  | kick next inductionHypothesis =>
    refine .intro _ (fun _ below => ?_)
    cases below with
    | kicked result => exact inductionHypothesis result

/-- There is no endless descent among items.

Proof: by cases on the item, and for the closures by induction on their trees. -/
theorem below_wellFounded :
    WellFounded (Below : Item types service → Item types service → Prop) := by
  have polling : Acc Below (.polling : Item types service) := by
    refine .intro _ (fun _ below => ?_)
    cases below
  refine ⟨fun item => ?_⟩
  cases item with
  | arrival =>
    refine .intro _ (fun _ below => ?_)
    cases below with
    | polled => exact polling
  | polling => exact polling
  | queued task => exact acc_queued (acc_running task)
  | running task => exact acc_running task
  | writing next => exact acc_writing (fun result => acc_running (next result))
  | written next => exact acc_written (fun result => acc_running (next result))
  | waiting call =>
    refine .intro _ (fun _ below => ?_)
    cases below

end Item

/-- What the fire of a closure has still to do. -/
def Item.ofFire {code : types.Code} (next : Except Error Unit → Task types service code) :
    Option (Caller types) → Item types service
  | some ⟨_, _, .enqueued⟩ => .writing next
  | _ => .written next

/-- A fire that has not written is to write. -/
theorem Item.ofFire_enqueued {code : types.Code}
    {next : Except Error Unit → Task types service code} {caller : Caller types}
    (phase : caller.phase = .enqueued) : Item.ofFire next (some caller) = .writing next := by
  obtain ⟨code, blocking, stage⟩ := caller
  dsimp only at phase
  rw [phase]
  rfl

/-- One that has returned its outcome is to go on with it. -/
theorem Item.ofFire_returned {code : types.Code}
    {next : Except Error Unit → Task types service code} {caller : Caller types}
    {outcome : CallOutcome types caller.code} (phase : caller.phase = .returned outcome) :
    Item.ofFire next (some caller) = .written next := by
  obtain ⟨code, blocking, stage⟩ := caller
  dsimp only at phase
  rw [phase]
  rfl

/-- What the loop and the closure that runs have still to do. -/
def Control.items (callers : CallId → Option (Caller types)) :
    Control types service → Multiset (Item types service)
  | .notified => {.arrival}
  | .draining => {.polling}
  | .running _ task => {.polling} + {.running task}
  | .firing _ call next => {.polling} + {Item.ofFire next (callers call)}
  | .outside => 0
  | .dropped => 0

/-- The messages to be taken. -/
def queuedItems (queue : List (FnMsg types service)) : Multiset (Item types service) :=
  (queue.map (fun message => Item.queued message.fnbox) : List (Item types service))

/-- Everything left to do, with the calls that are to receive something. -/
def System.items (system : System types service) (waiting : Multiset CallId) :
    Multiset (Item types service) :=
  system.control.items system.callers + queuedItems system.queue + waiting.map .waiting

/-- The calls that wait for a result are among these. -/
def System.Awaits (system : System types service) (waiting : Multiset CallId) : Prop :=
  ∀ call caller, system.callers call = some caller → caller.phase = .waiting → call ∈ waiting

/-- The first message is an item of its own. -/
theorem queuedItems_cons (message : FnMsg types service) (rest : List (FnMsg types service)) :
    queuedItems (message :: rest) = queuedItems rest + {.queued message.fnbox} := by
  rw [queuedItems, List.map_cons, ← Multiset.cons_coe, ← Multiset.singleton_add, add_comm]
  rfl

/-- So is the last one. -/
theorem queuedItems_snoc (queue : List (FnMsg types service)) (message : FnMsg types service) :
    queuedItems (queue ++ [message]) = queuedItems queue + {.queued message.fnbox} := by
  rw [queuedItems, List.map_append, ← Multiset.coe_add]
  rfl

namespace Solo

variable {system next : System types service} {action : Action types service}
  {waiting : Multiset CallId}

/-- A step that does an item of the control or of the queue. -/
theorem items_done (awaits : next.Awaits waiting) (lower : Multiset (Item types service))
    (done : Item types service) (others : Multiset (Item types service))
    (below : ∀ item ∈ lower, Item.Below item done)
    (was : system.control.items system.callers + queuedItems system.queue = others + {done})
    (is : next.control.items next.callers + queuedItems next.queue = others + lower) :
    ∃ remaining, next.Awaits remaining ∧
      CutExpand Item.Below (next.items remaining) (system.items waiting) := by
  refine ⟨waiting, awaits,
    cutExpand_of (others + waiting.map .waiting) lower done below ?_ ?_⟩
  · rw [System.items, was, add_right_comm]
  · rw [System.items, is, add_right_comm]

/-- The closure that runs does its item. -/
theorem items_running (awaits : next.Awaits waiting) {message : FnMsg types service}
    {task : Task types service message.code} (running : system.control = .running message task)
    (lower : Multiset (Item types service))
    (below : ∀ item ∈ lower, Item.Below item (.running task))
    (is : next.control.items next.callers + queuedItems next.queue =
      {.polling} + queuedItems system.queue + lower) :
    ∃ remaining, next.Awaits remaining ∧
      CutExpand Item.Below (next.items remaining) (system.items waiting) := by
  refine items_done awaits lower (.running task) ({.polling} + queuedItems system.queue) below
    ?_ is
  rw [running]
  exact add_right_comm _ _ _

/-- The fire of the closure that runs does its item. -/
theorem items_firing (awaits : next.Awaits waiting) {message : FnMsg types service} {call : CallId}
    {task : Except Error Unit → Task types service message.code}
    (firing : system.control = .firing message call task) (lower : Multiset (Item types service))
    (below : ∀ item ∈ lower, Item.Below item (Item.ofFire task (system.callers call)))
    (is : next.control.items next.callers + queuedItems next.queue =
      {.polling} + queuedItems system.queue + lower) :
    ∃ remaining, next.Awaits remaining ∧
      CutExpand Item.Below (next.items remaining) (system.items waiting) := by
  refine items_done awaits lower (Item.ofFire task (system.callers call))
    ({.polling} + queuedItems system.queue) below ?_ is
  rw [firing]
  exact add_right_comm _ _ _

/-- A fire leaves its announcement and the fired message to do. The running item makes
room for two below it: what the fire has still to do, and the message it enqueues. -/
theorem items_fire (awaits : system.Awaits waiting) {message : FnMsg types service}
    {call : CallId} {body : Task types service types.unit}
    {task : Except Error Unit → Task types service message.code}
    (running : system.control = .running message (.fire body task)) :
    ∃ remaining, System.Awaits { system.accept (FnMsg.fire call body) with
        control := .firing message call task } remaining ∧
      CutExpand Item.Below (System.items { system.accept (FnMsg.fire call body) with
        control := .firing message call task } remaining) (system.items waiting) := by
  have still : System.Awaits { system.accept (FnMsg.fire call body) with
      control := .firing message call task } waiting := by
    intro other moved there phase
    obtain ⟨rfl, rfl⟩ | ⟨_, before⟩ := PartialMap.insert_eq_some there
    · simp at phase
    · exact awaits other moved before phase
  have announcing : Item.ofFire task ((system.accept (FnMsg.fire call body)).callers call) =
      .writing task := by
    simp [System.accept, FnMsg.fire, Item.ofFire]
  refine items_running still running ({.writing task} + {.queued body}) ?_ ?_
  · intro item member
    rcases Multiset.mem_add.mp member with first | second
    · rw [Multiset.mem_singleton.mp first]
      exact .firing
    · rw [Multiset.mem_singleton.mp second]
      exact .fired
  · change {.polling} + {Item.ofFire task ((system.accept (FnMsg.fire call body)).callers call)} +
      queuedItems (system.queue ++ [FnMsg.fire call body]) = _
    rw [announcing, queuedItems_snoc]
    exact add_add_add_comm _ _ _ _

/-- An announced fire has still to return. -/
theorem items_write (solo : Solo system) (awaits : system.Awaits waiting) {call : CallId}
    {caller : Caller types} (found : system.callers call = some caller)
    (phase : caller.phase = .enqueued) :
    ∃ remaining, (system.write call caller).Awaits remaining ∧
      CutExpand Item.Below ((system.write call caller).items remaining)
        (system.items waiting) := by
  obtain ⟨message, task, outcome, firing, _, returned⟩ := solo.own_write found phase
  have still : (system.write call caller).Awaits waiting := by
    intro other moved there pending
    obtain ⟨rfl, rfl⟩ | ⟨_, before⟩ := PartialMap.insert_eq_some there
    · simp [returned] at pending
    · exact awaits other moved before pending
  have announced : Item.ofFire task ((system.write call caller).callers call) =
      .written task := by
    simp [System.write, System.settle, returned, Item.ofFire]
  refine items_firing still firing {.written task} ?_ ?_
  · rw [found, Item.ofFire_enqueued phase]
    simpa using Item.Below.announced task
  · change system.control.items (system.write call caller).callers + queuedItems system.queue = _
    rw [firing, Control.items, announced]
    exact add_right_comm _ _ _

/-- A call that receives its result waits no longer. It is taken off the calls that wait;
the control does not see it, for the running closure's own fire does not wait. -/
theorem items_receive (solo : Solo system) {call : CallId} {caller : Caller types}
    {outcome : CallOutcome types caller.code} (awaits : system.Awaits waiting)
    (found : system.callers call = some caller) (phase : caller.phase = .waiting) :
    ∃ remaining, (system.receive call caller outcome).Awaits remaining ∧
      CutExpand Item.Below ((system.receive call caller outcome).items remaining)
        (system.items waiting) := by
  have listed : call ∈ waiting := awaits call caller found phase
  have control : system.control.items (system.receive call caller outcome).callers =
      system.control.items system.callers := by
    cases firing : system.control with
    | firing message other task =>
      have distinct : other ≠ call := solo.fire_ne_waiting firing found phase
      simp [Control.items, System.receive, System.settle, distinct]
    | _ => rfl
  refine ⟨waiting.erase call, ?_, cutExpand_of
    (system.control.items system.callers + queuedItems system.queue +
      (waiting.erase call).map .waiting) 0 (.waiting call) (by simp) ?_ ?_⟩
  · intro other moved there still
    obtain ⟨rfl, rfl⟩ | ⟨distinct, before⟩ := PartialMap.insert_eq_some there
    · simp at still
    · exact (Multiset.mem_erase_of_ne distinct).mpr (awaits other moved before still)
  · rw [System.items, ← Multiset.cons_erase listed, Multiset.map_cons, ← Multiset.singleton_add,
      Multiset.erase_cons_head, add_comm {Item.waiting call}, add_assoc, add_assoc, add_assoc]
  · rw [add_zero, System.items]
    exact congrArg (· + _ + _) control

/-- Every step of a drain does an item and leaves only items below it. By cases on the
step: each names the item it does, and shows that what it puts back is below that. -/
theorem items_step (solo : Solo system) (awaits : system.Awaits waiting)
    (drained : Drain system action next) :
    ∃ remaining, next.Awaits remaining ∧
      CutExpand Item.Below (next.items remaining) (system.items waiting) := by
  obtain ⟨stepped, drains⟩ := drained
  cases stepped with
  | receive found phase reply => exact solo.items_receive awaits found phase
  | disconnected found phase reply => exact solo.items_receive awaits found phase
  | read idle =>
    refine items_done awaits {.polling} .arrival (queuedItems system.queue) ?_ ?_ ?_
    · simpa using Item.Below.polled
    · rw [idle, add_comm]
      rfl
    · rw [add_comm]
      rfl
  | @take message rest draining first =>
    refine items_done awaits {.running message.fnbox} (.queued message.fnbox)
      ({.polling} + queuedItems rest) ?_ ?_ ?_
    · simpa using Item.Below.taken message.fnbox
    · rw [draining, first, queuedItems_cons, ← add_assoc]
      rfl
    · exact add_right_comm _ _ _
  | empty draining none =>
    refine items_done awaits 0 .polling (queuedItems system.queue) (by simp) ?_ ?_
    · rw [draining, add_comm]
      rfl
    · rw [add_comm]
      rfl
  | @request message request task response manager running served =>
    refine items_running awaits running {.running (task response)} ?_ (add_right_comm _ _ _)
    simpa using Item.Below.answered response
  | @kickInside message task running =>
    refine items_running awaits running
      {.running (task (system.eventFd.write.1.mapError .eventFd))} ?_ (add_right_comm _ _ _)
    simpa using Item.Below.kicked _
  | finish running =>
    exact items_running awaits running 0 (by simp) (by rw [add_zero]; rfl)
  | @resume message call task caller outcome firing found phase =>
    refine items_firing awaits firing {.running (task outcome.toResult)} ?_
      (add_right_comm _ _ _)
    rw [found, Item.ofFire_returned phase]
    simpa using Item.Below.resumed _
  | fire running fresh => exact items_fire awaits running
  | write found phase => exact solo.items_write awaits found phase
  | send => exact drains.elim
  | reject => exact drains.elim
  | kick => exact drains.elim
  | act => exact drains.elim
  | wait => exact drains.elim
  | dismiss => exact drains.elim
  | drop => exact drains.elim

/-- What a system whose manager drains owes. -/
def Owes (system : System types service) (items : Multiset (Item types service)) : Prop :=
  Solo system ∧ ∃ waiting, system.Awaits waiting ∧ system.items waiting = items

/-- Finitely many calls can wait, so there is something it owes. -/
theorem owes (solo : Solo system) : ∃ items, Owes system items := by
  obtain ⟨bound, none⟩ := solo.finite
  refine ⟨_, solo, Multiset.range bound, ?_, rfl⟩
  intro call caller found _
  rw [Multiset.mem_range]
  by_contra beyond
  rw [none call (Nat.le_of_not_lt beyond)] at found
  cases found

/-- There is no endless drain: what is left to do goes down with every step. -/
theorem terminates (solo : Solo system) : Acc (Before Drain) system := by
  obtain ⟨items, owes⟩ := solo.owes
  refine acc_of_owes Item.below_wellFounded Owes ?_ owes
  rintro state action next _ ⟨alone, waiting, awaits, rfl⟩ drained
  obtain ⟨remaining, still, less⟩ := alone.items_step awaits drained
  exact ⟨_, ⟨alone.step drained, remaining, still, rfl⟩, less⟩

/-- A drain that is not over goes on, unless the manager panicked. By cases on the
control: each has a step to take, and only a request of the running closure can fail to be
answered. -/
theorem progress (solo : Solo system) :
    system.control = .outside ∨ system.Panicked ∨ ∃ action next, Drain system action next := by
  cases control : system.control with
  | outside => exact Or.inl rfl
  | notified => exact Or.inr (Or.inr ⟨_, _, .read control, trivial⟩)
  | dropped => exact absurd control solo.alive
  | draining =>
    cases queue : system.queue with
    | nil => exact Or.inr (Or.inr ⟨_, _, .empty control queue, trivial⟩)
    | cons message rest => exact Or.inr (Or.inr ⟨_, _, .take control queue, trivial⟩)
  | firing message call task =>
    obtain ⟨caller, found, _, going⟩ := solo.fired message call task control
    cases phase : caller.phase with
    | enqueued => exact Or.inr (Or.inr ⟨_, _, .write found phase, trivial⟩)
    | waiting => exact absurd phase going
    | returned outcome => exact Or.inr (Or.inr ⟨_, _, .resume control found phase, trivial⟩)
  | running message task =>
    cases task with
    | ret value => exact Or.inr (Or.inr ⟨_, _, .finish control, trivial⟩)
    | kick next => exact Or.inr (Or.inr ⟨_, _, .kickInside control, trivial⟩)
    | fire body next =>
      obtain ⟨bound, none⟩ := solo.finite
      exact Or.inr (Or.inr ⟨_, _, .fire control (none bound (Nat.le_refl bound)), trivial⟩)
    | request request next =>
      cases served : service.serve request system.manager with
      | none => exact Or.inr (Or.inl ⟨message, request, next, control, served⟩)
      | some answer => exact Or.inr (Or.inr ⟨_, _, .request control served, trivial⟩)

/-- So every drain can be brought to its end: where it has no step left it is over, or the
manager panicked. -/
theorem completes (solo : Solo system) :
    ∃ later final, Run Drain system later final ∧
      (final.control = .outside ∨ final.Panicked) := by
  obtain ⟨later, final, run, stuck⟩ := Run.exhaust solo.terminates
  refine ⟨later, final, run, ?_⟩
  rcases (solo.of_run run).progress with ended | panicked | more
  · exact Or.inl ended
  · exact Or.inr panicked
  · exact absurd more stuck

end Solo

end EventLoop
