import Mathlib.Tactic.Abel
import EventLoop.Capacity
import EventLoop.FireTree
import EventLoop.Isolation
import EventLoop.Remote
import EventLoop.Stranding
import EventLoop.Library.Exhaustion

/-!
# Left alone, the exchange settles

Let every thread finish the calls it is in, and let nobody start another. However
many calls are in flight, wherever the manager is and in whatever order the steps
fall, there is an end to it: drains may be followed by further drains, since writes
of the eventfd fall into them, but not for ever. When nothing is left to do, every
call has returned, the queue is empty and nothing is announced; every message ever
enqueued has had its closure run, and every call that blocked has the value of its
own, unless the eventfd was full or the manager was dropped.

A wait reports the endpoint only while its descriptor is registered, and a subscriber
may take that registration away, since `EventOps` does not look whose descriptor it is
given; a report that was made before is discarded then. What is announced is never
heard, and stays the one other way for the exchange to come to a stand.
-/

namespace EventLoop

open Transition Relation

variable {types : ResultTypes} {service : Service}

/-- The steps that go on with something begun. -/
def Action.Settles : Action types service → Prop
  | .write _ => True
  | .receive _ => True
  | .wait => True
  | .dismiss => True
  | .read => True
  | .take _ => True
  | .empty => True
  | .request => True
  | .fire _ => True
  | .resume => True
  | .kickInside => True
  | .finish _ _ => True
  | _ => False

/-- What a step asks of the manager's registrations: a wait reports the endpoint only
while the manager listens for it, and a report is discarded only when it no longer
does, since it takes a removal of the descriptor to discard one. -/
def Action.Audible (listens : service.State → Prop) (manager : service.State) :
    Action types service → Prop
  | .wait => listens manager
  | .dismiss => ¬ listens manager
  | _ => True

/-- A step that the kernel makes possible. -/
def Guarded (listens : service.State → Prop) (system : System types service)
    (action : Action types service) (next : System types service) : Prop :=
  Step system action next ∧ action.Audible listens system.manager

/-- Such a step that starts nothing new. -/
def Settling (listens : service.State → Prop) (system : System types service)
    (action : Action types service) (next : System types service) : Prop :=
  Guarded listens system action next ∧ action.Settles

/-- What is left to do, piece by piece. -/
inductive Duty (types : ResultTypes) (service : Service) where
  /-- A `try_recv` is to report `Empty`. -/
  | polling
  /-- The eventfd is to be read. -/
  | reading
  /-- A wait is to report the eventfd. -/
  | reporting
  /-- A call is to write the eventfd. -/
  | announcing
  /-- A call is to receive. -/
  | receiving
  /-- A message is to be taken. -/
  | queued {code : types.Code} (task : Task types service code)
  /-- A closure is to run on. -/
  | running {code : types.Code} (task : Task types service code)
  /-- A fire of a closure is to return. -/
  | resuming {code : types.Code} (next : Except Error Unit → Task types service code)

/-- Doing the second leaves the first to do, perhaps among others. -/
inductive Duty.Below : Duty types service → Duty types service → Prop
  | polled : Below .polling .reading
  | reported : Below .reading .reporting
  | announced : Below .reporting .announcing
  | awaited : Below .receiving .announcing
  | taken {code : types.Code} (task : Task types service code) :
      Below (.running task) (.queued task)
  | answered {code : types.Code} {request : service.Req}
      {next : service.Res request → Task types service code} (response : service.Res request) :
      Below (.running (next response)) (.running (.request request next))
  | fired {code : types.Code} {body : Task types service types.unit}
      {next : Except Error Unit → Task types service code} :
      Below (.queued body) (.running (.fire body next))
  | firing {code : types.Code} {body : Task types service types.unit}
      {next : Except Error Unit → Task types service code} :
      Below .announcing (.running (.fire body next))
  | returning {code : types.Code} {body : Task types service types.unit}
      {next : Except Error Unit → Task types service code} :
      Below (.resuming next) (.running (.fire body next))
  | resumed {code : types.Code} {next : Except Error Unit → Task types service code}
      (result : Except Error Unit) : Below (.running (next result)) (.resuming next)
  | kicked {code : types.Code} {next : Except Error Unit → Task types service code}
      (result : Except Error Unit) : Below (.running (next result)) (.running (.kick next))
  | kicking {code : types.Code} {next : Except Error Unit → Task types service code} :
      Below .reporting (.running (.kick next))

namespace Duty

variable {code : types.Code} {task : Task types service code}
  {next : Except Error Unit → Task types service code}

/-- After a `try_recv` that reports `Empty` nothing is left. -/
theorem acc_polling : Acc Below (.polling : Duty types service) := by
  refine .intro _ (fun _ below => ?_)
  cases below

/-- A read leaves a `try_recv`. -/
theorem acc_reading : Acc Below (.reading : Duty types service) := by
  refine .intro _ (fun _ below => ?_)
  cases below with
  | polled => exact acc_polling

/-- A report leaves a read. -/
theorem acc_reporting : Acc Below (.reporting : Duty types service) := by
  refine .intro _ (fun _ below => ?_)
  cases below with
  | reported => exact acc_reading

/-- A receive leaves nothing. -/
theorem acc_receiving : Acc Below (.receiving : Duty types service) := by
  refine .intro _ (fun _ below => ?_)
  cases below

/-- A write leaves a report and a receive. -/
theorem acc_announcing : Acc Below (.announcing : Duty types service) := by
  refine .intro _ (fun _ below => ?_)
  cases below with
  | announced => exact acc_reporting
  | awaited => exact acc_receiving

/-- A message is well founded if running its closure is. -/
theorem acc_queued (ran : Acc Below (.running task : Duty types service)) :
    Acc Below (.queued task : Duty types service) := by
  refine .intro _ (fun _ below => ?_)
  cases below with
  | taken => exact ran

/-- A fire that has to return is well founded if running on with any result is. -/
theorem acc_resuming (each : ∀ result, Acc Below (.running (next result) : Duty types service)) :
    Acc Below (.resuming next : Duty types service) := by
  refine .intro _ (fun _ below => ?_)
  cases below with
  | resumed result => exact each result

/-- A closure is a well-founded tree, and so is what running it leaves to do. -/
theorem acc_running (task : Task types service code) :
    Acc Below (.running task : Duty types service) := by
  induction task with
  | ret value =>
    refine .intro _ (fun _ below => ?_)
    cases below
  | request request next inductionHypothesis =>
    refine .intro _ (fun _ below => ?_)
    cases below with
    | answered response => exact inductionHypothesis response
  | fire body next bodyHypothesis nextHypothesis =>
    refine .intro _ (fun _ below => ?_)
    cases below with
    | fired => exact acc_queued bodyHypothesis
    | firing => exact acc_announcing
    | returning => exact acc_resuming nextHypothesis
  | kick next inductionHypothesis =>
    refine .intro _ (fun _ below => ?_)
    cases below with
    | kicked result => exact inductionHypothesis result
    | kicking => exact acc_reporting

/-- There is no endless descent among duties.

Proof: by cases on the duty, and for the closures by induction on their trees. -/
theorem below_wellFounded :
    WellFounded (Below : Duty types service → Duty types service → Prop) := by
  refine ⟨fun duty => ?_⟩
  cases duty with
  | polling => exact acc_polling
  | reading => exact acc_reading
  | reporting => exact acc_reporting
  | announcing => exact acc_announcing
  | receiving => exact acc_receiving
  | queued task => exact acc_queued (acc_running task)
  | running task => exact acc_running task
  | resuming next => exact acc_resuming (fun result => acc_running (next result))

end Duty

/-- What the loop and the closure that runs have still to do. -/
def Control.duties : Control types service → Multiset (Duty types service)
  | .notified => {.reading}
  | .draining => {.polling}
  | .running _ task => {.polling} + {.running task}
  | .firing _ _ next => {.polling} + {.resuming next}
  | .outside => 0
  | .dropped => 0

/-- The messages to be taken. -/
def queuedDuties (queue : List (FnMsg types service)) : Multiset (Duty types service) :=
  (queue.map (fun message => Duty.queued message.fnbox) : List (Duty types service))

/-- The first message is a duty of its own. -/
theorem queuedDuties_cons (message : FnMsg types service) (rest : List (FnMsg types service)) :
    queuedDuties (message :: rest) = queuedDuties rest + {.queued message.fnbox} := by
  rw [queuedDuties, List.map_cons, ← Multiset.cons_coe, ← Multiset.singleton_add, add_comm]
  rfl

/-- So is the last one. -/
theorem queuedDuties_snoc (queue : List (FnMsg types service)) (message : FnMsg types service) :
    queuedDuties (queue ++ [message]) = queuedDuties queue + {.queued message.fnbox} := by
  rw [queuedDuties, List.map_append, ← Multiset.coe_add]
  rfl

/-- What calls have still to do: some are to write, some to receive, and so often the
eventfd may be reported. -/
structure Agenda where
  writers : Multiset CallId
  receivers : Multiset CallId
  reports : Nat

/-- The duties on an agenda. -/
def Agenda.duties (agenda : Agenda) : Multiset (Duty types service) :=
  agenda.writers.map (fun _ => .announcing) + agenda.receivers.map (fun _ => .receiving) +
    Multiset.replicate agenda.reports .reporting

/-- The agenda has every call that is to write or to receive, and a report if the
eventfd is to be reported, which outside a drain takes a manager that listens. -/
structure Agenda.Covers (agenda : Agenda) (listens : service.State → Prop)
    (system : System types service) : Prop where
  writing : ∀ call caller, system.callers call = some caller → caller.phase = .enqueued →
    call ∈ agenda.writers
  receiving : ∀ call caller, system.callers call = some caller → caller.phase = .waiting →
    call ∈ agenda.receivers
  reported : 0 < system.eventFd.counter → system.control ≠ .notified →
    (system.control = .outside → listens system.manager) → 0 < agenda.reports

/-- Everything left to do. -/
def System.Owes (system : System types service) (listens : service.State → Prop)
    (duties : Multiset (Duty types service)) : Prop :=
  ∃ agenda : Agenda, agenda.Covers listens system ∧
    duties = system.control.duties + queuedDuties system.queue + agenda.duties

namespace Agenda

variable {agenda : Agenda} {listens : service.State → Prop} {system next : System types service}

/-- A step that touches no call and reports nothing new. -/
theorem Covers.quiet (covers : agenda.Covers listens system)
    (callers : next.callers = system.callers)
    (reported : 0 < next.eventFd.counter → next.control ≠ .notified →
      (next.control = .outside → listens next.manager) → 0 < agenda.reports) :
    agenda.Covers listens next where
  writing := by
    rw [callers]
    exact covers.writing
  receiving := by
    rw [callers]
    exact covers.receiving
  reported := reported

/-- A step inside a drain that touches neither calls nor the eventfd: the report that is
due is on the agenda already. -/
theorem Covers.busy (covers : agenda.Covers listens system) (inside : system.control.InDrain)
    (callers : next.callers = system.callers) (eventFd : next.eventFd = system.eventFd) :
    agenda.Covers listens next := by
  refine covers.quiet callers (fun ready _ _ => ?_)
  rw [eventFd] at ready
  refine covers.reported ready ?_ ?_
  · intro notified
    rw [notified] at inside
    exact inside
  · intro outside
    rw [outside] at inside
    exact inside.elim

/-- A call is made inside the running closure. -/
def enlist (agenda : Agenda) (call : CallId) : Agenda :=
  { agenda with writers := agenda.writers + {call} }

/-- A call writes; it may come to wait, and the eventfd may come to be reported. -/
def announce (agenda : Agenda) (call : CallId) : Agenda where
  writers := agenda.writers.erase call
  receivers := agenda.receivers + {call}
  reports := agenda.reports + 1

/-- A call receives. -/
def dismiss (agenda : Agenda) (call : CallId) : Agenda :=
  { agenda with receivers := agenda.receivers.erase call }

/-- A call made adds one write. -/
theorem duties_enlist (agenda : Agenda) (call : CallId) :
    ((agenda.enlist call).duties : Multiset (Duty types service)) =
      agenda.duties + {.announcing} := by
  simp only [duties, enlist, Multiset.map_add, Multiset.map_singleton]
  abel

/-- A call that writes has done its write, and leaves a receive and a report. -/
theorem duties_announce {call : CallId} (listed : call ∈ agenda.writers) :
    ∃ others : Multiset (Duty types service), agenda.duties = others + {.announcing} ∧
      (agenda.announce call).duties = others + ({.receiving} + {.reporting}) := by
  refine ⟨(agenda.writers.erase call).map (fun _ => .announcing) +
    agenda.receivers.map (fun _ => .receiving) +
      Multiset.replicate agenda.reports .reporting, ?_, ?_⟩
  · rw [duties, ← Multiset.cons_erase listed, Multiset.map_cons, ← Multiset.singleton_add,
      Multiset.erase_cons_head]
    abel
  · simp only [duties, announce, Multiset.map_add, Multiset.map_singleton,
      Multiset.replicate_succ, ← Multiset.singleton_add]
    abel

/-- A call that receives has done its receive. -/
theorem duties_dismiss {call : CallId} (listed : call ∈ agenda.receivers) :
    (agenda.duties : Multiset (Duty types service)) =
      (agenda.dismiss call).duties + {.receiving} := by
  rw [duties, ← Multiset.cons_erase listed, Multiset.map_cons, ← Multiset.singleton_add]
  simp only [duties, dismiss]
  abel

/-- A wait that reports has done its report. -/
theorem duties_report {reports : Nat} (some : agenda.reports = reports + 1) :
    (agenda.duties : Multiset (Duty types service)) =
      ({ agenda with reports := reports } : Agenda).duties + {.reporting} := by
  rw [duties, some, Multiset.replicate_succ, ← Multiset.singleton_add]
  simp only [duties]
  abel

end Agenda

/-- A call that has written is not about to. -/
theorem Caller.written_settled (caller : Caller types) (result : Except Errno Unit) :
    caller.written result ≠ .enqueued := by
  cases result with
  | error errno => simp [Caller.written]
  | ok =>
    cases blocking : caller.blocking with
    | true => simp [Caller.written, blocking]
    | false => simp [Caller.written, blocking]

namespace System.Owes

variable {listens : service.State → Prop} {system next : System types service} {agenda : Agenda}

/-- A step does one duty and leaves only duties below it. -/
theorem paid {after : Agenda} (covers : after.Covers listens next)
    (others lower : Multiset (Duty types service)) (done : Duty types service)
    (below : ∀ duty ∈ lower, Duty.Below duty done)
    (was : system.control.duties + queuedDuties system.queue + agenda.duties = others + {done})
    (is : next.control.duties + queuedDuties next.queue + after.duties = others + lower) :
    ∃ remaining, next.Owes listens remaining ∧ CutExpand Duty.Below remaining
      (system.control.duties + queuedDuties system.queue + agenda.duties) :=
  ⟨_, ⟨after, covers, rfl⟩, cutExpand_of others lower done below was is⟩

/-- The closure that runs does its duty. -/
theorem ran {after : Agenda} (covers : after.Covers listens next) {message : FnMsg types service}
    {task : Task types service message.code} (running : system.control = .running message task)
    (lower : Multiset (Duty types service))
    (below : ∀ duty ∈ lower, Duty.Below duty (.running task))
    (is : next.control.duties + queuedDuties next.queue + after.duties =
      {.polling} + queuedDuties system.queue + agenda.duties + lower) :
    ∃ remaining, next.Owes listens remaining ∧ CutExpand Duty.Below remaining
      (system.control.duties + queuedDuties system.queue + agenda.duties) := by
  refine paid covers ({.polling} + queuedDuties system.queue + agenda.duties) lower
    (.running task) below ?_ is
  rw [running]
  simp only [Control.duties]
  abel

/-- A write of the eventfd does its duty: the call may come to wait, and the eventfd to be
reported. -/
theorem write (covers : agenda.Covers listens system) {call : CallId} {caller : Caller types}
    (found : system.callers call = some caller) (phase : caller.phase = .enqueued) :
    ∃ remaining, (system.write call caller).Owes listens remaining ∧ CutExpand Duty.Below remaining
      (system.control.duties + queuedDuties system.queue + agenda.duties) := by
  obtain ⟨others, was, is⟩ := @Agenda.duties_announce types service _ _
    (covers.writing call caller found phase)
  have after : (agenda.announce call).Covers listens (system.write call caller) := by
    refine ⟨?_, ?_, fun _ _ _ => Nat.succ_pos _⟩
    · intro other moved there writing
      obtain ⟨distinct, before⟩ : other ≠ call ∧ system.callers other = some moved := by
        obtain ⟨rfl, rfl⟩ | held := PartialMap.insert_eq_some there
        · exact absurd writing (caller.written_settled _)
        · exact held
      exact (Multiset.mem_erase_of_ne distinct).mpr (covers.writing other moved before writing)
    · intro other moved there waiting
      obtain ⟨rfl, rfl⟩ | ⟨_, before⟩ := PartialMap.insert_eq_some there
      · exact Multiset.mem_add.mpr (Or.inr (Multiset.mem_singleton_self _))
      · exact Multiset.mem_add.mpr (Or.inl (covers.receiving other moved before waiting))
  refine paid after (system.control.duties + queuedDuties system.queue + others)
    ({.receiving} + {.reporting}) .announcing ?_ ?_ ?_
  · intro duty member
    rcases Multiset.mem_add.mp member with first | second
    · rw [Multiset.mem_singleton.mp first]
      exact .awaited
    · rw [Multiset.mem_singleton.mp second]
      exact .announced
  · rw [was]
    exact (add_assoc _ _ _).symm
  · rw [is]
    exact (add_assoc _ _ _).symm

/-- A receive does its duty, whatever it receives. -/
theorem receive (covers : agenda.Covers listens system) {call : CallId} {caller : Caller types}
    {outcome : CallOutcome types caller.code} (found : system.callers call = some caller)
    (phase : caller.phase = .waiting) :
    ∃ remaining, (system.receive call caller outcome).Owes listens remaining ∧
      CutExpand Duty.Below remaining
        (system.control.duties + queuedDuties system.queue + agenda.duties) := by
  have after : (agenda.dismiss call).Covers listens (system.receive call caller outcome) := by
    refine ⟨?_, ?_, covers.reported⟩
    · intro other moved there writing
      obtain ⟨rfl, rfl⟩ | ⟨_, before⟩ := PartialMap.insert_eq_some there
      · cases writing
      · exact covers.writing other moved before writing
    · intro other moved there waiting
      obtain ⟨rfl, rfl⟩ | ⟨distinct, before⟩ := PartialMap.insert_eq_some there
      · cases waiting
      · exact (Multiset.mem_erase_of_ne distinct).mpr (covers.receiving other moved before waiting)
  refine paid after (system.control.duties + queuedDuties system.queue +
    (agenda.dismiss call).duties) 0 .receiving (by simp) ?_ (add_zero _).symm
  rw [Agenda.duties_dismiss (covers.receiving call caller found phase)]
  exact (add_assoc _ _ _).symm

/-- A fire leaves its message, its write and its return. -/
theorem fire (covers : agenda.Covers listens system) {message : FnMsg types service} {call : CallId}
    {body : Task types service types.unit}
    {task : Except Error Unit → Task types service message.code}
    (running : system.control = .running message (.fire body task)) :
    ∃ remaining, System.Owes { system.accept (FnMsg.fire call body) with
        control := .firing message call task } listens remaining ∧
      CutExpand Duty.Below remaining
        (system.control.duties + queuedDuties system.queue + agenda.duties) := by
  have after : (agenda.enlist call).Covers listens { system.accept (FnMsg.fire call body) with
      control := .firing message call task } := by
    refine ⟨?_, ?_, fun ready _ _ => covers.reported ready (by simp [running]) (by simp [running])⟩
    · intro other moved there writing
      obtain ⟨rfl, rfl⟩ | ⟨_, before⟩ := PartialMap.insert_eq_some there
      · exact Multiset.mem_add.mpr (Or.inr (Multiset.mem_singleton_self _))
      · exact Multiset.mem_add.mpr (Or.inl (covers.writing other moved before writing))
    · intro other moved there waiting
      obtain ⟨rfl, rfl⟩ | ⟨_, before⟩ := PartialMap.insert_eq_some there
      · cases waiting
      · exact covers.receiving other moved before waiting
  refine ran after running ({.queued body} + {.announcing} + {.resuming task}) ?_ ?_
  · intro duty member
    rcases Multiset.mem_add.mp member with others | third
    · rcases Multiset.mem_add.mp others with first | second
      · rw [Multiset.mem_singleton.mp first]
        exact .fired
      · rw [Multiset.mem_singleton.mp second]
        exact .firing
    · rw [Multiset.mem_singleton.mp third]
      exact .returning
  · change {.polling} + {.resuming task} + queuedDuties (system.queue ++ [FnMsg.fire call body]) +
      (agenda.enlist call).duties = _
    rw [queuedDuties_snoc, Agenda.duties_enlist]
    simp only [FnMsg.fire]
    abel

/-- Every step that starts nothing new does a duty. A report that is discarded leaves
nothing to report, since the manager does not listen any more. -/
theorem step {action : Action types service} {duties : Multiset (Duty types service)}
    (owes : system.Owes listens duties) (settling : Settling listens system action next) :
    ∃ remaining, next.Owes listens remaining ∧ CutExpand Duty.Below remaining duties := by
  obtain ⟨agenda, covers, rfl⟩ := owes
  obtain ⟨⟨stepped, audible⟩, settles⟩ := settling
  cases stepped with
  | write found phase => exact write covers found phase
  | receive found phase => exact receive covers found phase
  | disconnected found phase => exact receive covers found phase
  | fire running => exact fire covers running
  | wait idle ready =>
    obtain ⟨reports, some⟩ : ∃ reports, agenda.reports = reports + 1 := by
      have positive := covers.reported ready (by simp [idle]) (fun _ => audible)
      exact ⟨agenda.reports - 1, by omega⟩
    have after : ({ agenda with reports := reports } : Agenda).Covers listens
        { system with control := .notified } :=
      ⟨covers.writing, covers.receiving, fun _ waiting => absurd rfl waiting⟩
    refine paid after (queuedDuties system.queue +
      ({ agenda with reports := reports } : Agenda).duties) {.reading} .reporting ?_ ?_ ?_
    · simpa using Duty.Below.reported
    · rw [idle, Agenda.duties_report some]
      simp only [Control.duties]
      abel
    · simp only [Control.duties]
      abel
  | read idle =>
    have after : agenda.Covers listens
        { system with control := .draining, eventFd := system.eventFd.read } :=
      covers.quiet rfl (fun ready => absurd ready (Nat.lt_irrefl 0))
    refine paid after (queuedDuties system.queue + agenda.duties) {.polling} .reading ?_ ?_ ?_
    · simpa using Duty.Below.polled
    · rw [idle]
      simp only [Control.duties]
      abel
    · simp only [Control.duties]
      abel
  | @take message rest draining first =>
    have after : agenda.Covers listens
        { system with queue := rest, control := .running message message.fnbox } :=
      covers.busy (by rw [draining]; trivial) rfl rfl
    refine paid after ({.polling} + queuedDuties rest + agenda.duties)
      {.running message.fnbox} (.queued message.fnbox) ?_ ?_ ?_
    · simpa using Duty.Below.taken message.fnbox
    · rw [draining, first, queuedDuties_cons]
      simp only [Control.duties]
      abel
    · simp only [Control.duties]
      abel
  | empty draining none =>
    have after : agenda.Covers listens { system with control := .outside } :=
      covers.busy (by rw [draining]; trivial) rfl rfl
    refine paid after (queuedDuties system.queue + agenda.duties) 0 .polling (by simp) ?_ ?_
    · rw [draining]
      simp only [Control.duties]
      abel
    · simp only [Control.duties]
      abel
  | @request message request task response manager running served =>
    have after : agenda.Covers listens
        { system with manager := manager, control := .running message (task response) } :=
      covers.busy (by rw [running]; trivial) rfl rfl
    refine ran after running {.running (task response)} ?_ ?_
    · simpa using Duty.Below.answered response
    · simp only [Control.duties]
      abel
  | @kickInside message task running =>
    have after : ({ agenda with reports := agenda.reports + 1 } : Agenda).Covers listens
        { system with
          eventFd := system.eventFd.write.2
          control := .running message (task (system.eventFd.write.1.mapError .eventFd)) } :=
      ⟨covers.writing, covers.receiving, fun _ _ _ => Nat.succ_pos _⟩
    refine ran after running
      ({.running (task (system.eventFd.write.1.mapError .eventFd))} + {.reporting}) ?_ ?_
    · intro duty member
      rcases Multiset.mem_add.mp member with first | second
      · rw [Multiset.mem_singleton.mp first]
        exact .kicked _
      · rw [Multiset.mem_singleton.mp second]
        exact .kicking
    · rw [Agenda.duties_report rfl]
      simp only [Control.duties]
      abel
  | @finish message value running =>
    have after : agenda.Covers listens (system.finish message value) :=
      covers.busy (by rw [running]; trivial) rfl rfl
    refine ran after running 0 (by simp) ?_
    simp only [Control.duties, System.finish]
    abel
  | @resume message call task caller outcome firing found phase =>
    have after : agenda.Covers listens
        { system with control := .running message (task outcome.toResult) } :=
      covers.busy (by rw [firing]; trivial) rfl rfl
    refine paid after ({.polling} + queuedDuties system.queue + agenda.duties)
      {.running (task outcome.toResult)} (.resuming task) ?_ ?_ ?_
    · simpa using Duty.Below.resumed _
    · rw [firing]
      simp only [Control.duties]
      abel
    · simp only [Control.duties]
      abel
  | send => exact settles.elim
  | reject => exact settles.elim
  | kick => exact settles.elim
  | act => exact settles.elim
  | dismiss idle =>
    have after : agenda.Covers listens { system with control := .outside } :=
      covers.quiet rfl (fun _ _ listening => absurd (listening rfl) audible)
    refine paid after (queuedDuties system.queue + agenda.duties) 0 .reading (by simp) ?_ ?_
    · rw [idle]
      simp only [Control.duties]
      abel
    · simp only [Control.duties]
      abel
  | drop => exact settles.elim

end System.Owes

/-- With finitely many calls there are finitely many duties. -/
theorem System.FiniteCalls.owes {system : System types service} (finite : system.FiniteCalls)
    (listens : service.State → Prop) : ∃ duties, system.Owes listens duties := by
  obtain ⟨bound, none⟩ := finite
  have listed : ∀ call caller, system.callers call = some caller → call ∈ Multiset.range bound := by
    intro call caller found
    rw [Multiset.mem_range]
    by_contra beyond
    rw [none call (Nat.le_of_not_lt beyond)] at found
    cases found
  refine ⟨_, ⟨Multiset.range bound, Multiset.range bound, 1⟩,
    ⟨?_, ?_, fun _ _ _ => Nat.one_pos⟩, rfl⟩
  · intro call caller found _
    exact listed call caller found
  · intro call caller found _
    exact listed call caller found

/-- There is no endless settling: the duties descend in a well-founded order. -/
theorem System.FiniteCalls.settles {system : System types service} (finite : system.FiniteCalls)
    (listens : service.State → Prop) : Acc (Before (Settling listens)) system := by
  obtain ⟨duties, owes⟩ := finite.owes listens
  exact acc_of_owes Duty.below_wellFounded (fun state => state.Owes listens)
    (fun _ _ _ _ held settling => held.step settling) owes

/-- A run without panics is one in which none happened. -/
theorem faulty_of_run {system final : System types service} {history : List (Action types service)}
    (remains : Remains service) (run : Run Step system history final) :
    Run (Faulty remains) system (history.map .step) final := by
  induction run with
  | nil => exact .nil
  | snoc _ last inductionHypothesis =>
    rw [List.map_append]
    exact inductionHypothesis.snoc (.step last)

/-- Whether a call blocks is settled when it is made. The flag is written with the entry
of a new call, and every later write of the entry keeps it. -/
theorem Step.blocking_kept {system next : System types service} {action : Action types service}
    (stepped : Step system action next) {call : CallId} {caller : Caller types}
    (found : system.callers call = some caller) :
    ∃ later, next.callers call = some later ∧ later.blocking = caller.blocking := by
  have kept {moved : CallId} {mover : Caller types}
      (same : system.callers moved = some caller → mover.blocking = caller.blocking) :
      ∃ later, PartialMap.insert system.callers moved mover call = some later ∧
        later.blocking = caller.blocking := by
    by_cases here : call = moved
    · subst here
      exact ⟨mover, by simp, same found⟩
    · exact ⟨caller, by simp [here, found], rfl⟩
  have itself {moved : CallId} {mover : Caller types}
      (registered : system.callers moved = some mover)
      (same : system.callers moved = some caller) : mover.blocking = caller.blocking :=
    congrArg Caller.blocking (Option.some.inj (registered.symm.trans same))
  have unregistered {moved : CallId} {mover : Caller types}
      (fresh : system.callers moved = none)
      (same : system.callers moved = some caller) : mover.blocking = caller.blocking := by
    rw [fresh] at same
    cases same
  cases stepped with
  | send _ fresh => exact kept (unregistered fresh)
  | reject _ fresh => exact kept (unregistered fresh)
  | fire _ fresh => exact kept (unregistered fresh)
  | write registered =>
    have same := itself registered
    exact kept same
  | receive registered =>
    have same := itself registered
    exact kept same
  | disconnected registered =>
    have same := itself registered
    exact kept same
  | kick => exact ⟨caller, found, rfl⟩
  | act => exact ⟨caller, found, rfl⟩
  | wait => exact ⟨caller, found, rfl⟩
  | dismiss => exact ⟨caller, found, rfl⟩
  | read => exact ⟨caller, found, rfl⟩
  | take => exact ⟨caller, found, rfl⟩
  | empty => exact ⟨caller, found, rfl⟩
  | request => exact ⟨caller, found, rfl⟩
  | resume => exact ⟨caller, found, rfl⟩
  | kickInside => exact ⟨caller, found, rfl⟩
  | finish => exact ⟨caller, found, rfl⟩
  | drop => exact ⟨caller, found, rfl⟩

/-- How a call can end, by whether it blocks. -/
def CallOutcome.Fits {code : types.Code} (blocking : Bool) : CallOutcome types code → Prop
  | .fired => blocking = false
  | .failed .channelSend => True
  | .failed .channelRecv => True
  | .failed (.eventFd _) => True
  | .failed _ => False
  | _ => True

/-- What a result that came back makes of a call. -/
theorem Caller.received_fits (caller : Caller types) (erased : ErasedResult types)
    (blocking : Bool) : (caller.received erased).Fits blocking := by
  unfold Caller.received
  split
  · trivial
  · trivial

/-- Calls end as they can, and a closure's own fire does not block. -/
structure Orderly (system : System types service) : Prop where
  ends : ∀ call caller outcome, system.callers call = some caller →
    caller.phase = .returned outcome → outcome.Fits caller.blocking
  fires : ∀ message call next, system.control = .firing message call next →
    ∃ caller, system.callers call = some caller ∧ caller.blocking = false

namespace Orderly

variable {system next : System types service} {action : Action types service}

/-- A step ends calls only as they can end. -/
theorem ends_step (orderly : Orderly system) (stepped : Step system action next) :
    ∀ call caller outcome, next.callers call = some caller →
      caller.phase = .returned outcome → outcome.Fits caller.blocking := by
  intro call caller outcome found phase
  cases stepped.caller found with
  | stayed before => exact orderly.ends call caller outcome before phase
  | enqueued => cases phase
  | refused =>
    obtain rfl := CallPhase.returned.inj phase
    trivial
  | received =>
    obtain rfl := CallPhase.returned.inj phase
    exact Caller.received_fits _ _ _
  | disconnected =>
    obtain rfl := CallPhase.returned.inj phase
    trivial
  | written before result =>
    cases result with
    | error errno =>
      obtain rfl := CallPhase.returned.inj phase
      trivial
    | ok =>
      change outcome.Fits before.blocking
      cases blocking : before.blocking with
      | true => simp [Caller.written, blocking] at phase
      | false =>
        simp only [Caller.written, blocking] at phase
        obtain rfl := CallPhase.returned.inj phase
        exact rfl

/-- A fire inside a closure does not block, and no later step changes that. -/
theorem fires_step (orderly : Orderly system) (stepped : Step system action next) :
    ∀ message call task, next.control = .firing message call task →
      ∃ caller, next.callers call = some caller ∧ caller.blocking = false := by
  intro message call task firing
  have kept (before : system.control = .firing message call task) :
      ∃ caller, next.callers call = some caller ∧ caller.blocking = false := by
    obtain ⟨caller, found, own⟩ := orderly.fires message call task before
    obtain ⟨later, there, same⟩ := stepped.blocking_kept found
    exact ⟨later, there, same.trans own⟩
  cases stepped with
  | @fire _ own body =>
    obtain ⟨_, rfl, _⟩ := Control.firing.inj firing
    exact ⟨⟨types.unit, false, .enqueued⟩, by simp [System.accept, FnMsg.fire], rfl⟩
  | send => exact kept firing
  | reject => exact kept firing
  | write => exact kept firing
  | receive => exact kept firing
  | disconnected => exact kept firing
  | kick => exact kept firing
  | act => exact kept firing
  | wait => cases firing
  | dismiss => cases firing
  | read => cases firing
  | take => cases firing
  | empty => cases firing
  | request => cases firing
  | resume => cases firing
  | kickInside => cases firing
  | finish => cases firing
  | drop => cases firing

/-- So it is in every state of every run. -/
theorem of_run {manager : service.State} {history : List (Action types service)}
    (run : Run Step (System.initial manager) history system) : Orderly system := by
  refine run.invariant (fun _ state => Orderly state) ⟨?_, ?_⟩ ?_
  · intro call caller outcome found
    cases found
  · intro message call task firing
    cases firing
  · intro _ state action after orderly stepped
    exact ⟨orderly.ends_step stepped, orderly.fires_step stepped⟩

end Orderly

/-- Nothing is left to do, and everything was done. -/
structure AtRest (history : List (Action types service)) (system : System types service) :
    Prop where
  idle : system.control = .outside ∨ system.control = .dropped
  drained : system.queue = []
  silent : system.control = .outside → system.eventFd.counter = 0
  /-- Every call has returned. -/
  returned : ∀ call caller, system.callers call = some caller →
    ∃ outcome, caller.phase = .returned outcome
  /-- Unless the manager was dropped every message has had its closure run. -/
  executed : system.control = .outside →
    (executed history).map Execution.message = enqueued history
  /-- And every call that blocked has its result, unless it met a full eventfd. -/
  answered : system.control = .outside → ∀ call caller, system.callers call = some caller →
    caller.blocking = true → (∃ value, caller.phase = .returned (.value value)) ∨
      caller.phase = .returned (.failed (.eventFd .EAGAIN))

/-- Something is announced that no wait will report, since the manager does not listen
for it. -/
def System.Unheard (listens : service.State → Prop) (system : System types service) : Prop :=
  system.control = .outside ∧ 0 < system.eventFd.counter ∧ ¬ listens system.manager

section Rest

variable {listens : service.State → Prop} {manager : service.State}
  {history : List (Action types service)} {system : System types service}

/-- A manager that is in the middle of something goes on, unless it panicked. By cases on
the control: each has a step to take, and only a request of the running closure can fail
to be answered. -/
theorem System.busy_settling (run : Run Step (System.initial manager) history system)
    (busy : system.control ≠ .outside) (alive : system.control ≠ .dropped) :
    system.Panicked ∨ ∃ action next, Settling listens system action next := by
  cases control : system.control with
  | outside => exact absurd control busy
  | dropped => exact absurd control alive
  | notified => exact Or.inr ⟨_, _, ⟨.read control, trivial⟩, trivial⟩
  | draining =>
    cases queue : system.queue with
    | nil => exact Or.inr ⟨_, _, ⟨.empty control queue, trivial⟩, trivial⟩
    | cons message rest => exact Or.inr ⟨_, _, ⟨.take control queue, trivial⟩, trivial⟩
  | firing message call task =>
    obtain ⟨caller, found, own⟩ := (Orderly.of_run run).fires message call task control
    cases phase : caller.phase with
    | enqueued => exact Or.inr ⟨_, _, ⟨.write found phase, trivial⟩, trivial⟩
    | returned outcome => exact Or.inr ⟨_, _, ⟨.resume control found phase, trivial⟩, trivial⟩
    | waiting =>
      have blocking := System.waiting_blocking (faulty_of_run (.untouched service) run) call
        caller found phase
      rw [own] at blocking
      cases blocking
  | running message task =>
    cases task with
    | ret value => exact Or.inr ⟨_, _, ⟨.finish control, trivial⟩, trivial⟩
    | kick next => exact Or.inr ⟨_, _, ⟨.kickInside control, trivial⟩, trivial⟩
    | fire body next =>
      obtain ⟨bound, none⟩ := System.FiniteCalls.of_run run
      exact Or.inr ⟨_, _, ⟨.fire control (none bound (Nat.le_refl bound)), trivial⟩, trivial⟩
    | request request next =>
      cases served : service.serve request system.manager with
      | none => exact Or.inl ⟨message, request, next, control, served⟩
      | some answer => exact Or.inr ⟨_, _, ⟨.request control served, trivial⟩, trivial⟩

/-- Where nothing is left to do and nothing announced is unheard, nobody writes and
nothing is announced or queued: a queued message was announced, or its sender is about
to. -/
theorem System.stuck_drained (run : Run Step (System.initial manager) history system)
    (idle : system.control = .outside ∨ system.control = .dropped)
    (heard : ¬ system.Unheard listens)
    (stuck : ¬ ∃ action next, Settling listens system action next) :
    ¬ system.Writing ∧ system.queue = [] ∧
      (system.control = .outside → system.eventFd.counter = 0) := by
  have quiet : ¬ system.Writing := by
    rintro ⟨call, caller, found, phase⟩
    exact stuck ⟨_, _, ⟨.write found phase, trivial⟩, trivial⟩
  have silent : system.control = .outside → system.eventFd.counter = 0 := by
    intro outside
    by_contra positive
    have ready : 0 < system.eventFd.counter := Nat.pos_of_ne_zero positive
    by_cases listening : listens system.manager
    · exact stuck ⟨_, _, ⟨.wait outside ready, listening⟩, trivial⟩
    · exact heard ⟨outside, ready, listening⟩
  refine ⟨quiet, ?_, silent⟩
  rcases idle with outside | gone
  · by_contra pending
    have beyond : ¬ system.control.InDrain := by
      rw [outside]
      exact id
    rcases System.announced_run run beyond pending with ready | writing
    · rw [silent outside] at ready
      cases ready
    · exact quiet writing
  · exact (Submitted.of_run run).cleared gone

/-- And nobody waits. A waiting call is attended: it could receive, or its message is
queued or running, and nothing is. -/
theorem System.stuck_returned (run : Run Step (System.initial manager) history system)
    (idle : system.control = .outside ∨ system.control = .dropped)
    (heard : ¬ system.Unheard listens)
    (stuck : ¬ ∃ action next, Settling listens system action next) {call : CallId}
    {caller : Caller types} (found : system.callers call = some caller) :
    ∃ outcome, caller.phase = .returned outcome := by
  obtain ⟨quiet, drained, _⟩ := System.stuck_drained run idle heard stuck
  have still : system.control.current = [] := by
    rcases idle with outside | gone
    · rw [outside]
      rfl
    · rw [gone]
      rfl
  cases phase : caller.phase with
  | enqueued => exact absurd ⟨call, caller, found, phase⟩ quiet
  | returned outcome => exact ⟨outcome, rfl⟩
  | waiting =>
    have panicless := faulty_of_run (.untouched service) run
    have blocked : caller.Blocked :=
      ⟨System.waiting_blocking panicless call caller found phase, by simp [phase]⟩
    cases System.Attended.of_run panicless call caller found blocked with
    | answered reply =>
      exact absurd ⟨_, _, ⟨.receive found phase reply, trivial⟩, trivial⟩ stuck
    | closed reply =>
      exact absurd ⟨_, _, ⟨.disconnected found phase reply, trivial⟩, trivial⟩ stuck
    | pending reply member =>
      rw [drained, still] at member
      cases member

/-- A call that blocked and returned while the manager lives has its result. The other
ends are closed to it: a channel is closed, and a send refused, only by a dropped manager,
and only a call that does not block just fires. -/
theorem Ledger.blocking_answered (ledger : Ledger history system)
    (submitted : Submitted history system) (orderly : Orderly system)
    (alive : system.control ≠ .dropped) {call : CallId} {caller : Caller types}
    {outcome : CallOutcome types caller.code} (found : system.callers call = some caller)
    (blocking : caller.blocking = true) (phase : caller.phase = .returned outcome) :
    (∃ value, caller.phase = .returned (.value value)) ∨
      caller.phase = .returned (.failed (.eventFd .EAGAIN)) := by
  have fits := orderly.ends call caller outcome found phase
  have settled := ledger.settled call caller outcome found phase
  cases outcome with
  | value value => exact Or.inl ⟨value, phase⟩
  | unwrapNone => exact settled.elim
  | fired =>
    rw [blocking] at fits
    cases fits
  | failed error =>
    cases error with
    | channelSend => exact absurd settled.1 alive
    | channelRecv => exact absurd settled.1 alive
    | eventFd errno =>
      rw [submitted.full call caller errno found phase] at phase
      exact Or.inr phase
    | epoll => exact fits.elim
    | fdAlreadyRegistered => exact fits.elim
    | invalidId => exact fits.elim
    | invalidCapacity => exact fits.elim

/-- Where nothing is left to do, everything was done, unless the manager panicked or
something announced is unheard. -/
theorem System.stuck_atRest (run : Run Step (System.initial manager) history system)
    (stuck : ¬ ∃ action next, Settling listens system action next) :
    system.Panicked ∨ system.Unheard listens ∨ AtRest history system := by
  by_cases panicked : system.Panicked
  · exact Or.inl panicked
  by_cases heard : system.Unheard listens
  · exact Or.inr (Or.inl heard)
  have idle : system.control = .outside ∨ system.control = .dropped := by
    by_contra neither
    rw [not_or] at neither
    exact (System.busy_settling run neither.1 neither.2).elim panicked stuck
  obtain ⟨_, drained, silent⟩ := System.stuck_drained run idle heard stuck
  have ledger := Ledger.of_run run
  refine Or.inr (Or.inr ⟨idle, drained, silent, ?_, ?_, ?_⟩)
  · intro call caller found
    exact System.stuck_returned run idle heard stuck found
  · intro outside
    have still : system.control.current = [] := by
      rw [outside]
      rfl
    have started := ledger.account.started
    have queued := ledger.flow.queued (by simp [outside])
    rw [still, List.append_nil] at started
    rw [drained, List.append_nil] at queued
    rw [queued, started]
  · intro outside call caller found blocking
    obtain ⟨outcome, phase⟩ := System.stuck_returned run idle heard stuck found
    exact ledger.blocking_answered (Submitted.of_run run) (Orderly.of_run run) (by simp [outside])
      found blocking phase

/-- From every reachable state, with any number of calls in flight, the steps that
start nothing new come to an end in any order, and where they do everything begun
is done, unless a request made the manager panic or the manager no longer listens for
what is announced.

Proof: every such step does one of finitely many duties and leaves only duties below
it, and there is no endless descent among duties. At the end each way of going on is
ruled out in turn. -/
theorem System.comes_to_rest (listens : service.State → Prop)
    (run : Run Step (System.initial manager) history system) :
    Acc (Before (Settling listens)) system ∧
    (∀ later final, Run (Settling listens) system later final →
      (¬ ∃ action next, Settling listens final action next) →
        final.Panicked ∨ final.Unheard listens ∨ AtRest (history ++ later) final) ∧
    ∃ later final, Run (Settling listens) system later final ∧
      (final.Panicked ∨ final.Unheard listens ∨ AtRest (history ++ later) final) := by
  have ends := (System.FiniteCalls.of_run run).settles listens
  have rests : ∀ later final, Run (Settling listens) system later final →
      (¬ ∃ action next, Settling listens final action next) →
        final.Panicked ∨ final.Unheard listens ∨ AtRest (history ++ later) final := by
    intro later final rest stuck
    exact System.stuck_atRest (run.append (rest.mono (fun settling => settling.1.1))) stuck
  refine ⟨ends, rests, ?_⟩
  obtain ⟨later, final, rest, stuck⟩ := Run.exhaust ends
  exact ⟨later, final, rest, rests later final rest stuck⟩

end Rest

namespace EventManager

variable {kernel : Kernel} {T : Type}

/-- The last id but one is given out; there is none for the next subscriber. -/
def Exhausted (manager : EventManager kernel T) : Prop :=
  manager.subscribers.nextId = BitVec.allOnes 64

/-- The manager listens for its endpoint: the descriptor is registered for exactly
`IN`, as the manager registered it, no subscriber has registered it, and a wait has
room for its event. -/
structure Listens (manager : EventManager kernel T) : Prop where
  ready : EventOps.EndpointReady manager.channelFd manager.epollContext
  unclaimed : manager.epollContext.fdDispatch manager.channelFd = none
  room : 0 < manager.epollContext.readyEvents.length

/-- A manager with room for events does, as long as no operation has modified or removed
that registration. -/
theorem Started.listens_after {start : EventManager kernel T} (started : start.Started)
    (room : 0 < start.epollContext.readyEvents.length) {observations : List (Observation T)}
    (spares : Replay.Along apply SparesChannel start observations) :
    Listens (start.after observations) where
  ready := ⟨_, (started.channelKept_after spares).registered, rfl⟩
  unclaimed := (started.channelKept_after spares).undispatched
  room := by
    rw [after_length]
    exact room

/-- With an id left, drawing one succeeds. -/
theorem enroll_returns (subscriber : T) :
    Manage.Traced (fun manager => ¬ manager.Exhausted)
      (enroll subscriber : Manage kernel T SubscriberId) (fun id manager => manager.Live id)
      (fun _ _ => False) := by
  intro manager room
  have left : manager.subscribers.nextId ≠ BitVec.allOnes 64 := room
  simp only [enroll, Subscribers.add, left, if_false, Except.map]
  refine ⟨⟨rfl, trivial⟩, rfl, ?_⟩
  simp [Live]

variable [MutEventSubscriber T]

/-- So does every request. -/
theorem serve_returns (request : Request T) :
    Manage.Traced (fun manager => ¬ manager.Exhausted)
      (serve request : Manage kernel T (Response request)) (fun _ _ => True)
      (fun _ _ => False) := by
  have whatever {α : Type} {body : Manage kernel T α}
      (traced : Manage.Traced (fun _ => True) body (fun _ _ => True) (fun _ _ => False)) :
      Manage.Traced (fun manager => ¬ manager.Exhausted) body (fun _ _ => True)
        (fun _ _ => False) :=
    traced.consequence (fun _ _ => trivial) (fun _ _ held => held) (fun _ _ held => held)
  cases request with
  | addSubscriber subscriber =>
    refine (enroll_returns subscriber).bind (fun id => ?_)
    have borrow : Manage.Traced (fun manager : EventManager kernel T => manager.Live id)
        (getMutUnchecked id) (fun _ manager => manager.Live id ∧ manager.Live id)
        (fun _ _ => False) :=
      getMutUnchecked_traced id (fun _ live missing => absurd live missing)
    refine borrow.bind (fun borrowed => ?_)
    refine Exec.Traced.bind ((callback_traced id _).consequence (fun _ held => held.1)
      (fun _ _ held => held) (fun _ _ held => held)) (fun initialized => ?_)
    exact (store_traced id initialized).bind (fun _ => Exec.Traced.ret id (fun _ _ => trivial))
  | removeSubscriber id => exact whatever (removeSubscriber_traced id)
  | subscriberMut id update => exact whatever (subscriberMut_traced id update)
  | eventOps id operation => exact whatever (eventOps_traced id operation)

/-- A request of a closure makes the manager panic only when the ids are used up. -/
theorem panicked_exhausted {system : System types (EventManager.service kernel T)}
    (panicked : system.Panicked) : Exhausted (system.manager : EventManager kernel T) := by
  by_contra room
  obtain ⟨message, request, next, _, served⟩ := panicked
  change (serve request (system.manager : EventManager kernel T)).result.toOption = none at served
  obtain ⟨_, ended⟩ := serve_returns request (system.manager : EventManager kernel T) room
  cases result : (serve request (system.manager : EventManager kernel T)).result with
  | ok answer =>
    rw [result] at served
    cases served
  | error panic =>
    rw [result] at ended
    exact ended

/-- Where something announced is unheard by a manager that was created with room for
events, its history has an operation that modified or removed its endpoint's
registration. -/
theorem unheard_meddled {start : EventManager kernel T} (started : start.Started)
    (room : 0 < start.epollContext.readyEvents.length)
    {history : List (Action types (EventManager.service kernel T))}
    {system : System types (EventManager.service kernel T)}
    (run : Run Step (System.initial start) history system) (unheard : system.Unheard Listens) :
    ∃ observations, start.Valid observations ∧ system.manager = start.after observations ∧
      ¬ Replay.Along apply SparesChannel start observations := by
  obtain ⟨observations, valid, led⟩ := System.manager_valid run
  refine ⟨observations, valid, led, fun spares => unheard.2.2 ?_⟩
  rw [led]
  exact started.listens_after room spares

/-- From every state the event manager and its endpoint can reach, with any number of
calls in flight, the steps that start nothing new come to an end in any order, and
where they do every call has returned and every closure has run, unless the ids of
subscribers are used up, or something is announced to a manager that does not listen:
an operation has unregistered its endpoint or registered it for something else, or it
was created without room for events.

Proof: `System.comes_to_rest` for this manager; a request of a closure makes it panic
only for want of an id. -/
theorem endpoint_comes_to_rest {start : EventManager kernel T}
    {history : List (Action types (EventManager.service kernel T))}
    {system : System types (EventManager.service kernel T)}
    (run : Run Step (System.initial start) history system) :
    Acc (Before (Settling Listens)) system ∧
    (∀ later final, Run (Settling Listens) system later final →
      (¬ ∃ action next, Settling Listens final action next) →
        Exhausted (final.manager : EventManager kernel T) ∨ final.Unheard Listens ∨
          AtRest (history ++ later) final) ∧
    ∃ later final, Run (Settling Listens) system later final ∧
      (Exhausted (final.manager : EventManager kernel T) ∨ final.Unheard Listens ∨
        AtRest (history ++ later) final) := by
  obtain ⟨ends, rests, later, final, rest, ended⟩ := System.comes_to_rest Listens run
  refine ⟨ends, ?_, later, final, rest, ended.imp_left panicked_exhausted⟩
  intro later final rest stuck
  exact (rests later final rest stuck).imp_left panicked_exhausted

/-- A fire is between its two steps and a blocking call waits when the manager, in
the middle of a drain, runs a closure that fires again. -/
theorem endpoint_comes_to_rest_busy :
    ∃ (history : List (Action RemoteResult.types EventManager.scripted))
      (system : System RemoteResult.types EventManager.scripted),
      Run Step System.fresh history system ∧ system.control.InDrain ∧ system.queue ≠ [] ∧
        system.callers 1 = some ⟨.nothing, false, .enqueued⟩ ∧
        Acc (Before (Settling Listens)) system ∧
        (∀ later final, Run (Settling Listens) system later final →
          (¬ ∃ action next, Settling Listens final action next) →
            Exhausted final.manager ∨ final.Unheard Listens ∨ AtRest (history ++ later) final) ∧
        ∃ later final, Run (Settling Listens) system later final ∧
          (Exhausted final.manager ∨ final.Unheard Listens ∨
            AtRest (history ++ later) final) := by
  let refires : Task RemoteResult.types EventManager.scripted RemoteResult.number :=
    .fire (.ret ()) (fun _ => .ret (7 : Nat))
  have begun : Run Step System.fresh [] (System.fresh : System RemoteResult.types _) := Run.nil
  have sent := (begun.snoc (.send (.callBlocking 0 refires) rfl nofun)).snoc
    (@Step.write _ _ _ 0 _ rfl rfl)
  have raced := ((sent.snoc (.wait rfl (by decide))).snoc (.read rfl)).snoc
    (.send (.fire 1 (.ret ())) rfl nofun)
  have running := raced.snoc (.take rfl rfl)
  exact ⟨_, _, running, trivial, List.cons_ne_nil _ _, rfl,
    endpoint_comes_to_rest running⟩

end EventManager

end EventLoop
