import EventLoop.Faults

/-!
# Who is still waited for, and what a panic strands

A call that blocks for its result has, until it returns, its message in the queue
or its closure running, or else something in its channel: a result, or the news
that there will be none. This survives panics and the end of the manager.

Messages are another matter. A panic leaves the drain in the middle, after the
eventfd was read. What is in the queue then stays there, whoever blocks for it,
until somebody writes the eventfd again. Nothing but a panic has this effect.
-/

namespace EventLoop

open Transition

variable {types : ResultTypes} {service : Service}

/-- The call blocks for a result and has not returned. -/
def Caller.Blocked (caller : Caller types) : Prop :=
  caller.blocking = true ∧ ∀ outcome, caller.phase ≠ .returned outcome

/-- Something is in the call's channel, or its closure is still to return. -/
inductive Heeded (system : System types service) (call : CallId) : Prop
  | answered {erased : ErasedResult types} (reply : system.replies call = .full erased)
  | closed (reply : system.replies call = .closed)
  | pending {message : FnMsg types service} (reply : system.replies call = .empty)
      (member : message ∈ system.control.current ++ system.queue)
      (sender : message.sender = some call)

/-- Every call that blocks is heeded. -/
def System.Attended (system : System types service) : Prop :=
  ∀ call caller, system.callers call = some caller → caller.Blocked → Heeded system call

/-- A step that leaves the call's channel and its message. -/
theorem Heeded.same {system next : System types service} {call : CallId}
    (heeded : Heeded system call) (reply : next.replies call = system.replies call)
    (kept : ∀ message, message.sender = some call →
      message ∈ system.control.current ++ system.queue →
        message ∈ next.control.current ++ next.queue) : Heeded next call := by
  cases heeded with
  | answered found => exact .answered (reply.trans found)
  | closed found => exact .closed (reply.trans found)
  | pending found member sender => exact .pending (reply.trans found) (kept _ sender member) sender

/-- The closure that runs comes to its end, and with it its call's channel. If the message
was the call's own its channel is filled, and otherwise it is still queued. -/
theorem Heeded.ended {system next : System types service} {message : FnMsg types service}
    {call : CallId} (heeded : Heeded system call) (conclude : Reply types → Reply types)
    (current : system.control.current = [message]) (queue : next.queue = system.queue)
    (other : message.sender ≠ some call → next.replies call = system.replies call)
    (own : message.sender = some call → next.replies call = conclude (system.replies call))
    (full : ∀ erased, conclude (.full erased) = .full erased) (shut : conclude .closed = .closed)
    (told : (∃ erased, conclude .empty = .full erased) ∨ conclude .empty = .closed) :
    Heeded next call := by
  by_cases mine : message.sender = some call
  · have reply := own mine
    cases heeded with
    | answered found => exact .answered (by rw [reply, found, full])
    | closed found => exact .closed (by rw [reply, found, shut])
    | pending found =>
      rw [found] at reply
      rcases told with ⟨erased, filled⟩ | closed
      · exact .answered (reply.trans filled)
      · exact .closed (reply.trans closed)
  · refine heeded.same (other mine) ?_
    intro pending sender member
    rw [current, List.singleton_append, List.mem_cons] at member
    rcases member with rfl | queued
    · exact absurd sender mine
    · rw [queue]
      exact List.mem_append_right _ queued

/-- Enqueuing the message of another call. -/
theorem Heeded.accept {system : System types service} {message : FnMsg types service}
    {call : CallId} (heeded : Heeded system call) (formed : message.Formed)
    (other : call ≠ message.call) (control : Control types service)
    (current : control.current = system.control.current) :
    Heeded { system.accept message with control := control } call := by
  refine heeded.same ?_ ?_
  · cases formed with
    | fire => rfl
    | callBlocking own body => exact Function.update_of_ne other _ _
  · intro pending _ member
    change pending ∈ control.current ++ (system.queue ++ [message])
    rw [current, ← List.append_assoc]
    exact List.mem_append_left _ member

namespace System.Attended

variable {system next : System types service}

/-- A step that touches neither calls nor channels. -/
theorem quiet (attended : system.Attended) (callers : next.callers = system.callers)
    (replies : next.replies = system.replies)
    (kept : system.control.current ++ system.queue = next.control.current ++ next.queue) :
    next.Attended := by
  intro call caller found blocked
  rw [callers] at found
  refine (attended call caller found blocked).same (congrFun replies call) ?_
  intro message _ member
  rwa [← kept]

/-- A call moves on, and what it does to channels it does to its own. -/
theorem moved (attended : system.Attended) {mover : CallId} {caller : Caller types}
    (callers : next.callers = PartialMap.insert system.callers mover caller)
    (replies : ∀ call, call ≠ mover → next.replies call = system.replies call)
    (control : next.control = system.control) (queue : next.queue = system.queue)
    (own : caller.Blocked → Heeded next mover) : next.Attended := by
  intro call other found blocked
  rw [callers] at found
  obtain ⟨rfl, rfl⟩ | ⟨distinct, before⟩ := PartialMap.insert_eq_some found
  · exact own blocked
  · refine (attended call other before blocked).same (replies call distinct) ?_
    intro message _ member
    rwa [control, queue]

/-- A call that blocks has its message in the queue when it is made. -/
theorem send (attended : system.Attended) {message : FnMsg types service}
    (formed : message.Formed) : (system.accept message).Attended := by
  intro call caller found blocked
  obtain ⟨rfl, rfl⟩ | ⟨distinct, before⟩ := PartialMap.insert_eq_some found
  · cases formed with
    | fire => exact absurd blocked.1 (by simp [FnMsg.fire])
    | callBlocking own body =>
      have queued : FnMsg.callBlocking own body ∈ system.queue ++ [FnMsg.callBlocking own body] :=
        List.mem_append_right _ (List.mem_singleton_self _)
      exact .pending (Function.update_self _ _ _) (List.mem_append_right _ queued) rfl
  · exact (attended call caller before blocked).accept formed distinct system.control rfl

/-- A write that fails ends the call; one that succeeds leaves its channel. -/
theorem write (attended : system.Attended) {call : CallId} {caller : Caller types}
    (found : system.callers call = some caller) (phase : caller.phase = .enqueued) :
    (system.write call caller).Attended := by
  refine attended.moved rfl ?_ rfl rfl ?_
  · intro other distinct
    simp only [System.write]
    cases system.eventFd.write.1 with
    | ok => rfl
    | error => exact Function.update_of_ne distinct _ _
  · rintro ⟨blocking, unsettled⟩
    cases result : system.eventFd.write.1 with
    | error errno => exact absurd (by rw [result]; rfl) (unsettled (.failed (.eventFd errno)))
    | ok =>
      have before : caller.Blocked := ⟨blocking, by simp [phase]⟩
      refine (attended call caller found before).same ?_ (fun _ _ member => member)
      simp only [System.write, result]

/-- The closure that returns answers its own call. -/
theorem finish (attended : system.Attended) {message : FnMsg types service}
    {value : types.Val message.code} (running : system.control = .running message (.ret value)) :
    (system.finish message value).Attended := by
  intro call caller found blocked
  have current : system.control.current = [message] := by
    rw [running]
    rfl
  refine (attended call caller found blocked).ended (Reply.send ⟨message.code, value⟩) current
    rfl ?_ ?_ (fun _ => rfl) rfl (Or.inl ⟨_, rfl⟩)
  · intro other
    simp only [System.finish]
    cases sender : message.sender with
    | none => rfl
    | some own => exact Function.update_of_ne (by rintro rfl; exact other sender) _ _
  · intro own
    simp [System.finish, own]

/-- The closure that panics closes the channel of its own call. -/
theorem unwound (attended : system.Attended) {message : FnMsg types service}
    {task : Task types service message.code} (running : system.control = .running message task)
    (callers : next.callers = system.callers) (queue : next.queue = system.queue)
    (replies : next.replies = (system.unwind message).replies) : next.Attended := by
  intro call caller found blocked
  rw [callers] at found
  have current : system.control.current = [message] := by
    rw [running]
    rfl
  refine (attended call caller found blocked).ended Reply.close current queue ?_ ?_
    (fun _ => rfl) rfl (Or.inr rfl)
  · intro other
    rw [replies]
    simp only [System.unwind]
    cases sender : message.sender with
    | none => rfl
    | some own => exact Function.update_of_ne (by rintro rfl; exact other sender) _ _
  · intro own
    rw [replies]
    simp [System.unwind, own]

/-- Dropping the manager closes the channels of the messages it drops. A pending call's
message was queued, for a manager that is dropped runs none. -/
theorem drop (attended : system.Attended) (idle : system.control = .outside) :
    system.drop.Attended := by
  intro call caller found blocked
  have reply : system.drop.replies call =
      if some call ∈ system.queue.map FnMsg.sender then (system.replies call).close
      else system.replies call := rfl
  cases attended call caller found blocked with
  | @answered erased full =>
    have kept : system.drop.replies call = .full erased := by
      rw [reply, full]
      split
      · rfl
      · rfl
    exact .answered kept
  | closed shut =>
    refine .closed ?_
    rw [reply, shut]
    split
    · rfl
    · rfl
  | @pending message empty member sender =>
    rw [idle] at member
    have listed : some call ∈ system.queue.map FnMsg.sender :=
      List.mem_map.mpr ⟨message, member, sender⟩
    refine .closed ?_
    rw [reply, if_pos listed, empty]
    rfl

/-- Every step leaves the calls that wait attended.

Proof: by cases on the step. A send brings its message along, an end fills the channel of
its call, and a drop closes the channels of the queue; every other step leaves channel and
message where they are. -/
theorem step (attended : system.Attended) {action : Action types service}
    (stepped : Step system action next) : next.Attended := by
  cases stepped with
  | send formed => exact attended.send formed
  | write found phase => exact attended.write found phase
  | finish running => exact attended.finish running
  | drop idle => exact attended.drop idle
  | reject =>
    exact attended.moved rfl (fun _ _ => rfl) rfl rfl (fun blocked => absurd rfl (blocked.2 _))
  | receive =>
    exact attended.moved rfl (fun _ distinct => Function.update_of_ne distinct _ _) rfl rfl
      (fun blocked => absurd rfl (blocked.2 _))
  | disconnected =>
    exact attended.moved rfl (fun _ distinct => Function.update_of_ne distinct _ _) rfl rfl
      (fun blocked => absurd rfl (blocked.2 _))
  | @fire message call body task running =>
    intro other caller found blocked
    obtain ⟨rfl, rfl⟩ | ⟨distinct, before⟩ := PartialMap.insert_eq_some found
    · exact absurd blocked.1 (by simp [FnMsg.fire])
    · refine (attended other caller before blocked).accept (.fire call body) distinct _ ?_
      rw [running]
      rfl
  | take draining first => exact attended.quiet rfl rfl (by rw [draining, first]; rfl)
  | kick => exact attended.quiet rfl rfl rfl
  | act => exact attended.quiet rfl rfl rfl
  | wait idle => exact attended.quiet rfl rfl (by rw [idle]; rfl)
  | dismiss idle => exact attended.quiet rfl rfl (by rw [idle]; rfl)
  | read idle => exact attended.quiet rfl rfl (by rw [idle]; rfl)
  | empty draining => exact attended.quiet rfl rfl (by rw [draining]; rfl)
  | request running => exact attended.quiet rfl rfl (by rw [running]; rfl)
  | resume firing => exact attended.quiet rfl rfl (by rw [firing]; rfl)
  | kickInside running => exact attended.quiet rfl rfl (by rw [running]; rfl)

/-- So does a panic, which closes the channel of the closure that panicked. -/
theorem panic (attended : system.Attended) {incident : Incident types service}
    (move : FaultMove system next incident) : next.Attended := by
  cases move with
  | unwound running _ queue _ callers replies =>
    exact attended.unwound running callers queue replies
  | collapsed idle control queue _ callers replies =>
    refine attended.quiet callers replies ?_
    rw [control, queue]
    rcases idle with idle | idle
    · rw [idle]
    · rw [idle]
      rfl

/-- In every state of every run with panics. -/
theorem of_run {remains : Remains service} {manager : service.State}
    {history : List (Incident types service)}
    (run : Run (Faulty remains) (System.initial manager) history system) : system.Attended := by
  refine run.invariant (fun _ state => state.Attended) (fun _ _ found => absurd found nofun) ?_
  intro _ state incident after attended faulty
  rcases faulty.inversion with ⟨action, rfl, stepped⟩ | move
  · exact attended.step stepped
  · exact attended.panic move

end System.Attended

/-- What was submitted is submitted still. -/
theorem FaultMove.submitted {system next : System types service}
    {incident : Incident types service} {history : List (Action types service)}
    (move : FaultMove system next incident) (submitted : Submitted history system) :
    Submitted history next where
  sent := by
    rw [move.callers]
    exact submitted.sent
  full := by
    rw [move.callers]
    exact submitted.full
  cleared gone := by
    rw [move.alive.2] at gone
    cases gone

/-- What was submitted is accounted for in runs with panics too. -/
theorem Submitted.of_faulty_run {remains : Remains service} {manager : service.State}
    {history : List (Incident types service)} {system : System types service}
    (run : Run (Faulty remains) (System.initial manager) history system) :
    Submitted (actions history) system := by
  refine run.invariant (fun past state => Submitted (actions past) state) ?_ ?_
  · exact Submitted.of_run Run.nil
  · intro past state incident next submitted faulty
    rw [actions_snoc]
    rcases faulty.inversion with ⟨action, rfl, stepped⟩ | move
    · exact ⟨submitted.sent_step stepped, submitted.full_step stepped,
        submitted.cleared_step stepped⟩
    · rw [move.action_none, Option.toList_none, List.append_nil]
      exact move.submitted submitted

/-- Only calls that block come to wait. A call comes to wait by its write, and the write
of one that does not block returns. -/
theorem System.waiting_blocking {remains : Remains service} {manager : service.State}
    {history : List (Incident types service)} {system : System types service}
    (run : Run (Faulty remains) (System.initial manager) history system) :
    ∀ call caller, system.callers call = some caller → caller.phase = .waiting →
      caller.blocking = true := by
  refine run.invariant (fun _ state => ∀ call caller, state.callers call = some caller →
    caller.phase = .waiting → caller.blocking = true) ?_ ?_
  · intro call caller found
    cases found
  · intro _ state incident next held faulty call caller found waiting
    rcases faulty.inversion with ⟨action, rfl, stepped⟩ | move
    · cases stepped.caller found with
      | stayed before => exact held call caller before waiting
      | written before result =>
        cases result with
        | error => cases waiting
        | ok =>
          change before.blocking = true
          cases blocking : before.blocking with
          | true => rfl
          | false => simp [Caller.written, blocking] at waiting
      | enqueued => cases waiting
      | refused => cases waiting
      | received => cases waiting
      | disconnected => cases waiting
    · rw [move.callers] at found
      exact held call caller found waiting

/-- A call that waits for its result can receive now, or the manager is alive and
has its one message in the queue or its closure running.

Proof: every step and every panic leaves a waiting call attended: its channel is full or
closed, or its message is queued or running; and there is one such message, for calls
differ. -/
theorem System.no_call_forgotten {remains : Remains service} {manager : service.State}
    {history : List (Incident types service)} {system : System types service}
    (run : Run (Faulty remains) (System.initial manager) history system) {call : CallId}
    {caller : Caller types} (found : system.callers call = some caller)
    (waiting : caller.phase = .waiting) :
    (∃ next, Step system (.receive call) next) ∨
      (system.control ≠ .dropped ∧ system.replies call = .empty ∧
        ∃ body : Task types service caller.code,
          (system.control.current ++ system.queue).filter (fun message => message.call = call) =
            [FnMsg.callBlocking call body]) := by
  have ledger := FaultLedger.of_run run
  have blocked : caller.Blocked :=
    ⟨System.waiting_blocking run call caller found waiting, by simp [waiting]⟩
  cases System.Attended.of_run run call caller found blocked with
  | answered reply => exact Or.inl ⟨_, .receive found waiting reply⟩
  | closed reply => exact Or.inl ⟨_, .disconnected found waiting reply⟩
  | @pending message reply member sender =>
    have alive : system.control ≠ .dropped := by
      intro gone
      rw [(Submitted.of_faulty_run run).cleared gone, gone] at member
      cases member
    have split : enqueued (actions history) =
        ended history ++ (system.control.current ++ system.queue) := by
      rw [ledger.flow.queued alive, ledger.toll.started, List.append_assoc]
    have listed : message ∈ enqueued (actions history) := by
      rw [split]
      exact List.mem_append_right _ member
    have distinct : ((system.control.current ++ system.queue).map FnMsg.call).Nodup := by
      have all := ledger.flow.distinct
      rw [split, List.map_append] at all
      exact (List.nodup_append.mp all).2.1
    obtain ⟨other, registered, code⟩ := ledger.flow.called message listed
    cases ledger.flow.formed message listed with
    | fire => exact absurd sender nofun
    | @callBlocking own result body =>
      obtain rfl : own = call := Option.some.inj sender
      obtain rfl : caller = other := Option.some.inj (found.symm.trans registered)
      obtain rfl : caller.code = result := code
      exact Or.inr ⟨alive, reply, body, PartialMap.filter_key_singleton distinct member⟩

/-- A call waits while the manager is still to be woken. -/
theorem System.no_call_forgotten_queued :
    ∃ (history : List (Incident RemoteResult.types EventManager.scripted))
      (system : System RemoteResult.types EventManager.scripted),
      Run (Faulty (Remains.untouched _)) System.fresh history system ∧
        system.callers 0 = some ⟨.number, true, .waiting⟩ ∧
        ((∃ next, Step system (.receive 0) next) ∨
          (system.control ≠ .dropped ∧ system.replies 0 = .empty ∧
            ∃ body : Task RemoteResult.types EventManager.scripted RemoteResult.number,
              (system.control.current ++ system.queue).filter (fun message => message.call = 0) =
                [FnMsg.callBlocking 0 body])) := by
  have begun : Run (Faulty (Remains.untouched EventManager.scripted)) System.fresh []
    (System.fresh : System RemoteResult.types _) := Run.nil
  let seven : Task RemoteResult.types EventManager.scripted RemoteResult.number :=
    .ret (7 : Nat)
  have sent := (begun.snoc (.step (.send (.callBlocking 0 seven) rfl nofun))).snoc
    (.step (@Step.write _ _ _ 0 _ rfl rfl))
  exact ⟨_, _, sent, rfl, @System.no_call_forgotten _ _ _ _ _ _ sent 0 _ rfl rfl⟩

/-- The history ends with a panic of a closure after which nobody wrote the eventfd. -/
def Deserted (history : List (Incident types service)) : Prop :=
  ∃ past message later, history = past ++ .unwind message :: later ∧
    ∀ incident ∈ later, ¬ incident.Writes

/-- Messages are queued, and nothing announces them. -/
structure Stranded (system : System types service) : Prop where
  idle : system.control = .outside
  pending : system.queue ≠ []
  silent : system.eventFd.counter = 0
  settled : ¬ system.Writing

/-- A step that does not write leaves a deserted history deserted. -/
theorem Deserted.later {history : List (Incident types service)} {incident : Incident types service}
    (deserted : Deserted history) (silent : ¬ incident.Writes) :
    Deserted (history ++ [incident]) := by
  obtain ⟨past, message, later, rfl, quiet⟩ := deserted
  refine ⟨past, message, later ++ [incident], by simp, ?_⟩
  intro other member
  rcases List.mem_append.mp member with old | last
  · exact quiet other old
  · rw [List.mem_singleton.mp last]
    exact silent

/-- A step that writes the eventfd leaves it positive. -/
theorem Step.writes_counter {system next : System types service} {action : Action types service}
    (stepped : Step system action next) (writes : (Incident.step action).Writes) :
    0 < next.eventFd.counter := by
  cases stepped with
  | write => exact EventFd.write_counter _
  | kick => exact EventFd.write_counter _
  | kickInside => exact EventFd.write_counter _
  | send => cases writes
  | reject => cases writes
  | receive => cases writes
  | disconnected => cases writes
  | act => cases writes
  | wait => cases writes
  | dismiss => cases writes
  | read => cases writes
  | take => cases writes
  | empty => cases writes
  | request => cases writes
  | fire => cases writes
  | resume => cases writes
  | finish => cases writes
  | drop => cases writes

/-- Outside a drain queued messages are announced, or a panic has deserted them. A step
keeps the announcement, as without panics; a panic deserts whatever is queued, until the
next write. -/
theorem System.announced_or_deserted {remains : Remains service} {manager : service.State}
    {history : List (Incident types service)} {system : System types service}
    (run : Run (Faulty remains) (System.initial manager) history system) :
    (¬ system.control.InDrain → system.Announced) ∨ Deserted history := by
  refine run.invariant (fun past state => (¬ state.control.InDrain → state.Announced) ∨
    Deserted past) (Or.inl (fun _ nonempty => absurd rfl nonempty)) ?_
  intro past state incident next held faulty
  rcases faulty.inversion with ⟨action, rfl, stepped⟩ | move
  · rcases held with announced | deserted
    · exact Or.inl (System.announced_step announced stepped)
    · by_cases writes : (Incident.step action).Writes
      · exact Or.inl (fun _ _ => Or.inl (stepped.writes_counter writes))
      · exact Or.inr (deserted.later writes)
  · cases move with
    | unwound => exact Or.inr ⟨past, _, [], rfl, by simp⟩
    | collapsed idle control queue eventFd callers =>
      refine held.imp (fun announced _ pending => ?_) (fun deserted => deserted.later id)
      have outside : ¬ state.control.InDrain := by
        rcases idle with idle | idle
        · rw [idle]
          exact id
        · rw [idle]
          exact id
      rw [queue] at pending
      unfold System.Writing
      rw [eventFd, callers]
      exact announced outside pending

/-- A message is sent, or the eventfd is written for no message. -/
def Incident.Stirs : Incident types service → Prop
  | .step (.send _) => True
  | .step .kick => True
  | _ => False

/-- Stranded messages stay where they are. A wait needs the eventfd positive, and what
would make it so is excluded. -/
theorem Stranded.step {remains : Remains service} {system next : System types service}
    {incident : Incident types service} (stranded : Stranded system)
    (faulty : Faulty remains system incident next) (quiet : ¬ incident.Stirs) :
    (incident.action = some .drop ∧ next.control = .dropped) ∨
      (∀ action, incident.action = some action → action.takes = none) ∧ Stranded next ∧
        next.queue = system.queue := by
  obtain ⟨idle, pending, silent, settled⟩ := stranded
  rcases faulty.inversion with ⟨action, rfl, stepped⟩ | move
  · cases stepped with
    | drop => exact Or.inl ⟨rfl, rfl⟩
    | act =>
      exact Or.inr ⟨fun _ same => Option.some.inj same ▸ rfl, ⟨idle, pending, silent, settled⟩, rfl⟩
    | receive found phase =>
      refine Or.inr ⟨fun _ same => Option.some.inj same ▸ rfl, ⟨idle, pending, silent, ?_⟩, rfl⟩
      rwa [System.receive_writing found phase]
    | disconnected found phase =>
      refine Or.inr ⟨fun _ same => Option.some.inj same ▸ rfl, ⟨idle, pending, silent, ?_⟩, rfl⟩
      rwa [System.receive_writing found phase]
    | send => exact absurd trivial quiet
    | kick => exact absurd trivial quiet
    | write found phase => exact absurd ⟨_, _, found, phase⟩ settled
    | wait _ ready => omega
    | reject _ _ gone => cases idle.symm.trans gone
    | dismiss notified => cases idle.symm.trans notified
    | read notified => cases idle.symm.trans notified
    | take draining => cases idle.symm.trans draining
    | empty draining => cases idle.symm.trans draining
    | request running => cases idle.symm.trans running
    | fire running => cases idle.symm.trans running
    | resume firing => cases idle.symm.trans firing
    | kickInside running => cases idle.symm.trans running
    | finish running => cases idle.symm.trans running
  · cases move with
    | unwound running => cases idle.symm.trans running
    | collapsed _ control queue eventFd callers =>
      refine Or.inr ⟨fun _ same => absurd same (by simp [Incident.action]),
        ⟨control, queue ▸ pending, eventFd ▸ silent, ?_⟩, queue⟩
      unfold System.Writing
      rwa [callers]

/-- So they do, unless somebody sends or kicks, until the manager is dropped. By induction
on the run; a dropped manager takes nothing either. -/
theorem Stranded.of_run {remains : Remains service} {system final : System types service}
    {later : List (Incident types service)} (stranded : Stranded system)
    (rest : Run (Faulty remains) system later final)
    (quiet : ∀ incident ∈ later, ¬ incident.Stirs) :
    taken (actions later) = [] ∧
      (final.control = .dropped ∨ (Stranded final ∧ final.queue = system.queue)) := by
  have always : (∀ incident ∈ later, ¬ incident.Stirs) → taken (actions later) = [] ∧
      (final.control = .dropped ∨ (Stranded final ∧ final.queue = system.queue)) := by
    refine rest.invariant (fun past state => (∀ incident ∈ past, ¬ incident.Stirs) →
      taken (actions past) = [] ∧
        (state.control = .dropped ∨ (Stranded state ∧ state.queue = system.queue)))
      (fun _ => ⟨rfl, Or.inr ⟨stranded, rfl⟩⟩) ?_
    intro past state incident next held faulty still
    have last : ¬ incident.Stirs := still incident (List.mem_append_right _ (List.mem_singleton_self _))
    obtain ⟨untaken, dropped | ⟨same, queue⟩⟩ :=
      held (fun other member => still other (List.mem_append_left _ member))
    · rcases faulty.inversion with ⟨action, rfl, stepped⟩ | move
      · obtain ⟨gone, _, takes⟩ := stepped.dropped dropped
        refine ⟨?_, Or.inl gone⟩
        rw [actions_snoc, Incident.action, Option.toList_some, taken_snoc, untaken, takes]
        rfl
      · exact absurd dropped move.alive.1
    · rcases same.step faulty last with ⟨drop, gone⟩ | ⟨takes, after, kept⟩
      · refine ⟨?_, Or.inl gone⟩
        rw [actions_snoc, drop, Option.toList_some, taken_snoc, untaken]
        rfl
      · refine ⟨?_, Or.inr ⟨after, kept.trans queue⟩⟩
        rw [actions_snoc]
        cases entry : incident.action with
        | none => simpa using untaken
        | some action =>
          rw [Option.toList_some, taken_snoc, untaken, takes action entry]
          rfl
  exact always quiet

/-- Messages that nothing announces are there because a closure panicked and the
eventfd was not written since, and nothing runs them until somebody sends or kicks.

Proof: what is announced is lost only by a panic, which leaves the drain after the eventfd
was read. From then on only a write announces anything again, and only a wait that is
announced leads to a take. -/
theorem System.stranded_by_panic {remains : Remains service} {manager : service.State}
    {history : List (Incident types service)} {system : System types service}
    (run : Run (Faulty remains) (System.initial manager) history system)
    (stranded : Stranded system) :
    (∃ past message later, history = past ++ .unwind message :: later ∧
      ∀ incident ∈ later, ¬ incident.Writes) ∧
    ∀ later final, Run (Faulty remains) system later final →
      (∀ incident ∈ later, ¬ incident.Stirs) → taken (actions later) = [] ∧
        (final.control = .dropped ∨ (Stranded final ∧ final.queue = system.queue)) := by
  refine ⟨?_, fun later final rest quiet => stranded.of_run rest quiet⟩
  rcases System.announced_or_deserted run with announced | deserted
  · have outside : ¬ system.control.InDrain := by
      rw [stranded.idle]
      exact id
    rcases announced outside stranded.pending with ready | writing
    · rw [stranded.silent] at ready
      cases ready
    · exact absurd writing stranded.settled
  · exact deserted

/-- The first of two closures panics; the other one's caller is told nothing. -/
theorem System.stranded_by_panic_waiting :
    ∃ (history : List (Incident RemoteResult.types EventManager.scripted))
      (system : System RemoteResult.types EventManager.scripted),
      Run (Faulty (Remains.untouched _)) System.fresh history system ∧
        system.callers 1 = some ⟨.number, true, .waiting⟩ ∧ Stranded system ∧
        ((∃ past message later, history = past ++ .unwind message :: later ∧
          ∀ incident ∈ later, ¬ incident.Writes) ∧
        ∀ later final, Run (Faulty (Remains.untouched _)) system later final →
          (∀ incident ∈ later, ¬ incident.Stirs) → taken (actions later) = [] ∧
            (final.control = .dropped ∨ (Stranded final ∧ final.queue = system.queue))) := by
  have begun : Run (Faulty (Remains.untouched EventManager.scripted)) System.fresh []
    (System.fresh : System RemoteResult.types _) := Run.nil
  let seven : Task RemoteResult.types EventManager.scripted RemoteResult.number :=
    .ret (7 : Nat)
  have sent := (((begun.snoc (.step (.send (.callBlocking 0 seven) rfl nofun))).snoc
    (.step (.send (.callBlocking 1 seven) rfl nofun))).snoc
    (.step (@Step.write _ _ _ 0 _ rfl rfl))).snoc (.step (@Step.write _ _ _ 1 _ rfl rfl))
  have crashed := (((sent.snoc (.step (.wait rfl (by decide)))).snoc (.step (.read rfl))).snoc
    (.step (.take rfl rfl))).snoc (.unwind rfl)
  have told := crashed.snoc (.step (@Step.disconnected _ _ _ 0 _ rfl rfl rfl))
  refine ⟨_, _, told, rfl, ?stranded, System.stranded_by_panic told ?stranded⟩
  refine ⟨rfl, List.cons_ne_nil _ _, rfl, ?_⟩
  rintro ⟨call, caller, found, phase⟩
  match call with
  | 0 =>
    cases found
    cases phase
  | 1 =>
    cases found
    cases phase
  | _ + 2 => cases found

end EventLoop
