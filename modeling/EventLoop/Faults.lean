import EventLoop.Submission

/-!
# Closures and callbacks that panic

A closure may panic, and so may a callback that the manager runs for it or between
two drains. The panic unwinds out of the manager to whoever called it. If it is
caught there, the manager is used again. Of a closure that panicked the sending
half of the channel is dropped with nothing sent; the messages behind it stay
queued, and the eventfd that announced them has been read already.

What a panic leaves of the manager itself is a parameter here: it is whatever the
operation had done by then.
-/

namespace EventLoop

open Transition

variable {types : ResultTypes} {service : Service}

/-- What a panic leaves of the manager. -/
structure Remains (service : Service) where
  /-- A request of a closure panics. -/
  served : service.Req → service.State → service.State → Prop
  /-- What the manager does between two drains panics. -/
  acted : service.State → service.State → Prop

/-- An atomic step, or a panic. -/
inductive Incident (types : ResultTypes) (service : Service) where
  | step (action : Action types service)
  /-- The closure of the message panics. -/
  | unwind (message : FnMsg types service)
  /-- The manager panics between two drains. -/
  | collapse

namespace Incident

/-- The step that is no panic. -/
def action : Incident types service → Option (Action types service)
  | .step action => some action
  | _ => none

/-- The message whose closure panics. -/
def unwinds : Incident types service → Option (FnMsg types service)
  | .unwind message => some message
  | _ => none

/-- The message whose closure comes to its end, one way or the other. -/
def ends : Incident types service → Option (FnMsg types service)
  | .step (.finish message _) => some message
  | .unwind message => some message
  | _ => none

/-- The eventfd is written. -/
def Writes : Incident types service → Prop
  | .step (.write _) => True
  | .step .kick => True
  | .step .kickInside => True
  | _ => False

end Incident

/-- The steps of a history, without the panics. -/
def actions (history : List (Incident types service)) : List (Action types service) :=
  history.filterMap Incident.action

/-- The messages whose closures panicked, in order. -/
def unwound (history : List (Incident types service)) : List (FnMsg types service) :=
  history.filterMap Incident.unwinds

/-- The messages whose closures returned or panicked, in order. -/
def ended (history : List (Incident types service)) : List (FnMsg types service) :=
  history.filterMap Incident.ends

/-- One more incident adds its step, if it is no panic. -/
@[simp] theorem actions_snoc (history : List (Incident types service))
    (incident : Incident types service) :
    actions (history ++ [incident]) = actions history ++ incident.action.toList := by
  cases entry : incident.action <;> simp [actions, entry]

/-- One more incident adds the message whose closure panics, if one does. -/
@[simp] theorem unwound_snoc (history : List (Incident types service))
    (incident : Incident types service) :
    unwound (history ++ [incident]) = unwound history ++ incident.unwinds.toList := by
  cases entry : incident.unwinds <;> simp [unwound, entry]

/-- One more incident adds the message whose closure comes to its end, if one does. -/
@[simp] theorem ended_snoc (history : List (Incident types service))
    (incident : Incident types service) :
    ended (history ++ [incident]) = ended history ++ incident.ends.toList := by
  cases entry : incident.ends <;> simp [ended, entry]

/-- The panic of the running closure drops the sending half of its channel and
leaves the drain. -/
def System.unwind (system : System types service) (message : FnMsg types service) :
    System types service :=
  { system with
    control := .outside
    replies := match message.sender with
      | some call => Function.update system.replies call (system.replies call).close
      | none => system.replies }

/-- A step, or a panic that is caught outside the manager. -/
inductive Faulty (remains : Remains service) :
    System types service → Incident types service → System types service → Prop
  | step {system next : System types service} {action : Action types service}
      (stepped : Step system action next) : Faulty remains system (.step action) next
  /-- The closure itself panics. -/
  | unwind {system : System types service} {message : FnMsg types service}
      {task : Task types service message.code} (running : system.control = .running message task) :
      Faulty remains system (.unwind message) (system.unwind message)
  /-- A request of the closure panics inside the manager. -/
  | served {system : System types service} {message : FnMsg types service}
      {request : service.Req} {next : service.Res request → Task types service message.code}
      {manager : service.State}
      (running : system.control = .running message (.request request next))
      (left : remains.served request system.manager manager) :
      Faulty remains system (.unwind message) { system.unwind message with manager := manager }
  /-- The manager panics on its own. An endpoint event it had found is forgotten. -/
  | acted {system : System types service} {manager : service.State}
      (idle : system.control = .outside ∨ system.control = .notified)
      (left : remains.acted system.manager manager) :
      Faulty remains system .collapse { system with manager := manager, control := .outside }

/-- What a panic does to everything but the manager. -/
inductive FaultMove (system next : System types service) : Incident types service → Prop
  | unwound {message : FnMsg types service} {task : Task types service message.code}
      (running : system.control = .running message task)
      (control : next.control = .outside) (queue : next.queue = system.queue)
      (eventFd : next.eventFd = system.eventFd) (callers : next.callers = system.callers)
      (replies : next.replies = (system.unwind message).replies) :
      FaultMove system next (.unwind message)
  | collapsed (idle : system.control = .outside ∨ system.control = .notified)
      (control : next.control = .outside) (queue : next.queue = system.queue)
      (eventFd : next.eventFd = system.eventFd) (callers : next.callers = system.callers)
      (replies : next.replies = system.replies) : FaultMove system next .collapse

/-- A step is one of the protocol, or a panic. -/
theorem Faulty.inversion {remains : Remains service} {system next : System types service}
    {incident : Incident types service} (faulty : Faulty remains system incident next) :
    (∃ action, incident = .step action ∧ Step system action next) ∨
      FaultMove system next incident := by
  cases faulty with
  | step stepped => exact Or.inl ⟨_, rfl, stepped⟩
  | unwind running => exact Or.inr (.unwound running rfl rfl rfl rfl rfl)
  | served running => exact Or.inr (.unwound running rfl rfl rfl rfl rfl)
  | acted idle => exact Or.inr (.collapsed idle rfl rfl rfl rfl rfl)

namespace FaultMove

variable {system next : System types service} {incident : Incident types service}

/-- A panic is no step of the protocol. -/
theorem action_none (move : FaultMove system next incident) : incident.action = none := by
  cases move with
  | unwound => rfl
  | collapsed => rfl

/-- No panic changes what callers see of their calls. -/
theorem callers (move : FaultMove system next incident) : next.callers = system.callers := by
  cases move with
  | unwound _ _ _ _ callers => exact callers
  | collapsed _ _ _ _ callers => exact callers

/-- The messages behind the closure that panicked stay queued. -/
theorem queue (move : FaultMove system next incident) : next.queue = system.queue := by
  cases move with
  | unwound _ _ queue => exact queue
  | collapsed _ _ queue => exact queue

/-- Panics leave the manager outside, and do not happen to a dropped one. -/
theorem alive (move : FaultMove system next incident) :
    system.control ≠ .dropped ∧ next.control = .outside := by
  cases move with
  | unwound running control =>
    rw [running]
    exact ⟨nofun, control⟩
  | collapsed idle control =>
    refine ⟨?_, control⟩
    intro gone
    rw [gone] at idle
    simp at idle

/-- The queue is unaware of panics. -/
theorem flow {history : List (Action types service)} (move : FaultMove system next incident)
    (flow : Flow history system) : Flow history next := by
  obtain ⟨before, after⟩ := move.alive
  refine ⟨flow.ordered, ?_, flow.distinct, flow.formed, ?_⟩
  · intro _
    rw [move.queue]
    exact flow.queued before
  · rw [move.callers]
    exact flow.called

end FaultMove

/-- Taken messages came to their end, but for the one that may be running; and an
end is a return or a panic. -/
structure Toll (history : List (Incident types service)) (system : System types service) :
    Prop where
  started : taken (actions history) = ended history ++ system.control.current
  tallied : (ended history).Perm
    ((executed (actions history)).map Execution.message ++ unwound history)
  onTrack : system.control.OnTrack
  values : ∀ execution ∈ executed (actions history),
    execution.message.fnbox.Leads (.ret execution.value)

namespace Toll

variable {history : List (Incident types service)} {system next : System types service}

/-- A step keeps the toll: a take makes a message the current one, and an end adds it to
those that returned. -/
theorem step {action : Action types service} (toll : Toll history system)
    (stepped : Step system action next) : Toll (history ++ [.step action]) next := by
  have steps : actions (history ++ [.step action]) = actions history ++ [action] := by
    simp [Incident.action]
  have crashes : unwound (history ++ [.step action]) = unwound history := by
    simp [Incident.unwinds]
  have ends : ended (history ++ [.step action]) =
      ended history ++ (action.finishes.map Execution.message).toList := by
    rw [ended_snoc]
    cases action <;> rfl
  have onTrack := stepped.onTrack toll.onTrack
  cases stepped.current with
  | same takes finishes current =>
    constructor
    · rw [steps, taken_snoc, takes, ends, finishes, current]
      simpa using toll.started
    · rw [steps, executed_snoc, crashes, ends, finishes]
      simpa using toll.tallied
    · exact onTrack
    · rw [steps, executed_snoc, finishes]
      simpa using toll.values
  | taken message takes finishes before after =>
    have started := toll.started
    rw [before, List.append_nil] at started
    constructor
    · rw [steps, taken_snoc, takes, ends, finishes, after, started]
      simp
    · rw [steps, executed_snoc, crashes, ends, finishes]
      simpa using toll.tallied
    · exact onTrack
    · rw [steps, executed_snoc, finishes]
      simpa using toll.values
  | finished execution takes finishes before leads after =>
    have started := toll.started
    rw [before] at started
    constructor
    · rw [steps, taken_snoc, takes, ends, finishes, after, started]
      simp
    · rw [steps, executed_snoc, crashes, ends, finishes]
      simp only [Option.map_some, Option.toList_some, List.map_append, List.map_cons, List.map_nil]
      have moved := toll.tallied.append_right [execution.message]
      refine moved.trans ?_
      rw [List.append_assoc, List.append_assoc]
      exact List.Perm.append_left _ List.perm_append_comm
    · exact onTrack
    · intro other member
      rw [steps, executed_snoc, finishes] at member
      rcases List.mem_append.mp member with old | last
      · exact toll.values other old
      · rw [List.mem_singleton.mp last]
        exact leads toll.onTrack

/-- So does a panic, which ends the current closure or finds none running. -/
theorem panic {incident : Incident types service} (toll : Toll history system)
    (move : FaultMove system next incident) : Toll (history ++ [incident]) next := by
  have steps : actions (history ++ [incident]) = actions history := by
    simp [move.action_none]
  have outside : next.control.current = [] ∧ next.control.OnTrack := by
    rw [move.alive.2]
    exact ⟨rfl, trivial⟩
  have started := toll.started
  refine ⟨?_, ?_, outside.2, ?_⟩
  · rw [steps, outside.1, List.append_nil, started, ended_snoc]
    cases move with
    | unwound running =>
      rw [running]
      rfl
    | collapsed idle =>
      rcases idle with idle | idle
      · rw [idle]
        rfl
      · rw [idle]
        rfl
  · rw [steps, ended_snoc, unwound_snoc]
    cases move with
    | unwound running =>
      rw [← List.append_assoc]
      exact toll.tallied.append_right _
    | collapsed => simpa [Incident.ends, Incident.unwinds] using toll.tallied
  · rw [steps]
    exact toll.values

/-- Closures that returned had their messages taken. -/
theorem executed_taken (toll : Toll history system) {execution : Execution types service}
    (member : execution ∈ executed (actions history)) :
    execution.message ∈ taken (actions history) := by
  rw [toll.started]
  refine List.mem_append_left _ (toll.tallied.mem_iff.mpr ?_)
  exact List.mem_append_left _ (List.mem_map_of_mem member)

/-- So had closures that panicked. -/
theorem unwound_taken (toll : Toll history system) {message : FnMsg types service}
    (member : message ∈ unwound history) : message ∈ taken (actions history) := by
  rw [toll.started]
  refine List.mem_append_left _ (toll.tallied.mem_iff.mpr ?_)
  exact List.mem_append_right _ member

end Toll

/-- The closure of the call panicked. -/
def Crashed (history : List (Incident types service)) (call : CallId) : Prop :=
  ∃ message ∈ unwound history, message.sender = some call

/-- A panic is not undone. -/
theorem Crashed.later {history : List (Incident types service)} {call : CallId}
    (crashed : Crashed history call) (incident : Incident types service) :
    Crashed (history ++ [incident]) call := by
  obtain ⟨message, member, sender⟩ := crashed
  refine ⟨message, ?_, sender⟩
  rw [unwound_snoc]
  exact List.mem_append_left _ member

/-- The call's closure will not return: it is lost with the manager, or panicked. -/
def Unanswered (history : List (Incident types service)) (system : System types service)
    (call : CallId) : Prop :=
  Lost (actions history) system call ∨ Crashed history call

/-- What a channel holds is the call's own result, and a channel closes only on
calls whose closure will not return. -/
def Answered (history : List (Incident types service)) (system : System types service)
    (call : CallId) : Reply types → Prop
  | .full erased => Computed (actions history) call erased
  | .closed => Unanswered history system call
  | _ => True

/-- A returned call returned its own closure's value, or failed for a reason. -/
def Concluded (history : List (Incident types service)) (system : System types service)
    (call : CallId) {code : types.Code} : CallOutcome types code → Prop
  | .value value => Computed (actions history) call ⟨code, value⟩
  | .failed .channelSend => Lost (actions history) system call
  | .failed .channelRecv => Unanswered history system call
  | .unwrapNone => False
  | _ => True

section Later

variable {remains : Remains service} {history : List (Incident types service)}
  {system next : System types service} {incident : Incident types service} {call : CallId}

/-- A computed result stays computed, also when the next incident is a panic. -/
theorem Computed.afterwards {erased : ErasedResult types}
    (computed : Computed (actions history) call erased) :
    Computed (actions (history ++ [incident])) call erased := by
  rw [actions_snoc]
  cases incident.action with
  | none => simpa using computed
  | some action => exact computed.later action

/-- A message that is lost with the manager stays lost; a dropped manager does not panic. -/
theorem Lost.afterwards (lost : Lost (actions history) system call)
    (faulty : Faulty remains system incident next) :
    Lost (actions (history ++ [incident])) next call := by
  rcases faulty.inversion with ⟨action, rfl, stepped⟩ | move
  · rw [actions_snoc]
    exact lost.later stepped
  · exact absurd lost.1 move.alive.1

/-- A closure that will not return never does. -/
theorem Unanswered.later (unanswered : Unanswered history system call)
    (faulty : Faulty remains system incident next) :
    Unanswered (history ++ [incident]) next call :=
  unanswered.imp (fun lost => lost.afterwards faulty) (fun crashed => crashed.later incident)

/-- What a channel holds stays justified as long as the channel is left alone. -/
theorem Answered.later {reply : Reply types} (answered : Answered history system call reply)
    (faulty : Faulty remains system incident next) :
    Answered (history ++ [incident]) next call reply := by
  cases reply with
  | full erased => exact Computed.afterwards answered
  | closed => exact Unanswered.later answered faulty
  | absent => trivial
  | empty => trivial

/-- What a returned call can say stays true. -/
theorem Concluded.later {code : types.Code} {outcome : CallOutcome types code}
    (concluded : Concluded history system call outcome)
    (faulty : Faulty remains system incident next) :
    Concluded (history ++ [incident]) next call outcome := by
  cases outcome with
  | fired => trivial
  | value value => exact Computed.afterwards concluded
  | unwrapNone => exact concluded
  | failed error =>
    cases error with
    | channelSend => exact Lost.afterwards concluded faulty
    | channelRecv => exact Unanswered.later concluded faulty
    | eventFd => trivial
    | epoll => trivial
    | fdAlreadyRegistered => trivial
    | invalidId => trivial
    | invalidCapacity => trivial

end Later

/-- Whatever can be said of every run with panics. -/
structure FaultLedger (history : List (Incident types service)) (system : System types service) :
    Prop where
  flow : Flow (actions history) system
  toll : Toll history system
  answered : ∀ call, Answered history system call (system.replies call)
  concluded : ∀ call caller outcome, system.callers call = some caller →
    caller.phase = .returned outcome → Concluded history system call outcome

namespace FaultLedger

variable {remains : Remains service} {history : List (Incident types service)}
  {system next : System types service}

/-- Nothing has happened yet. -/
theorem initial (manager : service.State) :
    FaultLedger [] (System.initial manager : System types service) where
  flow := ⟨List.prefix_rfl, fun _ => rfl, List.nodup_nil, nofun, nofun⟩
  toll := ⟨rfl, List.Perm.refl _, trivial, nofun⟩
  answered _ := trivial
  concluded _ _ _ found := absurd found nofun

/-- Channels hold what they should after a step. A channel is filled by the end of its
call's closure and closed by a drop that finds its message queued; otherwise it stays as
it was. -/
theorem answered_step {action : Action types service} (ledger : FaultLedger history system)
    (stepped : Step system action next) (faulty : Faulty remains system (.step action) next)
    (call : CallId) :
    Answered (history ++ [.step action]) next call (next.replies call) := by
  have move := stepped.reply call
  generalize next.replies call = reply at move
  cases move with
  | stayed found =>
    have before := ledger.answered call
    rw [found] at before
    exact before.later faulty
  | absent => trivial
  | empty => trivial
  | @sent message value finished sender =>
    subst finished
    refine ⟨⟨message, value⟩, ?_, sender, rfl⟩
    rw [actions_snoc, Incident.action, Option.toList_some, executed_snoc]
    exact List.mem_append_right _ (List.mem_singleton_self _)
  | @closed message dropped queued sender =>
    subst dropped
    cases stepped with
    | drop idle =>
      have alive : system.control ≠ .dropped := by simp [idle]
      have listed : message ∈ enqueued (actions history) := by
        rw [ledger.flow.queued alive]
        exact List.mem_append_right _ queued
      obtain rfl : message.call = call := (ledger.flow.formed message listed).own sender
      refine Or.inl ⟨rfl, ?_⟩
      simpa [Incident.action, Action.takes] using ledger.flow.untaken alive queued

/-- And after a panic, which closes the channel of the closure that panicked. Every other
channel is as before, and the closed one has the panic in the history to show. -/
theorem answered_panic {incident : Incident types service} (ledger : FaultLedger history system)
    (faulty : Faulty remains system incident next) (move : FaultMove system next incident)
    (call : CallId) : Answered (history ++ [incident]) next call (next.replies call) := by
  have before := (ledger.answered call).later faulty
  cases move with
  | collapsed _ _ _ _ _ replies =>
    rw [replies]
    exact before
  | @unwound message task running _ _ _ _ replies =>
    rw [replies]
    simp only [System.unwind]
    cases sender : message.sender with
    | none => exact before
    | some own =>
      by_cases here : call = own
      · subst here
        have crashed : Crashed (history ++ [.unwind message]) call := by
          refine ⟨message, ?_, sender⟩
          rw [unwound_snoc]
          exact List.mem_append_right _ (List.mem_singleton_self _)
        simp only [Function.update_self]
        cases reply : system.replies call with
        | empty => exact Or.inr crashed
        | absent => trivial
        | closed => exact Or.inr crashed
        | full erased =>
          rw [reply] at before
          exact before
      · simp only [Function.update_of_ne here]
        exact before

/-- Returned calls returned what they should after a step. By the cases of
`Flow.returned`: a call that returns in the step takes its outcome from a manager that is
gone, from the eventfd, or from its channel. -/
theorem concluded_step {action : Action types service} (ledger : FaultLedger history system)
    (stepped : Step system action next) (faulty : Faulty remains system (.step action) next)
    {call : CallId} {caller : Caller types} {outcome : CallOutcome types caller.code}
    (found : next.callers call = some caller) (phase : caller.phase = .returned outcome) :
    Concluded (history ++ [.step action]) next call outcome := by
  have computed : ∀ call erased, system.replies call = .full erased →
      Computed (actions history) call erased := by
    intro call erased reply
    have held := ledger.answered call
    rwa [reply] at held
  cases ledger.flow.returned stepped ledger.toll.executed_taken computed found phase with
  | stayed before returned =>
    exact (ledger.concluded call caller outcome before returned).later faulty
  | refused lost => exact lost.afterwards faulty
  | unannounced errno => trivial
  | fired => trivial
  | answered value reply =>
    have own := computed call _ reply
    exact own.afterwards
  | closed reply =>
    have unanswered : Unanswered history system call := by
      have held := ledger.answered call
      rwa [reply] at held
    exact unanswered.later faulty

/-- The ledger is kept by steps and by panics. -/
theorem step {incident : Incident types service} (ledger : FaultLedger history system)
    (faulty : Faulty remains system incident next) :
    FaultLedger (history ++ [incident]) next := by
  rcases faulty.inversion with ⟨action, rfl, stepped⟩ | move
  · refine ⟨?_, ledger.toll.step stepped, ledger.answered_step stepped faulty, ?_⟩
    · rw [actions_snoc]
      exact ledger.flow.step stepped
    · intro call caller outcome found phase
      exact ledger.concluded_step stepped faulty found phase
  · refine ⟨?_, ledger.toll.panic move, ledger.answered_panic faulty move, ?_⟩
    · rw [actions_snoc, move.action_none, Option.toList_none, List.append_nil]
      exact move.flow ledger.flow
    · intro call caller outcome found phase
      rw [move.callers] at found
      exact (ledger.concluded call caller outcome found phase).later faulty

/-- The ledger of every run with panics. -/
theorem of_run {manager : service.State}
    (run : Run (Faulty remains) (System.initial manager) history system) :
    FaultLedger history system :=
  run.invariant FaultLedger (initial manager) (fun _ _ _ _ ledger faulty => ledger.step faulty)

end FaultLedger

/-- No closure of the call has run, and none will, however the run goes on. -/
def NeverStarts (remains : Remains service) (history : List (Incident types service))
    (system : System types service) (call : CallId) : Prop :=
  ∀ later final, Run (Faulty remains) system later final →
    ∀ message ∈ taken (actions (history ++ later)), message.call ≠ call

/-- No closure of the call has returned, and none will, however the run goes on. -/
def NeverReturns (remains : Remains service) (history : List (Incident types service))
    (system : System types service) (call : CallId) : Prop :=
  ∀ later final, Run (Faulty remains) system later final →
    ∀ execution ∈ executed (actions (history ++ later)), execution.message.call ≠ call

/-- A closure that was lost with the manager never starts.

Proof: by induction on the run, for a dropped manager takes nothing and stays dropped. -/
theorem Lost.neverStarts {remains : Remains service} {history : List (Incident types service)}
    {system : System types service} {call : CallId} (lost : Lost (actions history) system call) :
    NeverStarts remains history system call := by
  intro later final run
  have still : Lost (actions (history ++ later)) final call := by
    refine run.invariant (fun past state => Lost (actions (history ++ past)) state call) ?_ ?_
    · simpa using lost
    · intro past state incident next held faulty
      rw [← List.append_assoc]
      exact held.afterwards faulty
  exact still.2

/-- Remote execution as callers may rely on it where closures and callbacks may
panic at any time. -/
structure ExactlyOnceOrPanic (remains : Remains service) (history : List (Incident types service))
    (system : System types service) : Prop where
  /-- Closures start in the order their messages were enqueued, none left out. -/
  started : taken (actions history) <+: enqueued (actions history)
  /-- They end in that order, by returning or by panicking. -/
  completed : ended history <+: enqueued (actions history)
  /-- No closure is run twice, whether or not it panicked. -/
  once : ((taken (actions history)).map FnMsg.call).Nodup
  /-- A call that returned a result blocked for it, sent the closure that computed
  it, and had that closure run exactly once. -/
  result : ∀ call code blocking value,
    system.callers call = some ⟨code, blocking, .returned (.value value)⟩ →
      ∃ body : Task types service code,
        FnMsg.callBlocking call body ∈ enqueued (actions history) ∧ body.Leads (.ret value) ∧
        (executed (actions history)).filter (fun execution => execution.message.call = call) =
          [⟨FnMsg.callBlocking call body, value⟩]
  /-- The downcast of a result never fails. -/
  downcast : ∀ call code blocking,
    system.callers call ≠ some ⟨code, blocking, .returned .unwrapNone⟩
  /-- A call that could not send never has its closure run. -/
  unsent : ∀ call code blocking,
    system.callers call = some ⟨code, blocking, .returned (.failed .channelSend)⟩ →
      NeverStarts remains history system call
  /-- A call whose channel was closed never has its closure return. -/
  unreceived : ∀ call code blocking,
    system.callers call = some ⟨code, blocking, .returned (.failed .channelRecv)⟩ →
      NeverReturns remains history system call
  /-- A call whose closure panicked never has a closure return. -/
  panicked : ∀ message ∈ unwound history, NeverReturns remains history system message.call
  /-- So it never returns a result. -/
  resultless : ∀ message ∈ unwound history, ∀ later final,
    Run (Faulty remains) system later final → ∀ code blocking value,
      final.callers message.call ≠ some ⟨code, blocking, .returned (.value value)⟩

namespace FaultLedger

variable {remains : Remains service} {history : List (Incident types service)}
  {system : System types service}

/-- Closures end in the order their messages were enqueued. -/
theorem completed (ledger : FaultLedger history system) :
    ended history <+: enqueued (actions history) := by
  refine List.IsPrefix.trans ?_ ledger.flow.ordered
  rw [ledger.toll.started]
  exact List.prefix_append _ _

/-- No two closures that ended are of one call. -/
theorem ended_distinct (ledger : FaultLedger history system) :
    ((executed (actions history)).map (fun execution => execution.message.call) ++
      (unwound history).map FnMsg.call).Nodup := by
  have distinct : ((ended history).map FnMsg.call).Nodup :=
    ledger.flow.distinct.sublist (ledger.completed.map FnMsg.call).sublist
  have tallied := ledger.toll.tallied.map FnMsg.call
  rw [List.map_append, List.map_map] at tallied
  exact tallied.nodup_iff.mp distinct

/-- A closure that panicked is not also one that returned. -/
theorem unwound_unexecuted (ledger : FaultLedger history system) {message : FnMsg types service}
    (crashed : message ∈ unwound history) :
    ∀ execution ∈ executed (actions history), execution.message.call ≠ message.call := by
  intro execution member
  exact (List.nodup_append.mp ledger.ended_distinct).2.2 _ (List.mem_map_of_mem member) _
    (List.mem_map_of_mem crashed)

end FaultLedger

section Panics

variable {remains : Remains service} {manager : service.State}
  {history later : List (Incident types service)} {system final : System types service}

/-- A closure that panicked has not returned, and will not. -/
theorem neverReturns_of_unwound
    (run : Run (Faulty remains) (System.initial manager) history system)
    {message : FnMsg types service} (crashed : message ∈ unwound history) :
    NeverReturns remains history system message.call := by
  intro later final rest
  have ledger := FaultLedger.of_run (run.append rest)
  refine ledger.unwound_unexecuted ?_
  rw [unwound, List.filterMap_append]
  exact List.mem_append_left _ crashed

/-- Nor has a closure whose call learnt that nothing will come. -/
theorem Unanswered.neverReturns
    (run : Run (Faulty remains) (System.initial manager) history system) {call : CallId}
    (unanswered : Unanswered history system call) : NeverReturns remains history system call := by
  have ledger := FaultLedger.of_run run
  rcases unanswered with lost | ⟨message, crashed, sender⟩
  · intro later final rest execution member
    have after := FaultLedger.of_run (run.append rest)
    exact lost.neverStarts later final rest _ (after.toll.executed_taken member)
  · have listed : message ∈ enqueued (actions history) :=
      ledger.flow.ordered.subset (ledger.toll.unwound_taken crashed)
    obtain rfl : message.call = call := (ledger.flow.formed message listed).own sender
    exact neverReturns_of_unwound run crashed

/-- Whatever the callers do, whenever closures and callbacks panic and whenever the
manager is dropped, closures run at most once and in order, calls return their own
results, and a call that is told of no result never had one.

Proof: as for runs without panics, with an account in which a closure ends by returning or
by panicking. A closure that panicked is not one that returned, for each message ends
once. -/
theorem System.exactly_once_or_panic
    (run : Run (Faulty remains) (System.initial manager) history system) :
    ExactlyOnceOrPanic remains history system := by
  have ledger := FaultLedger.of_run run
  refine ⟨ledger.flow.ordered, ledger.completed, ?_, ?_, ?_, ?_, ?_,
    fun message crashed => neverReturns_of_unwound run crashed, ?_⟩
  · exact ledger.flow.distinct.sublist (ledger.flow.ordered.map FnMsg.call).sublist
  · intro call code blocking value found
    exact ledger.flow.result ledger.toll.executed_taken ledger.toll.values
      (List.nodup_append.mp ledger.ended_distinct).1 (ledger.concluded call _ _ found rfl)
  · intro call code blocking found
    exact ledger.concluded call _ _ found rfl
  · intro call code blocking found
    have lost : Lost (actions history) system call := ledger.concluded call _ _ found rfl
    exact lost.neverStarts
  · intro call code blocking found
    exact Unanswered.neverReturns run (ledger.concluded call _ _ found rfl)
  · intro message crashed later final rest code blocking value found
    have after := FaultLedger.of_run (run.append rest)
    obtain ⟨execution, member, sender, _⟩ : Computed (actions (history ++ later)) message.call
      ⟨code, value⟩ := after.concluded message.call _ _ found rfl
    have listed : execution.message ∈ enqueued (actions (history ++ later)) :=
      after.flow.ordered.subset (after.toll.executed_taken member)
    exact neverReturns_of_unwound run crashed later final rest execution member
      ((after.flow.formed _ listed).own sender)

end Panics

/-- Panics that leave the manager as it was. -/
def Remains.untouched (service : Service) : Remains service where
  served _ before after := after = before
  acted before after := after = before

/-- The first closure panics in the middle of a drain. The second is run by a later
drain, for which the manager is kicked. -/
theorem System.exactly_once_or_panic_recovered :
    ∃ (history : List (Incident RemoteResult.types EventManager.scripted))
      (system : System RemoteResult.types EventManager.scripted),
      Run (Faulty (Remains.untouched _)) System.fresh history system ∧
        system.callers 0 = some ⟨.id, true, .returned (.failed .channelRecv)⟩ ∧
        system.callers 1 = some ⟨.number, true, .returned (.value (7 : Nat))⟩ ∧
        unwound history ≠ [] ∧ ExactlyOnceOrPanic (Remains.untouched _) history system := by
  let register : Task RemoteResult.types EventManager.scripted RemoteResult.id :=
    .request (.addSubscriber ⟨[]⟩) (fun id => .ret id)
  let seven : Task RemoteResult.types EventManager.scripted RemoteResult.number :=
    .ret (7 : Nat)
  have begun : Run (Faulty (Remains.untouched EventManager.scripted)) System.fresh []
    (System.fresh : System RemoteResult.types _) := Run.nil
  have sent := (((begun.snoc (.step (.send (.callBlocking 0 register) rfl nofun))).snoc
    (.step (.send (.callBlocking 1 seven) rfl nofun))).snoc
    (.step (@Step.write _ _ _ 0 _ rfl rfl))).snoc (.step (@Step.write _ _ _ 1 _ rfl rfl))
  have crashed := (((sent.snoc (.step (.wait rfl (by decide)))).snoc (.step (.read rfl))).snoc
    (.step (.take rfl rfl))).snoc (.served rfl rfl)
  have told := crashed.snoc (.step (@Step.disconnected _ _ _ 0 _ rfl rfl rfl))
  have drained := (((told.snoc (.step .kick)).snoc (.step (.wait rfl (by decide)))).snoc
    (.step (.read rfl))).snoc (.step (.take rfl rfl))
  have answered := (drained.snoc (.step (.finish rfl))).snoc
    (.step (@Step.receive _ _ _ 1 _ _ rfl rfl rfl))
  exact ⟨_, _, answered, rfl, rfl, List.cons_ne_nil _ _, System.exactly_once_or_panic answered⟩

end EventLoop
