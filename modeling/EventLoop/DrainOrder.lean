import EventLoop.FireTree
import EventLoop.Library.LevelOrder

/-!
# A drain runs the whole tree of fires, level by level

The manager takes messages off the front of the queue, and the closures it runs
append theirs at the end. A drain that has come to its end has therefore served
the forest below the messages it found first in, first out: every closure once,
each with all it fires, one level after the other. If closures do not kick, what
the eventfd holds in the end are the fires of the drain. It may wake the manager
once more, and then there is nothing to run.
-/

namespace EventLoop

open Transition LevelOrder

variable {types : ResultTypes} {service : Service}

/-- Running the first closure may come to the second, having fired these on the way. -/
inductive Task.Trail {code : types.Code} (task : Task types service code) :
    List (Task types service types.unit) → Task types service code → Prop
  | here : Task.Trail task [] task
  | answered {fired : List (Task types service types.unit)} {request : service.Req}
      {next : service.Res request → Task types service code}
      (before : Task.Trail task fired (.request request next)) (response : service.Res request) :
      Task.Trail task fired (next response)
  | fired {fired : List (Task types service types.unit)} {body : Task types service types.unit}
      {next : Except Error Unit → Task types service code}
      (before : Task.Trail task fired (.fire body next)) (result : Except Error Unit) :
      Task.Trail task (fired ++ [body]) (next result)
  | kicked {fired : List (Task types service types.unit)}
      {next : Except Error Unit → Task types service code}
      (before : Task.Trail task fired (.kick next)) (result : Except Error Unit) :
      Task.Trail task fired (next result)

/-- Neither the closure nor anything it fires kicks. -/
def Task.KickFree {code : types.Code} : Task types service code → Prop
  | .ret _ => True
  | .request _ next => ∀ response, (next response).KickFree
  | .fire body next => body.KickFree ∧ ∀ result, (next result).KickFree
  | .kick _ => False

/-- The messages of fires. -/
def sentFires (fires : List (CallId × Task types service types.unit)) :
    List (FnMsg types service) :=
  fires.map (fun fire => FnMsg.fire fire.1 fire.2)

/-- A closure that ran to its end: the fires it made, in order, and its value. -/
structure Visit (types : ResultTypes) (service : Service) where
  message : FnMsg types service
  fires : List (CallId × Task types service types.unit)
  value : types.Val message.code
  ran : message.fnbox.Trail (fires.map Prod.snd) (.ret value)

namespace Visit

/-- The messages the closure enqueued. -/
def fired (visit : Visit types service) : List (FnMsg types service) :=
  sentFires visit.fires

/-- The closure as the account of the closures has it. -/
def execution (visit : Visit types service) : Execution types service :=
  ⟨visit.message, visit.value⟩

end Visit

/-- The closure that runs has made these fires. -/
def Control.Trails (fired : List (CallId × Task types service types.unit)) :
    Control types service → Prop
  | .running message task => message.fnbox.Trail (fired.map Prod.snd) task
  | .firing message _ next => ∃ earlier call body, fired = earlier ++ [(call, body)] ∧
      message.fnbox.Trail (earlier.map Prod.snd) (.fire body next)
  | _ => fired = []

/-- A drain in between: the closures that ran to their ends, what waits since before
the running one was taken, and what that one has fired. -/
structure Serving (roots : List (FnMsg types service)) (history : List (Action types service))
    (system : System types service) (visits : List (Visit types service))
    (waiting : List (FnMsg types service))
    (fired : List (CallId × Task types service types.unit)) : Prop where
  executions : visits.map Visit.execution = executed history
  fires : enqueued history = visits.flatMap Visit.fired ++ sentFires fired
  queue : system.queue = waiting ++ sentFires fired
  serves : Serves Visit.message Visit.fired roots visits (system.control.current ++ waiting)
  trails : system.control.Trails fired
  ended : system.control = .outside → system.queue = []

namespace Serving

variable {roots waiting : List (FnMsg types service)} {history : List (Action types service)}
  {system next : System types service} {visits : List (Visit types service)}
  {fired : List (CallId × Task types service types.unit)} {action : Action types service}

/-- A step that ends no closure and enqueues nothing. -/
theorem quiet (serving : Serving roots history system visits waiting fired)
    (enqueues : action.enqueues = none) (finishes : action.finishes = none)
    (queue : next.queue = system.queue)
    (current : next.control.current = system.control.current) (trails : next.control.Trails fired)
    (ended : next.control = .outside → next.queue = []) :
    Serving roots (history ++ [action]) next visits waiting fired where
  executions := by simpa [finishes] using serving.executions
  fires := by simpa [enqueues] using serving.fires
  queue := queue.trans serving.queue
  serves := by
    rw [current]
    exact serving.serves
  trails := trails
  ended := ended

/-- The oldest message becomes the one that runs. -/
theorem take (serving : Serving roots history system visits waiting fired)
    {message : FnMsg types service} {rest : List (FnMsg types service)}
    (draining : system.control = .draining) (first : system.queue = message :: rest) :
    Serving roots (history ++ [.take message])
      { system with queue := rest, control := .running message message.fnbox } visits rest [] := by
  have none : fired = [] := by
    have trails := serving.trails
    rwa [draining] at trails
  subst none
  have oldest : waiting = message :: rest := by
    rw [← first, serving.queue]
    simp [sentFires]
  constructor
  · simpa [Action.finishes] using serving.executions
  · simpa [Action.enqueues] using serving.fires
  · simp [sentFires]
  · have serves := serving.serves
    rw [draining, oldest] at serves
    exact serves
  · exact .here
  · simp

/-- The running closure adds a fire to those it made. The tally grows with the enqueued
messages, and the fire is what is still to write. -/
theorem fire (serving : Serving roots history system visits waiting fired)
    {message : FnMsg types service} {call : CallId} {body : Task types service types.unit}
    {task : Except Error Unit → Task types service message.code}
    (running : system.control = .running message (.fire body task)) :
    Serving roots (history ++ [.fire (FnMsg.fire call body)])
      { system.accept (FnMsg.fire call body) with control := .firing message call task }
      visits waiting (fired ++ [(call, body)]) := by
  have trail := serving.trails
  rw [running] at trail
  constructor
  · simpa [Action.finishes] using serving.executions
  · simp [Action.enqueues, serving.fires, sentFires]
  · simp [System.accept, serving.queue, sentFires]
  · have serves := serving.serves
    rw [running] at serves
    exact serves
  · exact ⟨fired, call, body, rfl, trail⟩
  · simp

/-- The running closure returns and is one of those that ran; what it fired waits
with the rest. -/
theorem finish (serving : Serving roots history system visits waiting fired)
    {message : FnMsg types service} {value : types.Val message.code}
    (running : system.control = .running message (.ret value)) :
    ∃ visit, Serving roots (history ++ [.finish message value]) (system.finish message value)
      (visits ++ [visit]) (waiting ++ sentFires fired) [] := by
  have trail := serving.trails
  have serves := serving.serves
  rw [running] at trail serves
  refine ⟨⟨message, fired, value, trail⟩, ?_⟩
  constructor
  · simp [Action.finishes, serving.executions, Visit.execution]
  · simp [Action.enqueues, serving.fires, Visit.fired, sentFires]
  · simpa [System.finish, sentFires] using serving.queue
  · exact serves.snoc
  · rfl
  · simp [System.finish]

/-- Every step of a drain serves the forest in order.

Proof: by cases on the step. A take begins the visit of the first tree that waits; a fire
appends to what the visit has fired, and so to the queue; an end makes the visit one of
those made. Every other step leaves the queue, and the place in the visit moves on. -/
theorem step (serving : Serving roots history system visits waiting fired)
    (drained : Drain system action next) :
    ∃ visits waiting fired, Serving roots (history ++ [action]) next visits waiting fired := by
  obtain ⟨stepped, drains⟩ := drained
  have trails := serving.trails
  cases stepped with
  | take draining first => exact ⟨_, _, _, serving.take draining first⟩
  | fire running fresh => exact ⟨_, _, _, serving.fire running⟩
  | finish running =>
    obtain ⟨visit, served⟩ := serving.finish running
    exact ⟨_, _, _, served⟩
  | write found phase =>
    exact ⟨_, _, _, serving.quiet rfl rfl rfl rfl trails serving.ended⟩
  | receive found phase reply =>
    exact ⟨_, _, _, serving.quiet rfl rfl rfl rfl trails serving.ended⟩
  | disconnected found phase reply =>
    exact ⟨_, _, _, serving.quiet rfl rfl rfl rfl trails serving.ended⟩
  | read idle =>
    rw [idle] at trails
    exact ⟨_, _, _, serving.quiet rfl rfl rfl (by simp [idle, Control.current]) trails (by simp)⟩
  | empty draining none =>
    rw [draining] at trails
    exact ⟨_, _, _, serving.quiet rfl rfl rfl (by simp [draining, Control.current]) trails
      (fun _ => none)⟩
  | request running served =>
    rw [running] at trails
    exact ⟨_, _, _, serving.quiet rfl rfl rfl (by simp [running, Control.current])
      (Task.Trail.answered trails _) (by simp)⟩
  | kickInside running =>
    rw [running] at trails
    exact ⟨_, _, _, serving.quiet rfl rfl rfl (by simp [running, Control.current])
      (Task.Trail.kicked trails _) (by simp)⟩
  | @resume message call task caller outcome firing found phase =>
    rw [firing] at trails
    obtain ⟨earlier, own, body, rfl, trail⟩ := trails
    have onwards : message.fnbox.Trail ((earlier ++ [(own, body)]).map Prod.snd)
        (task outcome.toResult) := by
      rw [List.map_append]
      exact trail.fired _
    exact ⟨_, _, _, serving.quiet rfl rfl rfl (by simp [firing, Control.current]) onwards (by simp)⟩
  | send => exact drains.elim
  | reject => exact drains.elim
  | kick => exact drains.elim
  | act => exact drains.elim
  | wait => exact drains.elim
  | dismiss => exact drains.elim
  | drop => exact drains.elim

/-- From the moment the endpoint's event is found. -/
theorem of_run (notified : system.control = .notified) (drain : Run Drain system history next) :
    ∃ visits waiting fired, Serving system.queue history next visits waiting fired := by
  refine drain.invariant (fun past state => ∃ visits waiting fired,
    Serving system.queue past state visits waiting fired) ⟨[], system.queue, [], ?_⟩ ?_
  · refine ⟨rfl, rfl, by simp [sentFires], ?_, ?_, by simp [notified]⟩
    · rw [notified]
      exact .idle _
    · rw [notified]
      rfl
  · rintro past state label after ⟨visits, waiting, fired, serving⟩ drained
    exact serving.step drained

end Serving

/-- What is left of the closure that runs does not kick. -/
def Control.KickFree : Control types service → Prop
  | .running _ task => task.KickFree
  | .firing _ _ next => ∀ result, (next result).KickFree
  | _ => True

/-- The eventfd holds one for every message fired since it was read, but for the
message of a fire that is still to write. -/
def Tallied (system : System types service) (fires : Nat) : Prop :=
  (system.Writing ∧ system.eventFd.counter + 1 = fires) ∨
    (¬ system.Writing ∧ system.eventFd.counter = fires)

/-- A drain of closures that do not kick, and its tally. -/
structure Counted (history : List (Action types service)) (system : System types service) :
    Prop where
  queued : ∀ message ∈ system.queue, message.fnbox.KickFree
  current : system.control.KickFree
  unread : system.control = .notified → enqueued history = []
  tally : system.control ≠ .notified → (enqueued history).length < 2 ^ 64 - 2 →
    Tallied system (enqueued history).length

namespace Counted

variable {history : List (Action types service)} {system next : System types service}
  {action : Action types service}

/-- A step that fires nothing and writes nothing. -/
theorem quiet (counted : Counted history system) (enqueues : action.enqueues = none)
    (queued : ∀ message ∈ next.queue, message ∈ system.queue) (current : next.control.KickFree)
    (eventFd : next.eventFd = system.eventFd) (writing : next.Writing ↔ system.Writing)
    (phase : next.control = .notified ↔ system.control = .notified) :
    Counted (history ++ [action]) next := by
  have same : enqueued (history ++ [action]) = enqueued history := by simp [enqueues]
  constructor
  · intro message member
    exact counted.queued message (queued message member)
  · exact current
  · intro notified
    rw [same]
    exact counted.unread (phase.mp notified)
  · intro started few
    rw [same] at few ⊢
    unfold Tallied
    rw [eventFd, writing]
    exact counted.tally (fun notified => started (phase.mpr notified)) few

/-- The eventfd is empty when it has been read. -/
theorem read (counted : Counted history system) (solo : Solo system)
    (notified : system.control = .notified) :
    Counted (history ++ [.read])
      { system with control := .draining, eventFd := system.eventFd.read } := by
  have none : enqueued (history ++ [.read]) = [] := by
    simp [Action.enqueues, counted.unread notified]
  constructor
  · exact counted.queued
  · trivial
  · simp
  · intro _ _
    rw [none]
    exact Or.inr ⟨solo.not_writing (by simp [notified]), rfl⟩

/-- A fire is enqueued and still to be announced. -/
theorem fire (counted : Counted history system) (solo : Solo system)
    {message : FnMsg types service} {call : CallId} {body : Task types service types.unit}
    {task : Except Error Unit → Task types service message.code}
    (running : system.control = .running message (.fire body task)) :
    Counted (history ++ [.fire (FnMsg.fire call body)])
      { system.accept (FnMsg.fire call body) with control := .firing message call task } := by
  have current := counted.current
  rw [running] at current
  have more : (enqueued (history ++ [.fire (FnMsg.fire call body)])).length =
      (enqueued history).length + 1 := by
    simp [Action.enqueues]
  constructor
  · intro other member
    rcases List.mem_append.mp member with old | last
    · exact counted.queued other old
    · obtain rfl := List.mem_singleton.mp last
      exact current.1
  · exact current.2
  · simp
  · intro _ few
    rw [more] at few ⊢
    rcases counted.tally (by simp [running]) (by omega) with ⟨writing, _⟩ | ⟨_, exact⟩
    · exact absurd writing (solo.not_writing (by simp [running]))
    · exact Or.inl ⟨system.accept_writing _, congrArg (· + 1) exact⟩

/-- A fire is announced; there was room. Since so few messages were enqueued the write
succeeds, and the counter catches up with the tally. -/
theorem write (counted : Counted history system) (solo : Solo system) {call : CallId}
    {caller : Caller types} (found : system.callers call = some caller)
    (phase : caller.phase = .enqueued) :
    Counted (history ++ [.write call]) (system.write call caller) := by
  have same : enqueued (history ++ [.write call]) = enqueued history := by
    simp [Action.enqueues]
  have settled : ¬ (system.write call caller).Writing := by
    intro writing
    obtain ⟨other, before, distinct, registered, enqueued⟩ := System.write_writing writing
    obtain ⟨_, _, firing⟩ := solo.writer call caller found phase
    obtain ⟨_, _, firing'⟩ := solo.writer other before registered enqueued
    obtain ⟨_, rfl, _⟩ := Control.firing.inj (firing.symm.trans firing')
    exact distinct rfl
  constructor
  · exact counted.queued
  · exact counted.current
  · intro notified
    rw [same]
    exact counted.unread notified
  · intro started few
    rw [same] at few ⊢
    rcases counted.tally started few with ⟨_, behind⟩ | ⟨written, _⟩
    · have room : system.eventFd.counter < 2 ^ 64 - 2 := by omega
      refine Or.inr ⟨settled, ?_⟩
      rw [System.write, EventFd.write_room room]
      exact behind
    · exact absurd ⟨call, caller, found, phase⟩ written

/-- Every step of a drain keeps the tally: a fire enqueues and then writes, and nothing
else writes, for no closure kicks. -/
theorem step (counted : Counted history system) (solo : Solo system)
    (drained : Drain system action next) : Counted (history ++ [action]) next := by
  obtain ⟨stepped, drains⟩ := drained
  have current := counted.current
  cases stepped with
  | read notified => exact counted.read solo notified
  | fire running fresh => exact counted.fire solo running
  | write found phase => exact counted.write solo found phase
  | receive found phase reply =>
    exact counted.quiet rfl (fun _ member => member) current rfl
      (System.receive_writing found phase) Iff.rfl
  | disconnected found phase reply =>
    exact counted.quiet rfl (fun _ member => member) current rfl
      (System.receive_writing found phase) Iff.rfl
  | @take message rest draining first =>
    refine counted.quiet rfl ?_ ?_ rfl Iff.rfl (by simp [draining])
    · intro other member
      rw [first]
      exact List.mem_cons_of_mem message member
    · exact counted.queued message (by simp [first])
  | empty draining none =>
    exact counted.quiet rfl (fun _ member => member) trivial rfl Iff.rfl (by simp [draining])
  | request running served =>
    rw [running] at current
    exact counted.quiet rfl (fun _ member => member) (current _) rfl Iff.rfl (by simp [running])
  | resume firing found phase =>
    rw [firing] at current
    exact counted.quiet rfl (fun _ member => member) (current _) rfl Iff.rfl (by simp [firing])
  | kickInside running =>
    rw [running] at current
    exact current.elim
  | finish running =>
    exact counted.quiet rfl (fun _ member => member) trivial rfl Iff.rfl
      (by simp [running, System.finish])
  | send => exact drains.elim
  | reject => exact drains.elim
  | kick => exact drains.elim
  | act => exact drains.elim
  | wait => exact drains.elim
  | dismiss => exact drains.elim
  | drop => exact drains.elim

/-- So it is after every part of a drain that the manager was notified for. -/
theorem of_run (solo : Solo system) (notified : system.control = .notified)
    (kickFree : ∀ message ∈ system.queue, message.fnbox.KickFree)
    (drain : Run Drain system history next) : Counted history next := by
  have both : Solo next ∧ Counted history next := by
    refine drain.invariant (fun past state => Solo state ∧ Counted past state) ⟨solo, ?_⟩ ?_
    · refine ⟨kickFree, ?_, fun _ => rfl, fun started => absurd notified started⟩
      rw [notified]
      trivial
    · rintro past state label after ⟨alone, counted⟩ drained
      exact ⟨alone.step drained, counted.step alone drained⟩
  exact both.2

end Counted

/-- Nobody sends or kicks. -/
def Action.Unsent : Action types service → Prop
  | .send _ => False
  | .reject _ => False
  | .kick => False
  | _ => True

/-- A step while nobody sends. -/
def Unsent (system : System types service) (action : Action types service)
    (next : System types service) : Prop :=
  Step system action next ∧ action.Unsent

/-- The step reports the endpoint's descriptor. -/
def Action.wakes : Action types service → Bool
  | .wait => true
  | _ => false

/-- The step discards such a report. -/
def Action.dismisses : Action types service → Bool
  | .dismiss => true
  | _ => false

/-- The step starts a drain. -/
def Action.reads : Action types service → Bool
  | .read => true
  | _ => false

/-- How often the manager was woken for the endpoint. -/
def wakeups (history : List (Action types service)) : Nat := history.countP Action.wakes

/-- How often that was discarded. -/
def dismissals (history : List (Action types service)) : Nat := history.countP Action.dismisses

/-- How often it led to a drain. -/
def drains (history : List (Action types service)) : Nat := history.countP Action.reads

/-- One more step adds a wakeup if it is one. -/
@[simp] theorem wakeups_snoc (history : List (Action types service))
    (action : Action types service) :
    wakeups (history ++ [action]) = wakeups history + action.wakes.toNat := by
  cases woken : action.wakes <;> simp [wakeups, woken]

/-- One more step adds a dismissal if it is one. -/
@[simp] theorem dismissals_snoc (history : List (Action types service))
    (action : Action types service) :
    dismissals (history ++ [action]) = dismissals history + action.dismisses.toNat := by
  cases dismissed : action.dismisses <;> simp [dismissals, dismissed]

/-- One more step adds a drain if it reads the eventfd. -/
@[simp] theorem drains_snoc (history : List (Action types service))
    (action : Action types service) :
    drains (history ++ [action]) = drains history + action.reads.toNat := by
  cases started : action.reads <;> simp [drains, started]

/-- Nothing waits and nothing is on the way. A wakeup leads to at most one drain,
which leaves the eventfd empty. -/
structure Idle (later : List (Action types service)) (system : System types service) : Prop where
  queue : system.queue = []
  written : ¬ system.Writing
  current : system.control.current = []
  untaken : taken later = []
  told : system.control = .notified → wakeups later = dismissals later + drains later + 1
  untold : system.control ≠ .notified → wakeups later = dismissals later + drains later
  drained : drains later = 0 ∨
    drains later = 1 ∧ system.eventFd.counter = 0 ∧ system.control ≠ .notified

namespace Idle

variable {later : List (Action types service)} {system next : System types service}
  {action : Action types service}

/-- A step that is not concerned with the endpoint. -/
theorem quiet (idle : Idle later system) (takes : action.takes = none)
    (wakes : action.wakes = false) (dismisses : action.dismisses = false)
    (reads : action.reads = false) (queue : next.queue = []) (written : ¬ next.Writing)
    (current : next.control.current = []) (eventFd : next.eventFd = system.eventFd)
    (control : next.control = .notified ↔ system.control = .notified) :
    Idle (later ++ [action]) next where
  queue := queue
  written := written
  current := current
  untaken := by simpa [takes] using idle.untaken
  told := by simpa [wakes, dismisses, reads, control] using idle.told
  untold := by simpa [wakes, dismisses, reads, control] using idle.untold
  drained := by simpa [reads, eventFd, control] using idle.drained

/-- A manager that has been told of its endpoint has not drained yet. -/
theorem undrained (idle : Idle later system) (notified : system.control = .notified) :
    drains later = 0 :=
  idle.drained.resolve_right (fun read => read.2.2 notified)

/-- A step in which nobody sends keeps it so: a drain that a wakeup leads to reads the
eventfd and finds nothing to take. -/
theorem step (idle : Idle later system) (unsent : Unsent system action next) :
    Idle (later ++ [action]) next := by
  obtain ⟨stepped, quiet⟩ := unsent
  have current := idle.current
  cases stepped with
  | wait outside ready =>
    have untold := idle.untold (by simp [outside])
    have unread : drains later = 0 := idle.drained.resolve_right (fun read => by omega)
    refine ⟨idle.queue, idle.written, rfl, ?_, ?_, by simp, ?_⟩
    · simpa [Action.takes] using idle.untaken
    · simpa [Action.wakes, Action.dismisses, Action.reads] using untold
    · simpa [Action.reads] using unread
  | dismiss notified =>
    have told := idle.told notified
    have unread := idle.undrained notified
    refine ⟨idle.queue, idle.written, rfl, ?_, by simp, ?_, ?_⟩
    · simpa [Action.takes] using idle.untaken
    · simp only [wakeups_snoc, dismissals_snoc, drains_snoc, Action.wakes, Action.dismisses,
        Action.reads, Bool.toNat_false, Bool.toNat_true]
      omega
    · exact Or.inl (by simpa [Action.reads] using unread)
  | read notified =>
    have told := idle.told notified
    have unread := idle.undrained notified
    refine ⟨idle.queue, idle.written, rfl, ?_, by simp, ?_, ?_⟩
    · simpa [Action.takes] using idle.untaken
    · simpa [Action.wakes, Action.dismisses, Action.reads, Nat.add_assoc] using told
    · simp [Action.reads, unread, EventFd.read, EventFd.new]
  | write found phase => exact absurd ⟨_, _, found, phase⟩ idle.written
  | take draining first =>
    rw [idle.queue] at first
    cases first
  | request running served => simp [running, Control.current] at current
  | fire running fresh => simp [running, Control.current] at current
  | resume firing found phase => simp [firing, Control.current] at current
  | kickInside running => simp [running, Control.current] at current
  | finish running => simp [running, Control.current] at current
  | receive found phase reply =>
    exact idle.quiet rfl rfl rfl rfl idle.queue
      ((System.receive_writing found phase).not.mpr idle.written) current rfl Iff.rfl
  | disconnected found phase reply =>
    exact idle.quiet rfl rfl rfl rfl idle.queue
      ((System.receive_writing found phase).not.mpr idle.written) current rfl Iff.rfl
  | act outside acted =>
    exact idle.quiet rfl rfl rfl rfl idle.queue idle.written current rfl Iff.rfl
  | empty draining none =>
    exact idle.quiet rfl rfl rfl rfl idle.queue idle.written rfl rfl (by simp [draining])
  | drop outside =>
    exact idle.quiet rfl rfl rfl rfl rfl idle.written rfl rfl (by simp [outside, System.drop])
  | send => exact quiet.elim
  | reject => exact quiet.elim
  | kick => exact quiet.elim

/-- So it is after every run of such steps from a manager that has drained everything. -/
theorem of_run (outside : system.control = .outside) (drained : system.queue = [])
    (written : ¬ system.Writing) (run : Run Unsent system later next) : Idle later next := by
  refine run.invariant Idle ⟨drained, written, ?_, rfl, ?_, fun _ => rfl, Or.inl rfl⟩
    (fun _ _ _ _ idle unsent => idle.step unsent)
  · rw [outside]
    rfl
  · simp [outside]

/-- Unless a wakeup is discarded there is at most one. -/
theorem wakeups_le (idle : Idle later system) : wakeups later ≤ dismissals later + 1 := by
  by_cases notified : system.control = .notified
  · have told := idle.told notified
    have unread := idle.undrained notified
    omega
  · have untold := idle.untold notified
    rcases idle.drained with none | ⟨once, _⟩
    · omega
    · omega

end Idle

/-- What a drain that came to its end has done. -/
structure RanFireTree (system : System types service) (history : List (Action types service))
    (final : System types service) : Prop where
  drained : final.queue = []
  /-- What was queued ran first, then what was fired, in the order of the fires. -/
  inOrder : (executed history).map Execution.message = system.queue ++ enqueued history
  once : ((executed history).map (fun execution => execution.message.call)).Nodup
  /-- Every closure ran to its end, and the trees of fires were gone through level by
  level. -/
  levels : ∃ visits : List (Visit types service), visits.map Visit.execution = executed history ∧
    visits.flatMap Visit.fired = enqueued history ∧
    Levels Visit.message Visit.fired system.queue visits
  /-- If closures do not kick, the eventfd holds the fires of the drain. -/
  counter : (∀ message ∈ system.queue, message.fnbox.KickFree) →
    (enqueued history).length < 2 ^ 64 - 2 →
    final.eventFd.counter = (enqueued history).length
  /-- As long as nobody sends, no closure runs and the manager drains at most once
  more, woken once for it unless the wakeup is discarded. -/
  quiet : ∀ later last, Run Unsent final later last →
    taken later = [] ∧ drains later ≤ 1 ∧ wakeups later ≤ dismissals later + 1

/-- What can be said of every drain from a state. -/
structure DrainsFireTree (system : System types service) : Prop where
  terminates : Acc (fun next state => ∃ action, Drain state action next) system
  /-- A drain goes on until it is over, or the manager panics. -/
  ends : ∀ history state, Run Drain system history state →
    (∀ action next, ¬ Drain state action next) → state.control = .outside ∨ state.Panicked
  completes : ∀ history state, Run Drain system history state →
    ∃ later final, Run Drain state later final ∧ (final.control = .outside ∨ final.Panicked)
  ran : ∀ history final, Run Drain system history final → final.control = .outside →
    RanFireTree system history final

/-- At its end a drain has served everything. -/
theorem Serving.finished {roots waiting : List (FnMsg types service)}
    {history : List (Action types service)} {system : System types service}
    {visits : List (Visit types service)} {fired : List (CallId × Task types service types.unit)}
    (serving : Serving roots history system visits waiting fired)
    (outside : system.control = .outside) :
    visits.flatMap Visit.fired = enqueued history ∧
      Serves Visit.message Visit.fired roots visits [] := by
  have trails := serving.trails
  have serves := serving.serves
  rw [outside] at trails serves
  have unfired : fired = [] := trails
  subst unfired
  have unserved : waiting = [] := by
    have queue := serving.queue
    rw [serving.ended outside] at queue
    exact (List.append_eq_nil_iff.mp queue.symm).1
  subst unserved
  refine ⟨?_, serves⟩
  rw [serving.fires]
  simp [sentFires]

/-- What is queued and what is enqueued later are messages of different calls. -/
theorem Ledger.distinct_later {past history : List (Action types service)}
    {system final : System types service} (before : Ledger past system)
    (after : Ledger (past ++ history) final) (alive : system.control ≠ .dropped) :
    ((system.queue ++ enqueued history).map FnMsg.call).Nodup := by
  have distinct := after.flow.distinct
  have split : enqueued (past ++ history) =
      taken past ++ (system.queue ++ enqueued history) := by
    rw [enqueued, List.filterMap_append, ← enqueued, ← enqueued, before.flow.queued alive,
      List.append_assoc]
  rw [split, List.map_append] at distinct
  exact distinct.of_append_right

/-- Threads can bring the queue to hold any messages, and then be done. By induction on
the messages: each is sent by a call of its own, and then written. -/
theorem System.fill (manager : service.State) (messages : List (FnMsg types service))
    (formed : ∀ message ∈ messages, message.Formed)
    (distinct : (messages.map FnMsg.call).Nodup) :
    ∃ past system, Run Step (System.initial manager) past system ∧
      system.control = .outside ∧ ¬ system.Writing ∧ 0 < system.eventFd.counter ∧
      system.queue = messages ∧ ∀ call ∉ messages.map FnMsg.call, system.callers call = none := by
  induction messages using List.reverseRecOn with
  | nil =>
    refine ⟨_, _, Run.nil.snoc .kick, rfl, ?_, EventFd.write_counter _, rfl, fun _ _ => rfl⟩
    rintro ⟨call, caller, found, _⟩
    cases found
  | append_singleton earlier message inductionHypothesis =>
    rw [List.map_append, List.nodup_append] at distinct
    obtain ⟨distinctEarlier, _, apart⟩ := distinct
    obtain ⟨past, system, run, outside, written, _, queue, unused⟩ := inductionHypothesis
      (fun other member => formed other (List.mem_append_left _ member)) distinctEarlier
    have fresh : system.callers message.call = none :=
      unused _ (fun used => apart _ used _ (List.mem_singleton_self _) rfl)
    have sent := run.snoc (.send (formed message (by simp)) fresh (by simp [outside]))
    have registered : (system.accept message).callers message.call =
        some ⟨message.code, message.sender.isSome, .enqueued⟩ := by simp [accept]
    have announced := sent.snoc (.write registered rfl)
    refine ⟨_, _, announced, outside, ?_, EventFd.write_counter _, ?_, ?_⟩
    · intro writing
      obtain ⟨other, caller, different, found, phase⟩ := System.write_writing writing
      have before : system.callers other = some caller := by
        simpa [accept, different] using found
      exact written ⟨other, caller, before, phase⟩
    · simp [System.write, settle, accept, queue]
    · intro call unnamed
      rw [List.map_append, List.mem_append, not_or, List.map_singleton,
        List.mem_singleton] at unnamed
      simpa [System.write, settle, accept, unnamed.2] using unused call unnamed.1

/-- In every reachable state in which the manager has been told of its endpoint and no
sender is about, whatever is queued and whatever the closures fire: the drain comes
to its end, having run every closure of every tree once and level by level. It leaves
the queue empty, and the fires it saw in the eventfd, which lead to no more than one
drain that runs nothing.

Proof: what is left to do descends in the hydra order, so a drain ends. It serves the
forest below the queue first in, first out, which is level by level; and what it leaves in
the eventfd are its own fires, whose messages it has taken. -/
theorem System.drain_runs_fire_tree {manager : service.State}
    {past : List (Action types service)} {system : System types service}
    (run : Run Step (System.initial manager) past system)
    (notified : system.control = .notified) (alone : ¬ system.Writing) :
    DrainsFireTree system := by
  have solo : Solo system := .of_notified notified alone (.of_run run)
  refine ⟨solo.terminates, ?_, ?_, ?_⟩
  · intro history state drain stuck
    rcases (solo.of_run drain).progress with ended | panicked | ⟨action, next, drained⟩
    · exact Or.inl ended
    · exact Or.inr panicked
    · exact absurd drained (stuck action next)
  · intro history state drain
    exact (solo.of_run drain).completes
  · intro history final drain outside
    have after : Solo final := solo.of_run drain
    obtain ⟨visits, waiting, fired, serving⟩ := Serving.of_run notified drain
    obtain ⟨fires, serves⟩ := serving.finished outside
    have inOrder : (executed history).map Execution.message =
        system.queue ++ enqueued history := by
      have order := serves.in_order
      rw [List.append_nil, fires] at order
      rw [← serving.executions, List.map_map]
      exact order
    have written : ¬ final.Writing := after.not_writing (by simp [outside])
    constructor
    · exact serving.ended outside
    · exact inOrder
    · have whole := Ledger.of_run (run.append (drain.mono And.left))
      have distinct := (Ledger.of_run run).distinct_later whole (by simp [notified])
      rw [← inOrder, List.map_map] at distinct
      exact distinct
    · exact ⟨visits, serving.executions, fires, serves.levels⟩
    · intro kickFree few
      have counted := Counted.of_run solo notified kickFree drain
      rcases counted.tally (by simp [outside]) few with ⟨writing, _⟩ | ⟨_, exact⟩
      · exact absurd writing written
      · exact exact
    · intro later last rest
      have idle := Idle.of_run outside (serving.ended outside) written rest
      refine ⟨idle.untaken, ?_, idle.wakeups_le⟩
      rcases idle.drained with none | ⟨once, _⟩
      · omega
      · omega

/-- A closure that fires twice and does nothing else. -/
def Task.firesTwice : Task RemoteResult.types EventManager.scripted .nothing :=
  .fire (.ret ()) (fun _ => .fire (.ret ()) (fun _ => .ret ()))

/-- Two closures are queued, and the first fires twice. -/
theorem System.drain_runs_fire_tree_twice :
    ∃ (past : List (Action RemoteResult.types EventManager.scripted))
      (system : System RemoteResult.types EventManager.scripted),
      Run Step System.fresh past system ∧ system.control = .notified ∧ ¬ system.Writing ∧
        system.queue = [FnMsg.fire 0 Task.firesTwice, FnMsg.fire 1 (.ret ())] ∧
        DrainsFireTree system := by
  have formed : ∀ message ∈ [FnMsg.fire 0 Task.firesTwice, FnMsg.fire 1 (.ret ())],
      message.Formed := by
    rw [List.forall_mem_cons, List.forall_mem_singleton]
    exact ⟨.fire _ _, .fire _ _⟩
  obtain ⟨past, system, run, outside, written, ready, queue, _⟩ :=
    System.fill EventManager.fresh _ formed (by decide)
  have told := run.snoc (Step.wait outside ready)
  exact ⟨_, _, told, rfl, written, queue, System.drain_runs_fire_tree told rfl written⟩

end EventLoop
