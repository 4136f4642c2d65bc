import EventLoop.Endpoint

/-!
# Remote calls run once, in order, and get their own results

The history of a run records which messages were enqueued, which were taken off
the queue and which closures returned. The queue is what was enqueued and not yet
taken; the closures that returned are the messages taken, but for one that may be
running. From these two accounts follow where a result in a channel comes from,
and from that what a call can return.
-/

namespace EventLoop

open Transition

variable {types : ResultTypes} {service : Service}

/-- A closure that ran to its end, with the value it returned. -/
structure Execution (types : ResultTypes) (service : Service) where
  message : FnMsg types service
  value : types.Val message.code

/-- The value as it is sent back. -/
def Execution.erased (execution : Execution types service) : ErasedResult types :=
  ⟨execution.message.code, execution.value⟩

namespace Action

/-- The message the step enqueues. -/
def enqueues : Action types service → Option (FnMsg types service)
  | .send message => some message
  | .fire message => some message
  | _ => none

/-- The message the step takes off the queue, to run its closure. -/
def takes : Action types service → Option (FnMsg types service)
  | .take message => some message
  | _ => none

/-- The closure that returns in the step. -/
def finishes : Action types service → Option (Execution types service)
  | .finish message value => some ⟨message, value⟩
  | _ => none

end Action

/-- The messages enqueued, in order. -/
def enqueued (history : List (Action types service)) : List (FnMsg types service) :=
  history.filterMap Action.enqueues

/-- The messages taken to run their closures, in order. -/
def taken (history : List (Action types service)) : List (FnMsg types service) :=
  history.filterMap Action.takes

/-- The closures that returned, in order. -/
def executed (history : List (Action types service)) : List (Execution types service) :=
  history.filterMap Action.finishes

/-- One more step adds the message it enqueues, if it enqueues one. -/
@[simp] theorem enqueued_snoc (history : List (Action types service))
    (action : Action types service) :
    enqueued (history ++ [action]) = enqueued history ++ action.enqueues.toList := by
  cases entry : action.enqueues <;> simp [enqueued, entry]

/-- One more step adds the message it takes, if it takes one. -/
@[simp] theorem taken_snoc (history : List (Action types service))
    (action : Action types service) :
    taken (history ++ [action]) = taken history ++ action.takes.toList := by
  cases entry : action.takes <;> simp [taken, entry]

/-- One more step adds the closure that returns in it, if one does. -/
@[simp] theorem executed_snoc (history : List (Action types service))
    (action : Action types service) :
    executed (history ++ [action]) = executed history ++ action.finishes.toList := by
  cases entry : action.finishes <;> simp [executed, entry]

/-- A dropped manager stays dropped; nothing is enqueued or taken any more. -/
theorem Step.dropped {system next : System types service} {action : Action types service}
    (stepped : Step system action next) (gone : system.control = .dropped) :
    next.control = .dropped ∧ action.enqueues = none ∧ action.takes = none := by
  cases stepped with
  | send _ _ alive => exact absurd gone alive
  | reject => exact ⟨gone, rfl, rfl⟩
  | write => exact ⟨gone, rfl, rfl⟩
  | receive => exact ⟨gone, rfl, rfl⟩
  | disconnected => exact ⟨gone, rfl, rfl⟩
  | kick => exact ⟨gone, rfl, rfl⟩
  | act => exact ⟨gone, rfl, rfl⟩
  | wait idle => exact absurd (gone.symm.trans idle) nofun
  | dismiss idle => exact absurd (gone.symm.trans idle) nofun
  | read idle => exact absurd (gone.symm.trans idle) nofun
  | take draining => exact absurd (gone.symm.trans draining) nofun
  | empty draining => exact absurd (gone.symm.trans draining) nofun
  | request running => exact absurd (gone.symm.trans running) nofun
  | fire running => exact absurd (gone.symm.trans running) nofun
  | resume firing => exact absurd (gone.symm.trans firing) nofun
  | kickInside running => exact absurd (gone.symm.trans running) nofun
  | finish running => exact absurd (gone.symm.trans running) nofun
  | drop => exact ⟨rfl, rfl, rfl⟩

/-- Nothing is taken after the manager is dropped. -/
theorem taken_dropped {system final : System types service} {later : List (Action types service)}
    (gone : system.control = .dropped) (run : Run Step system later final) : taken later = [] := by
  have still : final.control = .dropped ∧ taken later = [] := by
    refine run.invariant (fun history state => state.control = .dropped ∧ taken history = [])
      ⟨gone, rfl⟩ ?_
    rintro history state action next ⟨dropped, quiet⟩ stepped
    obtain ⟨after, _, takes⟩ := stepped.dropped dropped
    exact ⟨after, by rw [taken_snoc, quiet, takes]; rfl⟩
  exact still.2

/-- Where a call's new place comes from. -/
inductive CallerMove (system : System types service) (call : CallId) : Caller types → Prop
  | stayed {caller : Caller types} (found : system.callers call = some caller) :
      CallerMove system call caller
  | enqueued (code : types.Code) (blocking : Bool) :
      CallerMove system call ⟨code, blocking, .enqueued⟩
  | refused (code : types.Code) (blocking : Bool) (fresh : system.callers call = none)
      (gone : system.control = .dropped) :
      CallerMove system call ⟨code, blocking, .returned (.failed .channelSend)⟩
  | written (caller : Caller types) (result : Except Errno Unit) :
      CallerMove system call { caller with phase := caller.written result }
  | received {caller : Caller types} {erased : ErasedResult types}
      (found : system.callers call = some caller) (reply : system.replies call = .full erased) :
      CallerMove system call { caller with phase := .returned (caller.received erased) }
  | disconnected (caller : Caller types) (reply : system.replies call = .closed) :
      CallerMove system call { caller with phase := .returned (.failed .channelRecv) }

/-- Enqueuing touches no call but the message's own. -/
theorem System.accept_caller {system : System types service} {message : FnMsg types service}
    {call : CallId} {caller : Caller types}
    (found : (system.accept message).callers call = some caller) :
    CallerMove system call caller := by
  obtain ⟨rfl, rfl⟩ | ⟨_, before⟩ := PartialMap.insert_eq_some found
  · exact .enqueued _ _
  · exact .stayed before

/-- Everything a step can do to a call. It enqueues, is refused, writes, or receives;
every other step leaves the entry. -/
theorem Step.caller {system next : System types service} {action : Action types service}
    (stepped : Step system action next) {call : CallId} {caller : Caller types}
    (found : next.callers call = some caller) : CallerMove system call caller := by
  cases stepped with
  | send => exact System.accept_caller found
  | reject _ fresh gone =>
    obtain ⟨rfl, rfl⟩ | ⟨_, before⟩ := PartialMap.insert_eq_some found
    · exact .refused _ _ fresh gone
    · exact .stayed before
  | write =>
    obtain ⟨rfl, rfl⟩ | ⟨_, before⟩ := PartialMap.insert_eq_some found
    · exact .written _ _
    · exact .stayed before
  | receive registered _ reply =>
    obtain ⟨rfl, rfl⟩ | ⟨_, before⟩ := PartialMap.insert_eq_some found
    · exact .received registered reply
    · exact .stayed before
  | disconnected _ _ reply =>
    obtain ⟨rfl, rfl⟩ | ⟨_, before⟩ := PartialMap.insert_eq_some found
    · exact .disconnected _ reply
    · exact .stayed before
  | fire => exact System.accept_caller found
  | kick => exact .stayed found
  | act => exact .stayed found
  | wait => exact .stayed found
  | dismiss => exact .stayed found
  | read => exact .stayed found
  | take => exact .stayed found
  | empty => exact .stayed found
  | request => exact .stayed found
  | resume => exact .stayed found
  | kickInside => exact .stayed found
  | finish => exact .stayed found
  | drop => exact .stayed found

/-- A call keeps the type it expects when another one is written, or itself. -/
theorem Caller.insert_kept {table : CallId → Option (Caller types)} {call moved : CallId}
    {caller mover : Caller types} (found : table call = some caller)
    (same : table moved = some caller → mover.code = caller.code) :
    ∃ later, PartialMap.insert table moved mover call = some later ∧
      later.code = caller.code := by
  by_cases here : call = moved
  · subst here
    exact ⟨mover, by simp, same found⟩
  · exact ⟨caller, by simp [here, found], rfl⟩

/-- A call keeps the type it expects. The type is written with the entry of a new call,
and every later write of the entry keeps it. -/
theorem Step.code_kept {system next : System types service} {action : Action types service}
    (stepped : Step system action next) {call : CallId} {caller : Caller types}
    (found : system.callers call = some caller) :
    ∃ later, next.callers call = some later ∧ later.code = caller.code := by
  have itself {moved : CallId} {mover : Caller types}
      (registered : system.callers moved = some mover)
      (same : system.callers moved = some caller) : mover.code = caller.code :=
    congrArg Caller.code (Option.some.inj (registered.symm.trans same))
  cases stepped with
  | send _ fresh =>
    exact Caller.insert_kept found (fun same => absurd (fresh.symm.trans same) nofun)
  | reject _ fresh =>
    exact Caller.insert_kept found (fun same => absurd (fresh.symm.trans same) nofun)
  | fire _ fresh =>
    exact Caller.insert_kept found (fun same => absurd (fresh.symm.trans same) nofun)
  | write registered =>
    have kept := itself registered
    exact Caller.insert_kept found kept
  | receive registered =>
    have kept := itself registered
    exact Caller.insert_kept found kept
  | disconnected registered =>
    have kept := itself registered
    exact Caller.insert_kept found kept
  | kick => exact ⟨caller, found, rfl⟩
  | act => exact ⟨caller, found, rfl⟩
  | wait => exact ⟨caller, found, rfl⟩
  | dismiss => exact ⟨caller, found, rfl⟩
  | read => exact ⟨caller, found, rfl⟩
  | take => exact ⟨caller, found, rfl⟩
  | empty => exact ⟨caller, found, rfl⟩
  | request => exact ⟨caller, found, rfl⟩
  | resume => exact ⟨caller, found, rfl⟩
  | kickInside => exact ⟨caller, found, rfl⟩
  | finish => exact ⟨caller, found, rfl⟩
  | drop => exact ⟨caller, found, rfl⟩

/-- The queue is what was enqueued and not yet taken, and every message is the one
message of its call. -/
structure Flow (history : List (Action types service)) (system : System types service) : Prop where
  ordered : taken history <+: enqueued history
  queued : system.control ≠ .dropped → enqueued history = taken history ++ system.queue
  distinct : ((enqueued history).map FnMsg.call).Nodup
  formed : ∀ message ∈ enqueued history, message.Formed
  called : ∀ message ∈ enqueued history,
    ∃ caller, system.callers message.call = some caller ∧ caller.code = message.code

namespace Flow

variable {history : List (Action types service)} {system next : System types service}
  {action : Action types service}

/-- A call that is new has no message. -/
theorem fresh (flow : Flow history system) {call : CallId} (new : system.callers call = none) :
    ∀ message ∈ enqueued history, message.call ≠ call := by
  rintro message member rfl
  obtain ⟨caller, found, _⟩ := flow.called message member
  exact absurd (new.symm.trans found) nofun

/-- Enqueued messages keep their calls. -/
theorem called_step (flow : Flow history system) (stepped : Step system action next) :
    ∀ message ∈ enqueued history,
      ∃ caller, next.callers message.call = some caller ∧ caller.code = message.code := by
  intro message member
  obtain ⟨caller, found, code⟩ := flow.called message member
  obtain ⟨later, kept, same⟩ := stepped.code_kept found
  exact ⟨later, kept, same.trans code⟩

/-- A step that neither enqueues nor takes. -/
theorem quiet (flow : Flow history system) (stepped : Step system action next)
    (enqueues : action.enqueues = none) (takes : action.takes = none)
    (alive : next.control ≠ .dropped → system.control ≠ .dropped ∧ next.queue = system.queue) :
    Flow (history ++ [action]) next := by
  have sameEnqueued : enqueued (history ++ [action]) = enqueued history := by simp [enqueues]
  have sameTaken : taken (history ++ [action]) = taken history := by simp [takes]
  constructor
  · rw [sameEnqueued, sameTaken]
    exact flow.ordered
  · intro still
    obtain ⟨before, queue⟩ := alive still
    rw [sameEnqueued, sameTaken, queue]
    exact flow.queued before
  · rw [sameEnqueued]
    exact flow.distinct
  · rw [sameEnqueued]
    exact flow.formed
  · rw [sameEnqueued]
    exact flow.called_step stepped

/-- A step that enqueues the message of a new call. The message is the first of its call,
since a call with a message is in the table and this one is new. -/
theorem enqueue (flow : Flow history system) (stepped : Step system action next)
    {message : FnMsg types service} (enqueues : action.enqueues = some message)
    (takes : action.takes = none) (formed : message.Formed)
    (new : system.callers message.call = none) (alive : system.control ≠ .dropped)
    (queue : next.queue = system.queue ++ [message])
    (registered : ∃ caller, next.callers message.call = some caller ∧
      caller.code = message.code) :
    Flow (history ++ [action]) next := by
  have sameEnqueued : enqueued (history ++ [action]) = enqueued history ++ [message] := by
    simp [enqueues]
  have sameTaken : taken (history ++ [action]) = taken history := by simp [takes]
  constructor
  · rw [sameEnqueued, sameTaken]
    exact flow.ordered.trans (List.prefix_append _ _)
  · intro _
    rw [sameEnqueued, sameTaken, queue, flow.queued alive, List.append_assoc]
  · rw [sameEnqueued, List.map_append, List.map_singleton]
    refine List.nodup_append.mpr ⟨flow.distinct, List.nodup_singleton _, ?_⟩
    intro call old other last
    obtain ⟨earlier, member, rfl⟩ := List.mem_map.mp old
    rw [List.mem_singleton.mp last]
    exact flow.fresh new earlier member
  · rw [sameEnqueued]
    intro other member
    rcases List.mem_append.mp member with old | last
    · exact flow.formed other old
    · rw [List.mem_singleton.mp last]
      exact formed
  · rw [sameEnqueued]
    intro other member
    rcases List.mem_append.mp member with old | last
    · exact flow.called_step stepped other old
    · rw [List.mem_singleton.mp last]
      exact registered

/-- A `try_recv` takes what was enqueued first of what is left. -/
theorem take (flow : Flow history system) {message : FnMsg types service}
    {rest : List (FnMsg types service)} (stepped : Step system (.take message) next)
    (alive : system.control ≠ .dropped) (first : system.queue = message :: rest)
    (queue : next.queue = rest) : Flow (history ++ [.take message]) next := by
  have sameEnqueued : enqueued (history ++ [.take message]) = enqueued history := by
    simp [Action.enqueues]
  have sameTaken : taken (history ++ [.take message]) = taken history ++ [message] := by
    simp [Action.takes]
  have split : enqueued history = taken history ++ [message] ++ rest := by
    rw [flow.queued alive, first, List.append_assoc, List.singleton_append]
  constructor
  · rw [sameEnqueued, sameTaken, split]
    exact List.prefix_append _ _
  · intro _
    rw [sameEnqueued, sameTaken, queue, split]
  · rw [sameEnqueued]
    exact flow.distinct
  · rw [sameEnqueued]
    exact flow.formed
  · rw [sameEnqueued]
    exact flow.called_step stepped

/-- The account of the queue is kept by every step. By cases on the step: two enqueue, one
takes, a drop ends the promise about the queue, and the others touch neither list. -/
theorem step (flow : Flow history system) (stepped : Step system action next) :
    Flow (history ++ [action]) next := by
  have accepted (message : FnMsg types service) :
      ∃ caller, (system.accept message).callers message.call = some caller ∧
        caller.code = message.code :=
    ⟨⟨message.code, message.sender.isSome, .enqueued⟩, by simp [System.accept], rfl⟩
  cases stepped with
  | send formed new alive =>
    exact flow.enqueue (.send formed new alive) rfl rfl formed new alive rfl (accepted _)
  | @fire message call body task running new =>
    have alive : system.control ≠ .dropped := by simp [running]
    exact flow.enqueue (.fire running new) rfl rfl (.fire call body) new alive rfl (accepted _)
  | take draining first =>
    have alive : system.control ≠ .dropped := by simp [draining]
    exact flow.take (.take draining first) alive first rfl
  | reject formed new gone =>
    exact flow.quiet (.reject formed new gone) rfl rfl (fun alive => ⟨alive, rfl⟩)
  | write found phase =>
    exact flow.quiet (.write found phase) rfl rfl (fun alive => ⟨alive, rfl⟩)
  | receive found phase reply =>
    exact flow.quiet (.receive found phase reply) rfl rfl (fun alive => ⟨alive, rfl⟩)
  | disconnected found phase reply =>
    exact flow.quiet (.disconnected found phase reply) rfl rfl (fun alive => ⟨alive, rfl⟩)
  | kick => exact flow.quiet .kick rfl rfl (fun alive => ⟨alive, rfl⟩)
  | act idle acted => exact flow.quiet (.act idle acted) rfl rfl (fun alive => ⟨alive, rfl⟩)
  | wait idle ready =>
    exact flow.quiet (.wait idle ready) rfl rfl (fun _ => ⟨by simp [idle], rfl⟩)
  | dismiss idle =>
    exact flow.quiet (.dismiss idle) rfl rfl (fun _ => ⟨by simp [idle], rfl⟩)
  | read idle =>
    exact flow.quiet (.read idle) rfl rfl (fun _ => ⟨by simp [idle], rfl⟩)
  | empty draining none =>
    exact flow.quiet (.empty draining none) rfl rfl
      (fun _ => ⟨by simp [draining], rfl⟩)
  | request running served =>
    exact flow.quiet (.request running served) rfl rfl
      (fun _ => ⟨by simp [running], rfl⟩)
  | resume firing found phase =>
    exact flow.quiet (.resume firing found phase) rfl rfl
      (fun _ => ⟨by simp [firing], rfl⟩)
  | kickInside running =>
    exact flow.quiet (.kickInside running) rfl rfl
      (fun _ => ⟨by simp [running], rfl⟩)
  | finish running =>
    exact flow.quiet (.finish running) rfl rfl (fun _ => ⟨by simp [running], rfl⟩)
  | drop idle => exact flow.quiet (.drop idle) rfl rfl (fun alive => absurd rfl alive)

end Flow

/-- The message whose closure runs, if one does. -/
def Control.current : Control types service → List (FnMsg types service)
  | .running message _ => [message]
  | .firing message _ _ => [message]
  | _ => []

/-- What is left of the closure that runs is something its running comes to. -/
def Control.OnTrack : Control types service → Prop
  | .running message task => message.fnbox.Leads task
  | .firing message _ next => ∃ body, message.fnbox.Leads (.fire body next)
  | _ => True

/-- What a step does to the closure that runs. -/
inductive CurrentMove (system next : System types service) (action : Action types service) : Prop
  | same (takes : action.takes = none) (finishes : action.finishes = none)
      (current : next.control.current = system.control.current)
  | taken (message : FnMsg types service) (takes : action.takes = some message)
      (finishes : action.finishes = none) (before : system.control.current = [])
      (after : next.control.current = [message])
  | finished (execution : Execution types service) (takes : action.takes = none)
      (finishes : action.finishes = some execution)
      (before : system.control.current = [execution.message])
      (leads : system.control.OnTrack → execution.message.fnbox.Leads (.ret execution.value))
      (after : next.control.current = [])

/-- A closure comes to run by a take and leaves by its end; every other step leaves it
where it is. -/
theorem Step.current {system next : System types service} {action : Action types service}
    (stepped : Step system action next) : CurrentMove system next action := by
  cases stepped with
  | take draining => exact .taken _ rfl rfl (by rw [draining]; rfl) rfl
  | finish running =>
    refine .finished ⟨_, _⟩ rfl rfl (by rw [running]; rfl) ?_ rfl
    intro onTrack
    rwa [running] at onTrack
  | wait idle => exact .same rfl rfl (by rw [idle]; rfl)
  | dismiss idle => exact .same rfl rfl (by rw [idle]; rfl)
  | read idle => exact .same rfl rfl (by rw [idle]; rfl)
  | empty draining => exact .same rfl rfl (by rw [draining]; rfl)
  | request running => exact .same rfl rfl (by rw [running]; rfl)
  | fire running => exact .same rfl rfl (by rw [running]; rfl)
  | resume firing => exact .same rfl rfl (by rw [firing]; rfl)
  | kickInside running => exact .same rfl rfl (by rw [running]; rfl)
  | drop idle => exact .same rfl rfl (by rw [idle]; rfl)
  | send => exact .same rfl rfl rfl
  | reject => exact .same rfl rfl rfl
  | write => exact .same rfl rfl rfl
  | receive => exact .same rfl rfl rfl
  | disconnected => exact .same rfl rfl rfl
  | kick => exact .same rfl rfl rfl
  | act => exact .same rfl rfl rfl

/-- What is left of the running closure stays something its running comes to. A take
starts at the message's own closure, and answers, fires and kicks are the moves of
`Leads`. -/
theorem Step.onTrack {system next : System types service} {action : Action types service}
    (stepped : Step system action next) (onTrack : system.control.OnTrack) :
    next.control.OnTrack := by
  cases stepped with
  | take => exact .here
  | request running =>
    rw [running] at onTrack
    exact onTrack.answered _
  | fire running =>
    rw [running] at onTrack
    exact ⟨_, onTrack⟩
  | resume firing =>
    rw [firing] at onTrack
    obtain ⟨body, leads⟩ := onTrack
    exact leads.fired _
  | kickInside running =>
    rw [running] at onTrack
    exact onTrack.kicked _
  | finish => trivial
  | wait => trivial
  | dismiss => trivial
  | read => trivial
  | empty => trivial
  | drop => trivial
  | send => exact onTrack
  | reject => exact onTrack
  | write => exact onTrack
  | receive => exact onTrack
  | disconnected => exact onTrack
  | kick => exact onTrack
  | act => exact onTrack

/-- Taken messages ran to their end, but for the one that may be running. -/
structure Account (history : List (Action types service)) (system : System types service) :
    Prop where
  started : taken history = (executed history).map Execution.message ++ system.control.current
  onTrack : system.control.OnTrack
  values : ∀ execution ∈ executed history, execution.message.fnbox.Leads (.ret execution.value)

namespace Account

variable {history : List (Action types service)} {system next : System types service}
  {action : Action types service}

/-- The account of the closures is kept by every step. -/
theorem step (account : Account history system) (stepped : Step system action next) :
    Account (history ++ [action]) next := by
  have started := account.started
  have onTrack := stepped.onTrack account.onTrack
  cases stepped.current with
  | same takes finishes current =>
    refine ⟨?_, onTrack, ?_⟩
    · simpa [takes, finishes, current] using started
    · simpa [finishes] using account.values
  | taken message takes finishes before after =>
    rw [before, List.append_nil] at started
    refine ⟨?_, onTrack, ?_⟩
    · simp [takes, finishes, after, started]
    · simpa [finishes] using account.values
  | finished execution takes finishes before leads after =>
    rw [before] at started
    refine ⟨?_, onTrack, ?_⟩
    · simp [takes, finishes, after, started]
    · intro other member
      rw [executed_snoc, finishes] at member
      rcases List.mem_append.mp member with old | last
      · exact account.values other old
      · rw [List.mem_singleton.mp last]
        exact leads account.onTrack

/-- Closures that returned had their messages taken. -/
theorem executed_taken (account : Account history system) {execution : Execution types service}
    (member : execution ∈ executed history) : execution.message ∈ taken history := by
  rw [account.started]
  exact List.mem_append_left _ (List.mem_map_of_mem member)

end Account

/-- Where what is found in a channel comes from. -/
inductive ReplyMove (system : System types service) (action : Action types service)
    (call : CallId) : Reply types → Prop
  | stayed {reply : Reply types} (found : system.replies call = reply) :
      ReplyMove system action call reply
  | absent : ReplyMove system action call .absent
  | empty : ReplyMove system action call .empty
  | sent {message : FnMsg types service} {value : types.Val message.code}
      (finished : action = .finish message value) (sender : message.sender = some call) :
      ReplyMove system action call (.full ⟨message.code, value⟩)
  | closed {message : FnMsg types service} (dropped : action = .drop)
      (lost : message ∈ system.queue) (sender : message.sender = some call) :
      ReplyMove system action call .closed

/-- Only the written channel needs a reason. -/
theorem ReplyMove.update {system : System types service} {action : Action types service}
    {call written : CallId} {reply : Reply types}
    (reason : written = call → ReplyMove system action call reply) :
    ReplyMove system action call (Function.update system.replies written reply call) := by
  by_cases here : call = written
  · rw [here, Function.update_self]
    exact here ▸ reason here.symm
  · rw [Function.update_of_ne here]
    exact .stayed rfl

/-- Enqueuing opens the message's channel. -/
theorem System.accept_reply (system : System types service) (message : FnMsg types service)
    (action : Action types service) (call : CallId) :
    ReplyMove system action call ((system.accept message).replies call) := by
  unfold accept
  cases message.sender with
  | none => exact .stayed rfl
  | some own => exact ReplyMove.update (fun _ => .empty)

/-- Everything a step can do to a call's channel. It is opened with its message, filled by
the end of its closure, emptied by a receive, and closed by a drop that finds the message
queued. -/
theorem Step.reply {system next : System types service} {action : Action types service}
    (stepped : Step system action next) (call : CallId) :
    ReplyMove system action call (next.replies call) := by
  cases stepped with
  | send => exact System.accept_reply system _ _ call
  | @fire _ own body => exact System.accept_reply system (FnMsg.fire own body) _ call
  | write =>
    simp only [System.write]
    cases system.eventFd.write.1 with
    | ok => exact .stayed rfl
    | error => exact ReplyMove.update (fun _ => .absent)
  | receive => exact ReplyMove.update (fun _ => .absent)
  | disconnected => exact ReplyMove.update (fun _ => .absent)
  | @finish message value =>
    simp only [System.finish]
    cases sender : message.sender with
    | none => exact .stayed rfl
    | some own =>
      refine ReplyMove.update ?_
      rintro rfl
      cases found : system.replies own with
      | empty => exact .sent rfl sender
      | absent => exact .stayed found
      | full => exact .stayed found
      | closed => exact .stayed found
  | drop =>
    simp only [System.drop]
    split
    · rename_i queued
      obtain ⟨message, lost, sender⟩ := List.mem_map.mp queued
      cases found : system.replies call with
      | empty => exact .closed rfl lost sender
      | absent => exact .stayed found
      | full => exact .stayed found
      | closed => exact .stayed found
    · exact .stayed rfl
  | reject => exact .stayed rfl
  | kick => exact .stayed rfl
  | act => exact .stayed rfl
  | wait => exact .stayed rfl
  | dismiss => exact .stayed rfl
  | read => exact .stayed rfl
  | take => exact .stayed rfl
  | empty => exact .stayed rfl
  | request => exact .stayed rfl
  | resume => exact .stayed rfl
  | kickInside => exact .stayed rfl

/-- A result for the call was computed by a closure of its own. -/
def Computed (history : List (Action types service)) (call : CallId)
    (erased : ErasedResult types) : Prop :=
  ∃ execution ∈ executed history, execution.message.sender = some call ∧
    execution.erased = erased

/-- A computed result stays computed. -/
theorem Computed.later {history : List (Action types service)} {call : CallId}
    {erased : ErasedResult types} (computed : Computed history call erased)
    (action : Action types service) : Computed (history ++ [action]) call erased := by
  obtain ⟨execution, member, own⟩ := computed
  refine ⟨execution, ?_, own⟩
  rw [executed_snoc]
  exact List.mem_append_left _ member

/-- The manager is gone and never took a message of the call. -/
def Lost (history : List (Action types service)) (system : System types service)
    (call : CallId) : Prop :=
  system.control = .dropped ∧ ∀ message ∈ taken history, message.call ≠ call

/-- A message that is lost with the manager stays lost, for a dropped manager takes
nothing. -/
theorem Lost.later {history : List (Action types service)} {system next : System types service}
    {action : Action types service} {call : CallId} (lost : Lost history system call)
    (stepped : Step system action next) : Lost (history ++ [action]) next call := by
  obtain ⟨gone, untaken⟩ := lost
  obtain ⟨after, _, takes⟩ := stepped.dropped gone
  refine ⟨after, ?_⟩
  rw [taken_snoc, takes]
  simpa using untaken

/-- What a call's channel holds is its own result, and a channel closes only on
calls whose message was lost. -/
def Sent (history : List (Action types service)) (system : System types service)
    (call : CallId) : Reply types → Prop
  | .full erased => Computed history call erased
  | .closed => Lost history system call
  | _ => True

/-- A returned call returned its own closure's value, or failed for a reason. -/
def Settled (history : List (Action types service)) (system : System types service)
    (call : CallId) {code : types.Code} : CallOutcome types code → Prop
  | .value value => Computed history call ⟨code, value⟩
  | .failed .channelSend => Lost history system call
  | .failed .channelRecv => Lost history system call
  | .unwrapNone => False
  | _ => True

/-- What a returned call can say stays true. -/
theorem Settled.later {history : List (Action types service)} {system next : System types service}
    {action : Action types service} {call : CallId} {code : types.Code}
    {outcome : CallOutcome types code}
    (settled : Settled history system call outcome) (stepped : Step system action next) :
    Settled (history ++ [action]) next call outcome := by
  cases outcome with
  | fired => trivial
  | value value => exact Computed.later settled action
  | unwrapNone => exact settled
  | failed error =>
    cases error with
    | channelSend => exact Lost.later settled stepped
    | channelRecv => exact Lost.later settled stepped
    | eventFd => trivial
    | epoll => trivial
    | fdAlreadyRegistered => trivial
    | invalidId => trivial
    | invalidCapacity => trivial

/-- Whatever can be said of every run. -/
structure Ledger (history : List (Action types service)) (system : System types service) :
    Prop where
  flow : Flow history system
  account : Account history system
  sent : ∀ call, Sent history system call (system.replies call)
  settled : ∀ call caller outcome, system.callers call = some caller →
    caller.phase = .returned outcome → Settled history system call outcome

/-- A message that wants a result wants it for its own call. -/
theorem FnMsg.Formed.own {message : FnMsg types service} {call : CallId} (formed : message.Formed)
    (sender : message.sender = some call) : message.call = call := by
  cases formed with
  | fire => exact absurd sender nofun
  | callBlocking own body => exact Option.some.inj sender

/-- The message of a call that is still queued is not also a taken one. -/
theorem Flow.untaken {history : List (Action types service)} {system : System types service}
    (flow : Flow history system) (alive : system.control ≠ .dropped)
    {message : FnMsg types service} (queued : message ∈ system.queue) :
    ∀ other ∈ taken history, other.call ≠ message.call := by
  have distinct := flow.distinct
  rw [flow.queued alive, List.map_append] at distinct
  intro other member
  exact (List.nodup_append.mp distinct).2.2 _ (List.mem_map_of_mem member) _
    (List.mem_map_of_mem queued)

/-- A result of the right type is recovered. -/
theorem Caller.received_value {caller : Caller types} {erased : ErasedResult types}
    (same : erased.code = caller.code) :
    ∃ value, caller.received erased = .value value ∧
      (⟨caller.code, value⟩ : ErasedResult types) = erased := by
  obtain ⟨code, value⟩ := erased
  dsimp only at same
  subst same
  refine ⟨value, ?_, rfl⟩
  rw [Caller.received, ErasedResult.downcast_self]

section Results

variable {history : List (Action types service)} {system next : System types service}
  {action : Action types service} {call : CallId}

/-- A result in a call's channel is of the type the call expects, for it was computed by
the closure of the call's one message. -/
theorem Flow.code_matches (flow : Flow history system)
    (ran : ∀ {execution}, execution ∈ executed history → execution.message ∈ taken history)
    {caller : Caller types} {erased : ErasedResult types}
    (found : system.callers call = some caller) (computed : Computed history call erased) :
    erased.code = caller.code := by
  obtain ⟨execution, member, sender, rfl⟩ := computed
  have listed : execution.message ∈ enqueued history := flow.ordered.subset (ran member)
  obtain rfl : execution.message.call = call := (flow.formed _ listed).own sender
  obtain ⟨other, same, code⟩ := flow.called _ listed
  obtain rfl : caller = other := Option.some.inj (found.symm.trans same)
  exact code.symm

/-- A result that reached a call is that of the one closure the call sent. -/
theorem Flow.result (flow : Flow history system)
    (ran : ∀ {execution}, execution ∈ executed history → execution.message ∈ taken history)
    (values : ∀ execution ∈ executed history,
      execution.message.fnbox.Leads (.ret execution.value))
    (distinct : ((executed history).map (fun execution => execution.message.call)).Nodup)
    {code : types.Code} {value : types.Val code} (computed : Computed history call ⟨code, value⟩) :
    ∃ body : Task types service code, FnMsg.callBlocking call body ∈ enqueued history ∧
      body.Leads (.ret value) ∧
      (executed history).filter (fun execution => execution.message.call = call) =
        [⟨FnMsg.callBlocking call body, value⟩] := by
  obtain ⟨⟨message, returned⟩, member, sender, same⟩ := computed
  have listed : message ∈ enqueued history := flow.ordered.subset (ran member)
  have leads : message.fnbox.Leads (.ret returned) := values _ member
  cases flow.formed message listed with
  | fire => exact absurd sender nofun
  | callBlocking own body =>
    obtain rfl : own = call := Option.some.inj sender
    cases same
    exact ⟨body, listed, leads, PartialMap.filter_key_singleton distinct member⟩

/-- How a call that has returned came to its outcome: it had it already, or it got it in
the step, from a manager that is gone, from the eventfd, or from its channel. -/
inductive ReturnMove (history : List (Action types service)) (system : System types service)
    (call : CallId) (caller : Caller types) : CallOutcome types caller.code → Prop
  | stayed {outcome : CallOutcome types caller.code} (found : system.callers call = some caller)
      (returned : caller.phase = .returned outcome) : ReturnMove history system call caller outcome
  | refused (lost : Lost history system call) :
      ReturnMove history system call caller (.failed .channelSend)
  | unannounced (errno : Errno) : ReturnMove history system call caller (.failed (.eventFd errno))
  | fired : ReturnMove history system call caller .fired
  | answered (value : types.Val caller.code)
      (reply : system.replies call = .full ⟨caller.code, value⟩) :
      ReturnMove history system call caller (.value value)
  | closed (reply : system.replies call = .closed) :
      ReturnMove history system call caller (.failed .channelRecv)

/-- Everything a step can do to make a call return. The downcast of a result succeeds, for
what is in a channel was computed by a closure of its own call. -/
theorem Flow.returned (flow : Flow history system) (stepped : Step system action next)
    (ran : ∀ {execution}, execution ∈ executed history → execution.message ∈ taken history)
    (computed : ∀ call erased, system.replies call = .full erased → Computed history call erased)
    {caller : Caller types} {outcome : CallOutcome types caller.code}
    (found : next.callers call = some caller) (phase : caller.phase = .returned outcome) :
    ReturnMove history system call caller outcome := by
  cases stepped.caller found with
  | stayed before => exact .stayed before phase
  | enqueued => exact absurd phase nofun
  | refused code blocking new gone =>
    obtain rfl := CallPhase.returned.inj phase
    exact .refused
      ⟨gone, fun message member => flow.fresh new message (flow.ordered.subset member)⟩
  | written before result =>
    cases result with
    | error errno =>
      obtain rfl := CallPhase.returned.inj phase
      exact .unannounced errno
    | ok =>
      cases blocking : before.blocking with
      | true => simp [Caller.written, blocking] at phase
      | false =>
        simp only [Caller.written, blocking] at phase
        obtain rfl := CallPhase.returned.inj phase
        exact .fired
  | @received before erased registered reply =>
    obtain rfl := CallPhase.returned.inj phase
    obtain ⟨value, recovered, same⟩ :=
      Caller.received_value (flow.code_matches ran registered (computed call erased reply))
    have held : system.replies call = .full ⟨before.code, value⟩ := by rw [same, reply]
    rw [recovered]
    exact @ReturnMove.answered _ _ history system call
      ⟨before.code, before.blocking, .returned (.value value)⟩ value held
  | disconnected before reply =>
    obtain rfl := CallPhase.returned.inj phase
    exact .closed reply

end Results

namespace Ledger

variable {history : List (Action types service)} {system next : System types service}
  {action : Action types service}

/-- Nothing has happened yet. -/
theorem initial (manager : service.State) :
    Ledger [] (System.initial manager : System types service) where
  flow := ⟨List.prefix_rfl, fun _ => rfl, List.nodup_nil, nofun, nofun⟩
  account := ⟨rfl, trivial, nofun⟩
  sent _ := trivial
  settled _ _ _ found := absurd found nofun

/-- Channels hold what they should after a step. What fills a channel is an execution in
the history, and what a drop closes was queued and so not taken. -/
theorem sent_step (ledger : Ledger history system) (stepped : Step system action next)
    (call : CallId) : Sent (history ++ [action]) next call (next.replies call) := by
  have move := stepped.reply call
  generalize next.replies call = reply at move
  cases move with
  | stayed found =>
    have before := ledger.sent call
    rw [found] at before
    cases reply with
    | full erased => exact Computed.later before action
    | closed => exact Lost.later before stepped
    | absent => trivial
    | empty => trivial
  | absent => trivial
  | empty => trivial
  | @sent message value finished sender =>
    subst finished
    refine ⟨⟨message, value⟩, ?_, sender, rfl⟩
    rw [executed_snoc]
    exact List.mem_append_right _ (List.mem_singleton_self _)
  | @closed message dropped queued sender =>
    subst dropped
    cases stepped with
    | drop idle =>
      have alive : system.control ≠ .dropped := by simp [idle]
      have listed : message ∈ enqueued history := by
        rw [ledger.flow.queued alive]
        exact List.mem_append_right _ queued
      obtain rfl : message.call = call := (ledger.flow.formed message listed).own sender
      refine ⟨rfl, ?_⟩
      simpa [Action.takes] using ledger.flow.untaken alive queued

/-- Returned calls returned what they should after a step. -/
theorem settled_step (ledger : Ledger history system) (stepped : Step system action next)
    {call : CallId} {caller : Caller types} {outcome : CallOutcome types caller.code}
    (found : next.callers call = some caller) (phase : caller.phase = .returned outcome) :
    Settled (history ++ [action]) next call outcome := by
  have computed : ∀ call erased, system.replies call = .full erased →
      Computed history call erased := by
    intro call erased reply
    have held := ledger.sent call
    rwa [reply] at held
  cases ledger.flow.returned stepped ledger.account.executed_taken computed found phase with
  | stayed before returned =>
    exact Settled.later (ledger.settled call caller outcome before returned) stepped
  | refused lost => exact lost.later stepped
  | unannounced errno => trivial
  | fired => trivial
  | answered value reply => exact (computed call _ reply).later action
  | closed reply =>
    have lost : Lost history system call := by
      have held := ledger.sent call
      rwa [reply] at held
    exact lost.later stepped

/-- The ledger is kept by every step. -/
theorem step (ledger : Ledger history system) (stepped : Step system action next) :
    Ledger (history ++ [action]) next where
  flow := ledger.flow.step stepped
  account := ledger.account.step stepped
  sent := ledger.sent_step stepped
  settled _ _ _ found phase := ledger.settled_step stepped found phase

/-- The ledger of every run. -/
theorem of_run {manager : service.State} (run : Run Step (System.initial manager) history system) :
    Ledger history system :=
  run.invariant Ledger (initial manager) (fun _ _ _ _ ledger stepped => ledger.step stepped)

end Ledger

/-- No closure of the call has run, and none will, however the run goes on. -/
def NeverRuns (history : List (Action types service)) (system : System types service)
    (call : CallId) : Prop :=
  ∀ later final, Run Step system later final →
    ∀ message ∈ taken (history ++ later), message.call ≠ call

/-- A closure that was lost with the manager never runs: after the drop nothing is taken. -/
theorem Lost.neverRuns {history : List (Action types service)} {system : System types service}
    {call : CallId} (lost : Lost history system call) : NeverRuns history system call := by
  intro later final run message member
  have none : taken later = [] := taken_dropped lost.1 run
  have split : taken (history ++ later) = taken history := by
    rw [taken, List.filterMap_append, ← taken, ← taken, none, List.append_nil]
  rw [split] at member
  exact lost.2 message member

/-- Remote execution as callers may rely on it. -/
structure ExactlyOnce (history : List (Action types service)) (system : System types service) :
    Prop where
  /-- Closures start in the order their messages were enqueued, none left out. -/
  started : taken history <+: enqueued history
  /-- So do they end. -/
  completed : (executed history).map Execution.message <+: enqueued history
  /-- Every call enqueues at most one message. -/
  single : ((enqueued history).map FnMsg.call).Nodup
  /-- No closure is run twice. -/
  once : ((taken history).map FnMsg.call).Nodup
  /-- A call that returned a result blocked for it, sent the closure that computed
  it, and had that closure run exactly once. -/
  result : ∀ call code blocking value,
    system.callers call = some ⟨code, blocking, .returned (.value value)⟩ →
      ∃ body : Task types service code, FnMsg.callBlocking call body ∈ enqueued history ∧
        body.Leads (.ret value) ∧
        (executed history).filter (fun execution => execution.message.call = call) =
          [⟨FnMsg.callBlocking call body, value⟩]
  /-- The downcast of a result never fails. -/
  downcast : ∀ call code blocking,
    system.callers call ≠ some ⟨code, blocking, .returned .unwrapNone⟩
  /-- A call that could not send never has its closure run. -/
  unsent : ∀ call code blocking,
    system.callers call = some ⟨code, blocking, .returned (.failed .channelSend)⟩ →
      NeverRuns history system call
  /-- Nor has one whose channel was closed. -/
  unreceived : ∀ call code blocking,
    system.callers call = some ⟨code, blocking, .returned (.failed .channelRecv)⟩ →
      NeverRuns history system call

namespace Ledger

variable {history : List (Action types service)} {system : System types service}

/-- Closures return in the order their messages were enqueued. -/
theorem completed (ledger : Ledger history system) :
    (executed history).map Execution.message <+: enqueued history := by
  refine List.IsPrefix.trans ?_ ledger.flow.ordered
  rw [ledger.account.started]
  exact List.prefix_append _ _

/-- No two closures that returned are of one call. -/
theorem executed_distinct (ledger : Ledger history system) :
    ((executed history).map (fun execution => execution.message.call)).Nodup := by
  have whole := ledger.completed.map FnMsg.call
  rw [List.map_map] at whole
  exact ledger.flow.distinct.sublist whole.sublist

end Ledger

/-- Whatever the callers do, however their steps fall between the manager's and
whenever the manager is dropped, remote closures run once and in order, and calls
return their own results.

Proof: the queue is what was enqueued and not taken, closures that returned are messages
taken, and both accounts are kept by every step. Results come from the one closure of
their call, and a channel is closed only on a message that will not be taken. -/
theorem System.exactly_once {manager : service.State} {history : List (Action types service)}
    {system : System types service} (run : Run Step (System.initial manager) history system) :
    ExactlyOnce history system := by
  have ledger := Ledger.of_run run
  refine ⟨ledger.flow.ordered, ledger.completed, ledger.flow.distinct, ?_, ?_, ?_, ?_, ?_⟩
  · exact ledger.flow.distinct.sublist (ledger.flow.ordered.map FnMsg.call).sublist
  · intro call code blocking value found
    exact ledger.flow.result ledger.account.executed_taken ledger.account.values
      ledger.executed_distinct (ledger.settled call _ _ found rfl)
  · intro call code blocking found
    exact ledger.settled call _ _ found rfl
  · intro call code blocking found
    have lost : Lost history system call := ledger.settled call _ _ found rfl
    exact lost.neverRuns
  · intro call code blocking found
    have lost : Lost history system call := ledger.settled call _ _ found rfl
    exact lost.neverRuns

/-- One closure registers a subscriber and returns its id, another returns a number;
the results are received in the other order. A third message is lost with the
manager, and a fourth is refused. -/
theorem System.exactly_once_shutdown :
    ∃ (history : List (Action RemoteResult.types EventManager.scripted))
      (system : System RemoteResult.types EventManager.scripted),
      Run Step System.fresh history system ∧
        system.callers 0 = some ⟨.id, true, .returned (.value (⟨1⟩ : SubscriberId))⟩ ∧
        system.callers 1 = some ⟨.number, true, .returned (.value (7 : Nat))⟩ ∧
        system.callers 2 = some ⟨.number, true, .returned (.failed .channelRecv)⟩ ∧
        system.callers 3 = some ⟨.nothing, false, .returned (.failed .channelSend)⟩ ∧
        ExactlyOnce history system := by
  let register : Task RemoteResult.types EventManager.scripted RemoteResult.id :=
    .request (.addSubscriber ⟨[]⟩) (fun id => .ret id)
  let seven : Task RemoteResult.types EventManager.scripted RemoteResult.number :=
    .ret (7 : Nat)
  have begun : Run Step System.fresh [] System.fresh := Run.nil
  have sent := ((begun.snoc (.send (.callBlocking 0 register) rfl nofun)).snoc
    (.send (.callBlocking 1 seven) rfl nofun)).snoc (@Step.write _ _ _ 0 _ rfl rfl)
  have drained := (((sent.snoc (@Step.write _ _ _ 1 _ rfl rfl)).snoc
    (.wait rfl (by decide))).snoc (.read rfl)).snoc (.take rfl rfl)
  have ran := (((drained.snoc (.request rfl rfl)).snoc (.finish rfl)).snoc
    (.take rfl rfl)).snoc (.finish rfl)
  have answered := ((ran.snoc (@Step.receive _ _ _ 1 _ _ rfl rfl rfl)).snoc
    (@Step.receive _ _ _ 0 _ _ rfl rfl rfl)).snoc (.empty rfl rfl)
  have lost := (((answered.snoc (.send (.callBlocking 2 seven) rfl nofun)).snoc
    (@Step.write _ _ _ 2 _ rfl rfl)).snoc (.drop rfl)).snoc
    (@Step.disconnected _ _ _ 2 _ rfl rfl rfl)
  have refused := lost.snoc (.reject (.fire 3 (.ret ())) rfl rfl)
  exact ⟨_, _, refused, rfl, rfl, rfl, rfl, System.exactly_once refused⟩

end EventLoop
