import EventLoop.Runs
import EventLoop.Library.Transition

/-!
# The remote endpoint

Threads that hold an endpoint send closures to the manager through a queue and
ring an eventfd; the manager, woken by the eventfd, clears it, drains the queue
and sends results back through a channel of the call's own. Here every atomic
step of that exchange is a step of its own, so that runs are all interleavings
of any number of callers with the manager.

What the manager's own interface does is a parameter, and so are the types that
closures return. A result travels erased, as a value with its type beside it,
and is recovered by a comparison of types. The last section supplies the event
manager of this library for the parameter.

Callers are not tied to threads: a callback of a subscriber that fires, or a
thread that calls again after a call has returned, is one more caller. A closure
that makes a blocking call never comes to its next step, as the source warns.
-/

namespace EventLoop

/-- The types closures return, by codes that can be compared. -/
structure ResultTypes where
  Code : Type
  decEq : DecidableEq Code
  Val : Code → Type
  /-- The code of `()`. -/
  unit : Code

/-- Codes of result types can be compared, which is what a downcast does. -/
instance (types : ResultTypes) : DecidableEq types.Code := types.decEq

/-- The results of some closures an endpoint may send. -/
inductive RemoteResult where
  | nothing
  | id
  | number
deriving DecidableEq

/-- The type each code stands for. -/
def RemoteResult.Val : RemoteResult → Type
  | .nothing => Unit
  | .id => SubscriberId
  | .number => Nat

/-- Closures that return nothing, an id or a number. -/
def RemoteResult.types : ResultTypes := ⟨RemoteResult, inferInstance, RemoteResult.Val, .nothing⟩

/-- A boxed value of a type that is known only at run time. -/
structure ErasedResult (types : ResultTypes) where
  code : types.Code
  value : types.Val code

/-- Recover the value if it is of the type. -/
def ErasedResult.downcast {types : ResultTypes} (code : types.Code)
    (erased : ErasedResult types) : Option (types.Val code) :=
  if same : erased.code = code then some (same ▸ erased.value) else none

/-- A result is recovered by a downcast to its own type. -/
theorem ErasedResult.downcast_self {types : ResultTypes} (code : types.Code)
    (value : types.Val code) : ErasedResult.downcast code ⟨code, value⟩ = some value := by
  simp [downcast]

/-- What closures may ask of the manager, and what else the manager does. -/
structure Service where
  State : Type
  Req : Type
  Res : Req → Type
  /-- The answer and the state after it; none where the manager panics. -/
  serve : (request : Req) → State → Option (Res request × State)
  /-- What the manager does between two drains of the queue. -/
  Acts : State → State → Prop

/-- A closure that returns a value of the given type. While it runs it may make
requests of the manager, fire further closures, and kick. -/
inductive Task (types : ResultTypes) (service : Service) : types.Code → Type
  | ret {code : types.Code} (value : types.Val code) : Task types service code
  | request {code : types.Code} (request : service.Req)
      (next : service.Res request → Task types service code) : Task types service code
  | fire {code : types.Code} (body : Task types service types.unit)
      (next : Except Error Unit → Task types service code) : Task types service code
  | kick {code : types.Code} (next : Except Error Unit → Task types service code) :
      Task types service code

/-- Running the first closure may come to what is left of it in the second. -/
inductive Task.Leads {types : ResultTypes} {service : Service} {code : types.Code}
    (task : Task types service code) : Task types service code → Prop
  | here : Task.Leads task task
  | answered {request : service.Req} {next : service.Res request → Task types service code}
      (before : Task.Leads task (.request request next)) (response : service.Res request) :
      Task.Leads task (next response)
  | fired {body : Task types service types.unit}
      {next : Except Error Unit → Task types service code}
      (before : Task.Leads task (.fire body next)) (result : Except Error Unit) :
      Task.Leads task (next result)
  | kicked {next : Except Error Unit → Task types service code}
      (before : Task.Leads task (.kick next)) (result : Except Error Unit) :
      Task.Leads task (next result)

/-- Identifies one call of an endpoint's `fire` or `call_blocking`. -/
abbrev CallId := Nat

/-- A message to the manager. The result is boxed when the closure returns. The
call that sent the message is recorded for reference; the manager does not look
at it. -/
structure FnMsg (types : ResultTypes) (service : Service) where
  call : CallId
  code : types.Code
  fnbox : Task types service code
  /-- The sending half of the call's own channel. -/
  sender : Option CallId

namespace FnMsg

variable {types : ResultTypes} {service : Service}

/-- The message of a `fire`. -/
def fire (call : CallId) (body : Task types service types.unit) : FnMsg types service :=
  ⟨call, types.unit, body, none⟩

/-- The message of a `call_blocking`. -/
def callBlocking (call : CallId) {code : types.Code} (body : Task types service code) :
    FnMsg types service :=
  ⟨call, code, body, some call⟩

/-- Endpoints send no other messages. -/
inductive Formed : FnMsg types service → Prop
  | fire (call : CallId) (body : Task types service types.unit) : Formed (FnMsg.fire call body)
  | callBlocking (call : CallId) {code : types.Code} (body : Task types service code) :
      Formed (FnMsg.callBlocking call body)

end FnMsg

/-- A nonblocking eventfd: a counter that a write increases, up to a largest value. -/
structure EventFd where
  counter : Nat
  bounded : counter ≤ 2 ^ 64 - 2

namespace EventFd

/-- A new eventfd counts nothing. -/
def new : EventFd := ⟨0, by decide⟩

/-- Add one, or fail on a full counter. -/
def write (eventFd : EventFd) : Except Errno Unit × EventFd :=
  if room : eventFd.counter < 2 ^ 64 - 2 then (.ok (), ⟨eventFd.counter + 1, room⟩)
  else (.error .EAGAIN, eventFd)

/-- Reset the counter. Reading an empty counter fails and leaves it empty. -/
def read (_eventFd : EventFd) : EventFd := new

/-- A write below the limit succeeds and adds one. -/
theorem write_room {eventFd : EventFd} (room : eventFd.counter < 2 ^ 64 - 2) :
    eventFd.write = (.ok (), ⟨eventFd.counter + 1, room⟩) :=
  dif_pos room

/-- After a write the counter is not empty, whether or not the write failed. -/
theorem write_counter (eventFd : EventFd) : 0 < eventFd.write.2.counter := by
  unfold write
  split
  · exact Nat.succ_pos _
  · rename_i full
    change 0 < eventFd.counter
    omega

end EventFd

/-- How a call ended. -/
inductive CallOutcome (types : ResultTypes) (code : types.Code) where
  /-- `fire` returned. -/
  | fired
  /-- `call_blocking` returned the closure's result. -/
  | value (value : types.Val code)
  | failed (error : Error)
  /-- The downcast failed and `unwrap` panicked. -/
  | unwrapNone

/-- Where a call stands. -/
inductive CallPhase (types : ResultTypes) (code : types.Code) where
  /-- The message is enqueued and the eventfd not yet written. -/
  | enqueued
  /-- Blocked on the result. -/
  | waiting
  | returned (outcome : CallOutcome types code)

/-- A call: the type it expects back, whether it blocks for it, and its phase. -/
structure Caller (types : ResultTypes) where
  code : types.Code
  blocking : Bool
  phase : CallPhase types code

/-- The channel a result comes back through. -/
inductive Reply (types : ResultTypes) where
  /-- There is no channel, or nobody receives from it any more. -/
  | absent
  | empty
  | full (erased : ErasedResult types)
  /-- The sending half was dropped with nothing sent. -/
  | closed

/-- Where the manager stands with respect to the queue. -/
inductive Control (types : ResultTypes) (service : Service) where
  /-- Not concerned with the endpoint. -/
  | outside
  /-- A wait reported the endpoint's descriptor. -/
  | notified
  /-- The eventfd is read; the next thing is a `try_recv`. -/
  | draining
  /-- A message's closure runs; the task is what is left of it. -/
  | running (message : FnMsg types service) (task : Task types service message.code)
  /-- The closure that runs is inside a `fire` of its own. -/
  | firing (message : FnMsg types service) (call : CallId)
      (next : Except Error Unit → Task types service message.code)
  | dropped

/-- Between the read of the eventfd and the `try_recv` that reports `Empty`. -/
def Control.InDrain {types : ResultTypes} {service : Service} : Control types service → Prop
  | .draining => True
  | .running _ _ => True
  | .firing _ _ _ => True
  | _ => False

/-- The manager, the queue, the eventfd, the calls and their channels. -/
structure System (types : ResultTypes) (service : Service) where
  manager : service.State
  queue : List (FnMsg types service)
  eventFd : EventFd
  control : Control types service
  callers : CallId → Option (Caller types)
  replies : CallId → Reply types

/-- The atomic steps. -/
inductive Action (types : ResultTypes) (service : Service) where
  /-- An endpoint enqueues a message. -/
  | send (message : FnMsg types service)
  /-- An endpoint finds the manager gone. -/
  | reject (message : FnMsg types service)
  /-- A call writes the eventfd. -/
  | write (call : CallId)
  /-- A blocked call receives, or learns that nothing will come. -/
  | receive (call : CallId)
  | kick
  /-- The manager does something else. -/
  | act
  /-- A wait reports the endpoint's descriptor. -/
  | wait
  /-- The report is discarded before the manager comes to it. -/
  | dismiss
  /-- The manager reads the eventfd. -/
  | read
  /-- A `try_recv` returns a message. -/
  | take (message : FnMsg types service)
  /-- A `try_recv` reports `Empty`. -/
  | empty
  /-- The running closure makes a request. -/
  | request
  /-- The running closure fires, and its message is enqueued. -/
  | fire (message : FnMsg types service)
  /-- The running closure's `fire` returns. -/
  | resume
  /-- The running closure kicks. -/
  | kickInside
  /-- The running closure returns. -/
  | finish (message : FnMsg types service) (value : types.Val message.code)
  /-- The manager is dropped. -/
  | drop

/-- What a call's write of the eventfd means for the call. -/
def Caller.written {types : ResultTypes} (caller : Caller types) :
    Except Errno Unit → CallPhase types caller.code
  | .ok _ => if caller.blocking then .waiting else .returned .fired
  | .error errno => .returned (.failed (.eventFd errno))

/-- What a call makes of the result that came back. -/
def Caller.received {types : ResultTypes} (caller : Caller types) (erased : ErasedResult types) :
    CallOutcome types caller.code :=
  match ErasedResult.downcast caller.code erased with
  | some value => .value value
  | none => .unwrapNone

/-- What the caller of a `fire` is told. -/
def CallOutcome.toResult {types : ResultTypes} {code : types.Code} :
    CallOutcome types code → Except Error Unit
  | .failed error => .error error
  | _ => .ok ()

/-- Send a result. Nothing happens if nobody can receive it. -/
def Reply.send {types : ResultTypes} (erased : ErasedResult types) : Reply types → Reply types
  | .empty => .full erased
  | reply => reply

/-- Drop the sending half. -/
def Reply.close {types : ResultTypes} : Reply types → Reply types
  | .empty => .closed
  | reply => reply

namespace System

variable {types : ResultTypes} {service : Service}

/-- A manager whose endpoint has not been used. -/
def initial (manager : service.State) : System types service where
  manager := manager
  queue := []
  eventFd := .new
  control := .outside
  callers := PartialMap.empty
  replies := fun _ => .absent

/-- Put a call into a phase. -/
def settle (system : System types service) (call : CallId) (caller : Caller types)
    (phase : CallPhase types caller.code) : System types service :=
  { system with callers := PartialMap.insert system.callers call { caller with phase := phase } }

/-- Enqueue a message. The sending half of its call's channel goes with it. -/
def accept (system : System types service) (message : FnMsg types service) :
    System types service :=
  { system with
    queue := system.queue ++ [message]
    callers := PartialMap.insert system.callers message.call
      ⟨message.code, message.sender.isSome, .enqueued⟩
    replies := match message.sender with
      | some call => Function.update system.replies call .empty
      | none => system.replies }

/-- Refuse a message because the receiving half of the queue is gone. -/
def refuse (system : System types service) (message : FnMsg types service) :
    System types service :=
  { system with
    callers := PartialMap.insert system.callers message.call
      ⟨message.code, message.sender.isSome, .returned (.failed .channelSend)⟩ }

/-- Write the eventfd for a call. A failure drops the receiving half of the
call's channel; the message stays enqueued. -/
def write (system : System types service) (call : CallId) (caller : Caller types) :
    System types service :=
  { system.settle call caller (caller.written system.eventFd.write.1) with
    eventFd := system.eventFd.write.2
    replies := match system.eventFd.write.1 with
      | .ok _ => system.replies
      | .error _ => Function.update system.replies call .absent }

/-- End a call that waited for its result. -/
def receive (system : System types service) (call : CallId) (caller : Caller types)
    (outcome : CallOutcome types caller.code) : System types service :=
  { system.settle call caller (.returned outcome) with
    replies := Function.update system.replies call .absent }

/-- Box the closure's value and send it to the call, if the call wants it. -/
def finish (system : System types service) (message : FnMsg types service)
    (value : types.Val message.code) : System types service :=
  { system with
    control := .draining
    replies := match message.sender with
      | some call => Function.update system.replies call
          ((system.replies call).send ⟨message.code, value⟩)
      | none => system.replies }

/-- Drop the manager, the receiving half of the queue, and the messages in it. -/
def drop (system : System types service) : System types service :=
  { system with
    queue := []
    control := .dropped
    replies := fun call =>
      if some call ∈ system.queue.map FnMsg.sender then (system.replies call).close
      else system.replies call }

end System

/-- One atomic step of a caller or of the manager. -/
inductive Step {types : ResultTypes} {service : Service} :
    System types service → Action types service → System types service → Prop
  | send {system : System types service} {message : FnMsg types service}
      (formed : message.Formed) (fresh : system.callers message.call = none)
      (alive : system.control ≠ .dropped) :
      Step system (.send message) (system.accept message)
  | reject {system : System types service} {message : FnMsg types service}
      (formed : message.Formed) (fresh : system.callers message.call = none)
      (gone : system.control = .dropped) :
      Step system (.reject message) (system.refuse message)
  | write {system : System types service} {call : CallId} {caller : Caller types}
      (found : system.callers call = some caller) (phase : caller.phase = .enqueued) :
      Step system (.write call) (system.write call caller)
  | receive {system : System types service} {call : CallId} {caller : Caller types}
      {erased : ErasedResult types} (found : system.callers call = some caller)
      (phase : caller.phase = .waiting) (reply : system.replies call = .full erased) :
      Step system (.receive call) (system.receive call caller (caller.received erased))
  | disconnected {system : System types service} {call : CallId} {caller : Caller types}
      (found : system.callers call = some caller) (phase : caller.phase = .waiting)
      (reply : system.replies call = .closed) :
      Step system (.receive call) (system.receive call caller (.failed .channelRecv))
  | kick {system : System types service} :
      Step system .kick { system with eventFd := system.eventFd.write.2 }
  | act {system : System types service} {manager : service.State}
      (idle : system.control = .outside ∨ system.control = .notified)
      (acted : service.Acts system.manager manager) :
      Step system .act { system with manager := manager }
  | wait {system : System types service} (idle : system.control = .outside)
      (ready : 0 < system.eventFd.counter) :
      Step system .wait { system with control := .notified }
  | dismiss {system : System types service} (idle : system.control = .notified) :
      Step system .dismiss { system with control := .outside }
  | read {system : System types service} (idle : system.control = .notified) :
      Step system .read { system with control := .draining, eventFd := system.eventFd.read }
  | take {system : System types service} {message : FnMsg types service}
      {rest : List (FnMsg types service)} (draining : system.control = .draining)
      (first : system.queue = message :: rest) :
      Step system (.take message)
        { system with queue := rest, control := .running message message.fnbox }
  | empty {system : System types service} (draining : system.control = .draining)
      (none : system.queue = []) :
      Step system .empty { system with control := .outside }
  | request {system : System types service} {message : FnMsg types service}
      {request : service.Req} {next : service.Res request → Task types service message.code}
      {response : service.Res request} {manager : service.State}
      (running : system.control = .running message (.request request next))
      (served : service.serve request system.manager = some (response, manager)) :
      Step system .request
        { system with manager := manager, control := .running message (next response) }
  | fire {system : System types service} {message : FnMsg types service} {call : CallId}
      {body : Task types service types.unit}
      {next : Except Error Unit → Task types service message.code}
      (running : system.control = .running message (.fire body next))
      (fresh : system.callers call = none) :
      Step system (.fire (FnMsg.fire call body))
        { system.accept (FnMsg.fire call body) with control := .firing message call next }
  | resume {system : System types service} {message : FnMsg types service} {call : CallId}
      {next : Except Error Unit → Task types service message.code} {caller : Caller types}
      {outcome : CallOutcome types caller.code}
      (firing : system.control = .firing message call next)
      (found : system.callers call = some caller) (phase : caller.phase = .returned outcome) :
      Step system .resume { system with control := .running message (next outcome.toResult) }
  | kickInside {system : System types service} {message : FnMsg types service}
      {next : Except Error Unit → Task types service message.code}
      (running : system.control = .running message (.kick next)) :
      Step system .kickInside
        { system with
          eventFd := system.eventFd.write.2
          control := .running message (next (system.eventFd.write.1.mapError .eventFd)) }
  | finish {system : System types service} {message : FnMsg types service}
      {value : types.Val message.code} (running : system.control = .running message (.ret value)) :
      Step system (.finish message value) (system.finish message value)
  | drop {system : System types service} (idle : system.control = .outside) :
      Step system .drop system.drop

namespace EventManager

variable {kernel : Kernel} {T : Type} [MutEventSubscriber T]

/-- What the manager does between two drains of the endpoint queue: it serves its
own thread, waits, and dispatches events to subscribers. -/
inductive Acts (manager next : EventManager kernel T) : Prop
  | served (request : Request T) (response : Response request)
      (returned : (serve request manager).result = .ok (response, next))
  | polled (milliseconds : Int) (answer : Except Errno (List EpollEvent))
      (count : Except Error Nat)
      (returned : (poll milliseconds answer manager).result = .ok (count, next))
  | dispatched (eventCount : Nat) (endpointEvent : Option EpollEvent)
      (returned : (dispatchLoop 0 eventCount none manager).result = .ok (endpointEvent, next))

/-- The event manager as closures see it. -/
def service (kernel : Kernel) (T : Type) [MutEventSubscriber T] : Service where
  State := EventManager kernel T
  Req := Request T
  Res := Response
  serve request manager := (serve request manager).result.toOption
  Acts := Acts

/-- The manager of scripted subscribers on the reference kernel. -/
abbrev scripted : Service := service Kernel.reference Scripted

end EventManager

/-- A new manager and its unused endpoint. -/
abbrev System.fresh : System RemoteResult.types EventManager.scripted :=
  System.initial EventManager.fresh

end EventLoop
