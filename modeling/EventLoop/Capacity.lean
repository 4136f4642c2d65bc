import EventLoop.Runs

/-!
# The ready buffer's capacity and the waits made with it

The length of the ready buffer is the `maxevents` of every wait. It is fixed at
construction, where it is compared with the largest number of events the kernel
takes; polling and discarding overwrite slots and keep the length. What is not
compared with anything is the other end: a buffer without slots is accepted, and
every wait of such a manager is refused.
-/

namespace EventLoop

open Replay

variable {kernel : Kernel}

/-- The kernel takes a wait for this many events: the argument, read as the signed
number it is, is positive and the events fit into the address range of an `int`. -/
def Kernel.AcceptsMaxevents (kernel : Kernel) (maxevents : BitVec 32) : Prop :=
  1 ≤ maxevents.toInt ∧ maxevents.toInt ≤ ((2 ^ 31 - 1) / kernel.epollEventSize : Nat)

namespace EpollWrapper

/-- Reported events overwrite slots of the buffer. -/
theorem poll_length (wrapper : EpollWrapper kernel) (response : Except Errno (List EpollEvent)) :
    (wrapper.poll response).2.readyEvents.length = wrapper.readyEvents.length := by
  cases response with
  | ok events =>
    simp only [poll, List.length_append, List.length_take, List.length_drop]
    omega
  | error errno =>
    simp only [poll]
    split <;> rfl

end EpollWrapper

/-- Operations discard events in place. -/
theorem EventOps.Performed.length {wrapper next : EpollWrapper kernel} {id : SubscriberId}
    {operation : Operation} {result : Except Error Unit}
    (performed : Performed wrapper id operation result next) :
    next.readyEvents.length = wrapper.readyEvents.length := by
  cases performed with
  | failed operation error epoll same => rfl
  | added events epoll unclaimed absent written => rfl
  | modified events epoll present written => rfl
  | removed events epoll present written => simp

namespace EventManager

variable {T : Type}

/-- No observation changes the length of the buffer. -/
theorem apply_length (manager : EventManager kernel T) (observation : Observation T) :
    (manager.apply observation).epollContext.readyEvents.length =
      manager.epollContext.readyEvents.length := by
  cases observation with
  | operation id operation result => exact (EventOps.perform_performed _ id operation).length
  | process id events => rfl
  | store id subscriber => rfl
  | addSubscriber id subscriber => rfl
  | removeSubscriber id => simp [apply, EpollWrapper.remove_readyEvents]
  | wait milliseconds maxevents response => exact EpollWrapper.poll_length _ _

/-- Nor does any history. -/
theorem after_length (manager : EventManager kernel T) (history : List (Observation T)) :
    (manager.after history).epollContext.readyEvents.length =
      manager.epollContext.readyEvents.length := by
  induction history generalizing manager with
  | nil => rfl
  | cons observation rest inductionHypothesis =>
    rw [after, replay_cons]
    exact (inductionHypothesis _).trans (apply_length manager observation)

/-- A capacity above the limit is refused before anything else is tried. -/
theorem newWithCapacity_large {capacity : Nat} (large : maxReadyEventsCapacity kernel < capacity)
    (epoll : Except Errno kernel.State) (eventFd : Except Errno RawFd) :
    (newWithCapacity capacity epoll eventFd : Except Error (EventManager kernel T)) =
      .error .invalidCapacity := by
  simp [newWithCapacity, large, throw, throwThe, MonadExceptOf.throw, bind, Except.bind]

/-- A manager is created only with a capacity below the limit, and then has a
buffer of that length. -/
theorem newWithCapacity_length {capacity : Nat} {epoll : Except Errno kernel.State}
    {eventFd : Except Errno RawFd} {start : EventManager kernel T}
    (created : newWithCapacity capacity epoll eventFd = .ok start) :
    capacity ≤ maxReadyEventsCapacity kernel ∧
      start.epollContext.readyEvents.length = capacity := by
  by_cases large : capacity > maxReadyEventsCapacity kernel
  · rw [newWithCapacity_large large] at created
    cases created
  · refine ⟨Nat.le_of_not_lt large, ?_⟩
    unfold newWithCapacity at created
    rcases epoll with errno | epoll
    · simp [large, EpollWrapper.new, bind, Except.bind] at created
    · rcases eventFd with errno | channelFd
      · simp [large, EpollWrapper.new, Except.mapError, bind, Except.bind] at created
      · rcases answer : (kernel.ctl epoll .add channelFd (channelEvent channelFd)).1 with errno | _
        · simp [large, EpollWrapper.new, answer, Except.mapError, bind, Except.bind] at created
        · simp [large, EpollWrapper.new, answer, Except.mapError, bind, Except.bind, pure,
            Except.pure] at created
          subst created
          exact List.length_replicate

/-- A capacity that is neither zero nor above the limit passes through the
conversion to an `i32` unchanged and is one the kernel takes. -/
theorem acceptsMaxevents_ofNat {capacity : Nat} (positive : 0 < capacity)
    (bounded : capacity ≤ maxReadyEventsCapacity kernel) :
    (BitVec.ofNat 32 capacity).toInt = capacity ∧
      kernel.AcceptsMaxevents (BitVec.ofNat 32 capacity) := by
  have limit : maxReadyEventsCapacity kernel ≤ 2 ^ 31 - 1 := Nat.div_le_self _ _
  have small : (BitVec.ofNat 32 capacity).toNat = capacity := by
    rw [BitVec.toNat_ofNat]
    omega
  have converted : (BitVec.ofNat 32 capacity).toInt = capacity := by
    rw [BitVec.toInt_eq_toNat_of_lt (by omega), small]
  refine ⟨converted, ?_⟩
  rw [Kernel.AcceptsMaxevents, converted]
  exact ⟨by omega, by exact_mod_cast bounded⟩

variable [MutEventSubscriber T]

/-- What the capacity promises: a manager created with it keeps a buffer of that
length at every moment of every run and makes only waits the kernel takes, for
exactly that many events; and a capacity out of range creates none. -/
structure Pollable (kernel : Kernel) (T : Type) [MutEventSubscriber T] (capacity : Nat) :
    Prop where
  kept : ∀ epoll eventFd (start : EventManager kernel T),
    newWithCapacity capacity epoll eventFd = .ok start → ∀ history, Visited start history →
      (start.after history).epollContext.readyEvents.length = capacity
  waits : ∀ epoll eventFd (start : EventManager kernel T),
    newWithCapacity capacity epoll eventFd = .ok start → ∀ history, Visited start history →
      ∀ milliseconds (maxevents : BitVec 32) response,
        .wait milliseconds maxevents response ∈ history →
        maxevents.toInt = capacity ∧ kernel.AcceptsMaxevents maxevents
  refused : ¬ (1 ≤ capacity ∧ capacity ≤ maxReadyEventsCapacity kernel) →
    ∀ epoll eventFd, (newWithCapacity capacity epoll eventFd : Except Error (EventManager kernel T)) =
      .error .invalidCapacity

/-- Along every run each wait asks for as many events as the buffer was created
with. -/
theorem wait_maxevents {start : EventManager kernel T} {history : List (Observation T)}
    (visited : Visited start history) {milliseconds : Int} {maxevents : BitVec 32}
    {response : Except Errno (List EpollEvent)}
    (waited : .wait milliseconds maxevents response ∈ history) :
    maxevents = BitVec.ofNat 32 start.epollContext.readyEvents.length := by
  obtain ⟨before, later, rfl⟩ := List.append_of_mem waited
  have enabled : maxevents =
      BitVec.ofNat 32 (start.after before).epollContext.readyEvents.length := visited.valid.here
  rw [enabled, after_length]

/-- Every capacity but zero keeps its promise.

Proof: the buffer keeps the length it was made with, and a length between one and the
largest that is accepted survives the cast to the kernel's `maxevents`; with no slot that
argument is zero. -/
theorem capacity_pollable_iff (capacity : Nat) : Pollable kernel T capacity ↔ 0 < capacity := by
  constructor
  · intro pollable
    by_contra zero
    -- whatever else goes wrong at the creation, it is not the capacity
    have refused := pollable.refused (by omega) (.error .EINTR) (.error .EINTR)
    have accepted : ¬ capacity > maxReadyEventsCapacity kernel := by omega
    simp [newWithCapacity, accepted, EpollWrapper.new, bind, Except.bind] at refused
  · intro positive
    constructor
    · intro epoll eventFd start created history _
      rw [after_length]
      exact (newWithCapacity_length created).2
    · intro epoll eventFd start created history visited milliseconds maxevents response waited
      obtain ⟨bounded, length⟩ := newWithCapacity_length created
      rw [wait_maxevents visited waited, length]
      exact acceptsMaxevents_ofNat positive bounded
    · intro outside epoll eventFd
      exact newWithCapacity_large (by omega) epoll eventFd

/-- A new manager on the reference kernel whose buffer has no slots. -/
def slotless : EventManager Kernel.reference Scripted :=
  { fresh with epollContext := { fresh.epollContext with readyEvents := [] } }

/-- Capacity zero is accepted, and the first wait asks for no events, which the
kernel refuses. -/
theorem capacity_zero_accepted :
    newWithCapacity 0 (.ok InterestList.empty) (.ok 3) = .ok slotless ∧
      Visited slotless [.wait 0 0 (.error .EINVAL)] ∧
      ¬ Kernel.reference.AcceptsMaxevents 0 ∧ ¬ Pollable Kernel.reference Scripted 0 := by
  have created : newWithCapacity 0 (.ok InterestList.empty) (.ok 3) = .ok slotless := rfl
  refine ⟨created, ?_, ?_, fun pollable => ?_⟩
  · exact ⟨[], slotless, .run 0 (.error .EINVAL) [], .start, by
      exact List.prefix_refl _⟩
  · exact fun accepted => absurd accepted.1 (by decide)
  · have refused := pollable.refused (by omega) (.ok InterestList.empty) (.ok 3)
    rw [created] at refused
    cases refused

end EventManager

end EventLoop
