import EventLoop.Delivery
import EventLoop.Identity

/-!
# The loop does not panic

The manager's code can stop at five places: when the id counter overflows, when
the dispatch loop reads past the ready buffer, when it calls a subscriber that
is not registered, and at two arms declared unreachable. What rules each of them
out is an invariant of whole runs: the counter counts, a dispatched descriptor
belongs to a registered subscriber, and every descriptor the kernel can report
is dispatched or the endpoint's. Nothing is asked of the callbacks, the closures
or the order of calls.
-/

namespace EventLoop

open Replay

variable {kernel : Kernel} {T : Type} [MutEventSubscriber T]

namespace EventManager

/-- What epoll promises of its response to a wait: no more events than there are
slots, each carrying the word of a registration, and nothing but `IN` for the
endpoint. -/
def Honest (manager : EventManager kernel T) : Input T → Prop
  | .run _ (.ok batch) _ =>
      batch.length ≤ manager.epollContext.readyEvents.length ∧
        ∀ event ∈ batch, kernel.Reports manager.epollContext.epoll event ∧
          (event.fd = manager.channelFd → event.eventSet = .IN)
  | _ => True

/-- Every wait of the run is answered as epoll promises. -/
def HonestRun : List (Input T) → EventManager kernel T → Prop
  | [], _ => True
  | input :: rest, manager => manager.Honest input ∧
      ∀ output next, (perform input manager).result = .ok (output, next) → HonestRun rest next

variable {start manager : EventManager kernel T}

/-- A closure can only stop the manager by running out of ids. -/
theorem handleEndpointCalls_panic {closures : List (Closure T)} {panic : Panic}
    (stopped : (handleEndpointCalls closures manager).result = .error panic) :
    panic = .nextIdOverflow := by
  have ended := (handleEndpointCalls_traced closures manager trivial).2
  rw [stopped] at ended
  exact ended.1

/-- A batch that epoll may report stops the manager only over the flags of the
endpoint's event, or in a closure. -/
theorem dispatchEvents_panic (consistent : manager.Consistent) (covered : manager.Covered)
    {batch : List EpollEvent} {closures : List (Closure T)}
    (fits : batch.length ≤ manager.epollContext.readyEvents.length)
    (reported : ∀ event ∈ batch, kernel.Reports manager.epollContext.epoll event) {panic : Panic}
    (stopped : (dispatchEvents batch.length closures (manager.polled batch)).result =
      .error panic) :
    panic = .nextIdOverflow ∨ panic = .endpointEventSet ∧
      ∃ event ∈ batch, event.fd = manager.channelFd ∧ event.eventSet ≠ .IN := by
  obtain ⟨calls, found, ran, _, endpoint⟩ :=
    dispatchLoop_polled consistent covered batch fits reported
  rw [dispatchEvents, Exec.bind_ok ran] at stopped
  rcases endpoint with rfl | ⟨event, member, rfl, own⟩
  · cases stopped
  · by_cases odd : event.eventSet ≠ .IN
    · simp only [dispatchEndpointEvent, if_pos odd] at stopped
      exact Or.inr ⟨(Except.error.inj stopped).symm, event, member, own, odd⟩
    · simp only [dispatchEndpointEvent, if_neg odd] at stopped
      exact Or.inl (handleEndpointCalls_panic stopped)

/-- So does a whole turn of the loop. -/
theorem run_panic (consistent : manager.Consistent) (covered : manager.Covered)
    {milliseconds : Int} {batch : List EpollEvent} {closures : List (Closure T)}
    (fits : batch.length ≤ manager.epollContext.readyEvents.length)
    (reported : ∀ event ∈ batch, kernel.Reports manager.epollContext.epoll event) {panic : Panic}
    (stopped : (perform (.run milliseconds (.ok batch) closures) manager).result = .error panic) :
    panic = .nextIdOverflow ∨ panic = .endpointEventSet ∧
      ∃ event ∈ batch, event.fd = manager.channelFd ∧ event.eventSet ≠ .IN := by
  have ran := runWithTimeout_ok manager milliseconds batch closures
  rcases dispatched : (dispatchEvents batch.length closures (manager.polled batch)).result with
    cause | ⟨_, last⟩
  · rw [dispatched] at ran
    rw [perform, Exec.bind_error ran] at stopped
    obtain rfl := Except.error.inj stopped
    exact dispatchEvents_panic consistent covered fits reported dispatched
  · rw [dispatched] at ran
    rw [perform, Exec.bind_ok ran] at stopped
    cases stopped

/-- A call that epoll answers as it promises can only run out of ids. In consistent and
covering tables a dispatched subscriber is registered, every reported event has a taker,
and the slots of the batch exist. -/
theorem perform_panic (consistent : manager.Consistent) (covered : manager.Covered)
    {input : Input T} (honest : manager.Honest input) {panic : Panic}
    (stopped : (perform input manager).result = .error panic) : panic = .nextIdOverflow := by
  cases input with
  | request request =>
    rcases served : (serve request : Manage kernel T (Response request)) manager with
      ⟨log, reason | ⟨response, next⟩⟩
    · have ended := (serve_traced request manager trivial).2
      rw [served] at ended
      rw [perform, Exec.bind_error served] at stopped
      obtain rfl := Except.error.inj stopped
      exact ended.1
    · rw [perform, Exec.bind_ok served] at stopped
      cases stopped
  | run milliseconds response closures =>
    cases response with
    | error errno =>
      have ran := runWithTimeout_error manager milliseconds errno closures
      rw [perform, Exec.bind_ok ran] at stopped
      cases stopped
    | ok batch =>
      have reported : ∀ event ∈ batch, kernel.Reports manager.epollContext.epoll event :=
        fun event member => (honest.2 event member).1
      rcases run_panic consistent covered honest.1 reported stopped with
        overflow | ⟨_, event, member, own, odd⟩
      · exact overflow
      · exact absurd ((honest.2 event member).2 own) odd

/-- In every run with fewer than `2 ^ 64 - 1` additions, whatever the callers, the
callbacks and the closures do, no call panics.

Proof: by induction on the calls. Every panic of a call is one of four, three of which
consistent and covering tables rule out; the fourth needs the counter at its end, which so
few additions do not bring it to. -/
theorem performAll_panicFree (started : start.Started) (deletes : kernel.DeletesPresent)
    (inputs : List (Input T)) (honest : HonestRun inputs start)
    (countable : Countable (performAll inputs start).log) :
    ∃ manager, (performAll inputs start).result = .ok ((), manager) := by
  have general : ∀ (inputs : List (Input T)) (past : List (Observation T))
      (manager : EventManager kernel T), Reachable start past manager → HonestRun inputs manager →
      Countable (past ++ (performAll inputs manager).log) →
      ∃ last, (performAll inputs manager).result = .ok ((), last) := by
    intro inputs
    induction inputs with
    | nil => exact fun _ manager _ _ _ => ⟨manager, rfl⟩
    | cons input rest inductionHypothesis =>
      intro past manager reached promised room
      obtain ⟨valid, state⟩ := reached.valid
      have consistent : manager.Consistent := state ▸ started.consistent_after valid
      have covered : manager.Covered :=
        state ▸ started.covered_after (deletes_of_deletesPresent deletes start past)
      rcases performed : perform input manager with ⟨log, panic | ⟨output, next⟩⟩
      · have stopped : (perform input manager).result = .error panic := by rw [performed]
        obtain rfl := perform_panic consistent covered promised.1 stopped
        rw [performAll, Exec.bind_error performed] at room
        have noOverflow := started.no_overflow reached input (by rwa [performed])
        exact absurd stopped noOverflow
      · have returned : (perform input manager).result = .ok (output, next) := by rw [performed]
        have stepped := reached.step input output returned
        rw [performed] at stepped
        rw [performAll, Exec.bind_ok performed] at room ⊢
        rw [← List.append_assoc] at room
        exact inductionHypothesis (past ++ log) next stepped (promised.2 output next returned) room
  exact general inputs [] start .start honest countable

/-- After the subscriber of `removing` is set up, a turn reports its descriptors
and the endpoint, and a closure adds a second subscriber. -/
def busy : List (Input Scripted) :=
  removing ++ [.run (-1) (.ok removingBatch)
    [.call (.addSubscriber ⟨[]⟩) (fun _ => .ret ())]]

/-- A run that adds, removes, delivers and runs closures returns. -/
theorem performAll_panicFree_busy :
    ∃ manager, (performAll busy fresh).result = .ok ((), manager) := by
  have honest : HonestRun busy fresh := by
    refine ⟨trivial, fun _ _ added => ⟨trivial, fun _ _ first => ⟨trivial, fun _ _ second => ?_⟩⟩⟩
    cases added
    cases first
    cases second
    refine ⟨⟨by decide, fun event member => ?_⟩, fun _ _ _ => trivial⟩
    simp only [removingBatch, List.mem_cons, List.not_mem_nil, or_false] at member
    rcases member with rfl | rfl | rfl
    · exact ⟨⟨5, _, rfl, rfl⟩, by decide⟩
    · exact ⟨⟨3, _, rfl, rfl⟩, by decide⟩
    · exact ⟨⟨6, _, rfl, rfl⟩, by decide⟩
  exact performAll_panicFree fresh_started Kernel.reference_deletesPresent busy honest (by decide)

end EventManager

end EventLoop
