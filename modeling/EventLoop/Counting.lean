import EventLoop.Delivery

/-!
# What the return value of a run counts

A run returns the number of events its wait reported, as it was before the first
of them was dispatched. The events dispatched are the calls of `process` it made
and the endpoint's event. No event is dispatched twice, so the number returned is
never too small; it is too large by the events that were discarded before their
turn came. `KeepsPending` says of a batch, and of the callbacks it leads to, that
none will be: each callback leaves the descriptors of the later events alone.
-/

namespace EventLoop

open Replay

variable {kernel : Kernel} {T : Type}

/-- The number of calls of `process` in a log. -/
def processCalls : List (Observation T) → Nat
  | [] => 0
  | .process _ _ :: rest => processCalls rest + 1
  | _ :: rest => processCalls rest

/-- Calls of `process` are counted part by part. -/
theorem processCalls_append (first second : List (Observation T)) :
    processCalls (first ++ second) = processCalls first + processCalls second := by
  induction first with
  | nil => simp [processCalls]
  | cons observation rest inductionHypothesis =>
    cases observation with
    | process id events =>
      simp only [List.cons_append, processCalls, inductionHypothesis]
      omega
    | _ => exact inductionHypothesis

/-- There are none in a log without deliveries. -/
theorem processCalls_eq_zero {log : List (Observation T)}
    (none : ∀ observation ∈ log, observation.NotProcess) : processCalls log = 0 := by
  induction log with
  | nil => rfl
  | cons observation rest inductionHypothesis =>
    have later := inductionHypothesis
      (fun other member => none other (List.mem_cons_of_mem _ member))
    cases observation with
    | process id events => exact False.elim (none _ List.mem_cons_self)
    | _ => exact later

/-- A delivery is one call; what its callback does is none. -/
theorem ProcessCall.processCalls_log (call : ProcessCall T) : processCalls call.log = 1 := by
  have silent : processCalls (operations call.id call.exchanges ++
      [Observation.store call.id call.next]) = 0 :=
    processCalls_eq_zero call.callback_notProcess
  rw [log, processCalls, silent]

/-- The events dispatched: the calls of `process`, and the endpoint's event if
there was one. -/
def dispatchedCount (log : List (Observation T)) (endpointEvent : Option EpollEvent) : Nat :=
  processCalls log + endpointEvent.toList.length

/-- One call more is one dispatch more. -/
theorem dispatchedCount_call (call : ProcessCall T) (log : List (Observation T))
    (endpointEvent : Option EpollEvent) :
    dispatchedCount (call.log ++ log) endpointEvent = dispatchedCount log endpointEvent + 1 := by
  simp only [dispatchedCount, processCalls_append, call.processCalls_log]
  omega

namespace EventManager

variable {manager last : EventManager kernel T} [MutEventSubscriber T]

/-- At most one dispatch for each event, and fewer than that when the descriptor of
one was removed before. -/
theorem deliver_count_le (batch : List EpollEvent) (removed : List RawFd)
    (endpointEvent found : Option EpollEvent) (consistent : manager.Consistent)
    (returned : (deliver removed batch endpointEvent manager).result = .ok (found, last)) :
    dispatchedCount (deliver removed batch endpointEvent manager).log found ≤
        batch.length + endpointEvent.toList.length ∧
      ((∃ event ∈ batch, event.fd ∈ removed) →
        dispatchedCount (deliver removed batch endpointEvent manager).log found <
          batch.length + endpointEvent.toList.length) := by
  induction batch generalizing manager removed endpointEvent with
  | nil =>
    obtain ⟨rfl, rfl⟩ : endpointEvent = found ∧ manager = last := by
      simpa [deliver] using returned
    constructor
    · simp [deliver, dispatchedCount, processCalls]
    · rintro ⟨event, member, _⟩
      exact absurd member List.not_mem_nil
  | cons event rest inductionHypothesis =>
    by_cases skipped : event.fd ∈ removed ∨ Discarded event
    · rw [deliver, if_pos skipped] at returned ⊢
      have bound := (inductionHypothesis removed endpointEvent consistent returned).1
      simp only [List.length_cons]
      exact ⟨by omega, fun _ => by omega⟩
    · have later : (∃ other ∈ event :: rest, other.fd ∈ removed) →
          ∃ other ∈ rest, other.fd ∈ removed := by
        rintro ⟨other, member, gone⟩
        rcases List.mem_cons.mp member with rfl | member
        · exact absurd (Or.inl gone) skipped
        · exact ⟨other, member, gone⟩
      rcases deliver_cases rest endpointEvent consistent skipped with
        ⟨id, call, _, _, _, still, ran⟩ | ⟨_, _, ran⟩ | ⟨_, _, ran⟩
      · rw [ran] at returned ⊢
        obtain ⟨bound, strict⟩ :=
          inductionHypothesis (removed ++ call.removed) endpointEvent still returned
        rw [dispatchedCount_call, List.length_cons]
        refine ⟨by omega, fun lost => ?_⟩
        obtain ⟨other, member, gone⟩ := later lost
        have missing := strict ⟨other, member, List.mem_append_left _ gone⟩
        omega
      · rw [ran] at returned ⊢
        obtain ⟨bound, strict⟩ := inductionHypothesis removed (some event) consistent returned
        simp only [Option.toList, List.length_cons, List.length_nil] at bound strict ⊢
        refine ⟨by omega, fun lost => ?_⟩
        have missing := strict (later lost)
        omega
      · rw [ran] at returned
        cases returned

/-- Dispatching the events one after the other, no callback successfully removes
the descriptor of an event that is still to come. -/
def KeepsPending : List EpollEvent → EventManager kernel T → Prop
  | [], _ => True
  | event :: rest, manager =>
      match manager.epollContext.fdDispatch event.fd with
      | some id =>
          (∀ later ∈ rest, later.fd ∉ removedFds (process id event manager).log) ∧
            KeepsPending rest (manager.after (process id event manager).log)
      | none => KeepsPending rest manager

/-- As many dispatches as events means that no callback took away a later one. By
induction on the batch, against the removals logged so far: an event whose descriptor was
removed is discarded and not counted, and every other one is. -/
theorem deliver_count_iff (batch : List EpollEvent) (removed : List RawFd)
    (endpointEvent found : Option EpollEvent) (consistent : manager.Consistent)
    (nonzero : ∀ event ∈ batch, event.events ≠ 0) (distinct : (batch.map EpollEvent.fd).Nodup)
    (sole : endpointEvent.isSome → ∀ event ∈ batch, event.fd ≠ manager.channelFd)
    (clear : ∀ event ∈ batch, event.fd ∉ removed)
    (returned : (deliver removed batch endpointEvent manager).result = .ok (found, last)) :
    dispatchedCount (deliver removed batch endpointEvent manager).log found =
        batch.length + endpointEvent.toList.length ↔
      KeepsPending batch manager := by
  induction batch generalizing manager removed endpointEvent with
  | nil =>
    obtain ⟨rfl, rfl⟩ : endpointEvent = found ∧ manager = last := by
      simpa [deliver] using returned
    simp [deliver, dispatchedCount, processCalls, KeepsPending]
  | cons event rest inductionHypothesis =>
    have skipped : ¬ (event.fd ∈ removed ∨ Discarded event) := by
      rintro (gone | zero)
      · exact clear event List.mem_cons_self gone
      · exact nonzero event List.mem_cons_self zero.1
    have restNonzero : ∀ later ∈ rest, later.events ≠ 0 :=
      fun later member => nonzero later (List.mem_cons_of_mem _ member)
    have restClear : ∀ later ∈ rest, later.fd ∉ removed :=
      fun later member => clear later (List.mem_cons_of_mem _ member)
    obtain ⟨alone, restDistinct⟩ := List.nodup_cons.mp distinct
    rcases deliver_cases rest endpointEvent consistent skipped with
      ⟨id, call, dispatched, _, called, still, ran⟩ | ⟨unclaimed, own, ran⟩ | ⟨_, _, ran⟩
    · rw [ran] at returned ⊢
      simp only [KeepsPending, dispatched, called, call.removedFds_log]
      rw [dispatchedCount_call, List.length_cons]
      by_cases spared : ∀ later ∈ rest, later.fd ∉ call.removed
      · have rule := inductionHypothesis (removed ++ call.removed) endpointEvent still restNonzero
          restDistinct (by
            intro present later member
            rw [after_channelFd]
            exact sole present later (List.mem_cons_of_mem _ member))
          (by
            intro later member gone
            rcases List.mem_append.mp gone with before | now
            · exact restClear later member before
            · exact spared later member now) returned
        constructor
        · intro equal
          exact ⟨spared, rule.mp (by omega)⟩
        · rintro ⟨_, keeps⟩
          have equal := rule.mpr keeps
          omega
      · -- the removed event is never dispatched, so the count stays behind for good
        simp only [not_forall, not_not] at spared
        obtain ⟨later, member, gone⟩ := spared
        have behind := (deliver_count_le rest (removed ++ call.removed) endpointEvent found still
          returned).2 ⟨later, member, List.mem_append_right _ gone⟩
        constructor
        · intro equal
          omega
        · rintro ⟨keeps, _⟩
          exact absurd gone (keeps later member)
    · rw [ran] at returned ⊢
      simp only [KeepsPending, unclaimed]
      have first : endpointEvent = none := by
        cases endpointEvent with
        | none => rfl
        | some earlier => exact absurd own (sole rfl event List.mem_cons_self)
      have rule := inductionHypothesis removed (some event) consistent restNonzero restDistinct
        (by
          intro _ later member same
          exact alone (List.mem_map.mpr ⟨later, member, same.trans own.symm⟩))
        restClear returned
      rw [← rule, first]
      simp only [Option.toList, List.length_cons, List.length_nil]
    · rw [ran] at returned
      cases returned

/-- The endpoint's event, if the loop over the reported events finds it. -/
def endpointFound (manager : EventManager kernel T) :
    Except Errno (List EpollEvent) → Option EpollEvent
  | .ok batch =>
      match (dispatchLoop 0 batch.length none (manager.polled batch)).result with
      | .ok (found, _) => found
      | .error _ => none
  | .error _ => none

/-- What the kernel promises of the events it reports: they fit into the buffer,
each has a flag, and no descriptor is reported twice. -/
structure WellReported (manager : EventManager kernel T) (batch : List EpollEvent) : Prop where
  fits : batch.length ≤ manager.epollContext.readyEvents.length
  nonzero : ∀ event ∈ batch, event.events ≠ 0
  distinct : (batch.map EpollEvent.fd).Nodup

/-- A dispatch that returns has dispatched as many events as were reported exactly
when no callback took a later one away. -/
theorem dispatchEvents_count_iff {batch : List EpollEvent} {closures : List (Closure T)}
    (consistent : manager.Consistent) (reported : WellReported manager batch)
    (returned : (dispatchEvents batch.length closures (manager.polled batch)).result =
      .ok ((), last)) :
    batch.length = dispatchedCount (dispatchEvents batch.length closures (manager.polled batch)).log
        (endpointFound manager (.ok batch)) ↔
      KeepsPending batch (manager.polled batch) := by
  obtain ⟨log, found, middle, looped, _⟩ := Exec.bind_returned returned
  have same := dispatchLoop_eq_deliver batch 0 [] none _ (consistent.polled batch)
    (window_polled batch reported.fits)
  have delivered : (deliver [] batch none (manager.polled batch)).result = .ok (found, middle) := by
    rw [← same, looped]
  have rule := deliver_count_iff batch [] none found (consistent.polled batch) reported.nonzero
    reported.distinct (by simp) (fun _ _ => List.not_mem_nil) delivered
  have silent := processCalls_eq_zero (dispatchEndpointEvent_logs found closures middle)
  have counted : dispatchedCount (dispatchEvents batch.length closures (manager.polled batch)).log
      (endpointFound manager (.ok batch)) =
      dispatchedCount (deliver [] batch none (manager.polled batch)).log found := by
    rw [dispatchEvents, Exec.bind_ok looped, endpointFound, looped, ← same, looped]
    simp only [dispatchedCount, processCalls_append, silent, Nat.add_zero]
  rw [← rule, counted]
  simp only [Option.toList, List.length_nil, Nat.add_zero]
  exact eq_comm

/-- In every reachable state, whatever the wait answered: a run that returns `Ok`
with a number returns the number of calls of `process` it made, plus one if the
endpoint's event was found, exactly when no callback successfully removed the
descriptor of a later event of the batch.

Proof: every event of a well reported batch is discarded by an earlier callback's removal,
is delivered, or is the endpoint's. The number returned counts all three, so it is the
number of the latter two exactly if nothing was discarded while it was still to come. -/
theorem run_counts_iff {start manager next : EventManager kernel T}
    {history : List (Observation T)} (started : start.Started)
    (reached : Reachable start history manager) (milliseconds : Int)
    (response : Except Errno (List EpollEvent)) (closures : List (Closure T)) (eventCount : Nat)
    (reported : ∀ batch, response = .ok batch → WellReported manager batch)
    (returned : (runWithTimeout milliseconds response closures manager).result =
      .ok (.ok eventCount, next)) :
    eventCount = dispatchedCount (runWithTimeout milliseconds response closures manager).log
        (endpointFound manager response) ↔
      ∀ batch, response = .ok batch → KeepsPending batch (manager.polled batch) := by
  obtain ⟨valid, rfl⟩ := reached.valid
  have consistent := started.consistent_after valid
  cases response with
  | error errno =>
    rw [runWithTimeout_error] at returned ⊢
    obtain rfl : eventCount = 0 := by
      by_cases interrupted : errno = .EINTR
      · simp only [interrupted, if_true, Except.ok.injEq, Prod.mk.injEq] at returned
        exact returned.1.symm
      · simp [interrupted] at returned
    simp [dispatchedCount, processCalls, endpointFound]
  | ok batch =>
    rw [runWithTimeout_ok] at returned ⊢
    obtain ⟨rfl, last, dispatched⟩ : batch.length = eventCount ∧ ∃ last,
        (dispatchEvents batch.length closures ((start.after history).polled batch)).result =
          .ok ((), last) := by
      rcases result : (dispatchEvents batch.length closures
          ((start.after history).polled batch)).result with panic | ⟨_, last⟩
      · rw [result] at returned
        cases returned
      · rw [result] at returned
        simp only [Except.map, Except.ok.injEq, Prod.mk.injEq] at returned
        exact ⟨returned.1, last, rfl⟩
    have rule := dispatchEvents_count_iff consistent (reported batch rfl) dispatched
    constructor
    · intro equal other same
      obtain rfl := Except.ok.inj same
      exact rule.mp equal
    · intro keeps
      exact rule.mpr (keeps batch rfl)

/-- The kernel reports descriptor 5 and the endpoint. -/
def keptBatch : List EpollEvent := [(Events.newRaw 5 .IN).inner, channelEvent 3]

/-- Descriptor 6 is not among the reported ones, so its removal costs nothing. -/
theorem run_counts_kept :
    2 = dispatchedCount (runWithTimeout 0 (.ok keptBatch) [] (finish removing fresh)).log
      (endpointFound (finish removing fresh) (.ok keptBatch)) := by
  have reached : Reachable fresh (performAll removing fresh).log (finish removing fresh) :=
    reachable_finish (by decide)
  refine (run_counts_iff fresh_started reached 0 (.ok keptBatch) [] 2 ?_ rfl).mpr ?_
  · rintro _ ⟨⟩
    exact ⟨by decide, by decide, by decide⟩
  · rintro _ ⟨⟩
    exact ⟨by decide, trivial⟩

/-- The callback for descriptor 5 removes descriptor 6, reported with it: the run
returns 3 for one call of `process` and the endpoint's event. -/
theorem run_counts_removed :
    Reachable fresh (performAll removing fresh).log (finish removing fresh) ∧
      WellReported (finish removing fresh) removingBatch ∧
      (∃ next, (runWithTimeout 0 (.ok removingBatch) [] (finish removing fresh)).result =
        .ok (.ok 3, next)) ∧
      dispatchedCount (runWithTimeout 0 (.ok removingBatch) [] (finish removing fresh)).log
        (endpointFound (finish removing fresh) (.ok removingBatch)) = 2 :=
  ⟨reachable_finish (by decide), ⟨by decide, by decide, by decide⟩, ⟨_, rfl⟩, by decide⟩

end EventManager

end EventLoop
