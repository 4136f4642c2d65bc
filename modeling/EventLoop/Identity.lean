import EventLoop.Registry

/-!
# Ids are not reused

The counter that ids are drawn from always stands one past the number of
subscribers added, so while fewer than `2 ^ 64 - 1` have been added every id
tells how many were added before it. An id drawn later is a larger one, and a
subscriber that was removed can never be registered again under its old id.
-/

namespace EventLoop

open Replay

variable {kernel : Kernel} {T : Type}

/-- The observation gives a subscriber an id. -/
def Observation.isAddition : Observation T → Bool
  | .addSubscriber _ _ => true
  | _ => false

/-- How many subscribers a history added. -/
def additions (history : List (Observation T)) : Nat := history.countP Observation.isAddition

/-- Additions are counted part by part. -/
@[simp] theorem additions_append (first second : List (Observation T)) :
    additions (first ++ second) = additions first + additions second :=
  List.countP_append

/-- The first observation counts on its own. -/
theorem additions_cons (observation : Observation T) (rest : List (Observation T)) :
    additions (observation :: rest) = additions [observation] + additions rest := by
  rw [← additions_append, List.singleton_append]

/-- An addition counts one. -/
theorem additions_addSubscriber (id : SubscriberId) (subscriber : T) :
    additions [.addSubscriber id subscriber] = 1 := rfl

/-- A number of additions that leaves the counter room. -/
def Countable (history : List (Observation T)) : Prop := additions history < 2 ^ 64 - 1

/-- Whether there is room is computed. -/
instance (history : List (Observation T)) : Decidable (Countable history) :=
  inferInstanceAs (Decidable (_ < _))

/-- What was countable at the end was countable before. -/
theorem Countable.before {first second : List (Observation T)}
    (countable : Countable (first ++ second)) : Countable first := by
  simp only [Countable, additions_append] at *
  omega

namespace EventManager

/-- The counter's value, and the ids that are in use below it. -/
structure Counted (history : List (Observation T)) (manager : EventManager kernel T) : Prop where
  counter : manager.subscribers.nextId = BitVec.ofNat 64 (1 + additions history)
  below : Countable history → ∀ id, manager.Live id → id.value.toNat ≤ additions history

variable {manager start : EventManager kernel T} {history : List (Observation T)}

/-- While there is room, the counter has not wrapped. -/
theorem Counted.nextId_toNat (counted : Counted history manager) (countable : Countable history) :
    manager.subscribers.nextId.toNat = 1 + additions history := by
  rw [counted.counter, BitVec.toNat_ofNat]
  simp only [Countable] at countable
  omega

/-- The counter moves by one at every addition and at nothing else. -/
theorem nextId_apply (observation : Observation T) :
    (manager.apply observation).subscribers.nextId =
      manager.subscribers.nextId + BitVec.ofNat 64 (additions [observation]) := by
  cases observation with
  | addSubscriber id subscriber => rfl
  | operation id operation result => exact (BitVec.add_zero _).symm
  | process id events => exact (BitVec.add_zero _).symm
  | store id subscriber => exact (BitVec.add_zero _).symm
  | removeSubscriber id => exact (BitVec.add_zero _).symm
  | wait milliseconds maxevents response => exact (BitVec.add_zero _).symm

/-- A subscriber is registered now because it was before or because it was just
given its id. -/
theorem live_apply {observation : Observation T} {id : SubscriberId}
    (enabled : manager.Enabled observation) (live : (manager.apply observation).Live id) :
    manager.Live id ∨ ∃ subscriber, observation = .addSubscriber id subscriber := by
  cases observation with
  | operation other operation result => exact Or.inl live
  | process other events => exact Or.inl live
  | store other subscriber =>
    simp only [Live, EventManager.apply, Subscribers.write, PartialMap.insert_apply] at live
    split at live
    · rename_i same
      exact Or.inl (same ▸ enabled)
    · exact Or.inl live
  | addSubscriber other subscriber =>
    simp only [Live, EventManager.apply, PartialMap.insert_apply] at live
    split at live
    · rename_i same
      exact Or.inr ⟨subscriber, by rw [same]⟩
    · exact Or.inl live
  | removeSubscriber other =>
    simp only [Live, EventManager.apply, Subscribers.remove, PartialMap.erase_apply] at live
    split at live
    · simp at live
    · exact Or.inl live
  | wait milliseconds maxevents response => exact Or.inl live

/-- An id just given out is one past the number of additions before it. -/
theorem Counted.drawn (counted : Counted history manager) (countable : Countable history)
    {id : SubscriberId} {subscriber : T} (enabled : manager.Enabled (.addSubscriber id subscriber)) :
    id.value.toNat = 1 + additions history := by
  have drawn : id.value = manager.subscribers.nextId := by rw [enabled]
  rw [drawn, counted.nextId_toNat countable]

/-- Every observation keeps the count: an addition draws the counter's value and moves it
on, and a removal frees an id below it. -/
theorem Counted.apply (counted : Counted history manager) {observation : Observation T}
    (enabled : manager.Enabled observation) :
    Counted (history ++ [observation]) (manager.apply observation) := by
  refine ⟨?_, fun countable id live => ?_⟩
  · rw [nextId_apply, counted.counter, additions_append, ← Nat.add_assoc, ← BitVec.ofNat_add]
  · rw [additions_append]
    rcases live_apply enabled live with before | ⟨subscriber, rfl⟩
    · have bound := counted.below countable.before id before
      omega
    · have drawn := counted.drawn countable.before enabled
      rw [additions_addSubscriber]
      omega

/-- Along every valid history the counter counts. -/
theorem Started.counted_after (started : start.Started) (valid : start.Valid history) :
    Counted history (start.after history) := by
  have initial : Counted ([] : List (Observation T)) start := by
    obtain ⟨new, _⟩ := started.shape
    refine ⟨by rw [new]; rfl, fun _ id live => ?_⟩
    simp [Live, new, Subscribers.new, PartialMap.empty] at live
  exact Along.history_invariant
    (fun past state observation counted enabled => counted.apply enabled) [] initial valid

/-- An id that is no longer in use stays out of use: the counter is past it. -/
theorem Counted.dead_after {past later : List (Observation T)} {id : SubscriberId}
    (counted : Counted past manager) (drawn : id.value.toNat ≤ additions past)
    (dead : ¬ manager.Live id) (valid : manager.Valid later)
    (countable : Countable (past ++ later)) : ¬ (manager.after later).Live id := by
  have kept : ∀ (before : List (Observation T)) (state : EventManager kernel T) observation,
      (Counted before state ∧ id.value.toNat ≤ additions before ∧
        (Countable before → ¬ state.Live id)) → Enabled state observation →
      Counted (before ++ [observation]) (state.apply observation) ∧
        id.value.toNat ≤ additions (before ++ [observation]) ∧
        (Countable (before ++ [observation]) → ¬ (state.apply observation).Live id) := by
    rintro before state observation ⟨sofar, bound, gone⟩ enabled
    refine ⟨sofar.apply enabled, by rw [additions_append]; omega, fun room live => ?_⟩
    have absent := gone room.before
    rcases live_apply enabled live with before | ⟨subscriber, rfl⟩
    · exact absent before
    · have fresh := sofar.drawn room.before enabled
      omega
  exact (Along.history_invariant kept past ⟨counted, drawn, fun _ => dead⟩ valid).2.2 countable

/-- Requests on an id that is not registered are refused and change nothing. -/
structure Refuses (manager : EventManager kernel T) (id : SubscriberId) : Prop where
  removeSubscriber : removeSubscriber id manager = ⟨[], .ok (.error .invalidId, manager)⟩
  subscriberMut : ∀ update, subscriberMut id update manager =
    ⟨[], .ok (.error .invalidId, manager)⟩
  eventOps : ∀ operation, eventOps id operation manager = ⟨[], .ok (.error .invalidId, manager)⟩

/-- An id under which nobody is registered is refused by all three requests. -/
theorem refuses_of_dead {id : SubscriberId} (dead : ¬ manager.Live id) : manager.Refuses id := by
  have absent : manager.subscribers.subscribers id = none := by simpa [Live] using dead
  refine ⟨?_, fun update => ?_, fun operation => ?_⟩
  · simp only [EventManager.removeSubscriber, Subscribers.remove, absent]
  · simp [EventManager.subscriberMut, Subscribers.contains, absent]
  · simp [EventManager.eventOps, Subscribers.contains, absent]

/-- Nothing of the subscriber is left: no dispatch entry, no list, and every
request on its id is refused. -/
structure Gone (manager : EventManager kernel T) (id : SubscriberId) : Prop where
  undispatched : ∀ fd, manager.epollContext.fdDispatch fd ≠ some id
  unlisted : manager.epollContext.subscriberWatchList id = none
  refuses : manager.Refuses id

/-- In consistent tables nothing is left of a subscriber that is not registered: who is
dispatched to and who is listed is registered. -/
theorem Consistent.gone (consistent : manager.Consistent) {id : SubscriberId}
    (dead : ¬ manager.Live id) : manager.Gone id := by
  refine ⟨fun fd dispatched => dead (consistent.owned fd id dispatched).1, ?_,
    refuses_of_dead dead⟩
  cases present : manager.epollContext.subscriberWatchList id with
  | none => rfl
  | some fds => exact absurd (consistent.watchers id (by simp [present])) dead

/-- After a removal the subscriber is not registered, at every later moment. -/
theorem Started.dead_after (started : start.Started) {before later : List (Observation T)}
    {id : SubscriberId} (valid : start.Valid (before ++ .removeSubscriber id :: later))
    (countable : Countable (before ++ .removeSubscriber id :: later)) :
    ¬ (start.after (before ++ .removeSubscriber id :: later)).Live id := by
  have rearranged : before ++ .removeSubscriber id :: later =
      (before ++ [.removeSubscriber id]) ++ later := by simp
  rw [rearranged] at valid countable ⊢
  obtain ⟨validBefore, validLater⟩ := (along_append _ _ _).mp valid
  have counted := started.counted_after validBefore
  have wasLive : (start.after before).Live id := validBefore.here
  have drawn : id.value.toNat ≤ additions (before ++ [Observation.removeSubscriber (T := T) id]) := by
    have bound := (started.counted_after ((along_append _ _ _).mp validBefore).1).below
      countable.before.before id wasLive
    rw [additions_append]
    omega
  have dead : ¬ (start.after (before ++ [.removeSubscriber id])).Live id := by
    simp [Live, after, replay_append, apply, Subscribers.remove]
  have ended := counted.dead_after drawn dead validLater countable
  rwa [after, replay_append]

/-- A removal that succeeds is logged. -/
theorem removeSubscriber_logged {id : SubscriberId} {subscriber : T} {next : EventManager kernel T}
    (returned : (removeSubscriber id manager).result = .ok (.ok subscriber, next)) :
    (removeSubscriber id manager).log = [.removeSubscriber id] := by
  cases registered : manager.subscribers.subscribers id with
  | none => simp [removeSubscriber, Subscribers.remove, registered] at returned
  | some other => simp only [removeSubscriber, Subscribers.remove, registered]

/-- What a history says of the ids it gave out and the subscribers it removed. -/
structure NeverReused (start : EventManager kernel T) (history : List (Observation T)) : Prop where
  /-- No id is given out twice. -/
  distinct : ∀ before id subscriber middle other successor later,
    history = before ++ .addSubscriber id subscriber ::
      (middle ++ .addSubscriber other successor :: later) → id ≠ other
  /-- The counter has not wrapped. -/
  counter : (start.after history).subscribers.nextId.toNat = 1 + additions history
  /-- Nobody was registered under an id when it was given out. -/
  fresh : ∀ before id subscriber later, history = before ++ .addSubscriber id subscriber :: later →
    ¬ (start.after before).Live id
  /-- Nothing is left of a removed subscriber, ever. -/
  gone : ∀ before id later, history = before ++ .removeSubscriber id :: later →
    (start.after history).Gone id
  /-- A removed subscriber is never called. -/
  silent : ∀ before id later, history = before ++ .removeSubscriber id :: later →
    ∀ events, .process id events ∉ later

/-- Every valid history with room for its ids has these properties. The count is kept
along the history, and from it each of the three properties follows at every moment. -/
theorem Started.neverReused (started : start.Started) (valid : start.Valid history)
    (countable : Countable history) : NeverReused start history := by
  -- the id given out at a split of the history tells how many were given out before the split
  have drawn : ∀ before id subscriber later,
      history = before ++ .addSubscriber id subscriber :: later →
      id.value.toNat = 1 + additions before := by
    intro before id subscriber later split
    rw [split] at valid countable
    exact (started.counted_after ((along_append _ _ _).mp valid).1).drawn countable.before valid.here
  refine ⟨?_, ?_, ?_, ?_, ?_⟩
  · rintro before id subscriber middle other successor later split rfl
    have first := drawn before id subscriber _ split
    have second := drawn (before ++ .addSubscriber id subscriber :: middle) id successor later
      (by rw [split, List.append_assoc]; rfl)
    rw [additions_append, additions_cons, additions_addSubscriber] at second
    omega
  · exact (started.counted_after valid).nextId_toNat countable
  · intro before id subscriber later split live
    have given := drawn before id subscriber later split
    rw [split] at valid countable
    have bound := (started.counted_after ((along_append _ _ _).mp valid).1).below
      countable.before id live
    omega
  · rintro before id later rfl
    exact (started.consistent_after valid).gone (started.dead_after valid countable)
  · rintro before id later rfl events member
    obtain ⟨middle, rest, rfl⟩ := List.append_of_mem member
    have split : before ++ .removeSubscriber id :: (middle ++ .process id events :: rest) =
        (before ++ .removeSubscriber id :: middle) ++ .process id events :: rest := by simp
    rw [split] at valid countable
    exact started.dead_after ((along_append _ _ _).mp valid).1 countable.before valid.here.1

section Subscriber

variable [MutEventSubscriber T]

/-- The id a subscriber is given is the one that is logged. -/
theorem addSubscriber_logged {subscriber : T} {id : SubscriberId} {next : EventManager kernel T}
    (returned : (addSubscriber subscriber manager).result = .ok (id, next)) :
    ∃ rest, (addSubscriber subscriber manager).log = .addSubscriber id subscriber :: rest := by
  obtain ⟨log, other, added, drawn, borrows⟩ := Exec.bind_returned returned
  obtain ⟨_, borrowed, _, _, initializes⟩ := Exec.bind_returned borrows
  obtain ⟨_, initialized, _, _, stores⟩ := Exec.bind_returned initializes
  obtain ⟨_, _, _, _, returns⟩ := Exec.bind_returned stores
  obtain ⟨rfl, _⟩ := Prod.mk.inj (Except.ok.inj returns)
  have logged : log = [.addSubscriber other subscriber] := by
    by_cases last : manager.subscribers.nextId = BitVec.allOnes 64
    · simp [enroll, Subscribers.add, last, Except.map] at drawn
    · simp only [enroll, Subscribers.add, last, if_false, Except.map, Outcome.mk.injEq,
        Except.ok.injEq, Prod.mk.injEq] at drawn
      rw [← drawn.1, drawn.2.1]
  rw [addSubscriber, Exec.bind_ok drawn, logged]
  exact ⟨_, rfl⟩

/-- A call that adds no more subscribers than there is room for does not overflow
the counter. -/
theorem Started.no_overflow (started : start.Started) {past : List (Observation T)}
    (reached : Reachable start past manager) (input : Input T)
    (countable : Countable (past ++ (perform input manager).log)) :
    (perform input manager).result ≠ .error .nextIdOverflow := by
  intro overflow
  obtain ⟨valid, rfl⟩ := reached.valid
  obtain ⟨checked, ended⟩ := perform_traced input (start.after past) trivial
  rw [overflow] at ended
  have counter := (started.counted_after ((along_append _ _ _).mpr ⟨valid, checked⟩)).nextId_toNat
    countable
  rw [after, replay_append, ended rfl] at counter
  change 0 = _ at counter
  omega

/-- In every run with fewer than `2 ^ 64 - 1` additions, ids are never reused and
removed subscribers stay removed, at every moment of the run, and no call
overflows the counter. The ids given out and the removals are the ones callers
see returned.

Proof: the counter is one more than the additions so far as long as these leave it room,
every registered id is below it, and an id once below it is not drawn again. -/
theorem ids_never_reused (started : start.Started) :
    (∀ history, Visited start history → Countable history → NeverReused start history) ∧
    (∀ past manager input, Reachable start past manager →
      Countable (past ++ (perform input manager).log) →
      (perform input manager).result ≠ .error .nextIdOverflow) ∧
    (∀ (manager next : EventManager kernel T) subscriber id,
      (addSubscriber subscriber manager).result = .ok (id, next) →
      ∃ rest, (addSubscriber subscriber manager).log = .addSubscriber id subscriber :: rest) ∧
    (∀ (manager next : EventManager kernel T) id subscriber,
      (removeSubscriber id manager).result = .ok (.ok subscriber, next) →
      (removeSubscriber id manager).log = [.removeSubscriber id]) := by
  refine ⟨?_, ?_, fun _ _ _ _ => addSubscriber_logged, fun _ _ _ _ => removeSubscriber_logged⟩
  · intro history visited countable
    exact started.neverReused visited.valid countable
  · intro past manager input reached countable
    exact started.no_overflow reached input countable

end Subscriber

/-- A subscriber is added, watches descriptor 5, is removed, and another is added. -/
def succession : List (Input Scripted) :=
  [.request (.addSubscriber ⟨[]⟩), .request (.eventOps ⟨1⟩ (.add (Events.newRaw 5 .IN))),
    .request (.removeSubscriber ⟨1⟩), .request (.addSubscriber ⟨[]⟩)]

/-- Subscribers are added after the first one was removed; they get other ids, and nothing
of the first one is left. -/
theorem ids_never_reused_succession :
    NeverReused fresh (performAll succession fresh).log ∧
      (finish succession fresh).Gone ⟨1⟩ := by
  have visited : Visited fresh (performAll succession fresh).log :=
    (reachable_finish (by decide)).visited (.request (.removeSubscriber ⟨1⟩))
  have held := (ids_never_reused fresh_started).1 _ visited (by decide)
  exact ⟨held, held.gone ((performAll succession fresh).log.take 3) ⟨1⟩
    ((performAll succession fresh).log.drop 4) rfl⟩

end EventManager

end EventLoop
