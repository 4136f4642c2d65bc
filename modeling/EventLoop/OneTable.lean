import EventLoop.Isolation

/-!
# One table behind three registries

What is registered is kept three times: by the dispatch table, by the
subscribers' lists and by the kernel. A board keeps it once, as a table from
descriptors to the subscriber that owns the registration and the entry it was
registered with. Operations of the library are lookups and writes of that table;
a leaving subscriber takes its rows along.

The manager refines the board as long as its subscribers respect each other: a
run's history is one the board allows, every result and every delivery included,
and at every moment the three registries are views of the board's table.
-/

namespace EventLoop

open Replay

/-- Who registered a descriptor, and what the kernel was given for it. -/
structure Registration where
  owner : SubscriberId
  entry : EpollEvent

/-- The registered subscribers and the one table of registrations. -/
structure Board (T : Type) where
  subscribers : Subscribers T
  table : RawFd → Option Registration

namespace Board

variable {T : Type}

/-- Nobody is registered and nothing is watched. -/
def initial : Board T := ⟨.new, PartialMap.empty⟩

/-- The entry the kernel holds for a descriptor: the endpoint's own is outside the
table. -/
def entry (channelFd : RawFd) (board : Board T) (fd : RawFd) : Option EpollEvent :=
  if fd = channelFd then some (EventManager.channelEvent channelFd)
  else (board.table fd).map Registration.entry

/-- What an operation returns, from the table alone. -/
def answer (verdict : ControlOperation → RawFd → EpollEvent → Option EpollEvent → Except Errno Unit)
    (channelFd : RawFd) (board : Board T) : Operation → Except Error Unit
  | .add events =>
      if (board.table events.fd).isSome then .error .fdAlreadyRegistered
      else (verdict .add events.fd events.epollEvent (board.entry channelFd events.fd)).mapError
        .epoll
  | .modify events =>
      (verdict .modify events.fd events.epollEvent (board.entry channelFd events.fd)).mapError
        .epoll
  | .remove events =>
      (verdict .delete events.fd events.epollEvent (board.entry channelFd events.fd)).mapError
        .epoll

/-- What a successful operation writes: a new row, a new entry in an old row, or
the end of a row. -/
def write (table : RawFd → Option Registration) (id : SubscriberId) :
    Operation → RawFd → Option Registration
  | .add events => PartialMap.insert table events.fd ⟨id, events.epollEvent⟩
  | .modify events => Function.update table events.fd
      ((table events.fd).map (fun row => { row with entry := events.epollEvent }))
  | .remove events => PartialMap.erase table events.fd

/-- The rows of everybody else. -/
def without (table : RawFd → Option Registration) (id : SubscriberId) :
    RawFd → Option Registration :=
  fun fd => (table fd).filter (fun row => row.owner ≠ id)

/-- How an observation moves the board. A failed operation leaves it alone. -/
def apply (board : Board T) : Observation T → Board T
  | .operation id operation (.ok ()) => { board with table := write board.table id operation }
  | .operation _ _ (.error _) => board
  | .process _ _ => board
  | .store id subscriber => { board with subscribers := board.subscribers.write id subscriber }
  | .addSubscriber id subscriber => { board with subscribers :=
      { subscribers := PartialMap.insert board.subscribers.subscribers id subscriber
        nextId := board.subscribers.nextId + 1 } }
  | .removeSubscriber id =>
      { subscribers := (board.subscribers.remove id).2
        table := without board.table id }
  | .wait _ _ _ => board

/-- The observations a board allows: a registered subscriber operates and gets the
table's answer, an event goes to the owner of its descriptor's row, and ids come
from the counter. -/
def Allows (verdict : ControlOperation → RawFd → EpollEvent → Option EpollEvent → Except Errno Unit)
    (channelFd : RawFd) (board : Board T) : Observation T → Prop
  | .operation id operation result =>
      board.subscribers.contains id ∧ result = board.answer verdict channelFd operation
  | .process id events =>
      board.subscribers.contains id ∧ ∃ row, board.table events.fd = some row ∧ row.owner = id
  | .store id _ => board.subscribers.contains id
  | .addSubscriber id _ => id = ⟨board.subscribers.nextId⟩
  | .removeSubscriber id => board.subscribers.contains id
  | .wait _ _ _ => True

end Board

namespace EpollWrapper

variable {kernel : Kernel} (wrapper : EpollWrapper kernel) (id : SubscriberId)

/-- Lists do not depend on what the kernel holds. -/
@[simp] theorem watched_epoll (epoll : kernel.State) :
    EpollWrapper.watched { wrapper with epoll := epoll } id = wrapper.watched id := rfl

/-- Discarding a descriptor's events leaves what everybody watches. -/
@[simp] theorem removeEvent_watched (fd : RawFd) :
    (wrapper.removeEvent fd).watched id = wrapper.watched id := rfl

end EpollWrapper

/-- The manager's three registries are views of the board's table: dispatching
reads the owners, the kernel holds the entries beside the endpoint's own, and a
subscriber's list names its rows, each once. -/
structure Represents {kernel : Kernel} {T : Type} (board : Board T)
    (manager : EventManager kernel T) : Prop where
  subscribers : manager.subscribers = board.subscribers
  dispatch : ∀ fd, manager.epollContext.fdDispatch fd =
    (board.table fd).map Registration.owner
  interest : ∀ fd, kernel.interest manager.epollContext.epoll fd =
    board.entry manager.channelFd fd
  lists : ∀ id fd, fd ∈ manager.epollContext.watched id ↔
    ∃ row, board.table fd = some row ∧ row.owner = id
  once : ∀ id, (manager.epollContext.watched id).Nodup
  reserved : board.table manager.channelFd = none

namespace Represents

variable {kernel : Kernel} {T : Type} {board : Board T} {manager : EventManager kernel T}

/-- A new manager is an empty board. -/
theorem initial {start : EventManager kernel T} (started : start.Started) :
    Represents Board.initial start := by
  obtain ⟨subscribers, dispatch, lists, registered⟩ := started.shape
  constructor
  · exact subscribers
  · intro fd
    simp [dispatch, Board.initial, PartialMap.empty]
  · intro fd
    rw [registered, PartialMap.insert_apply]
    simp [Board.entry, Board.initial, PartialMap.empty]
  · intro id fd
    simp [EpollWrapper.watched, lists, Board.initial, PartialMap.empty]
  · intro id
    simp [EpollWrapper.watched, lists, PartialMap.empty]
  · rfl

/-- What an operation returns is what the table answers. -/
theorem answers {verdict : ControlOperation → RawFd → EpollEvent → Option EpollEvent →
      Except Errno Unit} (represents : Represents board manager)
    (answering : kernel.Answers verdict) (id : SubscriberId) (operation : Operation) :
    (EventOps.perform manager.epollContext id operation).1 =
      board.answer verdict manager.channelFd operation := by
  have passed : ∀ control (events : Events),
      (EventOps.ctl manager.epollContext control events).1 =
        (verdict control events.fd events.epollEvent
          (board.entry manager.channelFd events.fd)).mapError .epoll := by
    intro control events
    rw [EventOps.ctl, answering, represents.interest]
  cases operation with
  | add events =>
    simp only [EventOps.perform, Board.answer]
    rw [EventOps.add_result, passed, represents.dispatch, Option.isSome_map]
  | modify events => exact passed .modify events
  | remove events =>
    simp only [EventOps.perform, Board.answer]
    rw [EventOps.remove_result, passed]

/-- A descriptor without a row is on nobody's list. -/
theorem unlisted (represents : Represents board manager) {fd : RawFd}
    (free : board.table fd = none) (id : SubscriberId) :
    fd ∉ manager.epollContext.watched id := by
  intro listed
  obtain ⟨row, found, _⟩ := (represents.lists id fd).mp listed
  rw [free] at found
  cases found

/-- A new registration is a new row: the descriptor had none, and is not the
endpoint's, which the kernel would have refused. -/
theorem added (represents : Represents board manager) (id : SubscriberId) {events : Events}
    {epoll : kernel.State} (unclaimed : manager.epollContext.fdDispatch events.fd = none)
    (absent : kernel.interest manager.epollContext.epoll events.fd = none)
    (written : kernel.interest epoll =
      PartialMap.insert (kernel.interest manager.epollContext.epoll) events.fd
        events.epollEvent) :
    Represents { board with table := Board.write board.table id (.add events) }
      { manager with epollContext :=
          EpollWrapper.claim { manager.epollContext with epoll := epoll } id events.fd } := by
  have elsewhere : events.fd ≠ manager.channelFd := by
    intro named
    rw [represents.interest, Board.entry, if_pos named] at absent
    cases absent
  have free : board.table events.fd = none := by
    simpa [represents.dispatch] using unclaimed
  have unlisted := represents.unlisted free
  constructor
  · exact represents.subscribers
  · intro fd
    by_cases named : fd = events.fd
    · simp [Board.write, named]
    · simp [Board.write, named, represents.dispatch]
  · intro fd
    rw [EpollWrapper.claim_epoll, written, PartialMap.insert_apply, represents.interest]
    by_cases named : fd = events.fd
    · simp [Board.entry, Board.write, named, elsewhere]
    · simp [Board.entry, Board.write, named]
  · intro owner fd
    by_cases named : fd = events.fd
    · subst named
      by_cases mine : owner = id
      · simp [Board.write, mine]
      · have theirs : id ≠ owner := fun same => mine same.symm
        simpa [Board.write, mine, theirs] using unlisted owner
    · by_cases mine : owner = id
      · simpa [Board.write, mine, named] using represents.lists id fd
      · simpa [Board.write, mine, named] using represents.lists owner fd
  · intro owner
    by_cases mine : owner = id
    · have apart : ∀ fd ∈ manager.epollContext.watched id, fd ≠ events.fd := by
        rintro fd listed rfl
        exact unlisted id listed
      simpa [mine, List.nodup_append, represents.once id] using apart
    · simpa [mine] using represents.once owner
  · simp [Board.write, elsewhere.symm, represents.reserved]

/-- Modifying rewrites the entry of a row and leaves its owner. The kernel had an entry
under the descriptor, so the table has a row, and its owner is not asked about. -/
theorem modified (represents : Represents board manager) (id : SubscriberId) {events : Events}
    {epoll : kernel.State} (elsewhere : events.fd ≠ manager.channelFd)
    (present : (kernel.interest manager.epollContext.epoll events.fd).isSome)
    (written : kernel.interest epoll =
      PartialMap.insert (kernel.interest manager.epollContext.epoll) events.fd
        events.epollEvent) :
    Represents { board with table := Board.write board.table id (.modify events) }
      { manager with epollContext := { manager.epollContext with epoll := epoll } } := by
  have held : ∃ row, board.table events.fd = some row := by
    rw [represents.interest, Board.entry, if_neg elsewhere, Option.isSome_map] at present
    exact Option.isSome_iff_exists.mp present
  obtain ⟨row, found⟩ := held
  constructor
  · exact represents.subscribers
  · intro fd
    by_cases named : fd = events.fd
    · subst named
      simp [Board.write, represents.dispatch, found]
    · simp [Board.write, named, represents.dispatch]
  · intro fd
    rw [written, PartialMap.insert_apply, represents.interest]
    by_cases named : fd = events.fd
    · simp [Board.entry, Board.write, named, elsewhere, found]
    · simp [Board.entry, Board.write, named]
  · intro owner fd
    by_cases named : fd = events.fd
    · subst named
      simpa [Board.write, found] using represents.lists owner events.fd
    · simpa [Board.write, named] using represents.lists owner fd
  · exact represents.once
  · simp [Board.write, elsewhere.symm, represents.reserved]

/-- Removing one's own registration ends its row. The list loses the descriptor
altogether because it named it once. -/
theorem removed (represents : Represents board manager) {id : SubscriberId} {events : Events}
    {epoll : kernel.State} (elsewhere : events.fd ≠ manager.channelFd)
    (own : ∀ owner, manager.epollContext.fdDispatch events.fd = some owner → owner = id)
    (written : kernel.interest epoll =
      PartialMap.erase (kernel.interest manager.epollContext.epoll) events.fd) :
    Represents { board with table := Board.write board.table id (.remove events) }
      { manager with epollContext :=
          (EpollWrapper.removeEvent { manager.epollContext with epoll := epoll }
            events.fd).unwatch id events.fd } := by
  constructor
  · exact represents.subscribers
  · intro fd
    by_cases named : fd = events.fd
    · simp [Board.write, named]
    · simp [Board.write, named, represents.dispatch]
  · intro fd
    rw [EpollWrapper.unwatch_epoll, EpollWrapper.removeEvent_epoll, written,
      PartialMap.erase_apply, represents.interest]
    by_cases named : fd = events.fd
    · simp [Board.entry, Board.write, named, elsewhere]
    · simp [Board.entry, Board.write, named]
  · intro owner fd
    rw [EpollWrapper.unwatch_watched]
    by_cases named : fd = events.fd
    · subst named
      by_cases mine : owner = id
      · simpa [Board.write, mine] using (represents.once id).not_mem_erase
      · have unlisted : events.fd ∉ manager.epollContext.watched owner := by
          intro listed
          obtain ⟨row, found, rfl⟩ := (represents.lists owner events.fd).mp listed
          exact mine (own row.owner (by simp [represents.dispatch, found]))
        simpa [Board.write, mine] using unlisted
    · by_cases mine : owner = id
      · simpa [Board.write, mine, named, List.mem_erase_of_ne named] using represents.lists id fd
      · simpa [Board.write, mine, named] using represents.lists owner fd
  · intro owner
    rw [EpollWrapper.unwatch_watched]
    by_cases mine : owner = id
    · simpa [mine] using (represents.once id).erase events.fd
    · simpa [mine] using represents.once owner
  · simp [Board.write, represents.reserved]

/-- A leaving subscriber's list names its rows, so exactly these end. A row ends if its
owner leaves; the removal deletes what the list names, and the list names exactly those
rows. -/
theorem left (represents : Represents board manager) (deletes : kernel.DeletesPresent)
    (id : SubscriberId) :
    Represents (board.apply (.removeSubscriber id)) (manager.apply (.removeSubscriber id)) := by
  have gone : ∀ fd, fd ∈ manager.epollContext.watched id →
      Board.without board.table id fd = none := by
    intro fd listed
    obtain ⟨row, found, mine⟩ := (represents.lists id fd).mp listed
    simp [Board.without, found, mine]
  have kept : ∀ fd, fd ∉ manager.epollContext.watched id →
      Board.without board.table id fd = board.table fd := by
    intro fd unlisted
    cases found : board.table fd with
    | none => simp [Board.without, found]
    | some row =>
      have theirs : row.owner ≠ id := by
        intro mine
        exact unlisted ((represents.lists id fd).mpr ⟨row, found, mine⟩)
      simp [Board.without, found, theirs]
  have unlisted := represents.unlisted represents.reserved id
  constructor
  · change (manager.subscribers.remove id).2 = (board.subscribers.remove id).2
    rw [represents.subscribers]
  · intro fd
    change (manager.epollContext.remove id).fdDispatch fd =
      (Board.without board.table id fd).map Registration.owner
    rw [EpollWrapper.remove_fdDispatch]
    by_cases listed : fd ∈ manager.epollContext.watched id
    · rw [if_pos listed, gone fd listed]
      rfl
    · rw [if_neg listed, kept fd listed, represents.dispatch]
  · intro fd
    change kernel.interest (manager.epollContext.remove id).epoll fd =
      if fd = manager.channelFd then some (EventManager.channelEvent manager.channelFd)
      else (Board.without board.table id fd).map Registration.entry
    rw [EpollWrapper.remove_interest_exact _ _ _
      (EpollWrapper.deletesAll_of_deletesPresent _ deletes _)]
    by_cases listed : fd ∈ manager.epollContext.watched id
    · have elsewhere : fd ≠ manager.channelFd := by
        rintro rfl
        exact unlisted listed
      rw [if_pos listed, if_neg elsewhere, gone fd listed]
      rfl
    · rw [if_neg listed, kept fd listed, represents.interest, Board.entry]
  · intro owner fd
    change fd ∈ (manager.epollContext.remove id).watched owner ↔
      ∃ row, Board.without board.table id fd = some row ∧ row.owner = owner
    rw [EpollWrapper.remove_watched]
    by_cases mine : owner = id
    · have nothing : ∀ row, Board.without board.table id fd = some row → row.owner ≠ id := by
        intro row found
        simpa using (Option.filter_eq_some_iff.mp found).2
      simpa [mine] using nothing
    · rw [if_neg mine, represents.lists owner fd]
      constructor
      · rintro ⟨row, found, theirs⟩
        exact ⟨row, by simp [Board.without, found, theirs, mine], theirs⟩
      · rintro ⟨row, found, theirs⟩
        exact ⟨row, (Option.filter_eq_some_iff.mp found).1, theirs⟩
  · intro owner
    change ((manager.epollContext.remove id).watched owner).Nodup
    rw [EpollWrapper.remove_watched]
    by_cases mine : owner = id
    · simp [mine]
    · simpa [mine] using represents.once owner
  · change Board.without board.table id manager.channelFd = none
    rw [kept _ unlisted, represents.reserved]

/-- An operation that respects the other subscribers moves the registries as its
result moves the board. -/
theorem performed (represents : Represents board manager) {id : SubscriberId}
    {operation : Operation}
    (respects : EventOps.Respects manager.channelFd manager.epollContext id operation) :
    Represents
      (board.apply (.operation id operation
        (EventOps.perform manager.epollContext id operation).1))
      { manager with epollContext := (EventOps.perform manager.epollContext id operation).2 } := by
  have effect := EventOps.perform_performed manager.epollContext id operation
  generalize EventOps.perform manager.epollContext id operation = outcome at effect ⊢
  obtain ⟨result, next⟩ := outcome
  obtain ⟨spares, own⟩ := respects
  cases effect with
  | failed operation error epoll same =>
    exact ⟨represents.subscribers, represents.dispatch,
      fun fd => (congrFun same fd).trans (represents.interest fd), represents.lists,
      represents.once, represents.reserved⟩
  | added events epoll unclaimed absent written =>
    exact represents.added id unclaimed absent written
  | modified events epoll present written =>
    exact represents.modified id spares present written
  | removed events epoll present written =>
    refine represents.removed spares (fun owner claimed => ?_) written
    by_contra foreign
    obtain ⟨_, impossible⟩ := own owner claimed foreign
    cases impossible

/-- Every enabled observation that respects the other subscribers moves both
alike. -/
theorem apply (represents : Represents board manager) (deletes : kernel.DeletesPresent)
    {observation : Observation T} (enabled : manager.Enabled observation)
    (respectful : manager.Respectful observation) :
    Represents (board.apply observation) (manager.apply observation) := by
  cases observation with
  | operation id operation result =>
    obtain ⟨_, rfl⟩ := enabled
    exact represents.performed respectful
  | process id events => exact represents
  | store id subscriber =>
    refine { represents with subscribers := ?_ }
    change manager.subscribers.write id subscriber = board.subscribers.write id subscriber
    rw [represents.subscribers]
  | addSubscriber id subscriber =>
    refine { represents with subscribers := ?_ }
    simp only [EventManager.apply, Board.apply, represents.subscribers]
  | removeSubscriber id => exact represents.left deletes id
  | wait milliseconds maxevents response =>
    obtain ⟨epoll, dispatch, lists⟩ := EventManager.poll_tables manager.epollContext response
    constructor
    · exact represents.subscribers
    · simpa only [EventManager.apply, Board.apply, dispatch] using represents.dispatch
    · simpa only [EventManager.apply, Board.apply, epoll] using represents.interest
    · simpa only [EventManager.apply, Board.apply, EpollWrapper.watched, lists] using
        represents.lists
    · simpa only [EventManager.apply, EpollWrapper.watched, lists] using represents.once
    · exact represents.reserved

/-- What the manager can do, the board allows. By cases on the observation: what the board
asks is read off its views, and the kernel's answer is the board's. -/
theorem allows {verdict : ControlOperation → RawFd → EpollEvent → Option EpollEvent →
      Except Errno Unit} (represents : Represents board manager)
    (answering : kernel.Answers verdict) {observation : Observation T}
    (enabled : manager.Enabled observation) :
    board.Allows verdict manager.channelFd observation := by
  have registered : ∀ id, manager.Live id → board.subscribers.contains id := by
    intro id live
    rw [← represents.subscribers]
    exact live
  cases observation with
  | operation id operation result =>
    obtain ⟨live, rfl⟩ := enabled
    exact ⟨registered id live, represents.answers answering id operation⟩
  | process id events =>
    obtain ⟨live, dispatched⟩ := enabled
    rw [represents.dispatch] at dispatched
    exact ⟨registered id live, Option.map_eq_some_iff.mp dispatched⟩
  | store id subscriber => exact registered id enabled
  | addSubscriber id subscriber =>
    change id = ⟨board.subscribers.nextId⟩
    rw [← represents.subscribers]
    exact enabled
  | removeSubscriber id => exact registered id enabled
  | wait milliseconds maxevents response => trivial

end Represents

namespace EventManager

variable {kernel : Kernel} {T : Type} {start manager : EventManager kernel T}
  {history : List (Observation T)} {board : Board T}
  {verdict : ControlOperation → RawFd → EpollEvent → Option EpollEvent → Except Errno Unit}

/-- Along a history the board follows the manager. -/
theorem represents_along (deletes : kernel.DeletesPresent) (answering : kernel.Answers verdict)
    (represents : Represents board manager) (valid : manager.Valid history)
    (respectful : Along apply Respectful manager history) :
    Along Board.apply (Board.Allows verdict manager.channelFd) board history ∧
      Represents (replay Board.apply board history) (manager.after history) := by
  induction history generalizing manager board with
  | nil => exact ⟨trivial, represents⟩
  | cons observation rest inductionHypothesis =>
    obtain ⟨enabled, validRest⟩ := valid
    obtain ⟨respects, respectfulRest⟩ := respectful
    have moved := represents.apply deletes enabled respects
    obtain ⟨allowed, ended⟩ := inductionHypothesis moved validRest respectfulRest
    rw [apply_channelFd] at allowed
    exact ⟨⟨represents.allows answering enabled, allowed⟩, ended⟩

variable [MutEventSubscriber T]

/-- Up to any moment of a run whose operations all respect the dispatch table and
the endpoint, the history is one the board allows, from the empty board on, and
the three registries are views of the table the board then holds.

Proof: by induction on the history, one case for each observation: an operation that
respects table and endpoint does to the three registries what the board does to its one
table. -/
theorem refines_board (started : start.Started) (deletes : kernel.DeletesPresent)
    (answering : kernel.Answers verdict) (visited : Visited start history)
    (respectful : Along apply Respectful start history) :
    Along Board.apply (Board.Allows verdict start.channelFd) Board.initial history ∧
      Represents (replay Board.apply Board.initial history) (start.after history) :=
  represents_along deletes answering (Represents.initial started) visited.valid respectful

/-- The subscribers of the orderly run name only what is theirs. -/
theorem orderly_respectful : Along apply Respectful fresh (performAll orderly fresh).log := by
  have elsewhere : (5 : RawFd) ≠ 3 := by decide
  refine ⟨trivial, trivial, trivial, trivial, ⟨trivial, fun _ _ _ => ⟨_, rfl⟩⟩,
    ⟨trivial, fun _ _ _ => ⟨_, rfl⟩⟩, ⟨elsewhere, fun owner theirs foreign => ?_⟩, trivial⟩
  exact absurd (Option.some.inj theirs).symm foreign

/-- After the orderly run the board has one row, the first subscriber's. -/
theorem refines_board_orderly :
    (Along Board.apply (Board.Allows Kernel.documented 3) Board.initial
        (performAll orderly fresh).log ∧
      Represents (replay Board.apply Board.initial (performAll orderly fresh).log)
        (fresh.after (performAll orderly fresh).log)) ∧
      (replay Board.apply Board.initial (performAll orderly fresh).log).table 6 =
        some ⟨⟨1⟩, (Events.newRaw 6 .IN).epollEvent⟩ ∧
      (replay Board.apply Board.initial (performAll orderly fresh).log).table 5 = none :=
  ⟨refines_board fresh_started Kernel.reference_deletesPresent Kernel.reference_answers
    orderly_visited orderly_respectful, rfl, rfl⟩

end EventManager

end EventLoop
