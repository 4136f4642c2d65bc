import EventLoop.PanicFree

/-!
# When the kernel refuses

Any control request may fail. Adding, modifying and removing one descriptor give
up when the kernel refuses, before they touch a table, so they never part the
tables from the interest list. Dropping a subscriber does not look at the
kernel's answers: it clears the tables whatever the kernel did. A deletion of a
registered descriptor that is refused at that point leaves the kernel with an
entry nobody is dispatched for, and the next event on it stops the manager.
-/

namespace EventLoop

open Replay

namespace EventManager

variable {kernel : Kernel} {T : Type} [MutEventSubscriber T] {start : EventManager kernel T}

/-- In every run in which the deletions of registered descriptors that dropping a
subscriber asks for are granted, whatever else the kernel refuses, every entry of
the interest list is the endpoint's or is dispatched to a subscriber, at every
moment, and no event a wait can report is one nobody is registered for.

Proof: the only step that drops a dispatch entry without asking whether the kernel
agreed is the removal of a subscriber, and there agreement is what is assumed. A
reported event carries the word of a registered descriptor, which is covered. -/
theorem interest_covered_of_deletes (started : start.Started) :
    (∀ history, Visited start history → Along apply Deletes start history →
      ∀ fd, (kernel.interest (start.after history).epollContext.epoll fd).isSome →
        fd = start.channelFd ∨ ((start.after history).epollContext.fdDispatch fd).isSome) ∧
    (∀ history manager, Reachable start history manager → Along apply Deletes start history →
      ∀ milliseconds batch closures, batch.length ≤ manager.epollContext.readyEvents.length →
        (∀ event ∈ batch, kernel.Reports manager.epollContext.epoll event) →
        (perform (.run milliseconds (.ok batch) closures) manager).result ≠
          .error .unregisteredFd) := by
  constructor
  · intro history visited granted fd registered
    have covered := (started.covered_after granted).covered fd registered
    rwa [after_channelFd] at covered
  · intro history manager reached granted milliseconds batch closures fits reported stopped
    obtain ⟨valid, rfl⟩ := reached.valid
    rcases run_panic (started.consistent_after valid) (started.covered_after granted) fits reported
      stopped with impossible | ⟨impossible, _⟩
    · cases impossible
    · cases impossible

end EventManager

/-- A kernel that refuses to delete one descriptor, as when its number was closed
while a duplicate keeps the file open, and is like the reference kernel else. -/
def Kernel.keeping (stuck : RawFd) : Kernel where
  State := InterestList
  interest := InterestList.entries
  ctl list operation fd event :=
    if operation = .delete ∧ fd = stuck then (.error .EBADF, list)
    else list.ctl operation fd event
  epollEventSize := 12
  refused := by
    intro list operation fd event errno answer
    split at answer
    · rename_i kept
      rw [if_pos kept]
    · rename_i usual
      rw [if_neg usual, InterestList.ctl_refused list operation fd event errno answer]
  granted := by
    intro list operation fd event answer
    split at answer
    · cases answer
    · rename_i usual
      rw [if_neg usual]
      exact InterestList.ctl_granted list operation fd event answer

namespace EventManager

/-- A new manager on the kernel that will not delete descriptor 5. -/
def freshKeeping : EventManager (Kernel.keeping 5) Scripted where
  subscribers := .new
  epollContext :=
    { epoll := (InterestList.empty.ctl .add 3 (channelEvent 3)).2
      fdDispatch := PartialMap.empty
      subscriberWatchList := PartialMap.empty
      readyEvents := List.replicate 4 .default }
  channelFd := 3

/-- It was created like any other. -/
theorem freshKeeping_started : freshKeeping.Started := ⟨4, InterestList.empty, 3, rfl, rfl⟩

/-- A subscriber watches descriptor 5 and fails to remove it; another one watches
descriptor 6 and is dropped, which the kernel grants. -/
def refusedRemoval : List (Input Scripted) :=
  [.request (.addSubscriber ⟨[]⟩), .request (.addSubscriber ⟨[]⟩),
    .request (.eventOps ⟨1⟩ (.add (Events.newRaw 5 .IN))),
    .request (.eventOps ⟨2⟩ (.add (Events.newRaw 6 .IN))),
    .request (.eventOps ⟨1⟩ (.remove (Events.newRaw 5 .IN))),
    .request (.removeSubscriber ⟨2⟩)]

/-- The refused removal leaves descriptor 5 both registered and dispatched, the granted
one leaves descriptor 6 neither, and the next event on 5 has somebody to go to. -/
theorem interest_covered_refusedRemoval :
    (∀ fd, ((Kernel.keeping 5).interest
        (finish refusedRemoval freshKeeping).epollContext.epoll fd).isSome →
      fd = 3 ∨ ((finish refusedRemoval freshKeeping).epollContext.fdDispatch fd).isSome) ∧
    (perform (.run (-1) (.ok [(Events.newRaw 5 .IN).inner]) [])
      (finish refusedRemoval freshKeeping)).result ≠ .error .unregisteredFd := by
  have reached : Reachable freshKeeping (performAll refusedRemoval freshKeeping).log
      (finish refusedRemoval freshKeeping) := reachable_finish (by decide)
  have granted : Along apply Deletes freshKeeping (performAll refusedRemoval freshKeeping).log :=
    ⟨trivial, trivial, trivial, trivial, trivial, trivial, trivial, ⟨fun _ => rfl, trivial⟩, trivial⟩
  have covered := interest_covered_of_deletes freshKeeping_started
  refine ⟨covered.1 _ (reached.visited (.request (.removeSubscriber ⟨1⟩))) granted, ?_⟩
  refine covered.2 _ _ reached granted (-1) [(Events.newRaw 5 .IN).inner] [] (by decide) ?_
  intro event member
  obtain rfl := List.mem_singleton.mp member
  exact ⟨5, _, rfl, rfl⟩

/-- A subscriber that watches descriptor 5 is added and dropped. -/
def dropped : List (Input Scripted) :=
  [.request (.addSubscriber ⟨[]⟩), .request (.eventOps ⟨1⟩ (.add (Events.newRaw 5 .IN))),
    .request (.removeSubscriber ⟨1⟩)]

/-- The kernel keeps the entry, nobody is dispatched for it, and its next event
stops the manager. -/
theorem interest_uncovered :
    Reachable freshKeeping (performAll dropped freshKeeping).log (finish dropped freshKeeping) ∧
      ((Kernel.keeping 5).interest (finish dropped freshKeeping).epollContext.epoll 5).isSome ∧
      (5 : RawFd) ≠ (finish dropped freshKeeping).channelFd ∧
      (finish dropped freshKeeping).epollContext.fdDispatch 5 = none ∧
      (Kernel.keeping 5).Reports (finish dropped freshKeeping).epollContext.epoll
        (Events.newRaw 5 .IN).inner ∧
      (perform (.run (-1) (.ok [(Events.newRaw 5 .IN).inner]) [])
        (finish dropped freshKeeping)).result = .error .unregisteredFd := by
  exact ⟨reachable_finish (by decide), rfl, by decide, by decide, ⟨5, _, rfl, rfl⟩, rfl⟩

end EventManager

end EventLoop
