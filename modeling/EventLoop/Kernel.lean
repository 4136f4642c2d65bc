import EventLoop.Events
import EventLoop.Library.PartialMap

/-!
# The kernel's side of epoll

The library keeps no interest list of its own: it asks the kernel to add, modify
and delete registrations and learns only whether each request was granted. The
kernel is a parameter here. It may refuse a request for reasons the library
cannot see, and its own state may decide which, so every sequence of answers is
some kernel's. What it may not do is fixed by two laws: a refused request leaves
the interest list as it was, and a granted one changes exactly the entry of the
descriptor it names.

Further documented behaviour is stated as separate predicates, assumed only
where it is used. `reference` is a kernel that meets all of these predicates. It
refuses for fewer reasons than a real kernel, to which a descriptor must be open and
some masks are invalid; what is proved for every kernel covers those refusals too.
-/

namespace EventLoop

/-- An error number. -/
structure Errno where
  code : Int
deriving DecidableEq, Repr

namespace Errno

/-- No such entry: the descriptor is not registered. -/
def ENOENT : Errno := ⟨2⟩
/-- The wait was interrupted by a signal. -/
def EINTR : Errno := ⟨4⟩
/-- The descriptor is not open. -/
def EBADF : Errno := ⟨9⟩
/-- The operation would block: the eventfd is full, or there is nothing to read. -/
def EAGAIN : Errno := ⟨11⟩
/-- The descriptor is registered already. -/
def EEXIST : Errno := ⟨17⟩
/-- The request is not one the kernel allows. -/
def EINVAL : Errno := ⟨22⟩

end Errno

/-- Error conditions of the library's operations. -/
inductive Error where
  | channelSend
  | channelRecv
  | eventFd (errno : Errno)
  | epoll (errno : Errno)
  | fdAlreadyRegistered
  | invalidId
  | invalidCapacity
deriving DecidableEq, Repr

/-- The `epoll_ctl` requests. -/
inductive ControlOperation where
  | add
  | modify
  | delete
deriving DecidableEq, Repr

namespace ControlOperation

/-- Adding needs an absent entry, modifying and deleting a present one. -/
def Applicable : ControlOperation → Option EpollEvent → Prop
  | .add, entry => entry = none
  | .modify, entry => entry.isSome
  | .delete, entry => entry.isSome

/-- The entry a granted request leaves behind. -/
def entry : ControlOperation → EpollEvent → Option EpollEvent
  | .add, event => some event
  | .modify, event => some event
  | .delete, _ => none

end ControlOperation

/-- A kernel: its state, the interest list that state holds, and its answers to
control requests. -/
structure Kernel where
  State : Type
  /-- The entry registered for each descriptor. -/
  interest : State → RawFd → Option EpollEvent
  /-- The answer to a control request, and the state after it. -/
  ctl : State → ControlOperation → RawFd → EpollEvent → Except Errno Unit × State
  /-- Bytes of an `epoll_event` on this platform. -/
  epollEventSize : Nat
  /-- A refused request leaves the interest list as it was. -/
  refused : ∀ state operation fd event errno, (ctl state operation fd event).1 = .error errno →
    interest (ctl state operation fd event).2 = interest state
  /-- A granted request was applicable and changes only the entry it names. -/
  granted : ∀ state operation fd event, (ctl state operation fd event).1 = .ok () →
    operation.Applicable (interest state fd) ∧
      interest (ctl state operation fd event).2 =
        Function.update (interest state) fd (operation.entry event)

namespace Kernel

variable (kernel : Kernel)

/-- Deleting a registered descriptor is always granted. This is so while the number
stays open; once it is closed and a duplicate keeps the file, the entry is still
registered and its deletion fails with `EBADF`. -/
def DeletesPresent : Prop :=
  ∀ state fd event, (kernel.interest state fd).isSome →
    (kernel.ctl state .delete fd event).1 = .ok ()

/-- No request on a negative descriptor is granted. -/
def RejectsNegative : Prop :=
  ∀ state operation fd event, fd.msb = true → (kernel.ctl state operation fd event).1 ≠ .ok ()

/-- The answer to a request is the given verdict on the named descriptor's own
entry. Neither other entries nor anything else of the kernel's state matter. -/
def Answers
    (verdict : ControlOperation → RawFd → EpollEvent → Option EpollEvent → Except Errno Unit) :
    Prop :=
  ∀ state operation fd event, (kernel.ctl state operation fd event).1 =
    verdict operation fd event (kernel.interest state fd)

/-- The answer to a request depends only on the named descriptor's own entry: there is
a verdict the kernel answers by. -/
def Local : Prop := ∃ verdict, kernel.Answers verdict

/-- A wait may report the event: it carries the word some registered descriptor
was registered with. -/
def Reports (state : kernel.State) (event : EpollEvent) : Prop :=
  ∃ fd entry, kernel.interest state fd = some entry ∧ event.data = entry.data

/-- The same, and the flags are ones the registration asked for or ones that are
always reported. -/
def ReportsWithin (state : kernel.State) (event : EpollEvent) : Prop :=
  ∃ fd entry, kernel.interest state fd = some entry ∧ event.data = entry.data ∧
    event.eventSet.Within entry.eventSet

variable {kernel}

/-- The entry of a descriptor other than the named one never changes. -/
theorem interest_other (state : kernel.State) (operation : ControlOperation) (fd other : RawFd)
    (event : EpollEvent) (distinct : other ≠ fd) :
    kernel.interest (kernel.ctl state operation fd event).2 other =
      kernel.interest state other := by
  rcases answer : (kernel.ctl state operation fd event).1 with errno | granted
  · rw [kernel.refused state operation fd event errno answer]
  · obtain ⟨_, updated⟩ := kernel.granted state operation fd event answer
    rw [updated, Function.update_of_ne distinct]

/-- A granted request leaves exactly its own entry for the descriptor it names. -/
theorem interest_granted (state : kernel.State) (operation : ControlOperation) (fd : RawFd)
    (event : EpollEvent) (answer : (kernel.ctl state operation fd event).1 = .ok ()) :
    kernel.interest (kernel.ctl state operation fd event).2 fd = operation.entry event := by
  obtain ⟨_, updated⟩ := kernel.granted state operation fd event answer
  rw [updated, Function.update_self]

/-- A deletion can only shorten the interest list. -/
theorem interest_delete (state : kernel.State) (fd other : RawFd) (event : EpollEvent) :
    kernel.interest (kernel.ctl state .delete fd event).2 other = kernel.interest state other ∨
      kernel.interest (kernel.ctl state .delete fd event).2 other = none := by
  by_cases same : other = fd
  · subst same
    rcases answer : (kernel.ctl state .delete other event).1 with errno | granted
    · left
      rw [kernel.refused state .delete other event errno answer]
    · right
      exact interest_granted state .delete other event answer
  · exact Or.inl (interest_other state .delete fd other event same)

end Kernel

/-- An interest list as the kernel keeps it: no negative descriptor is registered. -/
structure InterestList where
  entries : RawFd → Option EpollEvent
  nonnegative : ∀ fd, fd.msb = true → entries fd = none

namespace InterestList

/-- The interest list of a new epoll instance. -/
def empty : InterestList := ⟨PartialMap.empty, fun _ _ => rfl⟩

/-- Replace the entry of a descriptor that is not negative. -/
def write (list : InterestList) (fd : RawFd) (entry : Option EpollEvent)
    (nonnegative : fd.msb = false) : InterestList where
  entries := Function.update list.entries fd entry
  nonnegative := by
    intro other negative
    have distinct : other ≠ fd := by
      rintro rfl
      simp [nonnegative] at negative
    rw [Function.update_of_ne distinct]
    exact list.nonnegative other negative

/-- Some of the documented answers: `EBADF` for a negative descriptor, `EEXIST` for
adding a present one, `ENOENT` for modifying or deleting an absent one. A real kernel
has further reasons to refuse, which depend on more than the interest list: `EBADF`
for a descriptor that is not open, `EINVAL` for a mask with `EPOLLEXCLUSIVE` in a
modification. -/
def ctl (list : InterestList) (operation : ControlOperation) (fd : RawFd) (event : EpollEvent) :
    Except Errno Unit × InterestList :=
  if nonnegative : fd.msb = false then
    match operation, list.entries fd with
    | .add, none => (.ok (), list.write fd (some event) nonnegative)
    | .add, some _ => (.error .EEXIST, list)
    | .modify, some _ => (.ok (), list.write fd (some event) nonnegative)
    | .delete, some _ => (.ok (), list.write fd none nonnegative)
    | .modify, none => (.error .ENOENT, list)
    | .delete, none => (.error .ENOENT, list)
  else (.error .EBADF, list)

/-- A refused request changes nothing at all. -/
theorem ctl_refused (list : InterestList) (operation : ControlOperation) (fd : RawFd)
    (event : EpollEvent) (errno : Errno) (answer : (list.ctl operation fd event).1 = .error errno) :
    (list.ctl operation fd event).2 = list := by
  by_cases nonnegative : fd.msb = false
  · cases operation <;> cases present : list.entries fd <;>
      simp_all [ctl]
  · simp [ctl, nonnegative]

/-- A granted request was applicable and wrote the entry it names. -/
theorem ctl_granted (list : InterestList) (operation : ControlOperation) (fd : RawFd)
    (event : EpollEvent) (answer : (list.ctl operation fd event).1 = .ok ()) :
    operation.Applicable (list.entries fd) ∧
      (list.ctl operation fd event).2.entries =
        Function.update list.entries fd (operation.entry event) := by
  by_cases nonnegative : fd.msb = false
  · cases operation <;> cases present : list.entries fd <;>
      simp_all [ctl, write, ControlOperation.Applicable, ControlOperation.entry]
  · simp [ctl, nonnegative] at answer

end InterestList

namespace Kernel

/-- A kernel that refuses a request for the reasons the interest list itself gives and
for no other: the kernel that witnesses are run on. -/
def reference : Kernel where
  State := InterestList
  interest := InterestList.entries
  ctl := InterestList.ctl
  epollEventSize := 12
  refused := by
    intro list operation fd event errno answer
    rw [InterestList.ctl_refused list operation fd event errno answer]
  granted := InterestList.ctl_granted

/-- A registered descriptor is not negative, so nothing stands against changing
its entry. -/
theorem reference_present (list : InterestList) (fd : RawFd) (present : (list.entries fd).isSome) :
    fd.msb = false := by
  cases negative : fd.msb with
  | false => rfl
  | true => simp [list.nonnegative fd negative] at present

/-- The reference kernel deletes what is registered. -/
theorem reference_deletesPresent : reference.DeletesPresent := by
  intro list fd event present
  have nonnegative : fd.msb = false := reference_present list fd present
  obtain ⟨entry, registered⟩ := Option.isSome_iff_exists.mp present
  change list.entries fd = some entry at registered
  simp [reference, InterestList.ctl, nonnegative, registered]

/-- It grants nothing on a negative descriptor. -/
theorem reference_rejectsNegative : reference.RejectsNegative := by
  intro list operation fd event negative
  simp [reference, InterestList.ctl, negative]

/-- The reference kernel's answer, as a function of the descriptor's own entry. -/
def documented (operation : ControlOperation) (fd : RawFd) (_event : EpollEvent)
    (entry : Option EpollEvent) : Except Errno Unit :=
  if fd.msb then .error .EBADF else
    match operation, entry with
    | .add, none => .ok ()
    | .add, some _ => .error .EEXIST
    | .modify, some _ => .ok ()
    | .delete, some _ => .ok ()
    | .modify, none => .error .ENOENT
    | .delete, none => .error .ENOENT

/-- Its answers are the verdict on the descriptor's own entry; the three requests and
the two kinds of entry are checked one by one. -/
theorem reference_answers : reference.Answers documented := by
  intro list operation fd event
  change (InterestList.ctl list operation fd event).1 =
    documented operation fd event (InterestList.entries list fd)
  by_cases nonnegative : fd.msb = false
  · cases operation <;> cases registered : InterestList.entries list fd <;>
      simp [InterestList.ctl, documented, nonnegative, registered]
  · simp [InterestList.ctl, documented, nonnegative]

/-- So they depend on nothing else. -/
theorem reference_local : reference.Local := ⟨documented, reference_answers⟩

end Kernel

end EventLoop
