import Mathlib.Data.BitVec

/-!
# Epoll events and the fd and data packed into them

The kernel keeps one opaque 64-bit word with every registration and hands it
back with every report. The library uses the low half of that word for the file
descriptor and the high half for the subscriber's own data. `Events` wraps the
kernel's record; its constructor packs the two halves by addition and its
accessors cut them apart again.

A raw file descriptor is a signed 32-bit number, kept here as its bits. The
conversion to the unsigned 64-bit word extends its sign, so the halves come
apart as they were put together only for descriptors that are not negative.
The addition is the wrapping one; a build that checks for overflow stops
instead, and does so only for negative descriptors.
-/

namespace EventLoop

/-- A raw file descriptor, as the bits of an `i32`. -/
abbrev RawFd := BitVec 32

/-- Descriptors are compared as integers. -/
instance RawFd.decidableMem (fd : RawFd) (fds : List RawFd) : Decidable (fd ∈ fds) :=
  inferInstance

/-- A set of epoll event flags. -/
abbrev EventSet := BitVec 32

namespace EventSet

/-- The associated file descriptor is available for read operations. -/
def IN : EventSet := 0x001#32

/-- The associated file descriptor is available for write operations. -/
def OUT : EventSet := 0x004#32

/-- Error condition, reported whether or not it was asked for. -/
def ERROR : EventSet := 0x008#32

/-- Hang up, reported whether or not it was asked for. -/
def HANG_UP : EventSet := 0x010#32

/-- Every flag of `flags` is one the mask asks for, or one that is always reported. -/
def Within (flags mask : EventSet) : Prop := flags &&& ~~~(mask ||| ERROR ||| HANG_UP) = 0

/-- Whether flags are within a mask is computed. -/
instance (flags mask : EventSet) : Decidable (Within flags mask) :=
  inferInstanceAs (Decidable (_ = _))

/-- What is reported for a descriptor that asks for `IN` alone, and that neither fails nor
hangs up, is `IN`: no other bit is left, and some bit is set. -/
theorem eq_in {flags : EventSet} (within : flags.Within .IN)
    (plain : flags &&& (ERROR ||| HANG_UP) = 0) (present : flags ≠ 0) : flags = .IN := by
  have only : ∀ index, flags.getLsbD index = true → index = 0 := by
    intro index set
    have inside : index < 32 := BitVec.lt_of_getLsbD set
    have asked := congrArg (BitVec.getLsbD · index) within
    have free := congrArg (BitVec.getLsbD · index) plain
    simp only [BitVec.getLsbD_and, BitVec.getLsbD_or, BitVec.getLsbD_not, set, inside,
      BitVec.ofNat_eq_ofNat, BitVec.getLsbD_zero, Bool.true_and, decide_true,
      Bool.not_eq_false', Bool.or_eq_true, Bool.or_eq_false_iff] at asked free
    simpa [free.1, free.2, IN, BitVec.getLsbD_one] using asked
  have lowest : flags.getLsbD 0 = true := by
    by_contra clear
    refine present (BitVec.eq_of_getLsbD_eq (fun index _ => ?_))
    rw [BitVec.ofNat_eq_ofNat, BitVec.getLsbD_zero]
    by_contra set
    have set : flags.getLsbD index = true := by simpa using set
    rw [only index set] at set
    exact clear set
  refine BitVec.eq_of_getLsbD_eq (fun index inside => ?_)
  by_cases zero : index = 0
  · rw [zero, lowest]
    rfl
  · have clear : flags.getLsbD index = false := by
      by_contra set
      exact zero (only index (by simpa using set))
    rw [clear]
    simp [IN, BitVec.getLsbD_one, zero]
end EventSet

/-- The kernel's `epoll_event`: the flags, and the word registered with them. -/
structure EpollEvent where
  events : EventSet
  data : BitVec 64
deriving DecidableEq, Repr

namespace EpollEvent

/-- The all-zero event, with which the ready buffer is filled. -/
def default : EpollEvent := ⟨0, 0⟩

/-- The flags. The source converts the raw bits and relies on the kernel to
report no unknown flag. -/
def eventSet (event : EpollEvent) : EventSet := event.events

/-- The low half of the word, read as a file descriptor. -/
def fd (event : EpollEvent) : RawFd := event.data.setWidth 32

end EpollEvent

/-- An event as subscribers see it. -/
structure Events where
  inner : EpollEvent
deriving DecidableEq, Repr

/-- Objects that wrap a file descriptor. -/
class AsRawFd (S : Type) where
  asRawFd : S → RawFd

namespace Events

/-- The event as it came from the kernel, as a subscriber receives it. -/
def withInner (inner : EpollEvent) : Events := ⟨inner⟩

/-- Pack the data into the high half and add the sign-extended descriptor. -/
def withDataRaw (source : RawFd) (data : BitVec 32) (events : EventSet) : Events :=
  ⟨⟨events, (data.setWidth 64 <<< 32) + source.signExtend 64⟩⟩

/-- Events of a raw descriptor, with no data. -/
def newRaw (source : RawFd) (events : EventSet) : Events := withDataRaw source 0 events

/-- No events of a raw descriptor, which is enough to name it. -/
def emptyRaw (fd : RawFd) : Events := newRaw fd 0

/-- Events of whatever has a descriptor, with data. -/
def withData {S : Type} [AsRawFd S] (source : S) (data : BitVec 32) (events : EventSet) : Events :=
  withDataRaw (AsRawFd.asRawFd source) data events

/-- Events of whatever has a descriptor, with no data. -/
def new {S : Type} [AsRawFd S] (source : S) (events : EventSet) : Events :=
  newRaw (AsRawFd.asRawFd source) events

/-- No events of whatever has a descriptor. -/
def empty {S : Type} [AsRawFd S] (source : S) : Events := emptyRaw (AsRawFd.asRawFd source)

/-- The low half of the inner word, truncated to a descriptor. -/
def fd (events : Events) : RawFd := events.inner.data.setWidth 32

/-- The high half of the inner word. -/
def data (events : Events) : BitVec 32 := (events.inner.data >>> 32).setWidth 32

/-- The flags. -/
def eventSet (events : Events) : EventSet := events.inner.eventSet

/-- What is handed to the kernel. -/
def epollEvent (events : Events) : EpollEvent := events.inner

/-- The source's equality of events, which compares what the accessors return. -/
def eq (first second : Events) : Bool :=
  first.fd = second.fd && first.data = second.data && first.eventSet = second.eventSet

/-- Moving the data into the high half loses none of its bits. -/
theorem shifted_data (data : BitVec 32) :
    (data.setWidth 64 <<< 32).toNat = data.toNat * 2 ^ 32 := by
  have bound := data.isLt
  rw [BitVec.toNat_shiftLeft, BitVec.toNat_setWidth, Nat.shiftLeft_eq]
  omega

/-- The conversion to an unsigned word adds nothing to a descriptor that is not
negative, and fills the high half under a negative one. -/
theorem extended_source (source : RawFd) :
    (source.signExtend 64).toNat = source.toNat + if source.msb then 2 ^ 64 - 2 ^ 32 else 0 := by
  have bound := source.isLt
  have widened : source.toNat % 2 ^ 64 = source.toNat := Nat.mod_eq_of_lt (by omega)
  rw [BitVec.toNat_signExtend, BitVec.toNat_setWidth, widened]

/-- The shifted data has no low half, so any descriptor is read back, whatever
its sign. -/
theorem fd_withDataRaw (source : RawFd) (data : BitVec 32) (events : EventSet) :
    (withDataRaw source data events).fd = source := by
  have bound := source.isLt
  apply BitVec.eq_of_toNat_eq
  simp only [fd, withDataRaw, BitVec.toNat_setWidth, BitVec.toNat_add, shifted_data,
    extended_source]
  split
  · omega
  · omega

/-- What the high half holds in the end: the data, and one less of it under a
negative descriptor. -/
theorem data_withDataRaw_eq (source : RawFd) (data : BitVec 32) (events : EventSet) :
    (withDataRaw source data events).data = if source.msb then data - 1 else data := by
  have dataBound := data.isLt
  have sourceBound := source.isLt
  apply BitVec.eq_of_toNat_eq
  simp only [Events.data, withDataRaw, BitVec.toNat_setWidth, BitVec.toNat_ushiftRight,
    BitVec.toNat_add, shifted_data, extended_source, Nat.shiftRight_eq_div_pow]
  split
  · rw [BitVec.toNat_sub]
    change _ = (2 ^ 32 - 1 + data.toNat) % 2 ^ 32
    omega
  · omega

/-- A descriptor that is not negative leaves the high half to the data alone. -/
theorem data_withDataRaw (source : RawFd) (data : BitVec 32) (events : EventSet)
    (nonnegative : source.msb = false) : (withDataRaw source data events).data = data := by
  simp [data_withDataRaw_eq, nonnegative]

/-- Under a negative descriptor the data never comes back. -/
theorem data_withDataRaw_negative (source : RawFd) (data : BitVec 32) (events : EventSet)
    (negative : source.msb = true) : (withDataRaw source data events).data ≠ data := by
  have bound := data.isLt
  rw [data_withDataRaw_eq, if_pos negative]
  intro same
  have values := congrArg BitVec.toNat same
  rw [BitVec.toNat_sub] at values
  change (2 ^ 32 - 1 + data.toNat) % 2 ^ 32 = data.toNat at values
  omega

/-- The addition in the constructor goes past the end of the word. -/
def packingOverflows (source : RawFd) (data : BitVec 32) : Bool :=
  BitVec.uaddOverflow (data.setWidth 64 <<< 32) (source.signExtend 64)

/-- The two halves of a word with nothing carried between them fit into it. -/
theorem packingOverflows_nonnegative (source : RawFd) (data : BitVec 32)
    (nonnegative : source.msb = false) : packingOverflows source data = false := by
  have dataBound := data.isLt
  have sourceBound := source.isLt
  have extended : (source.signExtend 64).toNat = source.toNat := by
    simp [extended_source, nonnegative]
  simp only [packingOverflows, BitVec.uaddOverflow, shifted_data, extended, decide_eq_false_iff_not]
  omega

/-- The word is its own two halves. -/
theorem halves (word : BitVec 64) :
    word.toNat = (word >>> 32).toNat * 2 ^ 32 + (word.setWidth 32).toNat := by
  rw [BitVec.toNat_setWidth, BitVec.toNat_ushiftRight, Nat.shiftRight_eq_div_pow]
  omega

/-- Packing and unpacking with these arguments are inverse: nothing overflows, and
the accessors return what the constructors were given. -/
structure Packs (source : RawFd) (data : BitVec 32) (events : EventSet) : Prop where
  inRange : packingOverflows source data = false
  sourceBack : (withDataRaw source data events).fd = source
  dataBack : (withDataRaw source data events).data = data
  eventsBack : (withDataRaw source data events).eventSet = events
  plain : (newRaw source events).fd = source ∧ (newRaw source events).data = 0 ∧
    (newRaw source events).eventSet = events
  bare : (emptyRaw source).fd = source ∧ (emptyRaw source).data = 0 ∧
    (emptyRaw source).eventSet = 0

/-- Descriptor and data are recovered exactly from descriptors that are not negative: the
cast of a negative one extends its sign over the data. -/
theorem packs_iff (source : RawFd) (data : BitVec 32) (events : EventSet) :
    Packs source data events ↔ source.msb = false := by
  constructor
  · intro packs
    by_contra positive
    have negative : source.msb = true := by simpa using positive
    exact data_withDataRaw_negative source data events negative packs.dataBack
  · intro nonnegative
    constructor
    · exact packingOverflows_nonnegative source data nonnegative
    · exact fd_withDataRaw source data events
    · exact data_withDataRaw source data events nonnegative
    · rfl
    · exact ⟨fd_withDataRaw _ _ _, data_withDataRaw _ _ _ nonnegative, rfl⟩
    · exact ⟨fd_withDataRaw _ _ _, data_withDataRaw _ _ _ nonnegative, rfl⟩

/-- An event is put together again from its parts exactly when its descriptor is
not negative. -/
theorem repack_iff (word : BitVec 64) (mask : EventSet) :
    (withDataRaw (withInner ⟨mask, word⟩).fd (withInner ⟨mask, word⟩).data mask).inner.data = word ↔
      word.getLsbD 31 = false := by
  have sign : (withInner ⟨mask, word⟩).fd.msb = word.getLsbD 31 := by
    simp [fd, withInner, BitVec.msb_setWidth]
  constructor
  · intro repacked
    by_contra positive
    have negative : (withInner ⟨mask, word⟩).fd.msb = true := by simpa [sign] using positive
    have same : (withDataRaw (withInner ⟨mask, word⟩).fd (withInner ⟨mask, word⟩).data mask).data =
        (withInner ⟨mask, word⟩).data := by
      rw [Events.data, repacked]
      rfl
    exact data_withDataRaw_negative _ _ _ negative same
  · intro clear
    have nonnegative : (withInner ⟨mask, word⟩).fd.msb = false := sign.trans clear
    have highBound : (word >>> 32).toNat < 2 ^ 32 := by
      rw [BitVec.toNat_ushiftRight, Nat.shiftRight_eq_div_pow]
      omega
    apply BitVec.eq_of_toNat_eq
    rw [halves word]
    simp only [withDataRaw, BitVec.toNat_add, shifted_data, extended_source, nonnegative,
      Bool.false_eq_true, if_false]
    simp only [Events.fd, Events.data, withInner, BitVec.toNat_setWidth]
    omega

/-- Comparing events compares all of them: the two halves determine the word. -/
theorem eq_iff (first second : Events) :
    first.eq second = true ↔
      first.inner.data = second.inner.data ∧ first.inner.events = second.inner.events := by
  constructor
  · intro equal
    simp only [Events.eq, Bool.and_eq_true, decide_eq_true_eq] at equal
    obtain ⟨⟨sameFd, sameData⟩, sameSet⟩ := equal
    refine ⟨?_, sameSet⟩
    have low := congrArg BitVec.toNat sameFd
    have high := congrArg BitVec.toNat sameData
    simp only [fd, data, BitVec.toNat_setWidth, BitVec.toNat_ushiftRight,
      Nat.shiftRight_eq_div_pow] at low high
    apply BitVec.eq_of_toNat_eq
    omega
  · rintro ⟨sameWord, sameMask⟩
    simp [Events.eq, fd, data, eventSet, EpollEvent.eventSet, sameWord, sameMask]

/-- Over the whole domain of the constructors, packing is inverted by the accessors
exactly for descriptors that are not negative; over all words, unpacking is
inverted by packing exactly when the low half is a descriptor that is not
negative; and two events compare equal exactly when word and mask are equal.

Proof: the three parts are three lemmas about words. The descriptor is the low half; its
sign, extended by the cast, is what the data in the high half is added to. -/
theorem packing_inverse_iff (source : RawFd) (data : BitVec 32) (events : EventSet)
    (word : BitVec 64) (mask : EventSet) (first second : Events) :
    (Packs source data events ↔ source.msb = false) ∧
      ((withDataRaw (withInner ⟨mask, word⟩).fd (withInner ⟨mask, word⟩).data
        mask).inner.data = word ↔ word.getLsbD 31 = false) ∧
      (first.eq second = true ↔
        first.inner.data = second.inner.data ∧ first.inner.events = second.inner.events) :=
  ⟨packs_iff source data events, repack_iff word mask, eq_iff first second⟩

/-- The data 7 packed with descriptor -1 overflows, and wrapped around is read back
as 6; the default data is read back as the largest. -/
theorem packing_negative :
    packingOverflows (-1) 7 = true ∧ (withDataRaw (-1) 7 .IN).data = 6 ∧
      (newRaw (-1) .IN).data = BitVec.allOnes 32 ∧ ¬ Packs (-1) 7 .IN := by
  have overflows : packingOverflows (-1) 7 = true := by decide
  refine ⟨overflows, by decide, by decide, fun packs => ?_⟩
  rw [packs.inRange] at overflows
  cases overflows

end Events

end EventLoop
