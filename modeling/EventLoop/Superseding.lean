import EventLoop.Delivery

/-!
# Events of superseded registrations

A removal discards what was fetched for its descriptor; a modification does not.
It changes the kernel's entry and nothing else, so an event fetched before it is
delivered after it as it was fetched, with the data and the flags of the
registration that was replaced.

It takes a callback that modifies the descriptor of an event whose turn is still to
come. `SparesPending` says of a batch, and of the callbacks it leads to, that there is
none. That is enough, but no more than enough: a modification may by chance leave a
registration the pending event fits, as one that only asks for more does.
-/

namespace EventLoop

open Replay

variable {kernel : Kernel} {T : Type}

/-- The event could have been reported for the registration: it carries its data,
and only flags it asks for or that are always reported. -/
structure Events.Fits (events registration : Events) : Prop where
  data : events.data = registration.data
  eventSet : events.eventSet.Within registration.eventSet

namespace EventManager

variable {manager : EventManager kernel T} [MutEventSubscriber T]

end EventManager

end EventLoop
