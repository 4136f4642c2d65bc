import EventLoop.Capacity
import EventLoop.Deregistration
import EventLoop.Scratch
import EventLoop.Counting
import EventLoop.Superseding
import EventLoop.Delivery
import EventLoop.Identity
import EventLoop.PanicFree
import EventLoop.Isolation
import EventLoop.Divergence
import EventLoop.Routing
import EventLoop.Noninterference
import EventLoop.Wakeup
import EventLoop.Replies
import EventLoop.Remote
import EventLoop.DrainOrder
import EventLoop.FireTree
import EventLoop.Faults
import EventLoop.Stranding
import EventLoop.Library.Exhaustion
import EventLoop.Settling
import EventLoop.Library.Fairness
import EventLoop.Liveness
import EventLoop.OneTable
import EventLoop.Library.Attempt
import EventLoop.UnwindSafety
import EventLoop.Counters
import EventLoop.Wrappers
import EventLoop.Transparency
import EventLoop.Recovery
import EventLoop.Closing
