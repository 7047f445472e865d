import Courier.Bench.Request
import Courier.Bench.Encode
import Courier.Transport.Datagram
import Courier.Net.Resolve

/-!
# Datagram sessions

A datagram session makes one datagram transport, either sending to itself or bound to a given
address and sending to a second, plain socket, and runs a list of steps against it. On this
host no datagram gets through (`Datagram.Socket.unrouted`), so a receive waits its 300 ms and
answers `timeout`, and so does relaying what the plain socket got.
-/

namespace Courier

namespace Bench

/-- Answers what a read of datagrams gave. -/
def readJson : Except TransportError Envelope → Json
  | .ok m => obj [("msg", envelopeJson m)]
  | .error e => transportErrorJson e

/-- One step of a datagram session; `bound` tells whether the transport sends to the plain
socket. -/
def datagramStep (d : Datagram) (bound : Bool) (j : Json) : Json :=
  let r : Fallible Json := do
    match ← reqString j "do" with
    | "send" =>
      let m ← reqEnvelope j
      match d.send m with
      | .ok () => pure okAnswer
      | .error e => pure (transportErrorJson e)
    | "send_raw" =>
      let _ ← reqString j "text"
      throw Datagram.unreachable
    | "receive" =>
      let strand ← reqString j "strand"
      pure ((Datagram.receive .unrouted strand).1.elim timeoutAnswer readJson)
    | "relay" => pure timeoutAnswer
    | "preserves_order" => pure (obj [("preserves_order", .bool false)])
    | "peer_is_raw" => pure (obj [("peer_is_raw", .bool bound)])
    | other => throw ("unknown step " ++ other)
  match r with
  | .ok a => a
  | .error why => badInput why

/-- Runs a datagram session. -/
def datagramSession (j : Json) : Fallible Json := do
  let steps ← steps j
  let limit ← natOr j "max_datagram" Datagram.defaultLimit
  let bound ← match ← stringOr j "mode" "self" with
    | "self" => pure false
    | "bind" => pure true
    | other => throw ("unknown mode " ++ other)
  if bound then
    let address ← stringOr j "bind" "127.0.0.1:0"
    if let some why := SocketAddr.unresolvable address then
      return transportErrorJson (.io why)
  let d := Datagram.make limit
  pure (obj [("steps", .arr (steps.map (datagramStep d bound)))])

end Bench

end Courier
