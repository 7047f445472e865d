import Courier.Transport.Channel
import Courier.Transport.Datagram

/-!
# Transports

What a broker sends envelopes over: the in-process channel transport, or datagrams.
`Transport.send` hands an envelope over, `Transport.poll` tries once to take one for a
strand. Over datagrams nothing ever arrives, so a receive always waits.
-/

namespace Courier

/-- A transport of either kind. -/
inductive Transport where
  | channel (c : Channel)
  | datagram (d : Datagram)
  deriving Inhabited

namespace Transport

/-- Hands an envelope over. -/
def send (t : Transport) (m : Envelope) : Except TransportError Transport :=
  match t with
  | .channel c => .channel <$> c.send m
  | .datagram d => (fun _ => .datagram d) <$> d.send m

/-- Tries once to take an envelope for a strand. -/
def poll (t : Transport) (strand : String) : Except TransportError (Polled × Transport) :=
  match t with
  | .channel c => (fun (p, c') => (p, .channel c')) <$> c.poll strand
  | .datagram d => .ok (.waiting 0, .datagram d)

/-- The abort of the runtime for a transport that went from `t` to `t'`, if it asked for a
buffer it cannot have on the way. -/
def abortSince (t t' : Transport) : Option Abort :=
  match t, t' with
  | .channel c, .channel c' => c.abortSince c'
  | _, _ => none

/-- Whether envelopes of a strand arrive in the order they were sent. -/
def preservesOrder : Transport → Bool
  | .channel _ => true
  | .datagram _ => false

end Transport

end Courier
