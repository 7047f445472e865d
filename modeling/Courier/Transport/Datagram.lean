import Courier.Envelope.Decode
import Courier.Error

/-!
# The datagram transport

One datagram per envelope, holding its wire form. A datagram longer than the limit is refused
before anything is sent; the limit is clamped to `1 ..= 65536`.

The transport works over a socket of the system (`Datagram.Socket`): the system lets a datagram
go out or refuses it with a report, and datagrams arrive at the socket to be read in order. A
datagram is a string of bytes. Its envelope is read from its text; bytes that are not UTF-8 hold
no envelope, and the reader refuses them as an invalid code point (`Datagram.notText`; the
system's reader adds where it noticed them, which is left out here). Reading for a strand drops
the datagrams that hold an envelope of another strand; the first datagram that holds no envelope
at all, or one of the strand, ends the read with the reader's error or that envelope. When no
such datagram has arrived, the read has taken every datagram and waits for more.

The host this library runs on has no network route, not even to itself
(`Datagram.Socket.unrouted`): the system refuses every datagram that passes the size check with
"Network is unreachable", and nothing ever arrives, so a receive waits until its caller gives up.
-/

namespace Courier

/-- A datagram transport. -/
structure Datagram where
  /-- The largest datagram sent, in bytes. -/
  limit : Nat
  deriving Inhabited

namespace Datagram

/-- A socket as the system runs it. -/
structure Socket where
  /-- What the system does with a datagram handed to it: `none` when it goes out, else the
  report of its refusal. -/
  refusal : ByteArray → Option String
  /-- The datagrams gone out, oldest first. -/
  sent : List ByteArray := []
  /-- The datagrams arrived and not yet read, oldest first. -/
  arrived : List ByteArray := []
  deriving Inhabited

/-- The default limit, which fits a typical Ethernet frame. -/
def defaultLimit : Nat := 1400

/-- The largest datagram a socket hands over. -/
def largest : Nat := 65536

/-- The system's report for a send without a route. -/
def unreachable : String := "Network is unreachable (os error 101)"

/-- The socket of a host without a network route: every datagram is refused, none arrives. -/
def Socket.unrouted : Socket := { refusal := fun _ => some unreachable }

/-- A transport with a limit clamped to `1 ..= 65536`. -/
def make (limit : Nat) : Datagram := { limit := min largest (max 1 limit) }

/-- Sends the envelope's wire form as one datagram over a socket. -/
def transmit (d : Datagram) (sock : Socket) (m : Envelope) : Except TransportError Unit × Socket :=
  let data := m.encode.toUTF8
  let size := data.size
  if size > d.limit then (.error (.packetTooLarge size d.limit), sock)
  else (sock.refusal data).elim (.ok (), { sock with sent := sock.sent ++ [data] })
    fun r => (.error (.io r), sock)

/-- Sends the envelope's wire form as one datagram from this host. -/
def send (d : Datagram) (m : Envelope) : Except TransportError Unit :=
  (d.transmit Socket.unrouted m).1

/-- The reader's report for bytes that are not UTF-8. -/
def notText : String := "invalid unicode code point"

/-- What a datagram holds: the envelope its text reads as, or the reader's error. -/
def read (data : ByteArray) : Except TransportError Envelope :=
  match String.fromUTF8? data with
  | some text => (Envelope.decode text).mapError fun e => .serialization e.message
  | none => .error (.serialization notText)

/-- Whether a datagram ends a read for a strand: it holds no envelope, or one of the strand. -/
def ends (strand : String) (data : ByteArray) : Bool :=
  (read data).toOption.all (·.strand = strand)

/-- Reads the arrived datagrams for a strand: drops those that do not end the read, and takes
and reads the first that does. `none` when none does: every datagram is taken, and the read
waits. -/
def receive (sock : Socket) (strand : String) : Option (Except TransportError Envelope) × Socket :=
  let rest := sock.arrived.dropWhile fun data => !ends strand data
  (rest.head?.map read, { sock with arrived := rest.tail })

end Datagram

end Courier
