import Courier.Keyed
import Courier.Envelope
import Courier.Error
import Courier.Abort

/-!
# WebSocket endpoints

A WebSocket transport keeps, per strand, one connection: a *link* it writes envelopes to, a
*reader* that takes frames off the connection, and an *inbox* of bounded capacity where the
reader puts the envelopes of that strand. Each attachment of a connection gets a new
generation number, so that a reader or a failed write of an older connection leaves the
current one alone.

This module holds the endpoint's bookkeeping. A disconnect changes it in two sections, each
under its own lock: `unlink` drops the strand's inbox and link, then `stopReader` drops the
strand's reader, whichever it is by then. Which socket end each link and reader uses is
a number; the sockets themselves, and the running of readers, are in
`Courier.WebSocket.Loopback`.
-/

namespace Courier

namespace WebSocket

/-- A frame on a WebSocket connection. -/
inductive Frame where
  | text (s : String)
  | binary (s : String)
  | ping (data : String)
  | pong
  | close
  deriving DecidableEq, Repr, Inhabited

/-- The size of a frame's payload in bytes; pongs and close frames carry none here. A reader
checks it against its limit before it reads the frame. -/
def Frame.size : Frame → Nat
  | .text s | .binary s | .ping s => s.utf8ByteSize
  | .pong | .close => 0

/-- Whether a frame is a ping or a pong. -/
def Frame.isHeartbeat : Frame → Bool
  | .ping _ | .pong => true
  | _ => false

/-- A connection attached to a strand: its generation and socket end. -/
structure Attachment where
  /-- Which attachment of the endpoint this is. -/
  generation : Nat
  /-- The socket end it uses. -/
  socket : Nat
  deriving DecidableEq, Repr, Inhabited

/-- Envelopes received on a strand and not yet taken. -/
structure Inbox where
  /-- The attachment whose reader fills it. -/
  generation : Nat
  /-- The envelopes, oldest first. -/
  queue : List Envelope := []
  /-- Whether its reader still runs. -/
  senderOpen : Bool := true
  deriving Inhabited

/-- The default size limit of a message, one MiB: the limit of an endpoint made with
`Endpoint.make`. -/
def Endpoint.defaultMaxMessage : Nat := 1048576

/-- One WebSocket transport. -/
structure Endpoint where
  /-- The most envelopes an inbox holds; at least one. -/
  capacity : Nat
  /-- The largest frame, in bytes, that the connections it dials or accepts read; at least
  one. -/
  maxMessage : Nat := Endpoint.defaultMaxMessage
  /-- Attachments made so far. -/
  generation : Nat := 0
  /-- Links by strand. -/
  links : Keyed Attachment := {}
  /-- Running readers by strand. -/
  readers : Keyed Attachment := {}
  /-- Inboxes by strand. -/
  inboxes : Keyed Inbox := {}
  deriving Inhabited

namespace Endpoint

/-- The default inbox capacity. -/
def defaultInbox : Nat := 100

/-- An endpoint with an inbox capacity; zero is taken as one. -/
def make (inbox : Nat) : Endpoint := { capacity := max 1 inbox }

/-- An endpoint with an inbox capacity and a size limit for the frames its connections read;
zero is taken as one for both. -/
def withLimits (inbox maxMessage : Nat) : Endpoint :=
  { capacity := max 1 inbox, maxMessage := max 1 maxMessage }

/-- Attaches a connection's socket end to a strand, replacing the strand's connection.
Gives the socket end whose reader was stopped, if one was. -/
def attach (e : Endpoint) (strand : String) (socket : Nat) : Endpoint × Option Nat :=
  let g := e.generation + 1
  let a : Attachment := { generation := g, socket }
  let stopped := (e.readers.get? strand).map (·.socket)
  let e' : Endpoint := { e with
    generation := g
    links := e.links.insert strand a
    readers := e.readers.insert strand a
    inboxes := e.inboxes.insert strand { generation := g } }
  (e', stopped)

/-- The abort of the runtime when an attach asks it for an inbox of the endpoint's capacity,
if it cannot make one. -/
def attachAbort (e : Endpoint) : Option Abort := Abort.ofSlots e.capacity

/-- The first section of a disconnect, under the lock of links and inboxes: drops a strand's
inbox and link. Gives the link that was dropped. -/
def unlink (e : Endpoint) (strand : String) : Endpoint × Option Attachment :=
  ({ e with inboxes := e.inboxes.erase strand, links := e.links.erase strand },
    e.links.get? strand)

/-- The second section of a disconnect, under the lock of readers: drops the strand's reader,
whichever generation it is by now. Gives the socket end whose reader was stopped. -/
def stopReader (e : Endpoint) (strand : String) : Endpoint × Option Nat :=
  ({ e with readers := e.readers.erase strand }, (e.readers.get? strand).map (·.socket))

/-- Drops a strand's inbox, link and reader: the two sections of a disconnect, one after the
other. Gives the link that was dropped and the socket end whose reader was stopped. -/
def detach (e : Endpoint) (strand : String) : Endpoint × Option Attachment × Option Nat :=
  let first := e.unlink strand
  let second := first.1.stopReader strand
  (second.1, first.2, second.2)

/-- Drops the link of a strand if it is still that of generation `g`. -/
def dropLink (e : Endpoint) (strand : String) (g : Nat) : Endpoint :=
  match e.links.get? strand with
  | some a => if a.generation = g then { e with links := e.links.erase strand } else e
  | none => e

/-- What a reader of generation `g` leaves behind when it stops on its own: its link (if still
current) is dropped, it leaves the readers, and its inbox gets no more envelopes. -/
def readerDone (e : Endpoint) (strand : String) (g : Nat) : Endpoint :=
  let e := e.dropLink strand g
  let readers := match e.readers.get? strand with
    | some a => if a.generation = g then e.readers.erase strand else e.readers
    | none => e.readers
  let inboxes := match e.inboxes.get? strand with
    | some i => if i.generation = g then e.inboxes.insert strand { i with senderOpen := false }
      else e.inboxes
    | none => e.inboxes
  { e with readers, inboxes }

/-- Whether a strand has a link. -/
def isConnected (e : Endpoint) (strand : String) : Bool := e.links.contains strand

/-- The socket ends the endpoint holds. -/
def sockets (e : Endpoint) : List Nat :=
  e.links.values.map (·.socket) ++ e.readers.values.map (·.socket)

end Endpoint

end WebSocket

end Courier
