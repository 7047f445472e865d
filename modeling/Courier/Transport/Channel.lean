import Courier.Keyed
import Courier.Envelope
import Courier.Error
import Courier.Abort

/-!
# The channel transport

An in-process transport with one bounded first-in first-out buffer per strand. Sending never
waits: it creates the strand's buffer on first use and refuses with `bufferFull` when the
buffer holds `capacity` envelopes. Receiving takes the oldest envelope; on an empty buffer it
waits, and on a strand without a buffer it refuses with `noConnection`.

Each buffer is a bounded buffer of the runtime, asked for when it is made; the runtime aborts
the process when the capacity is above what it can make (`Channel.abortSince`).

Closing a strand's buffer (or all of them) ends the receives that wait on it once they have
taken what it had left: each buffer has a serial number, and a waiting receive remembers the
serial of the buffer it waits on, so it can tell a later buffer of the same strand from its own.
A closed buffer that a receive waits on is kept aside (`orphans`) for the waiting receives to
drain; nothing is ever added to it.

Receivers of one buffer take turns: while a receive waits on a buffer (`hold`), another
receive on it waits behind, without looking at the queue, until the first lets go
(`release`).
-/

namespace Courier

/-- The buffer of one strand. -/
structure Channel.Buffer where
  /-- Which buffer this is, among all the transport has made. -/
  serial : Nat
  /-- The waiting envelopes, oldest first. -/
  queue : List Envelope := []
  deriving Inhabited

/-- The outcome of a receive that did not fail. -/
inductive Polled where
  /-- An envelope was there. -/
  | ready (m : Envelope)
  /-- The buffer was empty; the receive waits on the buffer of that serial. -/
  | waiting (serial : Nat)
  deriving Inhabited

/-- An in-process transport of bounded per-strand buffers. -/
structure Channel where
  /-- The most envelopes a buffer holds; at least one. -/
  capacity : Nat
  /-- The open buffers, by strand. -/
  buffers : Keyed Channel.Buffer := {}
  /-- How many buffers have been made. -/
  made : Nat := 0
  /-- Serials of the buffers that a waiting receive has taken its turn on; one entry per
  waiting receive. -/
  held : List Nat := []
  /-- Closed buffers that a receive waited on when they were closed. -/
  orphans : List Channel.Buffer := []
  deriving Inhabited

namespace Channel

/-- The capacity of a transport made without one. -/
def defaultCapacity : Nat := 100

/-- An empty transport; a capacity of zero is taken as one. -/
def make (capacity : Nat) : Channel := { capacity := max 1 capacity }

/-- Puts an envelope in its strand's buffer, making the buffer if needed. -/
def send (c : Channel) (m : Envelope) : Except TransportError Channel :=
  let (buf, c) := match c.buffers.get? m.strand with
    | some b => (b, c)
    | none =>
      let b : Buffer := { serial := c.made + 1 }
      (b, { c with buffers := c.buffers.insert m.strand b, made := c.made + 1 })
  if buf.queue.length ≥ c.capacity then .error (.bufferFull m.strand)
  else .ok { c with buffers := c.buffers.insert m.strand { buf with queue := buf.queue ++ [m] } }

/-- The abort of the runtime for a transport that went from `c` to `c'`: if it asked for a
new buffer on the way, a buffer of `c'`'s capacity. -/
def abortSince (c c' : Channel) : Option Abort :=
  if c.made < c'.made then Abort.ofSlots c'.capacity else none

/-- Takes the oldest envelope of a strand, or says which buffer the receive waits on. -/
def poll (c : Channel) (strand : String) : Except TransportError (Polled × Channel) :=
  match c.buffers.get? strand with
  | none => .error (.noConnection strand)
  | some b =>
    if b.serial ∈ c.held then .ok (.waiting b.serial, c)
    else match b.queue with
      | [] => .ok (.waiting b.serial, c)
      | m :: rest => .ok (.ready m, { c with buffers := c.buffers.insert strand { b with queue := rest } })

/-- A receive takes its turn on the buffer of that serial. -/
def hold (c : Channel) (serial : Nat) : Channel := { c with held := serial :: c.held }

/-- A receive lets go of its turn on the buffer of that serial. -/
def release (c : Channel) (serial : Nat) : Channel := { c with held := c.held.erase serial }

/-- What a closed buffer of that serial has left for the receives that wait on it. -/
def leftIn (c : Channel) (serial : Nat) : List Envelope :=
  ((c.orphans.find? (·.serial == serial)).map (·.queue)).getD []

/-- A receive waiting on the closed buffer `serial` of `strand`: it takes the oldest envelope
the buffer had left, or, once none is left, is told the buffer is closed. -/
def drain (c : Channel) (strand : String) (serial : Nat) :
    Option (Except TransportError Envelope) × Channel :=
  match c.leftIn serial with
  | [] => (some (.error (.closed strand)), c)
  | m :: rest =>
    (some (.ok m), { c with orphans := c.orphans.map fun o =>
      if o.serial == serial then { o with queue := rest } else o })

/-- Where a receive waiting on buffer `serial` of `strand` stands: an envelope arrived, the
buffer was closed and has nothing left (`closed`), or it still waits (`none`). -/
def resume (c : Channel) (strand : String) (serial : Nat) :
    Option (Except TransportError Envelope) × Channel :=
  match c.buffers.get? strand with
  | some b =>
    if b.serial = serial then
      match b.queue with
      | [] => (none, c)
      | m :: rest => (some (.ok m), { c with buffers := c.buffers.insert strand { b with queue := rest } })
    else c.drain strand serial
  | none => c.drain strand serial

/-- The number of envelopes waiting in a strand's buffer. -/
def pending (c : Channel) (strand : String) : Nat :=
  match c.buffers.get? strand with
  | some b => b.queue.length
  | none => 0

/-- The buffers among `bs` that a receive waits on. -/
def waitedOn (c : Channel) (bs : List Buffer) : List Buffer := bs.filter (c.held.contains ·.serial)

/-- Closes one strand's buffer. -/
def closeStrand (c : Channel) (strand : String) : Channel :=
  { c with buffers := c.buffers.erase strand,
           orphans := c.orphans ++ c.waitedOn (c.buffers.get? strand).toList }

/-- Closes every buffer. -/
def reset (c : Channel) : Channel :=
  { c with buffers := {}, orphans := c.orphans ++ c.waitedOn c.buffers.values }

end Channel

end Courier
