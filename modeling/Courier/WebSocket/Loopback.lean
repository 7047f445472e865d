import Courier.WebSocket.Endpoint
import Courier.Envelope.Decode
import Courier.Strand

/-!
# A loopback of WebSocket connections

Two endpoints, the server and the client, and plain WebSocket ends (*raw links*), joined by
socket pairs on one host. A socket pair has two ends; the ends are numbered so that `2 i` and
`2 i + 1` belong together. Each end holds the frames written by its peer and not yet read, and
whether it is still open. An end closes once nothing holds it: no link, no reader, no raw
link, and no stopped reader that has yet to wind down.

Writing on an end whose peer has closed fails at once with a broken pipe. Reading an end
whose frames are all read and whose peer has closed finds the end of the stream.

Each end reads frames up to a size limit set when its connection was made: its endpoint's
limit for a connection dialed or accepted (`Loopback.link`), sixteen MiB for one made by a
plain handshake.

Readers run only while the session waits (`Loopback.settle`): then every reader takes frames
until its inbox is full, its stream ends, or no frame is left. A reader passes on the
envelopes of its strand and drops other frames: envelopes of other strands, texts that are no
envelope, pings and pongs. A close frame or the end of the stream stops it, and so does a read
error: a frame above the size limit, or a ping it cannot answer.
-/

namespace Courier

namespace WebSocket

/-- The largest frame, in bytes, that an end of a connection made by a plain handshake reads:
sixteen MiB. -/
def plainFrameLimit : Nat := 16777216

/-- The largest payload, in bytes, of a ping that a reader takes. -/
def controlLimit : Nat := 125

/-- One end of a socket pair. -/
structure SocketEnd where
  /-- Frames written by the peer and not yet read. -/
  incoming : List Frame := []
  /-- Whether the end is open. -/
  isOpen : Bool := true
  /-- The largest frame, in bytes, that this end reads, as its handshake set it. -/
  maxFrame : Nat := plainFrameLimit
  deriving Inhabited

/-- Where a plain WebSocket end stands in the closing handshake. -/
inductive Handshake where
  /-- No close frame sent or read. -/
  | active
  /-- A close frame sent, none read yet. -/
  | closedByUs
  /-- A close frame read before one was sent. -/
  | closedByPeer
  /-- A close frame sent and the answer read. -/
  | acknowledged
  /-- The connection is over: its stream ended before the handshake was done. -/
  | terminated
  deriving DecidableEq, Repr, Inhabited

/-- A plain WebSocket end driven by hand. -/
structure RawLink where
  /-- Its socket end. -/
  socket : Nat
  /-- Where it stands in the closing handshake. -/
  state : Handshake := .active
  /-- Whether it owes the peer a close frame answering the peer's. -/
  replyDue : Bool := false
  /-- Whether a write failed and its bytes still wait to go out. -/
  unsent : Bool := false
  /-- Whether its stream has given its last item. -/
  ended : Bool := false
  deriving Inhabited

/-- The two sides of a loopback. -/
inductive Side where
  | server
  | client
  deriving DecidableEq, Repr, Inhabited

/-- Endpoints and raw links joined by socket pairs. -/
structure Loopback where
  /-- Socket ends, by number. -/
  ends : List SocketEnd := []
  /-- The server endpoint; `none` once dropped. -/
  server : Option Endpoint
  /-- The client endpoint; `none` once dropped. -/
  client : Option Endpoint
  /-- Raw links by name. -/
  raws : Keyed RawLink := {}
  /-- Socket ends held by stopped readers that have not wound down yet. -/
  lingering : List Nat := []
  deriving Inhabited

namespace Loopback

/-- The report of a write on an end whose peer has closed. -/
def brokenPipe : String := "IO error: Broken pipe (os error 32)"

/-- The other end of a socket pair. -/
def peerOf (k : Nat) : Nat := if k % 2 = 0 then k + 1 else k - 1

/-- A socket end. -/
def socketEnd (w : Loopback) (k : Nat) : SocketEnd := w.ends.getD k {}

/-- Whether a socket end is open. -/
def isOpenEnd (w : Loopback) (k : Nat) : Bool := k < w.ends.length && (w.socketEnd k).isOpen

/-- Changes one socket end. -/
def modifyEnd (w : Loopback) (k : Nat) (f : SocketEnd → SocketEnd) : Loopback :=
  { w with ends := w.ends.modify k f }

/-- An endpoint. -/
def endpoint (w : Loopback) : Side → Option Endpoint
  | .server => w.server
  | .client => w.client

/-- Replaces an endpoint. -/
def setEndpoint (w : Loopback) (side : Side) (e : Option Endpoint) : Loopback :=
  match side with
  | .server => { w with server := e }
  | .client => { w with client := e }

/-- Whether anything holds a socket end. -/
def held (w : Loopback) (k : Nat) : Bool :=
  let byEndpoint (e : Option Endpoint) := match e with
    | some e => e.sockets.contains k
    | none => false
  byEndpoint w.server || byEndpoint w.client || w.raws.values.any (·.socket == k) ||
    w.lingering.contains k

/-- Closes every end that nothing holds. -/
def closeLoose (w : Loopback) : Loopback :=
  { w with ends := w.ends.mapIdx fun k e => { e with isOpen := e.isOpen && w.held k } }

/-- Makes a new socket pair whose ends read frames of at most `first` and `second` bytes;
gives its two end numbers. -/
def newPair (w : Loopback) (first second : Nat) : Loopback × Nat × Nat :=
  let k := w.ends.length
  ({ w with ends := w.ends ++ [{ maxFrame := first }, { maxFrame := second }] }, k, k + 1)

/-- Writes a frame on an end: it goes to the peer, or fails when the peer has closed. -/
def write (w : Loopback) (k : Nat) (f : Frame) : Except String Loopback :=
  let p := peerOf k
  if w.isOpenEnd p then .ok (w.modifyEnd p fun e => { e with incoming := e.incoming ++ [f] })
  else .error brokenPipe

/-- How far a reader got: it waits for more, or its stream has ended. -/
inductive ReadOutcome where
  | waiting
  | stopped
  deriving DecidableEq

/-- Runs the reader of `strand` (generation `g`) of an endpoint over the frames at its end,
which reads frames of at most `maxFrame` bytes. Gives the endpoint, the frames left and how it
ended. A frame above the size limit, or a ping above `controlLimit`, is a read error that ends
the stream, and so is a ping once the peer has closed, since its answer cannot be written. -/
def readFrames (strand : String) (g : Nat) (peerOpen : Bool) (maxFrame : Nat) :
    Endpoint → List Frame → Endpoint × List Frame × ReadOutcome
  | e, [] => (e, [], if peerOpen then .waiting else .stopped)
  | e, f :: rest =>
    -- the size of a frame is checked on its header, before anything else is read
    if maxFrame < f.size then (e, rest, .stopped)
    else match f with
    | .close => (e, rest, .stopped)
    | .ping d =>
      if peerOpen && d.utf8ByteSize ≤ controlLimit then readFrames strand g peerOpen maxFrame e rest
      else (e, rest, .stopped)
    | .pong => readFrames strand g peerOpen maxFrame e rest
    | .text s | .binary s =>
      match Envelope.decode s with
      | .ok m =>
        if m.strand ≠ strand then readFrames strand g peerOpen maxFrame e rest
        else match e.inboxes.get? strand with
          | some i =>
            if i.generation ≠ g then (e, rest, .stopped)
            else if i.queue.length ≥ e.capacity then (e, f :: rest, .waiting)
            else
              let e := { e with inboxes := e.inboxes.insert strand { i with queue := i.queue ++ [m] } }
              readFrames strand g peerOpen maxFrame e rest
          | none => (e, rest, .stopped)
      | .error _ => readFrames strand g peerOpen maxFrame e rest

/-- Runs every reader of one side once over what has arrived. -/
def runSide (w : Loopback) (side : Side) : Loopback :=
  match w.endpoint side with
  | none => w
  | some e =>
    e.readers.toList.foldl (fun w (strand, a) =>
      match w.endpoint side with
      | none => w
      | some e =>
        let frames := (w.socketEnd a.socket).incoming
        let (e, rest, outcome) := readFrames strand a.generation (w.isOpenEnd (peerOf a.socket))
          (w.socketEnd a.socket).maxFrame e frames
        let e := if outcome = .stopped then e.readerDone strand a.generation else e
        let w := w.setEndpoint side (some e)
        (w.modifyEnd a.socket fun s => { s with incoming := rest }).closeLoose) w

/-- The number of frames in flight. -/
def inFlight (w : Loopback) : Nat := (w.ends.map fun e => e.incoming.length).foldr (· + ·) 0

/-- Lets stopped readers wind down and runs the readers until nothing changes; this is what
happens while the session waits. -/
def settle (w : Loopback) : Loopback :=
  let w := ({ w with lingering := [] } : Loopback).closeLoose
  let rounds := w.inFlight + w.ends.length + 2
  (List.range rounds).foldl (fun w _ => (w.runSide .server).runSide .client) w

/-- Sends an envelope from one side: refused without a link; a write on a closed connection
fails and drops the link. -/
def send (w : Loopback) (side : Side) (m : Envelope) : Except TransportError Unit × Loopback :=
  match w.endpoint side with
  | none => (.ok (), w)
  | some e =>
    match e.links.get? m.strand with
    | none => (.error (.noConnection m.strand), w)
    | some a =>
      match w.write a.socket (.text m.encode) with
      | .ok w => (.ok (), w)
      | .error r =>
        (.error (.webSocket r), (w.setEndpoint side (some (e.dropLink m.strand a.generation))).closeLoose)

/-- What a receive finds without waiting: an envelope, the end of the connection, nothing
yet (`none`), or no inbox. -/
def takeNow (w : Loopback) (side : Side) (strand : String) :
    Except TransportError (Option Envelope) × Loopback :=
  match w.endpoint side with
  | none => (.ok none, w)
  | some e =>
    match e.inboxes.get? strand with
    | none => (.error (.noConnection strand), w)
    | some i =>
      match i.queue with
      | m :: rest =>
        (.ok (some m), w.setEndpoint side (some { e with inboxes := e.inboxes.insert strand { i with queue := rest } }))
      | [] =>
        if i.senderOpen then (.ok none, w)
        else (.error (.closed strand), w.setEndpoint side (some { e with inboxes := e.inboxes.erase strand }))

/-- Receives an envelope on one side, waiting if none is there yet; `none` when the wait
runs out. -/
def receive (w : Loopback) (side : Side) (strand : String) :
    Except TransportError (Option Envelope) × Loopback :=
  match w.takeNow side strand with
  | (.ok none, w) => (w.settle).takeNow side strand
  | r => r

/-- Attaches a socket end to a strand of one side. Ends it no longer holds close at the next
`closeLoose`, so that both ends of a new pair can be attached first. -/
def attach (w : Loopback) (side : Side) (strand : String) (k : Nat) : Loopback :=
  match w.endpoint side with
  | none => w
  | some e =>
    let (e, stopped) := e.attach strand k
    let w := w.setEndpoint side (some e)
    { w with lingering := w.lingering ++ stopped.toList }

/-- The report of a dial that the accepting side refused for an id that fails the check. -/
def badRequest : String := "HTTP error: 400 Bad Request"

/-- Links a strand over a new connection dialed from the client to the server, as connecting
and accepting do when the network lets them: the server refuses an id that fails the check,
and otherwise both sides attach the strand, each end reading frames up to its own side's
size limit. -/
def link (w : Loopback) (strand : String) : Except TransportError Loopback :=
  match w.server, w.client with
  | some server, some client =>
    match Strand.check strand with
    | .error _ => .error (.webSocket badRequest)
    | .ok () =>
      let (w, a, b) := w.newPair server.maxMessage client.maxMessage
      .ok ((w.attach .server strand a).attach .client strand b)
  | _, _ => .ok w

/-- Closes one side's connection of a strand: the peer gets a close frame. -/
def disconnect (w : Loopback) (side : Side) (strand : String) : Loopback :=
  match w.endpoint side with
  | none => w
  | some e =>
    let (e, link, stopped) := e.detach strand
    let w := w.setEndpoint side (some e)
    let w := { w with lingering := w.lingering ++ stopped.toList }
    let w := match link with
      | some a => match w.write a.socket .close with
        | .ok w' => w'
        | .error _ => w
      | none => w
    w.closeLoose

/-- Drops one side: its connections close at once, while the peers' readers notice only at
the next wait. -/
def drop (w : Loopback) (side : Side) : Loopback :=
  (w.setEndpoint side none).closeLoose

/-- Whether a side has a link for a strand. -/
def isConnected (w : Loopback) (side : Side) (strand : String) : Bool :=
  match w.endpoint side with
  | some e => e.isConnected strand
  | none => false

/-- The report of a write after a close frame was sent or read. -/
def sendAfterClosing : String := "WebSocket protocol error: Sending after closing is not allowed"

/-- The report of a write after the connection is over. -/
def alreadyClosed : String := "Trying to work with closed connection"

/-- The report of a stream that ends before the closing handshake is done. -/
def resetWithoutClosing : String :=
  "WebSocket protocol error: Connection reset without closing handshake"

/-- Stores a raw link. -/
def putRaw (w : Loopback) (name : String) (r : RawLink) : Loopback :=
  { w with raws := w.raws.insert name r }

/-- Sends what a raw link owes before anything else: the answer to a close frame, or the bytes
of a failed write. Fails, keeping the bytes, when the peer has closed. -/
def rawFlush (w : Loopback) (r : RawLink) : Except String (RawLink × Loopback) :=
  if r.replyDue || r.unsent then
    if w.isOpenEnd (peerOf r.socket) then
      let w := if r.replyDue then
          w.modifyEnd (peerOf r.socket) fun e => { e with incoming := e.incoming ++ [.close] }
        else w
      .ok ({ r with replyDue := false }, w)
    else .error brokenPipe
  else .ok (r, w)

/-- Writes a frame from a raw link: what it owes goes first; no frame goes after the link
sent or read a close frame; sending a close frame starts the closing handshake. A failed
write keeps its bytes for the next try. -/
def rawSend (w : Loopback) (name : String) (f : Frame) : Except String Unit × Loopback :=
  match w.raws.get? name with
  | none => (.error ("no raw link " ++ name), w)
  | some r =>
    match w.rawFlush r with
    | .error e => (.error e, w.putRaw name { r with replyDue := false, unsent := true })
    | .ok (r, w) =>
      if r.state = .terminated then (.error alreadyClosed, w.putRaw name r)
      else if r.state ≠ .active then (.error sendAfterClosing, w.putRaw name r)
      else
        let r := if f = .close then { r with state := .closedByUs } else r
        match w.write r.socket f with
        | .ok w => (.ok (), w.putRaw name r)
        | .error e => (.error e, w.putRaw name { r with unsent := true })

/-- What a raw link reads next. -/
inductive RawRead where
  | frame (f : Frame)
  | finished
  | failed (message : String)
  | nothing
  deriving Inhabited

/-- Reads the next frame of a raw link without waiting, skipping pings and pongs. A close
frame moves the closing handshake on; one that comes after the handshake is done is skipped.
When the peer has closed and every frame is read, the stream ends: quietly if the peer's close
frame was read, else with a reset. After its last item the stream gives nothing more. -/
def rawTake (w : Loopback) (name : String) (r : RawLink) : RawRead × Loopback :=
  if r.ended then (.finished, w)
  else if r.state = .terminated then (.finished, w.putRaw name { r with ended := true })
  else
    match if r.replyDue then w.rawFlush r else .ok (r, w) with
    | .error e => (.failed e, w.putRaw name { r with replyDue := false, unsent := true, ended := true })
    | .ok (r, w) =>
      let frames := (w.socketEnd r.socket).incoming.filter fun f => !f.isHeartbeat
      let closeRead := fun (r : RawLink) => match r.state with
        | .active => { r with state := .closedByPeer, replyDue := true }
        | .closedByUs => { r with state := .acknowledged }
        | _ => r
      let late := fun (f : Frame) => f = .close && (r.state = .closedByPeer || r.state = .acknowledged)
      match frames.dropWhile late with
      | f :: rest =>
        let r := if f = .close then closeRead r else r
        let w := w.modifyEnd r.socket fun s => { s with incoming := rest }
        (.frame f, w.putRaw name r)
      | [] =>
        let w := w.modifyEnd r.socket fun s => { s with incoming := [] }
        if w.isOpenEnd (peerOf r.socket) then (.nothing, w.putRaw name r)
        else if r.state = .closedByPeer || r.state = .acknowledged then
          (.finished, w.putRaw name { r with state := .terminated, ended := true })
        else (.failed resetWithoutClosing, w.putRaw name { r with state := .terminated, ended := true })

/-- Reads the next frame of a raw link, waiting if none is there yet. -/
def rawReceive (w : Loopback) (name : String) : Except String (RawRead × Loopback) :=
  match w.raws.get? name with
  | none => .error ("no raw link " ++ name)
  | some r =>
    match w.rawTake name r with
    | (.nothing, w) =>
      let w := w.settle
      match w.raws.get? name with
      | some r => .ok (w.rawTake name r)
      | none => .ok (.nothing, w)
    | done => .ok done

/-- Drops a raw link without a close frame. -/
def rawDrop (w : Loopback) (name : String) : Except String Loopback :=
  match w.raws.get? name with
  | none => .error ("no raw link " ++ name)
  | some _ => .ok ({ w with raws := w.raws.erase name }).closeLoose

end Loopback

end WebSocket

end Courier
