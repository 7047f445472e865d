import Courier.Store
import Courier.Transport
import Courier.Metrics
import Courier.Ulid

/-!
# The broker

A broker owns two stores, a transport and a metrics sink. Each strand lives in exactly one
store, chosen when the strand is added: the durable store for a durable strand, the volatile
store otherwise. Looking up a strand asks the durable store first.

The operations run in `Broker.Op`: a failure is answered as a `BrokerError`, and what the
operation changed before it failed stays changed.

- `addStrand` checks the id, refuses a strand that either store has, registers it and reports
  a depth of zero.
- `send` stamps an envelope, saves it, reports the strand's depth and only then hands it to
  the transport, so an envelope whose transmission fails stays saved (and is counted in the
  depth, but not as sent).
- `receive` tries once to take an envelope from the transport.
- `acknowledge` removes the envelope from its store and reports the new depth.
- `removeStrand` deletes the strand and reports a depth of zero.
- `recover` (in `Courier.Broker.Recovery`) hands every envelope of the durable store to the
  transport again.
-/

namespace Courier

/-- A broker. -/
structure Broker where
  /-- The store of volatile strands. -/
  volatile : Store
  /-- The store of durable strands. -/
  durable : Store
  /-- What envelopes travel over. -/
  transport : Transport
  /-- Where the broker reports. -/
  metrics : Metrics
  /-- How many stamps have been drawn. -/
  drawn : Nat := 0
  deriving Inhabited

namespace Broker

/-- A broker operation: it answers or fails, and changes the broker either way. -/
abbrev Op := ExceptT BrokerError (StateM Broker)

/-- The store that keeps strands of a durability. -/
def storeOf (b : Broker) : Durability → Store
  | .durable => b.durable
  | .volatile => b.volatile

/-- Replaces the store that keeps strands of a durability. -/
def withStore (b : Broker) (d : Durability) (s : Store) : Broker :=
  match d with
  | .durable => { b with durable := s }
  | .volatile => { b with volatile := s }

/-- Changes the metrics. -/
def report (f : Metrics → Metrics) : Op Unit :=
  modify fun b => { b with metrics := f b.metrics }

/-- Takes a store's answer, failing with the store's error lifted for the strand. -/
def ofStore (strand : String) : Except StoreError α → Op α
  | .ok a => pure a
  | .error e => throw (BrokerError.ofStore strand e)

/-- The store that has the strand, asking the durable store first. -/
def owner (strand : String) : Op (Option Durability) := do
  let b ← get
  if ← ofStore strand (b.durable.has strand) then return some .durable
  if ← ofStore strand (b.volatile.has strand) then return some .volatile
  return none

/-- The store that has the strand, or `strandNotFound`. -/
def requireOwner (strand : String) : Op Durability := do
  match ← owner strand with
  | some d => pure d
  | none => throw (.strandNotFound strand)

/-- Reports the strand's number of unacknowledged envelopes, when its store can count them. -/
def reportDepth (d : Durability) (strand : String) : Op Unit := do
  match ((← get).storeOf d).unacked strand with
  | .ok n => report (·.noteDepth strand n)
  | .error _ => pure ()

/-- Which store has the strand, if any. -/
def durability (strand : String) : Op (Option Durability) := owner strand

/-- How the strand was registered. -/
def strandConfig (strand : String) : Op StrandConf := do
  let d ← requireOwner strand
  match ← ofStore strand (((← get).storeOf d).config strand) with
  | some c => pure c
  | none => throw (.strandNotFound strand)

/-- Registers a strand in the store its configuration asks for. -/
def addStrand (strand : String) (conf : StrandConf) : Op Unit := do
  match Strand.check strand with
  | .error r => throw (.invalidStrand strand r)
  | .ok () => pure ()
  if (← owner strand).isSome then throw (.strandExists strand)
  let d := Durability.ofConf conf
  let s ← ofStore strand (((← get).storeOf d).create strand conf)
  modify (·.withStore d s)
  report (·.noteDepth strand 0)

/-- Draws the next stamp from `stamps`, which gives the stamp of the `n`-th draw. -/
def draw (stamps : Nat → Stamp) : Op Stamp := do
  let b ← get
  set { b with drawn := b.drawn + 1 }
  return stamps (b.drawn + 1)

/-- Stamps, saves and sends an envelope on a strand. -/
def send (strand payload : String) (stamps : Nat → Stamp) : Op Envelope := do
  let d ← requireOwner strand
  let st ← draw stamps
  let m := Envelope.make st.id strand payload st.timestamp
  let s ← ofStore strand (((← get).storeOf d).save m)
  modify (·.withStore d s)
  reportDepth d strand
  match (← get).transport.send m with
  | .error e => throw (.transport strand e)
  | .ok t =>
    modify fun b => { b with transport := t }
    report (·.noteSent strand)
    return m

/-- A transport's refusal of a receive, as the broker answers it. -/
def receiveError (strand : String) (e : TransportError) : BrokerError :=
  if e.isDisconnected then .messageUnavailable strand e else .transport strand e

/-- Tries once to take an envelope of a strand from the transport. -/
def receive (strand : String) : Op Polled := do
  let _ ← requireOwner strand
  match (← get).transport.poll strand with
  | .error e => throw (receiveError strand e)
  | .ok (p, t) =>
    modify fun b => { b with transport := t }
    match p with
    | .ready m =>
      report (·.noteReceived strand)
      return .ready m
    | .waiting serial => return .waiting serial

/-- Removes an envelope from its strand's store and hands it back, acknowledged. -/
def acknowledge (strand id : String) : Op Envelope := do
  let d ← requireOwner strand
  let (m, s) ← ofStore strand (((← get).storeOf d).acknowledge strand id)
  modify (·.withStore d s)
  reportDepth d strand
  return m.markAcked

/-- Deletes a strand with its envelopes. -/
def removeStrand (strand : String) : Op Unit := do
  let d ← requireOwner strand
  let s ← ofStore strand (((← get).storeOf d).delete strand)
  modify (·.withStore d s)
  report (·.noteDepth strand 0)

end Broker

end Courier
