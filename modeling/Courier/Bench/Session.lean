import Courier.Broker.Recovery
import Courier.Bench.Request
import Courier.Bench.Encode

/-!
# Broker sessions

A broker session builds a broker over a volatile memory store, a durable store (in memory or
on disk), a channel transport and recording metrics, and runs a list of steps against it.
Besides the broker's own operations, steps reach past it: to the transport, to either store
directly, to named cursors, and to the disk store's location.

Every step answers one object; the session adds the metrics snapshot taken after the step.
Stamps come from a counter: the `n`-th envelope is `m` followed by `n` in six digits, unless
the step names an id, and it carries the session clock unless the step names a time.

`receive_while` starts a receive, and when it has to wait, runs another step before looking
again; the waiting receive has its turn on its buffer meanwhile (`Channel.hold`).
-/

namespace Courier

namespace Bench

/-- The state of a broker session. -/
structure Session where
  /-- The broker under test. -/
  broker : Broker
  /-- Open cursors, by name. -/
  cursors : Keyed Cursor := {}
  /-- The time given to envelopes. -/
  clock : Int
  /-- How many transports the session has made; a waiting receive belongs to one. -/
  generation : Nat := 0
  /-- Whether the broker reports to a sink that keeps nothing. -/
  discarding : Bool := false
  deriving Inhabited

namespace Session

/-- A step of a session: reads the session and answers. -/
abbrev Step := StateM Session

/-- The channel transport of the session. -/
def channel (s : Session) : Channel :=
  match s.broker.transport with
  | .channel c => c
  | .datagram _ => Channel.make Channel.defaultCapacity

/-- Replaces the channel transport. -/
def setChannel (c : Channel) : Step Unit :=
  modify fun s => { s with broker := { s.broker with transport := .channel c } }

/-- The number of cursors that hold the disk store's handle. -/
def readers (s : Session) : Nat := (s.cursors.values.filter (·.holdsHandle)).length

/-- `n` in decimal, padded with zeros to six digits. -/
def sixDigits (n : Nat) : String :=
  let d := toString n
  String.ofList (List.replicate (6 - d.length) '0') ++ d

/-- The stamps of a session step: the named id and time, or the counter's id and the clock. -/
def stamps (clock : Int) (id? : Option String) (ts? : Option Int) (n : Nat) : Stamp :=
  { id := id?.getD ("m" ++ sixDigits n), timestamp := ts?.getD clock }

/-- Runs a broker operation; `k` writes its answer. -/
def runOp (op : Broker.Op α) (k : α → Json) : Step Json := do
  let s ← get
  let (r, b) := op.run.run s.broker
  set { s with broker := b }
  match r with
  | .ok a => pure (k a)
  | .error e => pure (brokerErrorJson e)

/-- Which store a step names: `durable` (the default) or `volatile`. -/
def chooseStore (j : Json) : Fallible Durability := do
  match ← stringOr j "store" "durable" with
  | "durable" => pure .durable
  | "volatile" => pure .volatile
  | other => throw ("unknown store " ++ other)

/-- Replaces a store. -/
def setStore (d : Durability) (st : Store) : Step Unit :=
  modify fun s => { s with broker := s.broker.withStore d st }

/-- Runs a store change; `k` writes its answer. -/
def storeChange (d : Durability) (f : Store → Except StoreError Store) : Step Json := do
  match f ((← get).broker.storeOf d) with
  | .ok st => do setStore d st; pure okAnswer
  | .error e => pure (storeErrorJson e)

/-- Answers a store query. -/
def storeQuery (d : Durability) (f : Store → Except StoreError α) (k : α → Json) : Step Json := do
  match f ((← get).broker.storeOf d) with
  | .ok a => pure (k a)
  | .error e => pure (storeErrorJson e)

/-- The disk store of the session, or why there is none. -/
def diskStore (s : Session) : Fallible DiskStore :=
  match s.broker.durable with
  | .disk st => .ok st
  | .memory _ => .error "durable store is not sled"

/-- The system's report when a location is a directory where a file was expected. -/
def isADirectory : String := "Is a directory (os error 21)"

/-- The request's cursor name, `c` by default. -/
def cursorName (j : Json) : Fallible String := stringOr j "name" "c"

/-- A named cursor. -/
def cursor (s : Session) (name : String) : Fallible Cursor :=
  match s.cursors.get? name with
  | some c => .ok c
  | none => .error ("no cursor " ++ name)

/-- Stores a named cursor. -/
def putCursor (name : String) (c : Cursor) : Step Unit :=
  modify fun s => { s with cursors := s.cursors.insert name c }

/-- Opens a cursor on a store under a name, in place of any cursor of that name; a store that
refuses leaves the session as it was. -/
def openCursor (s : Session) (d : Durability) (name : String) : Except StoreError Session :=
  (fun c => { s with cursors := s.cursors.insert name c }) <$> Cursor.open? (s.broker.storeOf d)

/-- Moves a named cursor on over the durable store as it is now: what it gives, if anything, and
the cursor after it. -/
def advance (s : Session) (name : String) : Fallible (Option Envelope × Cursor) :=
  (fun c => c.next s.broker.durable) <$> s.cursor name

/-- Closes a named cursor, keeping its name. -/
def closeCursor (s : Session) (name : String) : Fallible Session :=
  (fun _ => { s with cursors := s.cursors.insert name .closed }) <$> s.cursor name

/-- Drops a named cursor. -/
def dropCursor (s : Session) (name : String) : Fallible Session :=
  (fun _ => { s with cursors := s.cursors.erase name }) <$> s.cursor name

/-- Runs a call on a store that is told how many cursors hold the disk store's handle: a reset
or a reload. -/
def withReaders (s : Session) (d : Durability) (f : Store → Nat → Except StoreError Unit × Store) :
    Except StoreError Unit × Session :=
  let r := f (s.broker.storeOf d) s.readers
  (r.1, { s with broker := s.broker.withStore d r.2 })

/-- Answers a receive's outcome. -/
def polledJson : Polled → Json
  | .ready m => obj [("msg", envelopeJson m)]
  | .waiting _ => obj [("pending", .bool true)]

/-- Reads the fields of a step and runs it; a bad request is answered `bad_input`. -/
def guarded (r : Fallible (Step Json)) : Step Json :=
  match r with
  | .ok act => act
  | .error why => pure (badInput why)

/-- Steps on the broker itself. -/
def brokerStep (kind : String) (j : Json) : Option (Fallible (Step Json)) :=
  match kind with
  | "strand_add" => some do
    let strand ← reqString j "strand"
    let durable ← boolOr j "durable" false
    let ordered ← boolOr j "ordered" false
    pure (runOp (Broker.addStrand strand { durable, ordered }) fun _ => okAnswer)
  | "send" => some do
    let strand ← reqString j "strand"
    let payload ← stringOr j "payload" ""
    let id? ← optString j "id"
    let ts? ← optI64 j "ts"
    pure do
      let clock := (← get).clock
      runOp (Broker.send strand payload (stamps clock id? ts?)) fun m => obj [("msg", envelopeJson m)]
  | "receive" => some do
    let strand ← reqString j "strand"
    pure (runOp (Broker.receive strand) polledJson)
  | "ack" => some do
    let strand ← reqString j "strand"
    let id ← reqString j "msg_id"
    pure (runOp (Broker.acknowledge strand id) fun m => obj [("msg", envelopeJson m)])
  | "remove" => some do
    let strand ← reqString j "strand"
    pure (runOp (Broker.removeStrand strand) fun _ => okAnswer)
  | "recover" => some do
    pure (runOp Broker.recover fun r =>
      obj [("resent", .nat r.resent), ("failed", .nat r.failed), ("clean", .bool r.isClean)])
  | "durability" => some do
    let strand ← reqString j "strand"
    pure (runOp (Broker.durability strand) fun d? =>
      obj [("durability", match d? with | some d => .str d.name | none => .null)])
  | "strand_config" => some do
    let strand ← reqString j "strand"
    pure (runOp (Broker.strandConfig strand) fun c => obj [("conf", confJson c)])
  | "metric" => some do
    let strand ← reqString j "strand"
    pure do
      let m := (← get).broker.metrics.get strand
      pure (obj [("sent", .nat m.sent), ("received", .nat m.received), ("depth", .nat m.depth),
        ("strand", strandMetricsJson m)])
  | "new_metrics" => some do
    pure do
      modify fun s => { s with broker := { s.broker with
        metrics := if s.discarding then .discarding else Metrics.fresh } }
      pure okAnswer
  | _ => none

/-- Steps on the transport. -/
def transportStep (kind : String) (j : Json) : Option (Fallible (Step Json)) :=
  match kind with
  | "pending" => some do
    let strand ← reqString j "strand"
    pure do pure (obj [("pending", .nat ((← get).channel.pending strand))])
  | "transport_send" => some do
    let m ← reqEnvelope j
    pure do
      match (← get).channel.send m with
      | .ok c => do setChannel c; pure okAnswer
      | .error e => pure (transportErrorJson e)
  | "transport_receive" => some do
    let strand ← reqString j "strand"
    pure do
      match (← get).channel.poll strand with
      | .ok (p, c) => do setChannel c; pure (polledJson p)
      | .error e => pure (transportErrorJson e)
  | "transport_close" => some do
    let strand ← reqString j "strand"
    pure do setChannel ((← get).channel.closeStrand strand); pure okAnswer
  | "transport_reset" => some do
    pure do setChannel ((← get).channel.reset); pure okAnswer
  | "new_transport" => some do
    let capacity ← natOr j "capacity" Channel.defaultCapacity
    pure do
      let c := Channel.make capacity
      setChannel c
      modify fun s => { s with generation := s.generation + 1 }
      pure (obj [("capacity", .nat c.capacity)])
  | _ => none

/-- Steps on a store, bypassing the broker. -/
def storeStep (kind : String) (j : Json) : Option (Fallible (Step Json)) :=
  match kind with
  | "store_create" => some do
    let d ← chooseStore j
    let strand ← reqString j "strand"
    let durable ← boolOr j "durable" false
    let ordered ← boolOr j "ordered" false
    pure (storeChange d (·.create strand { durable, ordered }))
  | "store_delete" => some do
    let d ← chooseStore j
    let strand ← reqString j "strand"
    pure (storeChange d (·.delete strand))
  | "store_has" => some do
    let d ← chooseStore j
    let strand ← reqString j "strand"
    pure (storeQuery d (·.has strand) fun b => obj [("has", .bool b)])
  | "store_config" => some do
    let d ← chooseStore j
    let strand ← reqString j "strand"
    pure (storeQuery d (·.config strand) fun c? =>
      obj [("conf", match c? with | some c => confJson c | none => .null)])
  | "store_strands" => some do
    let d ← chooseStore j
    pure (storeQuery d (·.listStrands) fun l =>
      obj [("strands", .arr (l.map fun (s, c) => obj [("strand", .str s), ("conf", confJson c)]))])
  | "store_save" => some do
    let d ← chooseStore j
    let m ← reqEnvelope j
    pure (storeChange d (·.save m))
  | "store_ack" => some do
    let d ← chooseStore j
    let strand ← reqString j "strand"
    let id ← reqString j "msg_id"
    pure do
      match ((← get).broker.storeOf d).acknowledge strand id with
      | .ok (m, st) => do setStore d st; pure (obj [("msg", envelopeJson m)])
      | .error e => pure (storeErrorJson e)
  | "store_unacked" => some do
    let d ← chooseStore j
    let strand ← reqString j "strand"
    pure (storeQuery d (·.unacked strand) fun n => obj [("unacked", .nat n)])
  | "store_dump" => some do
    let d ← chooseStore j
    pure (storeQuery d (fun st => (fun c => c.walk st) <$> Cursor.open? st)
      fun ms => obj [("msgs", .arr (ms.map envelopeJson))])
  | "store_close" => some do
    let d ← chooseStore j
    pure do setStore d ((← get).broker.storeOf d).close; pure okAnswer
  | "store_reset" => some do
    let d ← chooseStore j
    pure do
      let r := (← get).withReaders d Store.reset
      set r.2
      pure (match r.1 with | .ok () => okAnswer | .error e => storeErrorJson e)
  | "store_reload" => some do
    let d ← chooseStore j
    pure do
      let r := (← get).withReaders d Store.reload
      set r.2
      pure (match r.1 with | .ok () => okAnswer | .error e => storeErrorJson e)
  | _ => none

/-- Steps on named cursors and on the disk store's location. -/
def cursorStep (kind : String) (j : Json) : Option (Fallible (Step Json)) :=
  match kind with
  | "cursor_open" => some do
    let d ← chooseStore j
    let name ← cursorName j
    pure do
      match (← get).openCursor d name with
      | .ok s => do set s; pure okAnswer
      | .error e => pure (storeErrorJson e)
  | "cursor_empty" => some do
    let name ← cursorName j
    pure do putCursor name Cursor.empty; pure okAnswer
  | "cursor_next" => some do
    let name ← cursorName j
    pure do
      match (← get).advance name with
      | .error why => pure (badInput why)
      | .ok (m?, c') =>
        putCursor name c'
        match m? with
        | some m => pure (obj [("msg", envelopeJson m), ("closed", .bool c'.isClosed)])
        | none => pure (obj [("end", .bool true), ("closed", .bool true)])
  | "cursor_close" => some do
    let name ← cursorName j
    pure do
      match (← get).closeCursor name with
      | .error why => pure (badInput why)
      | .ok s => do set s; pure (obj [("closed", .bool true)])
  | "cursor_drop" => some do
    let name ← cursorName j
    pure do
      match (← get).dropCursor name with
      | .error why => pure (badInput why)
      | .ok s => do set s; pure okAnswer
  | "open_cursors" => some do
    pure do
      let s ← get
      match s.diskStore with
      | .error why => pure (badInput why)
      | .ok _ => pure (obj [("open_cursors", .nat s.readers)])
  | "sled_reopen" => some do
    pure do
      let s ← get
      match s.diskStore with
      | .error why => pure (badInput why)
      | .ok st =>
        set { s with cursors := {} }
        match st.reopen with
        | .ok st' => do setStore .durable (.disk st'); pure okAnswer
        | .error e => do setStore .durable (.disk st.close); pure (storeErrorJson e)
  | "sled_break" => some do
    pure do
      match (← get).diskStore with
      | .error why => pure (badInput why)
      | .ok st =>
        if st.blocked then pure (badInput isADirectory)
        else do setStore .durable (.disk { st with blocked := true }); pure okAnswer
  | "sled_unbreak" => some do
    pure do
      match (← get).diskStore with
      | .error why => pure (badInput why)
      | .ok st =>
        if st.blocked then do setStore .durable (.disk { st with blocked := false }); pure okAnswer
        else pure (badInput isADirectory)
  | _ => none

/-- Where a receive that waited on buffer `serial` stands after another step ran. -/
def settle (strand : String) (serial : Nat) (generation : Nat) (behind : Bool) : Step Json := do
  let s ← get
  if s.generation ≠ generation ∨ behind then
    pure (obj [("pending", .bool true)])
  else
    let (r?, c) := s.channel.resume strand serial
    setChannel c
    match r? with
    | none => pure (obj [("pending", .bool true)])
    | some (.ok m) => do
      modify fun s => { s with broker := { s.broker with
        metrics := s.broker.metrics.noteReceived strand } }
      pure (obj [("msg", envelopeJson m)])
    | some (.error e) => pure (brokerErrorJson (Broker.receiveError strand e))

/-- Runs one step; `fuel` bounds the nesting of `receive_while`. -/
def step : Nat → Json → Step Json
  | 0, _ => pure (badInput "steps nested too deeply")
  | fuel + 1, j =>
    match reqString j "do" with
    | .error why => pure (badInput why)
    | .ok kind =>
      if kind = "receive_while" then
        guarded do
          let strand ← reqString j "strand"
          let next ← match present j "then" with
            | some t => pure t
            | none => throw "missing then"
          pure do
            let s ← get
            let generation := s.generation
            let behind := match s.channel.buffers.get? strand with
              | some b => b.serial ∈ s.channel.held
              | none => false
            let (r, b) := (Broker.receive strand).run.run s.broker
            set { s with broker := b }
            match r with
            | .error e => pure (brokerErrorJson e)
            | .ok (.ready m) => pure (obj [("ready_first", .bool true), ("msg", envelopeJson m)])
            | .ok (.waiting serial) =>
              setChannel ((← get).channel.hold serial)
              let answer ← step fuel next
              let s ← get
              if s.generation = generation then setChannel (s.channel.release serial)
              let result ← settle strand serial generation behind
              pure (obj [("then", answer), ("result", result)])
      else
        match brokerStep kind j <|> transportStep kind j <|> storeStep kind j <|> cursorStep kind j with
        | some r => guarded r
        | none => pure (badInput ("unknown step " ++ kind))

/-- The deepest nesting of steps a request can hold. -/
def maxNesting : Nat := 128

/-- Runs the steps in order, each answer with the metrics snapshot after it; a step that asks
the runtime for a buffer it cannot make aborts the session there. -/
def runSteps : List Json → Step (Except Abort (List Json))
  | [] => pure (.ok [])
  | j :: rest => do
    let before := (← get).broker.transport
    let a ← step maxNesting j
    let s ← get
    match before.abortSince s.broker.transport with
    | some abort => pure (.error abort)
    | none =>
      let snap := s.broker.metrics.snapshot
      match ← runSteps rest with
      | .ok tail => pure (.ok (a.merge [("metrics", metricsJson snap)] :: tail))
      | .error abort => pure (.error abort)

end Session

/-- The durable store a session asks for. -/
def durableStore (j : Json) : Fallible Store := do
  match ← stringOr j "durable_store" "memory" with
  | "memory" => pure (.memory {})
  | "sled" => pure (.disk {})
  | other => throw ("unknown durable_store " ++ other)

/-- The largest channel capacity a session takes. -/
def maxCapacity : Nat := 1048576

/-- Runs a broker session. -/
def brokerSession (j : Json) : Fallible Json := do
  let steps ← steps j
  let durable ← durableStore j
  let capacity ← natOr j "capacity" Channel.defaultCapacity
  if capacity > maxCapacity then throw "capacity must be 0..=1048576"
  let clock ← i64Or j "clock" 1700000000
  let discarding ← boolOr j "noop_metrics" false
  match ← stringOr j "transport" "channel" with
  | "channel" => pure ()
  | "udp" => throw Datagram.unreachable
  | other => throw ("unknown transport " ++ other)
  let broker : Broker :=
    { volatile := .memory {}, durable, transport := .channel (Channel.make capacity),
      metrics := if discarding then .discarding else Metrics.fresh }
  let session : Session := { broker, clock, discarding }
  match ((Session.runSteps steps).run session).1 with
  | .ok answers => pure (obj [("steps", .arr answers)])
  | .error abort => pure (abortJson abort)

end Bench

end Courier
