import Courier.Cli.Args
import Courier.Broker.Recovery
import Courier.Config.Decode
import Courier.Json.Text

/-!
# Running a command

A run loads its configuration, wires a broker from it and carries out one command. The
broker's volatile store starts empty every run; its durable store is the disk store in the
configuration's data directory, which outlives the run, and it keeps whatever the run wrote
to it even when the run fails.

* The configuration comes from the file `--config` names (an error there is reported as
  `loading config <path>`), or is the default; the data directory of the environment, when
  set, replaces its own.
* The transport is the in-process channel of the configured capacity, or a datagram socket.
  A WebSocket transport first connects every configured strand (and the demo strand) to its
  peer; in this library the network is out of reach, so the first connection fails.
* `demo` registers the configured strands and its own strand (ordered, durable when asked),
  an already registered strand being no error. It then sends `message-0`, `message-1`, …,
  receives and acknowledges as many, and prints the metrics as indented JSON.
* `recover` hands every unacknowledged durable message to a fresh channel, then drains and
  prints what arrived, strand by strand; failed hand-overs fail the run after the printing.
* `inspect` lists the durable strands with their unacknowledged counts, then every
  unacknowledged message.
* `remove-strand` deletes a durable strand.

A failing step ends the run with status 1 and its error chain on standard error, after
whatever the run had already printed. A step that asks the runtime for a channel buffer of more
slots than it can make aborts the process (`Abort`): a demo or recovery over a channel of such a
capacity stops at its first send, with what it wrote to disk so far kept.
-/

namespace Courier

namespace Cli

/-- The state of a run: its broker and what it has printed. -/
structure RunState where
  /-- The broker. -/
  broker : Broker
  /-- Standard output so far. -/
  out : String := ""
  deriving Inhabited

/-- A step of a run: it may fail with an error chain or be aborted by the runtime, and keeps
its state either way. -/
abbrev Run := ExceptT Stop (StateM RunState)

/-- Fails the run with an error chain. -/
def fail (f : Failure) : Run α := throw (.failed f)

/-- Prints a line on standard output. -/
def say (line : String) : Run Unit := modify fun s => { s with out := s.out ++ line ++ "\n" }

/-- Runs a broker operation, giving its error back instead of failing. An operation that asks
the runtime for a buffer it cannot make aborts the run there: nothing it would have done
afterwards is seen, and its transport's state no longer matters. -/
def tryBroker (op : Broker.Op α) : Run (Except BrokerError α) := do
  let s ← get
  let (r, b) := (op.run).run s.broker
  set { s with broker := b }
  match s.broker.transport.abortSince b.transport with
  | some a => throw (.aborted a)
  | none => pure r

/-- Runs a broker operation, turning its error into a failure by `wrap`. -/
def brokerWith (wrap : BrokerError → Failure) (op : Broker.Op α) : Run α := do
  match ← tryBroker op with
  | .ok a => pure a
  | .error e => fail (wrap e)

/-- Runs a broker operation; its error is the failure. -/
def broker (op : Broker.Op α) : Run α := brokerWith Failure.ofBroker op

/-- Reads the configuration of an invocation: from the text of its file (or the reason the
file could not be read), or the default; then applies the environment's data directory. -/
def loadConfig (inv : Invocation) (file : Except String String) (dataDir : Option String) :
    Except Failure BrokerConfig :=
  let loaded : Except ConfigError BrokerConfig := match inv.config with
    | none => .ok {}
    | some path =>
      match file with
      | .error why => .error (.read path why)
      | .ok text => BrokerConfig.ofToml text
  match loaded with
  | .ok c => .ok (c.withEnv dataDir)
  | .error e => .error ((Failure.ofConfig e).context ("loading config " ++ inv.config.getD ""))

/-- The transport of a configuration; `extra` are strands that need a connection besides
the configured ones. -/
def transportOf (c : BrokerConfig) (extra : List String) : Except Failure Transport :=
  match c.transport with
  | .channel => .ok (.channel (Channel.make c.channelCapacity))
  | .ws peer =>
    match (c.strands.map (·.name) ++ extra).head? with
    | some name =>
      .error ((Failure.ofTransport (.io Datagram.unreachable)).context
        ("connecting strand " ++ name ++ " to " ++ peer.render))
    | none => .ok (.channel (Channel.make c.channelCapacity))
  | .udp _ _ limit => .ok (.datagram (Datagram.make limit))

/-- A broker over a fresh volatile store, the disk store's records and a transport. -/
def wire (records : DiskStore.Records) (t : Transport) : Broker :=
  { volatile := .memory {}, durable := .disk { records }, transport := t, metrics := Metrics.fresh }

/-- Registers strands in order; one that is already registered is skipped. -/
def register : List StrandEntry → Run Unit
  | [] => pure ()
  | e :: rest => do
    match ← tryBroker (Broker.addStrand e.name e.conf) with
    | .ok () => pure ()
    | .error err =>
      if err.kind = .strandExists then pure ()
      else fail ((Failure.ofBroker err).context ("registering strand " ++ e.name))
    register rest

/-- The metrics as indented JSON: one object per strand, in strand order. -/
def metricsText (snapshot : List (String × StrandMetrics)) : String :=
  if snapshot.isEmpty then "\x7b\x7d" else
  let entry (p : String × StrandMetrics) :=
    "  " ++ Json.quote p.1 ++ ": \x7b\n" ++
      "    \"sent\": " ++ toString p.2.sent ++ ",\n" ++
      "    \"received\": " ++ toString p.2.received ++ ",\n" ++
      "    \"depth\": " ++ toString p.2.depth ++ "\n  \x7d"
  "\x7b\n" ++ ",\n".intercalate (snapshot.map entry) ++ "\n\x7d"

/-- Sends `message-i` for `i` from `next` on, `left` more times. -/
def sendAll (strand : String) (stamps : Nat → Stamp) : Nat → Nat → Run Unit
  | 0, _ => pure ()
  | left + 1, next => do
    let m ← broker (Broker.send strand ("message-" ++ toString next) stamps)
    say ("sent     " ++ m.id ++ " " ++ m.payload)
    sendAll strand stamps left (next + 1)

/-- Receives and acknowledges `left` envelopes. Nothing arriving is a timeout. -/
def receiveAll (strand : String) : Nat → Run Unit
  | 0 => pure ()
  | left + 1 => do
    match ← broker (Broker.receive strand) with
    | .ready m =>
      say ("received " ++ m.id ++ " " ++ m.payload)
      let _ ← broker (Broker.acknowledge strand m.id)
      receiveAll strand left
    | .waiting _ =>
      fail { message := "timed out waiting for a message", causes := ["deadline has elapsed"] }

/-- The body of `demo`. -/
def demo (c : BrokerConfig) (durable : Bool) (count : Nat) (strand : String)
    (stamps : Nat → Stamp) : Run Unit := do
  register (c.strands ++ [{ name := strand, durable, ordered := true }])
  sendAll strand stamps count 0
  receiveAll strand count
  say (metricsText (← get).broker.metrics.snapshot)

/-- Takes a store's answer, failing with the store's error. -/
def fromStore : Except StoreError α → Run α
  | .ok a => pure a
  | .error e => fail { message := e.message, causes := e.source?.toList }

/-- Receives and prints `left` envelopes of a strand. -/
def drain (strand : String) : Nat → Run Unit
  | 0 => pure ()
  | left + 1 => do
    match ← broker (Broker.receive strand) with
    | .ready m => say (strand ++ " " ++ m.id ++ " " ++ m.payload)
    | .waiting _ => pure ()
    drain strand left

/-- Drains the strands in order. -/
def drainAll : List String → Run Unit
  | [] => pure ()
  | s :: rest => do
    let n := match (← get).broker.transport with
      | .channel ch => ch.pending s
      | .datagram _ => 0
    drain s n
    drainAll rest

/-- The body of `recover`. -/
def recover (c : BrokerConfig) : Run Unit := do
  register c.strands
  let r ← broker Broker.recover
  say ("resent " ++ toString r.resent ++ " message(s), " ++ toString r.failed ++ " failed")
  let strands ← fromStore (← get).broker.durable.listStrands
  drainAll (strands.map (·.1))
  if !r.isClean then
    fail { message := toString r.failed ++ " message(s) could not be redelivered" }

/-- The body of `inspect`. -/
def inspect : Run Unit := do
  let store := (← get).broker.durable
  let strands ← fromStore store.listStrands
  for (strand, conf) in strands do
    let n ← fromStore (store.unacked strand)
    say (strand ++ " durable=" ++ toString conf.durable ++ " ordered=" ++ toString conf.ordered ++
      " unacked=" ++ toString n)
  for m in store.pending do
    say ("  " ++ m.strand ++ " " ++ m.id ++ " " ++ m.payload)

/-- The body of `remove-strand`. -/
def removeStrand (name : String) : Run Unit := do
  brokerWith (fun e => (Failure.ofBroker e).context ("removing strand " ++ name))
    (Broker.removeStrand name)
  say ("removed " ++ name)

/-- The records of a broker's durable store. -/
def recordsOf (b : Broker) : DiskStore.Records :=
  match b.durable with
  | .disk st => st.records
  | .memory _ => {}

/-- Carries out a command with a configuration over the records of its data directory;
`stamps` gives the id and time of each new envelope. Gives the outcome and the records
afterwards, or `none` when the run never opened the store. -/
def execute (c : BrokerConfig) (cmd : Command) (records : DiskStore.Records)
    (stamps : Nat → Stamp) : Outcome × Option DiskStore.Records :=
  let transport : Except Failure Transport := match cmd with
    | .demo _ _ strand => transportOf c [strand]
    | .removeStrand _ => .ok (.channel (Channel.make Channel.defaultCapacity))
    | _ => .ok (.channel (Channel.make c.channelCapacity))
  match transport with
  | .error f => (Outcome.failed "" f, none)
  | .ok t =>
    let body : Run Unit := match cmd with
      | .demo durable count strand => demo c durable count strand stamps
      | .recover => recover c
      | .inspect => inspect
      | .removeStrand name => removeStrand name
    let (r, s) := (body.run).run { broker := wire records t }
    let outcome := match r with
      | .ok () => { status := 0, stdout := s.out }
      | .error stop => Outcome.stopped s.out stop
    (outcome, some (recordsOf s.broker))

end Cli

end Courier
