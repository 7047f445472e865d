import Courier.Json.Basic
import Courier.Error
import Courier.Envelope
import Courier.Metrics
import Courier.Abort

/-!
# Writing answers

The JSON shapes of the session answers: envelopes, strand configurations, metrics and
errors. A request that the runtime aborts is answered as a whole by the abort's message. A
broker error names its kind and message, and the message of the error it wraps
when it wraps one; a store or transport error names its kind and message; a bad request is
`bad_input` with the reason.
-/

namespace Courier

namespace Bench

/-- An object of fields. -/
def obj (fields : List (String × Json)) : Json := .obj fields

/-- The answer `{"ok": true}`. -/
def okAnswer : Json := obj [("ok", .bool true)]

/-- The answer of a wait that ran out. -/
def timeoutAnswer : Json := obj [("timeout", .bool true)]

/-- An envelope. -/
def envelopeJson (m : Envelope) : Json :=
  obj [("id", .str m.id), ("strand", .str m.strand), ("payload", .str m.payload),
    ("acked", .bool m.acked), ("timestamp", .int m.timestamp)]

/-- A strand configuration. -/
def confJson (c : StrandConf) : Json :=
  obj [("durable", .bool c.durable), ("ordered", .bool c.ordered)]

/-- The numbers of one strand. -/
def strandMetricsJson (m : StrandMetrics) : Json :=
  obj [("sent", .nat m.sent), ("received", .nat m.received), ("depth", .nat m.depth)]

/-- A metrics snapshot, by strand. -/
def metricsJson (snapshot : List (String × StrandMetrics)) : Json :=
  .obj (snapshot.map fun (s, m) => (s, strandMetricsJson m))

/-- A bad request. -/
def badInput (why : String) : Json :=
  obj [("error", .str "bad_input"), ("message", .str why)]

/-- The answer of a request whose run the runtime aborted. -/
def abortJson (a : Abort) : Json :=
  obj [("error", .str "panic"), ("message", .str a.message)]

/-- An error of a kind, with its message. -/
def kindError (kind : ErrorKind) (message : String) : Json :=
  obj [("error", .str kind.name), ("message", .str message)]

/-- A broker error. -/
def brokerErrorJson (e : BrokerError) : Json :=
  let base := [("error", .str e.kind.name), ("message", .str e.message)]
  match e.source? with
  | some s => .obj (base ++ [("source", .str s)])
  | none => .obj base

/-- A store error. -/
def storeErrorJson (e : StoreError) : Json := kindError e.kind e.message

/-- A transport error. -/
def transportErrorJson (e : TransportError) : Json := kindError e.kind e.message

end Bench

end Courier
