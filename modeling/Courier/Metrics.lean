import Courier.Keyed

/-!
# Metrics

Per strand, a broker counts the envelopes it sent and received and records the strand's
latest queue depth. `Metrics.recording` keeps those numbers in a table by strand;
`Metrics.discarding` keeps nothing, so its snapshot is always empty. A strand that was never
recorded reads as all zeros.
-/

namespace Courier

/-- The numbers kept for one strand. -/
structure StrandMetrics where
  /-- Envelopes handed to the transport. -/
  sent : Nat := 0
  /-- Envelopes taken from the transport. -/
  received : Nat := 0
  /-- Unacknowledged envelopes, as last reported. -/
  depth : Nat := 0
  deriving DecidableEq, Repr, Inhabited

/-- Where a broker reports what it does. -/
inductive Metrics where
  /-- Keeps the numbers of every strand reported. -/
  | recording (table : Keyed StrandMetrics)
  /-- Keeps nothing. -/
  | discarding
  deriving Inhabited

namespace Metrics

/-- A recording sink with nothing recorded yet. -/
def fresh : Metrics := .recording {}

/-- Changes the numbers of one strand. -/
def update (mt : Metrics) (strand : String) (f : StrandMetrics → StrandMetrics) : Metrics :=
  match mt with
  | .recording t => .recording (t.alter strand {} f)
  | .discarding => .discarding

/-- Counts one envelope sent. -/
def noteSent (mt : Metrics) (strand : String) : Metrics :=
  mt.update strand fun m => { m with sent := m.sent + 1 }

/-- Counts one envelope received. -/
def noteReceived (mt : Metrics) (strand : String) : Metrics :=
  mt.update strand fun m => { m with received := m.received + 1 }

/-- Records the queue depth of a strand. -/
def noteDepth (mt : Metrics) (strand : String) (depth : Nat) : Metrics :=
  mt.update strand fun m => { m with depth }

/-- The numbers of one strand. -/
def get (mt : Metrics) (strand : String) : StrandMetrics :=
  match mt with
  | .recording t => (t.get? strand).getD {}
  | .discarding => {}

/-- Everything recorded, by strand in order. -/
def snapshot : Metrics → List (String × StrandMetrics)
  | .recording t => t.toList
  | .discarding => []

end Metrics

end Courier
