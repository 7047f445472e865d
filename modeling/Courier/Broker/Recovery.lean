import Courier.Broker

/-!
# Recovery

After a restart, every envelope still in the durable store was sent but not acknowledged.
`Broker.recover` opens a cursor over the durable store and hands each envelope it gives to the
transport again, with its id and timestamp, in store order. A failed hand-over is counted and
the walk goes on; so is an entry the cursor cannot decode. Any other read error stops the walk.
Nothing is deleted. Then the depth of every strand met on the way is reported again, in strand
order, and only then does a stopped walk fail the pass.

A durable store that cannot be walked at all, or one whose walk was stopped, fails the pass as
`BrokerError.recovery`.
-/

namespace Courier

/-- The outcome of a recovery pass. -/
structure RecoveryReport where
  /-- Envelopes handed to the transport again. -/
  resent : Nat := 0
  /-- Envelopes the transport refused, or entries that could not be decoded; they stay in the
  store. -/
  failed : Nat := 0
  deriving DecidableEq, Repr, Inhabited

/-- Whether nothing failed. -/
def RecoveryReport.isClean (r : RecoveryReport) : Bool := r.failed == 0

/-- Where a recovery pass stands in its walk. -/
structure RecoveryWalk where
  /-- What has been counted. -/
  report : RecoveryReport := {}
  /-- The strands of the envelopes met, each once. -/
  met : Keyed Unit := {}
  /-- The read error that stopped the walk, if one did. -/
  stopped : Option StoreError := none
  deriving Inhabited

namespace Broker

/-- Walks what a cursor gives. Each envelope's strand is met, then the envelope is handed to the
transport and counted as resent or failed; an entry that cannot be decoded is counted as failed
and skipped; any other read error stops the walk. -/
def resend : List (Except StoreError Envelope) → RecoveryWalk → Op RecoveryWalk
  | [], w => pure w
  | .ok m :: rest, w => do
    let met := w.met.insert m.strand ()
    match (← get).transport.send m with
    | .ok t =>
      modify fun b => { b with transport := t }
      report (·.noteSent m.strand)
      resend rest { w with met, report := { w.report with resent := w.report.resent + 1 } }
    | .error _ =>
      resend rest { w with met, report := { w.report with failed := w.report.failed + 1 } }
  | .error e :: rest, w =>
    if e.kind = .serializationFailure then
      resend rest { w with report := { w.report with failed := w.report.failed + 1 } }
    else pure { w with stopped := some e }

/-- The strands of a list of envelopes, each once, in order. -/
def strandsOf (ms : List Envelope) : List String :=
  (ms.foldl (fun (t : Keyed Unit) m => t.insert m.strand ()) {}).keys

/-- Reports the depth of each strand of a list, in the durable store. -/
def refreshDepths : List String → Op Unit
  | [] => pure ()
  | s :: rest => do
    reportDepth .durable s
    refreshDepths rest

/-- A recovery pass over what an open cursor gives: the walk, then the depths of the strands
met, then the report, or the error that stopped the walk. -/
def recoverFrom (items : List (Except StoreError Envelope)) : Op RecoveryReport := do
  let w ← resend items {}
  refreshDepths w.met.keys
  match w.stopped with
  | some e => throw (.recovery e)
  | none => return w.report

/-- Hands every envelope of the durable store to the transport again. -/
def recover : Op RecoveryReport := do
  let b ← get
  match Cursor.open? b.durable with
  | .error e => throw (.recovery e)
  | .ok _ => pure ()
  recoverFrom (b.durable.pending.map .ok)

end Broker

end Courier
