import Courier.Json.Text

/-!
# Envelopes

An envelope is one message: its id, the strand it belongs to, the payload, whether it has
been acknowledged, and a timestamp in seconds (a signed 64-bit count).

`Envelope.encode` is the wire and disk form: a JSON object with the fields in the order id,
strand, payload, acked, timestamp, no blanks, strings written by `Json.quote` and the
timestamp as a decimal integer. `Envelope.decode` (in `Courier.Envelope.Decode`) reads it back.
-/

namespace Courier

/-- One message. -/
structure Envelope where
  /-- The id the broker gave it. -/
  id : String
  /-- The strand it is sent on. -/
  strand : String
  /-- The payload text. -/
  payload : String
  /-- Whether it has been acknowledged. -/
  acked : Bool := false
  /-- Seconds since the epoch, a signed 64-bit value. -/
  timestamp : Int
  deriving DecidableEq, Repr, Inhabited

namespace Envelope

/-- The least timestamp, `-2 ^ 63`. -/
def minTimestamp : Int := -9223372036854775808

/-- The greatest timestamp, `2 ^ 63 - 1`. -/
def maxTimestamp : Int := 9223372036854775807

/-- A fresh, unacknowledged envelope. -/
def make (id strand payload : String) (timestamp : Int) : Envelope :=
  { id, strand, payload, acked := false, timestamp }

/-- The same envelope, acknowledged. -/
def markAcked (m : Envelope) : Envelope := { m with acked := true }

/-- The JSON text of a boolean. -/
def boolText (b : Bool) : String := if b then "true" else "false"

/-- The wire and disk form of an envelope. -/
def encode (m : Envelope) : String :=
  "\x7b\"id\":" ++ Json.quote m.id ++ ",\"strand\":" ++ Json.quote m.strand ++
    ",\"payload\":" ++ Json.quote m.payload ++ ",\"acked\":" ++ boolText m.acked ++
    ",\"timestamp\":" ++ toString m.timestamp ++ "\x7d"

@[simp] theorem markAcked_acked (m : Envelope) : m.markAcked.acked = true := rfl

@[simp] theorem markAcked_id (m : Envelope) : m.markAcked.id = m.id := rfl

@[simp] theorem markAcked_strand (m : Envelope) : m.markAcked.strand = m.strand := rfl

@[simp] theorem make_acked (id strand payload : String) (t : Int) :
    (make id strand payload t).acked = false := rfl

end Envelope

end Courier
