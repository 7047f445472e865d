import Courier.Json.Basic
import Courier.Envelope

/-!
# Reading requests

A scripted session reads its requests from JSON objects. Each reader here takes one field:
a required field that is absent (or `null`) is refused as missing, a field of the wrong shape
is refused with the shape it must have, and an optional field that is absent takes its
default. A refusal is the text of a bad request.
-/

namespace Courier

namespace Bench

/-- A value read from a request, or why the request is bad. -/
abbrev Fallible := Except String

/-- The field, unless it is absent or `null`. -/
def present (j : Json) (key : String) : Option Json :=
  match j.field? key with
  | none | some .null => none
  | some v => some v

/-- A required string field. -/
def reqString (j : Json) (key : String) : Fallible String :=
  match present j key with
  | none => .error ("missing string field " ++ key)
  | some v => match v.string? with
    | some s => .ok s
    | none => .error ("field " ++ key ++ " must be a string")

/-- An optional string field. -/
def optString (j : Json) (key : String) : Fallible (Option String) :=
  match present j key with
  | none => .ok none
  | some v => match v.string? with
    | some s => .ok (some s)
    | none => .error ("field " ++ key ++ " must be a string")

/-- A string field with a default. -/
def stringOr (j : Json) (key : String) (d : String) : Fallible String :=
  (·.getD d) <$> optString j key

/-- Whether an integer fits in a signed 64-bit word. -/
def fitsI64 (n : Int) : Bool := Envelope.minTimestamp ≤ n && n ≤ Envelope.maxTimestamp

/-- An optional signed 64-bit integer field. -/
def optI64 (j : Json) (key : String) : Fallible (Option Int) :=
  match present j key with
  | none => .ok none
  | some v => match v.int? with
    | some n => if fitsI64 n then .ok (some n) else .error ("field " ++ key ++ " must be an i64 integer")
    | none => .error ("field " ++ key ++ " must be an i64 integer")

/-- A signed 64-bit integer field with a default. -/
def i64Or (j : Json) (key : String) (d : Int) : Fallible Int :=
  (·.getD d) <$> optI64 j key

/-- The largest unsigned 64-bit integer. -/
def u64Max : Nat := 18446744073709551615

/-- An optional unsigned 64-bit integer field. -/
def optNat (j : Json) (key : String) : Fallible (Option Nat) :=
  match present j key with
  | none => .ok none
  | some v => match v.nat? with
    | some n => if n ≤ u64Max then .ok (some n) else .error ("field " ++ key ++ " must be a u64 integer")
    | none => .error ("field " ++ key ++ " must be a u64 integer")

/-- An unsigned 64-bit integer field with a default. -/
def natOr (j : Json) (key : String) (d : Nat) : Fallible Nat :=
  (·.getD d) <$> optNat j key

/-- An optional boolean field. -/
def optBool (j : Json) (key : String) : Fallible (Option Bool) :=
  match present j key with
  | none => .ok none
  | some v => match v.bool? with
    | some b => .ok (some b)
    | none => .error ("field " ++ key ++ " must be a bool")

/-- A boolean field with a default. -/
def boolOr (j : Json) (key : String) (d : Bool) : Fallible Bool :=
  (·.getD d) <$> optBool j key

/-- A required object field. -/
def reqObject (j : Json) (key : String) : Fallible Json :=
  match present j key with
  | some (.obj fs) => .ok (.obj fs)
  | some _ => .error ("field " ++ key ++ " must be an object")
  | none => .error ("missing object field " ++ key)

/-- The `steps` list of a session. -/
def steps (j : Json) : Fallible (List Json) :=
  match j.field? "steps" with
  | some (.arr xs) => .ok xs
  | _ => .error "steps must be a list"

/-- An envelope described by an object of optional fields; `acked` marks it acknowledged. -/
def readEnvelope (j : Json) : Fallible Envelope := do
  let id ← stringOr j "id" ""
  let strand ← stringOr j "strand" ""
  let payload ← stringOr j "payload" ""
  let timestamp ← i64Or j "timestamp" 0
  let acked ← boolOr j "acked" false
  let m := Envelope.make id strand payload timestamp
  pure (if acked then m.markAcked else m)

/-- The envelope in a request's `msg` field. -/
def reqEnvelope (j : Json) : Fallible Envelope := do
  readEnvelope (← reqObject j "msg")

end Bench

end Courier
