import Courier.Bench.Request
import Courier.Bench.Encode
import Courier.Ulid

/-!
# Id requests

An id request stamps a run of ids at one fixed instant and reports what must hold of them:
the seconds of the instant, the ids' length and common time part, the milliseconds read back
from the first id, the differences of consecutive ids, and whether they are in order. With the
system clock it reports only that ids are well formed and in order.
-/

namespace Courier

namespace Bench

/-- The first millisecond of the calendar the clock can show (years -262143 to
262142). -/
def earliestMillis : Int := -8334601315200000

/-- The last millisecond of the calendar the clock can show. -/
def latestMillis : Int := 8210266876799999

/-- Whether every item equals the first. -/
def allSame [BEq α] : List α → Bool
  | [] => true
  | a :: rest => rest.all (· == a)

/-- Whether consecutive texts increase. -/
def increasing : List String → Bool
  | a :: b :: rest => decide (a < b) && increasing (b :: rest)
  | _ => true

/-- The differences of consecutive numbers. -/
def differences (vs : List Nat) : List Int :=
  (vs.zip vs.tail).map fun (a, b) => (b : Int) - a

/-- Runs an id request. -/
def idRequest (j : Json) : Fallible Json := do
  if (present j "clock").bind Json.string? = some "system" then
    let (us, _) := ({} : Ulid.Generator).run 0 (fun i => i) 50
    let texts := us.map Ulid.encode
    return obj [("len", .nat ((texts.head?.map String.length).getD 0)),
      ("sorted", .bool (increasing texts)), ("valid", .bool (texts.all Ulid.isValid))]
  let ms ← match ← optI64 j "ms" with
    | some v => pure v
    | none => throw "missing integer field ms"
  let count ← match ← optNat j "count" with
    | some v => pure v
    | none => throw "missing integer field count"
  if count < 1 || count > 1000 then throw "count must be 1..=1000"
  if ms < earliestMillis || ms > latestMillis then throw "ms out of range"
  let (us, _) := ({} : Ulid.Generator).run ms (fun _ => 0) count
  let texts := us.map Ulid.encode
  let first := texts.headD ""
  let timestamps := us.map fun _ => ms / 1000
  pure (obj [
    ("timestamp", .int (ms / 1000)),
    ("timestamps_equal", .bool (allSame timestamps)),
    ("len", .nat first.length),
    ("time_part", .str (String.ofList (first.toList.take 10))),
    ("time_parts_equal", .bool (allSame (texts.map fun t => t.toList.take 10))),
    ("ulid_ms", .nat ((Ulid.millisOf? first).getD 0)),
    ("deltas", .arr ((differences (us.map Ulid.value)).map fun d => .str (toString d))),
    ("sorted", .bool (increasing texts))])

end Bench

end Courier
