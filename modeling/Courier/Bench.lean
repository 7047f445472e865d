import Courier.Bench.Basic
import Courier.Bench.Session
import Courier.Bench.Datagrams
import Courier.Bench.Ids
import Courier.Bench.WebSockets
import Courier.Bench.Configs
import Courier.Bench.Commands

/-!
# Scripted requests

`Bench.answer` answers one request object. Its `op` field names what to do; a request that
cannot be run is answered `bad_input` with the reason.
-/

namespace Courier

namespace Bench

/-- The handler of an operation, if there is one. -/
def handler (op : String) : Option (Json → Fallible Json) :=
  match op with
  | "validate_strand" => some validateStrand
  | "strand_conf" => some strandConf
  | "msg_json" => some envelopeText
  | "msg_decode" => some envelopeRead
  | "broker" => some brokerSession
  | "udp" => some datagramSession
  | "ulid" => some idRequest
  | "ws" => some webSocketSession
  | "config_parse" => some configParse
  | "config_load" => some configLoad
  | "config_env" => some configEnv
  | "config_build" => some configBuild
  | "cli" => some commandRuns
  | _ => none

/-- Answers one request. -/
def answer (j : Json) : Json :=
  match reqString j "op" with
  | .error why => badInput why
  | .ok op =>
    match handler op with
    | none => badInput ("unknown op " ++ op)
    | some h =>
      match h j with
      | .ok a => a
      | .error why => badInput why

end Bench

end Courier
