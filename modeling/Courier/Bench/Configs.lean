import Courier.Bench.Request
import Courier.Bench.Encode
import Courier.Config.Decode

/-!
# Configuration requests

Reading a configuration from TOML text, from a file, with the data directory of the
environment, and building one with the builders. Each answer holds the configuration, whether
it validates, and the strand configurations it registers; a configuration that cannot be had
is answered with the error's kind and message.
-/

namespace Courier

namespace Bench

/-- The JSON form of a transport. -/
def transportJson : TransportConfig → Json
  | .channel => obj [("kind", .str "channel")]
  | .ws peer => obj [("kind", .str "ws"), ("peer", .str peer.render)]
  | .udp bind peer limit =>
    obj [("kind", .str "udp"), ("bind", .str bind.render), ("peer", .str peer.render),
      ("max_datagram", .nat limit)]

/-- The JSON form of a strand entry. -/
def strandEntryJson (e : StrandEntry) : Json :=
  obj [("name", .str e.name), ("durable", .bool e.durable), ("ordered", .bool e.ordered)]

/-- The JSON form of a configuration. -/
def configJson (c : BrokerConfig) : Json :=
  obj [("data_dir", .str c.dataDir), ("channel_capacity", .nat c.channelCapacity),
    ("transport", transportJson c.transport), ("strands", .arr (c.strands.map strandEntryJson))]

/-- The answer for a configuration error. -/
def configErrorJson (e : ConfigError) : Json :=
  obj [("error", .str e.name), ("message", .str e.message)]

/-- The answer for a configuration: itself, whether it validates, and its strands'
configurations. -/
def configAnswer (c : BrokerConfig) : Json :=
  let valid := match c.validate with
    | .ok () => true
    | .error _ => false
  obj [("config", configJson c), ("validate_ok", .bool valid),
    ("strand_confs", .arr (c.strands.map fun e =>
      obj [("name", .str e.name), ("conf", confJson e.conf)]))]

/-- The answer for a configuration or the error in its place. -/
def configOutcome : Except ConfigError BrokerConfig → Json
  | .ok c => configAnswer c
  | .error e => configErrorJson e

/-- Reads a configuration from TOML text. -/
def configParse (j : Json) : Fallible Json := do
  let text ← reqString j "toml"
  pure (configOutcome (BrokerConfig.ofToml text))

/-- The name a configuration file is reported under. -/
def configPath : String := "<PATH>"

/-- Reads a configuration from a file: the given text, a file that is not there, or a
directory. -/
def configLoad (j : Json) : Fallible Json := do
  let text ← optString j "toml"
  let isDir ← boolOr j "as_dir" false
  let read : Except ConfigError String :=
    if isDir then .error (.read configPath "Is a directory (os error 21)")
    else match text with
      | some t => .ok t
      | none => .error (.read configPath "No such file or directory (os error 2)")
  pure (configOutcome (read >>= BrokerConfig.ofToml))

/-- Reads a configuration from TOML text and applies the data directory of the
environment. -/
def configEnv (j : Json) : Fallible Json := do
  let text ← stringOr j "toml" ""
  let dir ← optString j "env"
  pure (configOutcome ((·.withEnv dir) <$> BrokerConfig.ofToml text))

/-- Reads one strand of a build request. -/
def strandRequest (j : Json) : Fallible (String × StrandConf) := do
  let name ← reqString j "name"
  let durable ← boolOr j "durable" false
  let ordered ← boolOr j "ordered" false
  pure (name, { durable, ordered })

/-- Builds a configuration with the builders, and validates it. -/
def configBuild (j : Json) : Fallible Json := do
  let dir ← optString j "data_dir"
  let strands ← match present j "strands" with
    | none => pure []
    | some v => match v.items? with
      | some items => items.mapM strandRequest
      | none => throw "strands must be a list"
  let base : BrokerConfig := match dir with
    | some d => ({} : BrokerConfig).setDataDir d
    | none => {}
  let c := strands.foldl (fun c (name, conf) => c.addStrand name conf) base
  let verdict := match c.validate with
    | .ok () => okAnswer
    | .error e => configErrorJson e
  pure ((configAnswer c).merge [("validate", verdict)])

end Bench

end Courier
