import Courier.Strand
import Courier.Net.SocketAddr
import Courier.Toml.Error
import Courier.Text.Quoted
import Courier.Transport.Channel
import Courier.Transport.Datagram

/-!
# Broker configuration

A broker process is configured by a directory for its durable store, the buffer size of the
in-process transport, the transport to wire in, and the strands to register at startup. The
configuration is written in TOML (`Courier.Config.Decode`); every field has a default.

`BrokerConfig.validate` checks a configuration in a fixed order: the channel capacity must
be at least one; then each strand in list order must have a valid id and must not repeat an
earlier name. The first broken rule is the error. The builders (`setDataDir`, `addStrand`)
do not validate.
-/

namespace Courier

/-- The transport a broker process wires in. -/
inductive TransportConfig where
  /-- In-process buffers, sized by the channel capacity. -/
  | channel
  /-- A WebSocket per strand to a peer. -/
  | ws (peer : SocketAddr)
  /-- Datagrams between a bound address and a peer, of at most `maxDatagram` bytes. -/
  | udp (bind peer : SocketAddr) (maxDatagram : Nat)
  deriving DecidableEq, Repr, Inhabited

/-- A strand registered at startup. -/
structure StrandEntry where
  /-- Its id. -/
  name : String
  /-- Whether it lives in the durable store. -/
  durable : Bool := false
  /-- Whether it asks for ordered delivery. -/
  ordered : Bool := false
  deriving DecidableEq, Repr, Inhabited

/-- The per-strand configuration of an entry. -/
def StrandEntry.conf (e : StrandEntry) : StrandConf :=
  { durable := e.durable, ordered := e.ordered }

/-- The default directory of the durable store. -/
def BrokerConfig.defaultDataDir : String := "./skein-data"

/-- The configuration of a broker process. -/
structure BrokerConfig where
  /-- The directory of the durable store. -/
  dataDir : String := BrokerConfig.defaultDataDir
  /-- The per-strand buffer size of the in-process transport. -/
  channelCapacity : Nat := Channel.defaultCapacity
  /-- The transport. -/
  transport : TransportConfig := .channel
  /-- The strands to register. -/
  strands : List StrandEntry := []
  deriving DecidableEq, Repr, Inhabited

/-- Why a configuration could not be had. -/
inductive ConfigError where
  /-- The file could not be read. -/
  | read (path : String) (reason : String)
  /-- The text is not a configuration: the text and the error in it. -/
  | parse (source : String) (error : Toml.Error)
  /-- A strand has an invalid id. -/
  | invalidStrand (name : String) (reason : Strand.Invalid)
  /-- A strand is listed twice. -/
  | duplicateStrand (name : String)
  /-- The channel capacity is zero. -/
  | zeroCapacity
  deriving DecidableEq, Repr

namespace ConfigError

/-- The name of the kind of error. -/
def name : ConfigError → String
  | .read .. => "Read"
  | .parse .. => "Parse"
  | .invalidStrand .. => "InvalidStrand"
  | .duplicateStrand _ => "DuplicateStrand"
  | .zeroCapacity => "ZeroCapacity"

/-- The sentence that reports an error. -/
def message : ConfigError → String
  | .read path reason => "failed to read config " ++ path ++ ": " ++ reason
  | .parse source e => "invalid config: " ++ e.report source
  | .invalidStrand name reason =>
    "invalid strand " ++ Quoted.debug name ++ " in config: " ++ reason.message
  | .duplicateStrand name => "strand " ++ Quoted.debug name ++ " is listed more than once"
  | .zeroCapacity => "channel_capacity must be at least 1"

/-- The report of the error that caused this one, if there is one. -/
def cause? : ConfigError → Option String
  | .read _ reason => some reason
  | .parse source e => some (e.report source)
  | _ => none

end ConfigError

namespace BrokerConfig

/-- Checks strands in order, given the names of those before them. -/
def checkStrands (seen : List String) : List StrandEntry → Except ConfigError Unit
  | [] => .ok ()
  | e :: rest =>
    match Strand.check e.name with
    | .error reason => .error (.invalidStrand e.name reason)
    | .ok () =>
      if seen.contains e.name then .error (.duplicateStrand e.name)
      else checkStrands (e.name :: seen) rest

/-- Checks a configuration: the capacity first, then each strand's id and uniqueness. -/
def validate (c : BrokerConfig) : Except ConfigError Unit :=
  if c.channelCapacity = 0 then .error .zeroCapacity
  else checkStrands [] c.strands

/-- Replaces the data directory. -/
def setDataDir (c : BrokerConfig) (dir : String) : BrokerConfig := { c with dataDir := dir }

/-- Adds a strand at the end of the list. -/
def addStrand (c : BrokerConfig) (name : String) (conf : StrandConf) : BrokerConfig :=
  { c with strands := c.strands ++ [{ name, durable := conf.durable, ordered := conf.ordered }] }

/-- Applies the data directory of the environment, when it is set. -/
def withEnv (c : BrokerConfig) (dir : Option String) : BrokerConfig :=
  match dir with
  | some d => c.setDataDir d
  | none => c

end BrokerConfig

end Courier
