import Courier.Bench.Request
import Courier.Bench.Encode
import Courier.Envelope.Decode

/-!
# Single requests

The requests that need no session: checking a strand id, building a strand configuration,
writing an envelope in its wire form and reading one back.
-/

namespace Courier

namespace Bench

/-- Checks a strand id. -/
def validateStrand (j : Json) : Fallible Json := do
  let id ← reqString j "id"
  match Strand.check id with
  | .ok () => pure okAnswer
  | .error r =>
    pure (obj [("error", .str "InvalidStrand"), ("reason", .str r.name), ("message", .str r.message)])

/-- Builds a strand configuration from a base and an ordering flag. -/
def strandConf (j : Json) : Fallible Json := do
  let base ← reqString j "base"
  let ordered ← boolOr j "ordered" false
  let conf ← match base with
    | "durable" => pure StrandConf.persistent
    | "volatile" => pure StrandConf.transient
    | "default" => pure ({} : StrandConf)
    | other => throw ("unknown base " ++ other)
  pure (obj [("conf", confJson (if ordered then conf.withOrder else conf))])

/-- Writes an envelope in its wire form, with the form's length in bytes. -/
def envelopeText (j : Json) : Fallible Json := do
  let m ← reqEnvelope j
  let text := m.encode
  pure (obj [("json", .str text), ("len", .nat text.utf8ByteSize)])

/-- Reads an envelope from its wire form. -/
def envelopeRead (j : Json) : Fallible Json := do
  let text ← reqString j "text"
  match Envelope.decode text with
  | .ok m => pure (obj [("msg", envelopeJson m)])
  | .error e => pure (storeErrorJson (.serialization e.message))

end Bench

end Courier
