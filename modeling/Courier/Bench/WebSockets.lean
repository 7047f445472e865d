import Courier.WebSocket.Loopback
import Courier.Bench.Request
import Courier.Bench.Encode
import Courier.Transport.Datagram

/-!
# WebSocket sessions

A WebSocket session makes a server and a client endpoint and runs a list of steps against
them. Connections are socket pairs on this host (`pair`), made by a plain handshake, so that
their ends read frames up to the plain limit whatever the endpoints' own limits; dialing over
the network (`link`, `raw_link`) finds no route on this host and waits until the session gives
up, and dialing a closed port is refused by the system as unreachable.
-/

namespace Courier

namespace Bench

open WebSocket

/-- An endpoint from the limits a request gives; absent limits are the defaults. -/
def endpointOf (j : Json) (key : String) : Fallible Endpoint :=
  match present j key with
  | none => pure (Endpoint.make Endpoint.defaultInbox)
  | some (.obj fs) => do
    let inbox ← natOr (.obj fs) "inbox" Endpoint.defaultInbox
    let maxMessage ← natOr (.obj fs) "max_message" Endpoint.defaultMaxMessage
    pure (Endpoint.withLimits inbox maxMessage)
  | some _ => throw ("field " ++ key ++ " must be an object")

/-- The side a step names, the client by default. -/
def sideOf (j : Json) : Fallible Side := do
  match ← stringOr j "side" "client" with
  | "client" => pure .client
  | "server" => pure .server
  | other => throw ("unknown side " ++ other)

/-- Refuses a step on a dropped side. -/
def live (w : Loopback) (side : Side) : Fallible Unit :=
  match w.endpoint side with
  | some _ => pure ()
  | none => throw "that side was dropped"

/-- An error of a raw link. -/
def rawError (message : String) : Json := obj [("error", .str "ws"), ("message", .str message)]

/-- The frame a raw send asks for. -/
def frameOf (kind data : String) : Fallible Frame :=
  match kind with
  | "text" => pure (.text data)
  | "binary" => pure (.binary data)
  | "ping" => pure (.ping data)
  | "close" => pure .close
  | other => throw ("unknown frame kind " ++ other)

/-- One step of a WebSocket session. -/
def wsStep (w : Loopback) (j : Json) : Fallible (Json × Loopback) := do
  match ← reqString j "do" with
  | "link" =>
    let _ ← reqString j "strand"
    live w .server
    live w .client
    pure (timeoutAnswer, w.settle)
  | "raw_link" =>
    let _ ← reqString j "path"
    live w .server
    pure (timeoutAnswer, w.settle)
  | "pair" =>
    let strand ← reqString j "strand"
    let mode ← stringOr j "mode" "transport"
    let name ← stringOr j "name" "r"
    live w .server
    match mode with
    | "transport" =>
      live w .client
      let (w, a, b) := w.settle.newPair plainFrameLimit plainFrameLimit
      pure (okAnswer, (w.attach .server strand a).attach .client strand b)
    | "raw" =>
      let (w, a, b) := w.settle.newPair plainFrameLimit plainFrameLimit
      let w := w.attach .server strand a
      pure (okAnswer, ({ w with raws := w.raws.insert name { socket := b } } : Loopback).closeLoose)
    | other => throw ("unknown mode " ++ other)
  | "raw_send" =>
    let name ← stringOr j "name" "r"
    let kind ← stringOr j "kind" "text"
    let data ← stringOr j "data" ""
    if !w.raws.contains name then throw ("no raw link " ++ name)
    let f ← frameOf kind data
    match w.rawSend name f with
    | (.ok (), w) => pure (okAnswer, w)
    | (.error r, w) => pure (rawError r, w)
  | "raw_recv" =>
    let name ← stringOr j "name" "r"
    let (r, w) ← w.rawReceive name
    let answer := match r with
      | .frame (.text s) => obj [("text", .str s)]
      | .frame (.binary s) => obj [("binary", .str s)]
      | .frame _ => obj [("close", .bool true)]
      | .finished => obj [("end", .bool true)]
      | .failed m => rawError m
      | .nothing => timeoutAnswer
    pure (answer, w)
  | "raw_drop" =>
    let name ← stringOr j "name" "r"
    pure (okAnswer, ← w.rawDrop name)
  | "send" =>
    let side ← sideOf j
    let m ← reqEnvelope j
    live w side
    match w.send side m with
    | (.ok (), w) => pure (okAnswer, w)
    | (.error e, w) => pure (transportErrorJson e, w)
  | "receive" =>
    let side ← sideOf j
    let strand ← reqString j "strand"
    live w side
    match w.receive side strand with
    | (.ok (some m), w) => pure (obj [("msg", envelopeJson m)], w)
    | (.ok none, w) => pure (timeoutAnswer, w)
    | (.error e, w) => pure (transportErrorJson e, w)
  | "disconnect" =>
    let side ← sideOf j
    let strand ← reqString j "strand"
    live w side
    pure (okAnswer, w.disconnect side strand)
  | "drop" =>
    let side ← sideOf j
    live w side
    pure (okAnswer, w.drop side)
  | "renew" =>
    let side ← sideOf j
    let e ← endpointOf j "limits"
    pure (okAnswer, ((w.drop side).setEndpoint side (some e)).closeLoose)
  | "is_connected" =>
    let side ← sideOf j
    let strand ← reqString j "strand"
    live w side
    pure (obj [("connected", .bool (w.isConnected side strand))], w)
  | "preserves_order" =>
    let side ← sideOf j
    live w side
    pure (obj [("preserves_order", .bool true)], w)
  | "connect_refused" =>
    let side ← sideOf j
    let _ ← reqString j "strand"
    live w side
    pure (transportErrorJson (.io Datagram.unreachable), w)
  | other => throw ("unknown step " ++ other)

/-- The abort of the runtime that a step raises: a pair asks for an inbox on the server, and in
transport mode on the client after it. -/
def stepAbort (w : Loopback) (j : Json) : Option Abort :=
  if (reqString j "do").toOption = some "pair" then
    let onServer := (w.endpoint .server).bind (·.attachAbort)
    let onClient := if (stringOr j "mode" "transport").toOption = some "transport" then
        (w.endpoint .client).bind (·.attachAbort)
      else none
    onServer <|> onClient
  else none

/-- Runs the steps of a WebSocket session in order; a step that makes the runtime abort ends
the session there. -/
def wsSteps : Loopback → List Json → Except Abort (List Json)
  | _, [] => .ok []
  | w, j :: rest =>
    match stepAbort w j with
    | some abort => .error abort
    | none =>
      match wsStep w j with
      | .ok (a, w') => (a :: ·) <$> wsSteps w'.closeLoose rest
      | .error why => (badInput why :: ·) <$> wsSteps w rest

/-- Runs a WebSocket session. -/
def webSocketSession (j : Json) : Fallible Json := do
  let steps ← steps j
  let server ← endpointOf j "server"
  let client ← endpointOf j "client"
  match wsSteps { server, client } steps with
  | .ok answers => pure (obj [("steps", .arr answers)])
  | .error abort => pure (abortJson abort)

end Bench

end Courier
