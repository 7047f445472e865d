import Courier.Strand
import Courier.Text.Quoted

/-!
# Errors

Each layer has its own error type, each with one `message` function for its sentence and one
`kind` function that sorts it into the coarse `ErrorKind` a caller acts on.

- `StoreError`: what a store refuses or fails at.
- `TransportError`: what a transport refuses or fails at.
- `BrokerError`: what the broker answers. A store's "strand exists", "strand not found" and
  "message not found" are lifted to the broker's own cases (`BrokerError.ofStore`); other
  store and transport errors are wrapped with the strand they happened on and kept as the
  error's source, and so is the store error of a failed recovery pass.
-/

namespace Courier

/-- The coarse sorts of errors. -/
inductive ErrorKind where
  | invalidStrand
  | strandNotFound
  | strandExists
  | messageNotFound
  | messageUnavailable
  | bufferFull
  | noConnection
  | persistenceFailure
  | serializationFailure
  deriving DecidableEq, Repr

/-- The name of an error kind. -/
def ErrorKind.name : ErrorKind → String
  | .invalidStrand => "InvalidStrand"
  | .strandNotFound => "StrandNotFound"
  | .strandExists => "StrandExists"
  | .messageNotFound => "MessageNotFound"
  | .messageUnavailable => "MessageUnavailable"
  | .bufferFull => "BufferFull"
  | .noConnection => "NoConnection"
  | .persistenceFailure => "PersistenceFailure"
  | .serializationFailure => "SerializationFailure"

/-- What a store refuses or fails at. -/
inductive StoreError where
  /-- A strand of that id is already registered. -/
  | strandExists (strand : String)
  /-- No strand of that id is registered. -/
  | strandNotFound (strand : String)
  /-- The strand holds no message of that id. -/
  | messageNotFound (strand : String) (id : String)
  /-- The store is closed. -/
  | closed
  /-- Cursors still hold the store open. -/
  | cursorsOpen (count : Nat)
  /-- The key-value backend failed, with its report. -/
  | backend (report : String)
  /-- A file-system operation failed, with its report. -/
  | io (report : String)
  /-- A stored record could not be read back, with the reader's report. -/
  | serialization (report : String)
  deriving DecidableEq, Repr

/-- The sentence for a store error. -/
def StoreError.message : StoreError → String
  | .strandExists s => "strand already exists: " ++ s
  | .strandNotFound s => "strand not found: " ++ s
  | .messageNotFound s i => "message " ++ i ++ " not found in strand " ++ s
  | .closed => "store is closed"
  | .cursorsOpen n => toString n ++ " unacked cursor(s) still open"
  | .backend r => "key-value store failure: " ++ r
  | .io r => "store i/o failure: " ++ r
  | .serialization r => "envelope (de)serialization failed: " ++ r

/-- The kind of a store error. -/
def StoreError.kind : StoreError → ErrorKind
  | .strandExists _ => .strandExists
  | .strandNotFound _ => .strandNotFound
  | .messageNotFound _ _ => .messageNotFound
  | .closed | .cursorsOpen _ | .backend _ | .io _ => .persistenceFailure
  | .serialization _ => .serializationFailure

/-- The error a store error wraps, as its sentence. -/
def StoreError.source? : StoreError → Option String
  | .io r => some r
  | .backend r => some r
  | .serialization r => some r
  | _ => none

/-- What a transport refuses or fails at. -/
inductive TransportError where
  /-- The strand's buffer holds as many messages as it can. -/
  | bufferFull (strand : String)
  /-- Nothing connects the strand. -/
  | noConnection (strand : String)
  /-- The strand's connection ended and its queue is drained. -/
  | closed (strand : String)
  /-- A datagram would exceed the size limit. -/
  | packetTooLarge (size : Nat) (limit : Nat)
  /-- A socket operation failed, with the system's report. -/
  | io (report : String)
  /-- The WebSocket layer failed, with its report. -/
  | webSocket (report : String)
  /-- A frame could not be written or read, with the reader's report. -/
  | serialization (report : String)
  deriving DecidableEq, Repr

/-- The sentence for a transport error. -/
def TransportError.message : TransportError → String
  | .bufferFull s => "buffer full for strand " ++ s
  | .noConnection s => "no connection for strand " ++ s
  | .closed s => "channel closed for strand " ++ s
  | .packetTooLarge n l => "packet of " ++ toString n ++ " bytes exceeds limit of " ++ toString l ++ " bytes"
  | .io r => "transport i/o failure: " ++ r
  | .webSocket r => "websocket failure: " ++ r
  | .serialization r => "frame (de)serialization failed: " ++ r

/-- The kind of a transport error. -/
def TransportError.kind : TransportError → ErrorKind
  | .bufferFull _ | .packetTooLarge _ _ => .bufferFull
  | .noConnection _ | .closed _ | .io _ | .webSocket _ => .noConnection
  | .serialization _ => .serializationFailure

/-- Whether a transport error means that nothing can arrive on the strand. -/
def TransportError.isDisconnected : TransportError → Bool
  | .noConnection _ | .closed _ => true
  | _ => false

/-- The error a transport error wraps, as its sentence. -/
def TransportError.source? : TransportError → Option String
  | .io r => some r
  | .webSocket r => some r
  | .serialization r => some r
  | _ => none

/-- What the broker answers. -/
inductive BrokerError where
  /-- The strand id breaks a rule of `Strand.check`. -/
  | invalidStrand (strand : String) (reason : Strand.Invalid)
  | strandNotFound (strand : String)
  | strandExists (strand : String)
  | messageNotFound (strand : String) (id : String)
  /-- Nothing can arrive on the strand; the transport's error is the source. -/
  | messageUnavailable (strand : String) (source : TransportError)
  /-- A store failed on the strand. -/
  | storage (strand : String) (source : StoreError)
  /-- The transport failed on the strand. -/
  | transport (strand : String) (source : TransportError)
  /-- A recovery pass could not read the durable store. -/
  | recovery (source : StoreError)
  deriving DecidableEq, Repr

/-- A store error as the broker reports it for a strand. -/
def BrokerError.ofStore (strand : String) : StoreError → BrokerError
  | .strandExists s => .strandExists s
  | .strandNotFound s => .strandNotFound s
  | .messageNotFound s i => .messageNotFound s i
  | e => .storage strand e

/-- The sentence for a broker error. -/
def BrokerError.message : BrokerError → String
  | .invalidStrand s r => "invalid strand id " ++ Quoted.debug s ++ ": " ++ r.message
  | .strandNotFound s => "strand not found: " ++ s
  | .strandExists s => "strand already exists: " ++ s
  | .messageNotFound s i => "message " ++ i ++ " not found in strand " ++ s
  | .messageUnavailable s _ => "no message available on strand " ++ s
  | .storage s _ => "storage failure on strand " ++ s
  | .transport s _ => "transport failure on strand " ++ s
  | .recovery _ => "recovery pass over the durable store failed"

/-- The kind of a broker error; a wrapped error has its source's kind. -/
def BrokerError.kind : BrokerError → ErrorKind
  | .invalidStrand _ _ => .invalidStrand
  | .strandNotFound _ => .strandNotFound
  | .strandExists _ => .strandExists
  | .messageNotFound _ _ => .messageNotFound
  | .messageUnavailable _ _ => .messageUnavailable
  | .storage _ e => e.kind
  | .transport _ e => e.kind
  | .recovery e => e.kind

/-- The sentence of the error a broker error wraps. -/
def BrokerError.source? : BrokerError → Option String
  | .messageUnavailable _ e => some e.message
  | .storage _ e => some e.message
  | .transport _ e => some e.message
  | .recovery e => some e.message
  | _ => none

/-- The sentences of the errors a broker error wraps, outermost first. -/
def BrokerError.causes : BrokerError → List String
  | .messageUnavailable _ e => e.message :: e.source?.toList
  | .storage _ e => e.message :: e.source?.toList
  | .transport _ e => e.message :: e.source?.toList
  | .recovery e => e.message :: e.source?.toList
  | _ => []

end Courier
