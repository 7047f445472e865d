import Courier.Config
import Courier.Toml.Document
import Courier.Decimal.Shortest

/-!
# Reading a configuration from TOML

`BrokerConfig.ofToml` reads a TOML text, takes the configuration out of its root table, and
validates it. Unknown keys are ignored; missing ones take their defaults.

The root table and the strand tables are read key by key in the sorted order of their keys;
a table's missing required field is reported after all its keys were read. The value of an
unknown key is skipped, but a number in it too large to be read fails even there. An error about
a value points at that value's text, and an error that arises inside a table or array
without a place of its own points at the table or array.

The transport table is told apart by its `kind` key (`channel`, `ws` or `udp`). Its other
keys are taken as plain data first and read by the chosen kind afterwards, so an error in
them, or a missing `kind`, points at the transport table as a whole; only an integer wider
than 64 bits fails already as plain data, at its own place. An array can stand for a
transport too: its first item is the kind and the rest are the fields in order.

Errors say what was found (`string "x"`, ``integer `5` ``, ``integer `5` as i128`` for one
wider than 64 bits, `map`, `sequence`, …) and what was expected (`usize`, `a boolean`,
`a string`, `path string`, `a sequence`, `socket address`, `struct StrandEntry`, …). A
number too large to be read (`Value.overflow`) cannot be read as anything.
-/

namespace Courier

namespace BrokerConfig

open Toml

/-- How a double is shown in an error: every digit before the point, and `.0` for a whole
number. -/
def floatFormat : Decimal.Format := ⟨400, -400, false, 0⟩

/-- The text of a double in an error. -/
def floatText (x : Float) : String :=
  if x.isNaN then "NaN"
  else if x.isInf then (if x < 0 then "-inf" else "inf")
  else Decimal.render floatFormat x

/-- How wide an integer is when it is handed to a reader: 64 bits (signed, or unsigned above
the signed range), 128 bits signed, or 128 bits unsigned. -/
inductive Width where
  | word
  | signedWide
  | unsignedWide
  deriving DecidableEq

/-- The width of an integer of at most 128 bits. -/
def width (n : Int) : Width :=
  if -Int.pow 2 63 ≤ n ∧ n < Int.pow 2 64 then .word
  else if -Int.pow 2 127 ≤ n ∧ n < Int.pow 2 127 then .signedWide
  else .unsignedWide

/-- How a value is described when it is not what was expected. -/
def found : Value → String
  | .string _ s => "string " ++ Quoted.debug s
  | .integer _ n =>
    "integer `" ++ toString n ++ "`" ++ match width n with
      | .signedWide => " as i128"
      | .unsignedWide => " as u128"
      | .word => ""
  | .float _ x => "floating point `" ++ floatText x ++ "`"
  | .overflow _ .integer => "integer"
  | .overflow _ .float => "floating point"
  | .boolean _ b => "boolean `" ++ toString b ++ "`"
  | .datetime .. | .table .. => "map"
  | .array .. => "sequence"

/-- The error of reading a number too large to be read at all, whatever was expected. -/
def overflowError : Value → Option Error
  | .overflow _ k => some { message := k.overflowed }
  | _ => none

/-- A value of the wrong type; a number too large to be read fails as such first. -/
def invalidType (v : Value) (expected : String) : Error :=
  match overflowError v with
  | some e => e
  | none => { message := "invalid type: " ++ found v ++ ", expected " ++ expected }

/-- A value of the right type but out of range. -/
def invalidValue (v : Value) (expected : String) : Error :=
  { message := "invalid value: " ++ found v ++ ", expected " ++ expected }

/-- A required field that is missing. -/
def missingField (name : String) : Error := { message := "missing field `" ++ name ++ "`" }

/-- An array with too few items. -/
def invalidLength (n : Nat) (expected : String) : Error :=
  { message := "invalid length " ++ toString n ++ ", expected " ++ expected }

/-- Reads a value, pointing an error without a place at the value. -/
def spanned (read : Value → Except Error α) (v : Value) : Except Error α :=
  match read v with
  | .ok a => .ok a
  | .error e => .error (e.within v.span)

/-- Reads an unsigned machine-sized integer. A negative one of 64 bits is out of range; a
wider one is of the wrong type. -/
def usize (v : Value) : Except Error Nat :=
  match v with
  | .integer _ n =>
    if width n = .word then
      if n < 0 then .error (invalidValue v "usize") else .ok n.toNat
    else .error (invalidType v "usize")
  | _ => .error (invalidType v "usize")

/-- Reads a boolean. -/
def boolean (v : Value) : Except Error Bool :=
  match v with
  | .boolean _ b => .ok b
  | _ => .error (invalidType v "a boolean")

/-- Reads a string. -/
def string (v : Value) : Except Error String :=
  match v with
  | .string _ s => .ok s
  | _ => .error (invalidType v "a string")

/-- Reads a path. -/
def path (v : Value) : Except Error String :=
  match v with
  | .string _ s => .ok s
  | _ => .error (invalidType v "path string")

/-- Reads a socket address. -/
def socketAddr (v : Value) : Except Error SocketAddr :=
  match v with
  | .string _ s =>
    match SocketAddr.parse? s with
    | some a => .ok a
    | none => .error { message := "invalid socket address syntax" }
  | _ => .error (invalidType v "socket address")

/-- The entries of a table in the sorted order of their keys. -/
def sorted (entries : List (String × Value)) : List (String × Value) :=
  entries.mergeSort fun a b => decide (a.1 ≤ b.1)

/-- Reads the keys of a table in order into a state, each key by `step`. -/
def fields (step : σ → String → Value → Except Error σ) (init : σ)
    (entries : List (String × Value)) : Except Error σ :=
  (sorted entries).foldlM (fun s (k, v) => step s k v) init

/-- Reads a required field at the end of a table. -/
def required (name : String) : Option α → Except Error α
  | some a => .ok a
  | none => .error (missingField name)

mutual

/-- The first number in a value, in reading order, that cannot be read: one too large to be
read at all, or, when the value is kept as plain data (`asData`), an integer wider than 64
bits. The error about it points at it. -/
def faultIn (asData : Bool) : Value → Option Error
  | .integer s n =>
    if asData && width n ≠ .word then some ((invalidType (.integer s n) "any value").within s)
    else none
  | .overflow s k => some ((invalidType (.overflow s k) "any value").within s)
  | .array _ items => faultInItems asData items
  | .table _ entries => (faultInEntries asData entries).map (·.2)
  | _ => none

/-- The first fault in some items. -/
def faultInItems (asData : Bool) : List Value → Option Error
  | [] => none
  | v :: rest =>
    match faultIn asData v with
    | some e => some e
    | none => faultInItems asData rest

/-- The fault under the least key of some entries that hold one, with that key. -/
def faultInEntries (asData : Bool) : List (String × Value) → Option (String × Error)
  | [] => none
  | (k, v) :: rest =>
    match (faultIn asData v).map (k, ·), faultInEntries asData rest with
    | some a, some b => if b.1 < a.1 then some b else some a
    | some a, none => some a
    | none, later => later

end

/-- Skips a value under an unknown key; only a number too large to be read fails. -/
def ignore (c : α) (v : Value) : Except Error α :=
  match faultIn false v with
  | some e => .error e
  | none => .ok c

/-- The fields of a strand entry read so far. -/
structure EntryFields where
  name : Option String := none
  durable : Bool := false
  ordered : Bool := false

/-- Reads a strand entry from a table or an array. -/
def strandEntry (v : Value) : Except Error StrandEntry :=
  match v with
  | .table _ entries => do
    let f ← fields (fun (f : EntryFields) k v =>
      if k = "name" then (fun s => { f with name := some s }) <$> spanned string v
      else if k = "durable" then (fun b => { f with durable := b }) <$> spanned boolean v
      else if k = "ordered" then (fun b => { f with ordered := b }) <$> spanned boolean v
      else ignore f v) {} entries
    let name ← required "name" f.name
    pure { name, durable := f.durable, ordered := f.ordered }
  | .array _ items =>
    match items with
    | [] => .error (invalidLength 0 "struct StrandEntry with 3 elements")
    | n :: rest => do
      let name ← spanned string n
      let durable ← match rest with
        | d :: _ => spanned boolean d
        | [] => pure false
      let ordered ← match rest.drop 1 with
        | o :: _ => spanned boolean o
        | [] => pure false
      pure { name, durable, ordered }
  | _ => .error (invalidType v "struct StrandEntry")

/-- Reads the list of strands. -/
def strandList (v : Value) : Except Error (List StrandEntry) :=
  match v with
  | .array _ items => items.mapM (spanned strandEntry)
  | _ => .error (invalidType v "a sequence")

/-- The kinds of transport. -/
inductive Kind where
  | channel
  | ws
  | udp

/-- Reads the kind of a transport. -/
def kind (v : Value) : Except Error Kind :=
  match v with
  | .string _ s =>
    if s = "channel" then .ok .channel
    else if s = "ws" then .ok .ws
    else if s = "udp" then .ok .udp
    else .error { message := "unknown variant `" ++ s ++ "`, expected one of `channel`, `ws`, `udp`" }
  | _ => .error (invalidType v "variant identifier")

/-- The fields of a datagram transport read so far. -/
structure UdpFields where
  bind : Option SocketAddr := none
  peer : Option SocketAddr := none
  maxDatagram : Nat := Datagram.defaultLimit

/-- Reads the fields of a transport of a kind from its other keys. -/
def transportFields (k : Kind) (entries : List (String × Value)) : Except Error TransportConfig :=
  match k with
  | .channel => .ok .channel
  | .ws => do
    let peer ← fields (fun (p : Option SocketAddr) key v =>
      if key = "peer" then some <$> socketAddr v else .ok p) none entries
    .ws <$> required "peer" peer
  | .udp => do
    let f ← fields (fun (f : UdpFields) key v =>
      if key = "bind" then (fun a => { f with bind := some a }) <$> socketAddr v
      else if key = "peer" then (fun a => { f with peer := some a }) <$> socketAddr v
      else if key = "max_datagram" then (fun n => { f with maxDatagram := n }) <$> usize v
      else .ok f) {} entries
    let bind ← required "bind" f.bind
    let peer ← required "peer" f.peer
    pure (.udp bind peer f.maxDatagram)

/-- The error for items left over after a transport's fields were read from a sequence. -/
def extraItems (total used : Nat) : Error :=
  invalidLength total (toString used ++ (if used = 1 then " element" else " elements") ++ " in sequence")

/-- Reads the fields of a transport of a kind from the items after the kind; items beyond the
fields are refused once the fields were read. -/
def transportItems (k : Kind) (items : List Value) : Except Error TransportConfig :=
  let noMore (used : Nat) (t : TransportConfig) : Except Error TransportConfig :=
    if items.length > used then .error (extraItems items.length used) else .ok t
  match k with
  | .channel => noMore 0 .channel
  | .ws =>
    match items with
    | p :: _ => do noMore 1 (.ws (← socketAddr p))
    | [] => .error (invalidLength 0 "struct variant TransportConfig::Ws with 1 element")
  | .udp =>
    let short (n : Nat) := invalidLength n "struct variant TransportConfig::Udp with 3 elements"
    match items with
    | b :: p :: rest => do
      let bind ← socketAddr b
      let peer ← socketAddr p
      let maxDatagram ← match rest with
        | m :: _ => usize m
        | [] => pure Datagram.defaultLimit
      noMore 3 (.udp bind peer maxDatagram)
    | [b] => do let _ ← socketAddr b; .error (short 1)
    | [] => .error (short 0)


/-- Reads a transport. Keys are taken in sorted order: `kind` is read as the kind, the others
are kept as plain data, which fails only on an integer wider than 64 bits. -/
def transportValue (v : Value) : Except Error TransportConfig :=
  match v with
  | .table _ entries =>
    let tag := (sorted entries).find? (·.1 = "kind")
    let before := entries.filter fun e => e.1 ≠ "kind" && tag.all (e.1 < ·.1)
    let after := entries.filter fun e => e.1 ≠ "kind" && tag.any (·.1 < e.1)
    match (faultInEntries true before).map (·.2) with
    | some e => .error e
    | none =>
      match tag with
      | some (_, t) => do
        let k ← spanned kind t
        match (faultInEntries true after).map (·.2) with
        | some e => .error e
        | none => transportFields k (entries.filter (·.1 ≠ "kind"))
      | none => .error (missingField "kind")
  | .datetime .. => .error (missingField "kind")
  | .array _ items =>
    match items with
    | t :: rest => do
      let k ← spanned kind t
      match faultInItems true rest with
      | some e => .error e
      | none => transportItems k rest
    | [] => .error (missingField "kind")
  | _ => .error (invalidType v "internally tagged enum TransportConfig")

/-- Reads a configuration from the root table of a document. -/
def ofValue (root : Value) : Except Error BrokerConfig :=
  match root with
  | .table _ entries =>
    fields (fun (c : BrokerConfig) k v =>
      if k = "data_dir" then (fun d => { c with dataDir := d }) <$> spanned path v
      else if k = "channel_capacity" then (fun n => { c with channelCapacity := n }) <$> spanned usize v
      else if k = "transport" then (fun t => { c with transport := t }) <$> spanned transportValue v
      else if k = "strands" then (fun s => { c with strands := s }) <$> spanned strandList v
      else ignore c v) {} entries
  | _ => .error (invalidType root "struct BrokerConfig")

/-- Reads a configuration from a TOML text, without validating it. -/
def parseToml (text : String) : Except ConfigError BrokerConfig :=
  match Toml.parse text >>= ofValue with
  | .ok c => .ok c
  | .error e => .error (.parse text e)

/-- Reads and validates a configuration from a TOML text. -/
def ofToml (text : String) : Except ConfigError BrokerConfig := do
  let c ← parseToml text
  c.validate
  pure c

end BrokerConfig

end Courier
