import Courier.Keyed
import Courier.Envelope
import Courier.Error

/-!
# The memory store

A memory store keeps its strands in a table by id, and each strand's unacknowledged envelopes
in a table by envelope id. Both tables are in key order, so listing the unacknowledged
envelopes gives them in `(strand, id)` order.

A closed memory store refuses every operation with `StoreError.closed` until it is reset.
Nothing of it outlives a restart, so reloading it is resetting it: both give an empty, open
store.
-/

namespace Courier

/-- One strand of a memory store: its configuration and its unacknowledged envelopes by id. -/
structure MemoryStore.Entry where
  /-- How the strand was registered. -/
  conf : StrandConf
  /-- The unacknowledged envelopes, by id. -/
  messages : Keyed Envelope := {}
  deriving Inhabited

/-- A store held in memory. -/
structure MemoryStore where
  /-- The registered strands, by id. -/
  strands : Keyed MemoryStore.Entry := {}
  /-- Whether the store has been closed. -/
  closed : Bool := false
  deriving Inhabited

namespace MemoryStore

/-- Refuses when the store is closed. -/
def guard (st : MemoryStore) : Except StoreError Unit :=
  if st.closed then .error .closed else .ok ()

/-- The entry of a registered strand. -/
def entry (st : MemoryStore) (strand : String) : Except StoreError Entry := do
  st.guard
  match st.strands.get? strand with
  | some e => pure e
  | none => throw (.strandNotFound strand)

/-- Registers a strand. -/
def create (st : MemoryStore) (strand : String) (conf : StrandConf) :
    Except StoreError MemoryStore := do
  st.guard
  if st.strands.contains strand then throw (.strandExists strand)
  pure { st with strands := st.strands.insert strand { conf } }

/-- Removes a strand with its envelopes. -/
def delete (st : MemoryStore) (strand : String) : Except StoreError MemoryStore := do
  let _ ← st.entry strand
  pure { st with strands := st.strands.erase strand }

/-- Whether a strand is registered. -/
def has (st : MemoryStore) (strand : String) : Except StoreError Bool := do
  st.guard
  pure (st.strands.contains strand)

/-- The configuration of a strand, if it is registered. -/
def config (st : MemoryStore) (strand : String) : Except StoreError (Option StrandConf) := do
  st.guard
  pure ((st.strands.get? strand).map (·.conf))

/-- Every registered strand with its configuration, in id order. -/
def listStrands (st : MemoryStore) : Except StoreError (List (String × StrandConf)) := do
  st.guard
  pure (st.strands.toList.map fun (s, e) => (s, e.conf))

/-- Keeps an envelope under its strand and id, replacing one of the same id. -/
def save (st : MemoryStore) (m : Envelope) : Except StoreError MemoryStore := do
  let e ← st.entry m.strand
  pure { st with strands := st.strands.insert m.strand { e with messages := e.messages.insert m.id m } }

/-- Removes one envelope and hands back the kept copy. -/
def acknowledge (st : MemoryStore) (strand id : String) :
    Except StoreError (Envelope × MemoryStore) := do
  let e ← st.entry strand
  match e.messages.get? id with
  | none => throw (.messageNotFound strand id)
  | some m =>
    pure (m, { st with strands := st.strands.insert strand { e with messages := e.messages.erase id } })

/-- The number of unacknowledged envelopes of a strand. -/
def unacked (st : MemoryStore) (strand : String) : Except StoreError Nat := do
  let e ← st.entry strand
  pure e.messages.size

/-- Every unacknowledged envelope, in `(strand, id)` order. -/
def pending (st : MemoryStore) : List Envelope :=
  (st.strands.values.map fun e => e.messages.values).flatten

/-- The unacknowledged envelopes as a cursor sees them when opened. -/
def snapshot (st : MemoryStore) : Except StoreError (List Envelope) := do
  st.guard
  pure st.pending

/-- The store, closed. -/
def close (st : MemoryStore) : MemoryStore := { st with closed := true }

/-- An empty, open store. -/
def reset (_ : MemoryStore) : MemoryStore := {}

end MemoryStore

end Courier
