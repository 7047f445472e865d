import Courier.Store.Memory
import Courier.Store.Disk

/-!
# Stores

A broker keeps each strand in one of two stores: a volatile one, always in memory, and a
durable one, in memory or on disk. `Store` is either kind, with one function per operation.

A cursor walks the unacknowledged envelopes of a store once. Over a memory store it walks the
envelopes as they were when it was opened. Over a disk store it reads nothing when opened; it
reads the store one leaf at a time (`DiskStore.Leaf`), each leaf as it is when the cursor
enters it, and walks that picture of the leaf. So a save or an acknowledgement shows up in the
walk unless it falls in a leaf the cursor has already entered. A cursor over a disk store
holds the store's handle until it is closed or walked to its end: `Cursor.holdsHandle`.
-/

namespace Courier

/-- A store of either kind. -/
inductive Store where
  | memory (st : MemoryStore)
  | disk (st : DiskStore)
  deriving Inhabited

namespace Store

/-- Registers a strand. -/
def create (s : Store) (strand : String) (conf : StrandConf) : Except StoreError Store :=
  match s with
  | .memory st => .memory <$> st.create strand conf
  | .disk st => .disk <$> st.create strand conf

/-- Removes a strand with its envelopes. -/
def delete (s : Store) (strand : String) : Except StoreError Store :=
  match s with
  | .memory st => .memory <$> st.delete strand
  | .disk st => .disk <$> st.delete strand

/-- Whether a strand is registered. -/
def has (s : Store) (strand : String) : Except StoreError Bool :=
  match s with
  | .memory st => st.has strand
  | .disk st => st.has strand

/-- The configuration of a strand, if it is registered. -/
def config (s : Store) (strand : String) : Except StoreError (Option StrandConf) :=
  match s with
  | .memory st => st.config strand
  | .disk st => st.config strand

/-- Every registered strand with its configuration, in id order. -/
def listStrands (s : Store) : Except StoreError (List (String × StrandConf)) :=
  match s with
  | .memory st => st.listStrands
  | .disk st => st.listStrands

/-- Keeps an envelope. -/
def save (s : Store) (m : Envelope) : Except StoreError Store :=
  match s with
  | .memory st => .memory <$> st.save m
  | .disk st => .disk <$> st.save m

/-- Removes one envelope and hands back the kept copy. -/
def acknowledge (s : Store) (strand id : String) : Except StoreError (Envelope × Store) :=
  match s with
  | .memory st => (fun (m, st') => (m, .memory st')) <$> st.acknowledge strand id
  | .disk st => (fun (m, st') => (m, .disk st')) <$> st.acknowledge strand id

/-- The number of unacknowledged envelopes of a strand. -/
def unacked (s : Store) (strand : String) : Except StoreError Nat :=
  match s with
  | .memory st => st.unacked strand
  | .disk st => st.unacked strand

/-- Every unacknowledged envelope in store order, as a walk that starts now sees them. -/
def pending (s : Store) : List Envelope :=
  match s with
  | .memory st => st.pending
  | .disk st => st.pending

/-- The store, closed. -/
def close (s : Store) : Store :=
  match s with
  | .memory st => .memory st.close
  | .disk st => .disk st.close

/-- The store emptied and open again; `readers` cursors hold a disk store's handle. -/
def reset (s : Store) (readers : Nat) : Except StoreError Unit × Store :=
  match s with
  | .memory st => (.ok (), .memory st.reset)
  | .disk st => let (r, st') := st.reset readers; (r, .disk st')

/-- The store reopened over what it keeps; a memory store keeps nothing. -/
def reload (s : Store) (readers : Nat) : Except StoreError Unit × Store :=
  match s with
  | .memory st => (.ok (), .memory st.reset)
  | .disk st => let (r, st') := st.reload readers; (r, .disk st')

/-- Whether the store is a disk store. -/
def isDisk : Store → Bool
  | .disk _ => true
  | .memory _ => false

end Store

/-- A walk over unacknowledged envelopes. -/
inductive Cursor where
  /-- Walks a fixed list. -/
  | listing (rest : List Envelope)
  /-- A cursor over a disk store: the key of the last envelope it gave, if any, and the leaf
  it is in, once it has entered one. -/
  | scan (last : Option String) (leaf : Option DiskStore.Leaf)
  /-- Closed, or walked to its end. -/
  | closed
  deriving Inhabited

namespace Store

/-- The records of a disk store; a memory store has none. -/
def diskRecords : Store → DiskStore.Records
  | .disk st => st.records
  | .memory _ => {}

end Store

namespace Cursor

/-- A cursor that yields nothing. -/
def empty : Cursor := .listing []

/-- Opens a cursor over a store. -/
def open? (s : Store) : Except StoreError Cursor :=
  match s with
  | .memory st => .listing <$> st.snapshot
  | .disk st => (fun _ => .scan none none) <$> st.guard

/-- The next envelope of a walk over disk records: the first after `last` in the leaf the
cursor is in, else the first of the leaves after it, each read as it is now. -/
def scanStep (r : DiskStore.Records) : Nat → Option String → DiskStore.Leaf → Option Envelope × Cursor
  | 0, _, _ => (none, .closed)
  | fuel + 1, last, leaf =>
    match leaf.records.find? (fun e => last.all (· < e.1)) with
    | some (k, m) => (some m, .scan (some k) (some leaf))
    | none =>
      if leaf.endsWalk then (none, .closed)
      else
        match leaf.next with
        | none => (none, .closed)
        | some k => scanStep r fuel last (r.leafAt k)

/-- The next envelope, or `none` at the end, which closes the cursor; `s` is the store as it
is now, which a cursor over a disk store reads when it enters a leaf. -/
def next (c : Cursor) (s : Store) : Option Envelope × Cursor :=
  match c with
  | .listing (m :: rest) => (some m, .listing rest)
  | .listing [] => (none, .closed)
  | .scan last leaf =>
    let r := s.diskRecords
    scanStep r (r.splits.length + 2) last (leaf.getD (r.leafAt (DiskStore.envelopeKey "")))
  | .closed => (none, .closed)

/-- The next envelope when the read of the disk records fails with `fault`, if it fails: a
cursor over a disk store answers the failure and stays where it was, open and holding the
store's handle; a cursor that reads no disk, or a read that goes through, steps as `next`
does. -/
def nextUnder (fault : Option String) (c : Cursor) (s : Store) :
    Except StoreError (Option Envelope) × Cursor :=
  match c, fault with
  | .scan .., some report => (.error (.backend report), c)
  | _, _ => (.ok (c.next s).1, (c.next s).2)

/-- The envelopes a cursor gives, up to `fuel` of them, while the store stays as it is. -/
def walkFrom : Nat → Cursor → Store → List Envelope
  | 0, _, _ => []
  | fuel + 1, c, s =>
    match c.next s with
    | (some m, c') => m :: walkFrom fuel c' s
    | (none, _) => []

/-- The envelopes a cursor gives while the store stays as it is. -/
def walk (c : Cursor) (s : Store) : List Envelope :=
  let bound := match c with
    | .listing rest => rest.length
    | _ => s.diskRecords.envelopes.size
  walkFrom (bound + 1) c s

/-- Whether the cursor is closed. -/
def isClosed : Cursor → Bool
  | .closed => true
  | _ => false

/-- Whether the cursor holds a disk store's handle. -/
def holdsHandle : Cursor → Bool
  | .scan .. => true
  | _ => false

end Cursor

end Courier
