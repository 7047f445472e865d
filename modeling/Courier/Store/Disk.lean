import Courier.Keyed
import Courier.Envelope
import Courier.Error

/-!
# The disk store

A disk store keeps two kinds of records in one ordered key space on disk: the configuration
of each strand under its id, and each unacknowledged envelope under the key
`strand ++ ":" ++ id`. Keys are compared as bytes, so a scan of the envelope records walks the
strands by name and each strand's envelopes by id; the strand `a.b` comes before `a`, because
`.` is below `:`.

The strand part of a key is not delimited, so two records can share a key: the envelope `b:c`
of strand `a` and the envelope `c` of strand `a:b` are both kept under `a:b:c`, the later
write replacing the earlier. Counting and deleting a strand's envelopes works on the key
prefix `strand ++ ":"`, so it also takes in envelopes of strands whose names extend it by `:`.

The records outlive the handle that reads them. Closing drops the handle; reloading opens a
new one over the same records; resetting wipes the records and opens an empty store. Both
refuse while cursors over the store are still open, since each one holds the old handle.

The location of the store can be made unusable (a plain file where its directory was). A
handle that is already open keeps working; opening a new one fails, and so does wiping.

The key space is cut into leaves. In the store's key space an envelope record sits under
`msg:` followed by its key and a configuration under `strand-config:` followed by the strand,
so every envelope record comes before every configuration. A new key goes into the leaf whose
range holds it; a leaf that then holds more than sixteen keys is cut in two, the first nine
keys staying, and the bound between the halves is the shortest start of the first key of the
second half that is above the last key of the first (`m1` between `m09` and `m10`). A leaf
other than the first that is left with three keys or fewer after a removal joins the leaf
before it. A cursor reads one leaf at a time (`Leaf`): what it reads of a leaf is a picture
taken when it enters the leaf, and the leaves after it are read as they are when the cursor
gets there.
-/

namespace Courier

/-- The records of a disk store. -/
structure DiskStore.Records where
  /-- Strand configurations, by strand id. -/
  configs : Keyed StrandConf := {}
  /-- Envelopes, by `strand ++ ":" ++ id`. -/
  envelopes : Keyed Envelope := {}
  /-- The first keys of the leaves after the first, in increasing order. -/
  splits : List String := []
  deriving Inhabited

/-- A leaf of a disk store's key space as a cursor sees it: the envelope records in it, in key
order, whether it also holds a configuration (which ends a walk over the envelopes), and the
first key of the next leaf, if there is one. -/
structure DiskStore.Leaf where
  /-- The envelope records, by key in the store's key space. -/
  records : List (String × Envelope)
  /-- Whether the leaf holds a configuration record. -/
  endsWalk : Bool
  /-- The first key of the next leaf. -/
  next : Option String
  deriving Inhabited

/-- A store whose records live on disk. -/
structure DiskStore where
  /-- What is on disk. -/
  records : DiskStore.Records := {}
  /-- Whether a handle is open. -/
  isOpen : Bool := true
  /-- Whether the location is unusable, so that opening and wiping fail. -/
  blocked : Bool := false
  deriving Inhabited

namespace DiskStore

/-- The key of an envelope record. -/
def recordKey (strand id : String) : String := strand ++ ":" ++ id

/-- The key prefix of a strand's envelope records. -/
def strandPrefix (strand : String) : String := strand ++ ":"

/-- Where an envelope record with key `key` sits in the store's key space. -/
def envelopeKey (key : String) : String := "msg:" ++ key

/-- Where a strand's configuration sits in the store's key space. -/
def configKey (strand : String) : String := "strand-config:" ++ strand

/-- The most keys a leaf holds before it is cut in two. -/
def leafCapacity : Nat := 16

/-- How many keys stay in the first half of a leaf that is cut. -/
def leafKeep : Nat := 9

/-- The most keys a leaf may keep after a removal before it joins the leaf before it. -/
def leafLow : Nat := 3

namespace Records

/-- Every key of the store's key space, in increasing order: the envelope records, then the
configurations. -/
def allKeys (r : Records) : List String :=
  r.envelopes.keys.map envelopeKey ++ r.configs.keys.map configKey

/-- The bounds of the leaf whose range holds a key: the last split at or below it and the
first split above it. -/
def leafBounds (r : Records) (k : String) : Option String × Option String :=
  ((r.splits.filter (· ≤ k)).getLast?, r.splits.find? (k < ·))

/-- Whether a key lies between two leaf bounds. -/
def within (bounds : Option String × Option String) (k : String) : Bool :=
  bounds.1.all (· ≤ k) && bounds.2.all (k < ·)

/-- The bound between two leaves whose keys end at `lo` and start at `hi`: the shortest
start of `hi` that is above `lo`. -/
def separator (lo hi : String) : String :=
  let cs := hi.toList
  let n := (List.range (cs.length + 1)).find? fun i => lo < String.ofList (cs.take i)
  String.ofList (cs.take (n.getD cs.length))

/-- The records after a new key `k` came in: its leaf is cut when it holds too many keys. -/
def noteNewKey (r : Records) (k : String) : Records :=
  let inside := r.allKeys.filter (within (r.leafBounds k))
  if inside.length > leafCapacity then
    match (inside.take leafKeep).getLast?, inside.drop leafKeep with
    | some lo, hi :: _ =>
      { r with splits := (separator lo hi :: r.splits).mergeSort fun a b => decide (a ≤ b) }
    | _, _ => r
  else r

/-- The records after the key `k` went away: its leaf, unless it is the first, joins the
leaf before it when it keeps too few keys. -/
def noteGoneKey (r : Records) (k : String) : Records :=
  let bounds := r.leafBounds k
  match bounds.1 with
  | none => r
  | some lo =>
    if (r.allKeys.filter (within bounds)).length ≤ leafLow then
      { r with splits := r.splits.erase lo }
    else r

/-- The leaf whose range holds a key, read as it is now. -/
def leafAt (r : Records) (k : String) : Leaf :=
  let bounds := r.leafBounds k
  { records := (r.envelopes.toList.map fun (key, m) => (envelopeKey key, m)).filter
      (within bounds ·.1)
    endsWalk := r.configs.keys.any fun s => within bounds (configKey s)
    next := bounds.2 }

end Records

/-- The report of the system when the store's location is a plain file. -/
def notADirectory : String := "Not a directory (os error 20)"

/-- Refuses when no handle is open. -/
def guard (st : DiskStore) : Except StoreError Unit :=
  if st.isOpen then .ok () else .error .closed

/-- Refuses when the strand has no configuration record. -/
def require (st : DiskStore) (strand : String) : Except StoreError Unit :=
  if st.records.configs.contains strand then .ok () else .error (.strandNotFound strand)

/-- The records of a strand's envelopes, by key prefix. -/
def strandRecords (st : DiskStore) (strand : String) : List (String × Envelope) :=
  st.records.envelopes.filterKeys (fun k => (strandPrefix strand).isPrefixOf k)

/-- Replaces the records. -/
def withRecords (st : DiskStore) (r : Records) : DiskStore := { st with records := r }

/-- Registers a strand. -/
def create (st : DiskStore) (strand : String) (conf : StrandConf) :
    Except StoreError DiskStore := do
  st.guard
  if st.records.configs.contains strand then throw (.strandExists strand)
  pure (st.withRecords ({ st.records with configs := st.records.configs.insert strand conf }
    |>.noteNewKey (configKey strand)))

/-- Removes an envelope record, with its effect on the leaves. -/
def Records.eraseEnvelope (r : Records) (key : String) : Records :=
  { r with envelopes := r.envelopes.erase key }.noteGoneKey (envelopeKey key)

/-- Removes every envelope record under its key prefix, in key order, and then a strand's
configuration. -/
def delete (st : DiskStore) (strand : String) : Except StoreError DiskStore := do
  st.guard
  st.require strand
  let gone := (st.strandRecords strand).map (·.1)
  let r := gone.foldl Records.eraseEnvelope st.records
  let r := { r with configs := r.configs.erase strand }.noteGoneKey (configKey strand)
  pure (st.withRecords r)

/-- Whether a strand is registered. -/
def has (st : DiskStore) (strand : String) : Except StoreError Bool := do
  st.guard
  pure (st.records.configs.contains strand)

/-- The configuration of a strand, if it is registered. -/
def config (st : DiskStore) (strand : String) : Except StoreError (Option StrandConf) := do
  st.guard
  pure (st.records.configs.get? strand)

/-- Every registered strand with its configuration, in id order. -/
def listStrands (st : DiskStore) : Except StoreError (List (String × StrandConf)) := do
  st.guard
  pure st.records.configs.toList

/-- Writes an envelope record, replacing one of the same key. -/
def save (st : DiskStore) (m : Envelope) : Except StoreError DiskStore := do
  st.guard
  st.require m.strand
  let key := recordKey m.strand m.id
  let r := { st.records with envelopes := st.records.envelopes.insert key m }
  pure (st.withRecords (if st.records.envelopes.contains key then r else r.noteNewKey (envelopeKey key)))

/-- Removes the record under `(strand, id)` and hands back what it held. -/
def acknowledge (st : DiskStore) (strand id : String) :
    Except StoreError (Envelope × DiskStore) := do
  st.guard
  st.require strand
  let key := recordKey strand id
  match st.records.envelopes.get? key with
  | none => throw (.messageNotFound strand id)
  | some m => pure (m, st.withRecords (st.records.eraseEnvelope key))

/-- The number of envelope records under a strand's key prefix. -/
def unacked (st : DiskStore) (strand : String) : Except StoreError Nat := do
  st.guard
  st.require strand
  pure (st.strandRecords strand).length

/-- Every envelope record, in key order. -/
def pending (st : DiskStore) : List Envelope := st.records.envelopes.values

/-- The store with its handle dropped. -/
def close (st : DiskStore) : DiskStore := { st with isOpen := false }

/-- Drops the handle and opens a new one over the same records; refuses while `readers`
cursors are open. A failed open leaves the store closed. -/
def reload (st : DiskStore) (readers : Nat) : Except StoreError Unit × DiskStore :=
  if readers > 0 then (.error (.cursorsOpen readers), st)
  else if st.blocked then (.error (.backend ("IO error: " ++ notADirectory)), st.close)
  else (.ok (), { st with isOpen := true })

/-- Drops the handle, wipes the records and opens an empty store; refuses while `readers`
cursors are open. A failed wipe leaves the store closed. -/
def reset (st : DiskStore) (readers : Nat) : Except StoreError Unit × DiskStore :=
  if readers > 0 then (.error (.cursorsOpen readers), st)
  else if st.blocked then (.error (.io notADirectory), st.close)
  else (.ok (), { st with records := {}, isOpen := true })

/-- Opens the store afresh from its location, as a new process would. -/
def reopen (st : DiskStore) : Except StoreError DiskStore :=
  if st.blocked then .error (.backend ("IO error: " ++ notADirectory))
  else .ok { st with isOpen := true }

/-! ## Writes under the outcomes of the store's I/O

The calls above are the writes as they go when every access to the disk goes through. A write
call looks its strand up (or, for a new strand, swaps its configuration in), writes its change,
and flushes it to disk before it answers; an acknowledge then decodes the record it removed.
Each of these steps can fail, and what a failure leaves behind depends on where it comes: up
to the write the store is as it was, after it the change is made though the call fails. -/

/-- What the store's I/O gives in one write call: for each step that can fail, the report of
its failure, or `none` when the step goes through. -/
structure Faults where
  /-- The lookup the call makes before it writes. -/
  read : Option String := none
  /-- The write of the call's change. -/
  write : Option String := none
  /-- The flush after the write. -/
  flush : Option String := none
  /-- Decoding the record that an acknowledge removed. -/
  decode : Option String := none
  deriving DecidableEq, Repr, Inhabited

/-- A write call run under the I/O outcomes `io`, where `call` is the call when every step goes
through. A closed store refuses first. A failed lookup, a check of `call` that refuses, and a
failed write each end the call with the store as it was; once the change is written, a failed
flush ends the call with the change made. -/
def underFaults (io : Faults) (st : DiskStore) (call : Except StoreError (α × DiskStore)) :
    Except StoreError α × DiskStore :=
  match st.guard, io.read with
  | .error e, _ => (.error e, st)
  | .ok (), some r => (.error (.backend r), st)
  | .ok (), none =>
    match call, io.write with
    | .error e, _ => (.error e, st)
    | .ok _, some r => (.error (.backend r), st)
    | .ok (a, st'), none =>
      match io.flush with
      | some r => (.error (.backend r), st')
      | none => (.ok a, st')

/-- Registers a strand under the I/O outcomes `io`; the swap that puts the configuration in is
both the lookup and the write. -/
def createUnder (io : Faults) (st : DiskStore) (strand : String) (conf : StrandConf) :
    Except StoreError Unit × DiskStore :=
  underFaults io st ((fun st' => ((), st')) <$> st.create strand conf)

/-- Removes a strand with its envelopes under the I/O outcomes `io`; the records go in one
batch. -/
def deleteUnder (io : Faults) (st : DiskStore) (strand : String) :
    Except StoreError Unit × DiskStore :=
  underFaults io st ((fun st' => ((), st')) <$> st.delete strand)

/-- Writes an envelope record under the I/O outcomes `io`. -/
def saveUnder (io : Faults) (st : DiskStore) (m : Envelope) : Except StoreError Unit × DiskStore :=
  underFaults io st ((fun st' => ((), st')) <$> st.save m)

/-- The envelope of a removed record, as decoding it under the I/O outcomes `io` gives it. -/
def Faults.decodeRemoved (io : Faults) (m : Envelope) : Except StoreError Envelope :=
  match io.decode with
  | some report => .error (.serialization report)
  | none => .ok m

/-- Removes the record under `(strand, id)` under the I/O outcomes `io`, and hands back what it
held once it is flushed and decoded: a record that does not decode fails the call after it is
gone. -/
def acknowledgeUnder (io : Faults) (st : DiskStore) (strand id : String) :
    Except StoreError Envelope × DiskStore :=
  let removed := underFaults io st (st.acknowledge strand id)
  (removed.1.bind io.decodeRemoved, removed.2)

end DiskStore

end Courier
