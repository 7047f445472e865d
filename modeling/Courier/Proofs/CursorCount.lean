import Mathlib
import Courier.Bench.Session
import Courier.Proofs.Keyed
import Courier.Proofs.Op

/-!
# Counting the cursors that hold the disk store's handle

A cursor opened on a disk store holds the store's handle (`Cursor.holdsHandle`) until it is
closed, dropped, replaced, or walked to its end; no other cursor ever holds it. A session counts
the cursors it keeps that hold the handle (`Session.readers`), and a reset or a reload of the
disk store is refused with that count while it is positive.

Seen from its calls, a caller counts a cursor from the moment an open on the disk store hands it
out, and stops counting it when the caller replaces, closes or drops it, or when a step of it
reports the end (`Session.counted`). The session's count is always the caller's
(`Session.Counted`): the cursors that hold the handle are exactly those under the names the
caller counts. A cursor lets go of the handle exactly when it reports its end
(`Cursor.holdsHandle_next`). A step fails only when a read of the disk fails, and then leaves the
cursor where it was, still holding the handle (`Cursor.nextUnder_error`), so the count stays
(`Session.Counted.failedStep`).
-/

namespace Courier

namespace Cursor

/-- A walk over disk records either gives an envelope and stays in a leaf, or ends. -/
theorem scanStep_cases (r : DiskStore.Records) (fuel : Nat) (last : Option String)
    (leaf : DiskStore.Leaf) :
    scanStep r fuel last leaf = (none, .closed) ∨
      ∃ m k l, scanStep r fuel last leaf = (some m, .scan k l) := by
  induction fuel generalizing leaf with
  | zero => exact .inl rfl
  | succ fuel ih =>
    unfold scanStep
    split
    · exact .inr ⟨_, _, _, rfl⟩
    · split
      · exact .inl rfl
      · split
        · exact .inl rfl
        · exact ih _

/-- A step of a cursor keeps the disk store's handle exactly when the cursor held it and gave an
envelope: a cursor over a disk store lets go of it on finding its end, and no other cursor ever
takes it. -/
theorem holdsHandle_next (c : Cursor) (st : Store) :
    (c.next st).2.holdsHandle = (c.holdsHandle && (c.next st).1.isSome) := by
  cases c with
  | listing rest => cases rest <;> rfl
  | scan last leaf =>
    simp only [next]
    rcases scanStep_cases st.diskRecords (st.diskRecords.splits.length + 2) last
        (leaf.getD (st.diskRecords.leafAt (DiskStore.envelopeKey ""))) with h | ⟨m, k, l, h⟩ <;>
      simp [h, holdsHandle]
  | closed => rfl

/-- A step that fails leaves the cursor as it was: it stays open, and holds the store's handle
if it held it. -/
theorem nextUnder_error {fault : Option String} {c : Cursor} {st : Store} {e : StoreError}
    (h : (c.nextUnder fault st).1 = .error e) : (c.nextUnder fault st).2 = c := by
  unfold nextUnder at h ⊢
  split
  · rfl
  · simp at h

theorem open?_disk (st : DiskStore) :
    open? (.disk st) = if st.isOpen then .ok (.scan none none) else .error .closed := by
  simp only [open?, DiskStore.guard]
  split <;> rfl

/-- A cursor handed out by a store holds a handle exactly when the store is a disk store. -/
theorem holdsHandle_of_open? {st : Store} {c : Cursor} (h : open? st = .ok c) :
    c.holdsHandle = st.isDisk := by
  cases st with
  | memory m =>
    cases hs : m.snapshot with
    | error e => simp [open?, hs, Functor.map, Except.map] at h
    | ok l =>
      simp only [open?, hs, Functor.map, Except.map, Except.ok.injEq] at h
      subst h
      rfl
  | disk d =>
    rw [open?_disk] at h
    split at h
    · cases h
      rfl
    · cases h

end Cursor

namespace Bench.Session

/-! ## The count, name by name -/

/-- Whether the cursor kept under a name holds the disk store's handle. -/
def holds (s : Session) (name : String) : Bool := (s.cursors.get? name).any (·.holdsHandle)

theorem readers_eq_countP (s : Session) : s.readers = s.cursors.values.countP (·.holdsHandle) :=
  List.countP_eq_length_filter.symm

/-- The cursors a caller counts: the names are exactly those whose cursor holds the handle, as
many as the session counts. The table of cursors keeps its keys in order. -/
structure Counted (s : Session) (names : Finset String) : Prop where
  sorted : s.cursors.Sorted
  mem_iff : ∀ name, name ∈ names ↔ s.holds name = true
  card : s.readers = names.card

section Counted

variable {s s' : Session} {names : Finset String}

theorem counted_start (h : s.cursors = {}) : s.Counted ∅ where
  sorted := by rw [h]; exact Keyed.sorted_mk_nil
  mem_iff name := by simp [holds, h]
  card := by simp [readers, h, Keyed.values]

/-- Changing anything but the cursors keeps the count. -/
theorem Counted.of_cursors (h : s.Counted names) (hc : s'.cursors = s.cursors) :
    s'.Counted names where
  sorted := hc ▸ h.sorted
  mem_iff name := by rw [h.mem_iff, holds, holds, hc]
  card := by rw [← h.card, readers, readers, hc]

/-- The names counted are those of the other cursors, and the name itself when it is counted. -/
theorem Counted.card_eq (h : s.Counted names) (name : String) :
    names.card = (s.cursors.erase name).values.countP (·.holdsHandle) +
      if name ∈ names then 1 else 0 := by
  have hold := h.sorted.countP_values_erase (·.holdsHandle) name
  rw [← readers_eq_countP, h.card] at hold
  have hiff : name ∈ names ↔ (s.cursors.get? name).any (·.holdsHandle) = true := h.mem_iff name
  by_cases hn : name ∈ names
  · rw [if_pos hn, hold, if_pos (hiff.1 hn)]
  · rw [if_neg hn, hold, if_neg (mt hiff.2 hn)]

/-- Putting a cursor under a name: the name is counted exactly when the new cursor holds the
handle, whatever the old one did. -/
theorem Counted.put (h : s.Counted names) (name : String) (c : Cursor) :
    ({ s with cursors := s.cursors.insert name c } : Session).Counted
      (if c.holdsHandle then insert name names else names.erase name) where
  sorted := h.sorted.insert name c
  mem_iff t := by
    by_cases ht : t = name
    · subst ht
      cases hc : c.holdsHandle <;> simp [holds, hc]
    · have hne : name ≠ t := Ne.symm ht
      cases c.holdsHandle <;> simp [holds, ht, hne, h.mem_iff]
  card := by
    have hsplit := h.card_eq name
    rw [readers_eq_countP, h.sorted.countP_values_insert (·.holdsHandle) name c]
    by_cases hn : name ∈ names
    · have hpos := Finset.card_pos.2 ⟨name, hn⟩
      rw [if_pos hn] at hsplit
      cases c.holdsHandle
      · simp only [Bool.false_eq_true, if_false, Finset.card_erase_of_mem hn]
        omega
      · simp only [if_true, Finset.insert_eq_of_mem hn]
        omega
    · rw [if_neg hn] at hsplit
      cases c.holdsHandle
      · simp only [Bool.false_eq_true, if_false, Finset.erase_eq_of_notMem hn]
        omega
      · simp only [if_true, Finset.card_insert_of_notMem hn]
        omega

/-- Dropping the cursor under a name stops counting it. -/
theorem Counted.erase (h : s.Counted names) (name : String) :
    ({ s with cursors := s.cursors.erase name } : Session).Counted (names.erase name) where
  sorted := h.sorted.erase name
  mem_iff t := by
    by_cases ht : t = name
    · subst ht
      simp [holds]
    · simp [holds, ht, Ne.symm ht, h.mem_iff]
  card := by
    have hsplit := h.card_eq name
    rw [readers_eq_countP]
    dsimp only
    by_cases hn : name ∈ names
    · have hpos := Finset.card_pos.2 ⟨name, hn⟩
      rw [if_pos hn] at hsplit
      rw [Finset.card_erase_of_mem hn]
      omega
    · rw [if_neg hn, add_zero] at hsplit
      rw [Finset.erase_eq_of_notMem hn, hsplit]

/-- A name without a cursor is not counted. -/
theorem Counted.not_mem (h : s.Counted names) {name : String}
    (hn : s.cursors.get? name = none) : name ∉ names := by
  rw [h.mem_iff]
  simp [holds, hn]

end Counted

/-! ## Calls on cursors and stores -/

/-- A call a caller makes on the stores of a session and the cursors it keeps. -/
inductive CursorCall where
  /-- A cursor opened on a store and kept under a name, in place of any cursor of that name. -/
  | openCursor (d : Durability) (name : String)
  /-- A cursor that gives nothing kept under a name. -/
  | empty (name : String)
  /-- A step of the cursor kept under a name. -/
  | next (name : String)
  | close (name : String)
  | drop (name : String)
  | reset (d : Durability)
  | reload (d : Durability)
  /-- Any other call on a store, which leaves the cursors alone. -/
  | change (d : Durability) (f : Store → Store)

/-- The session after a call; a call that fails leaves it as it was. -/
def call (s : Session) : CursorCall → Session
  | .openCursor d name => (s.openCursor d name).toOption.getD s
  | .empty name => ((putCursor name Cursor.empty).run s).2
  | .next name => ((s.advance name).toOption.map fun r => ((putCursor name r.2).run s).2).getD s
  | .close name => (s.closeCursor name).toOption.getD s
  | .drop name => (s.dropCursor name).toOption.getD s
  | .reset d => (s.withReaders d Store.reset).2
  | .reload d => (s.withReaders d Store.reload).2
  | .change d f => ((setStore d (f (s.broker.storeOf d))).run s).2

/-- The names a caller counts after a call, from what the call answered: a cursor handed out by
an open on a disk store is counted under its name; a name whose cursor is replaced, closed or
dropped, or whose step reported the end, is not. -/
def counted (s : Session) (names : Finset String) : CursorCall → Finset String
  | .openCursor d name =>
    if (s.openCursor d name).isOk then
      if (s.broker.storeOf d).isDisk then insert name names else names.erase name
    else names
  | .empty name | .close name | .drop name => names.erase name
  | .next name => if (s.advance name).toOption.any (·.1.isNone) then names.erase name else names
  | .reset _ | .reload _ | .change _ _ => names

/-- The session after a run of calls. -/
def runCalls (s : Session) : List CursorCall → Session
  | [] => s
  | op :: ops => (s.call op).runCalls ops

/-- The names a caller counts after a run of calls. -/
def countedAfter (s : Session) (names : Finset String) : List CursorCall → Finset String
  | [] => names
  | op :: ops => (s.call op).countedAfter (s.counted names op) ops

section Steps

variable {s : Session} {names : Finset String}

theorem putCursor_run (s : Session) (name : String) (c : Cursor) :
    ((putCursor name c).run s).2 = { s with cursors := s.cursors.insert name c } := rfl

theorem advance_of_get? {name : String} {c : Cursor} (h : s.cursors.get? name = some c) :
    s.advance name = .ok (c.next s.broker.durable) := by
  simp [advance, cursor, h, Functor.map, Except.map]

theorem advance_of_none {name : String} (h : s.cursors.get? name = none) :
    s.advance name = .error ("no cursor " ++ name) := by
  simp [advance, cursor, h, Functor.map, Except.map]

theorem Counted.openCursor (h : s.Counted names) (d : Durability) (name : String) :
    (s.call (.openCursor d name)).Counted (s.counted names (.openCursor d name)) := by
  cases ho : Cursor.open? (s.broker.storeOf d) with
  | error e =>
    have he : s.openCursor d name = .error e := by
      simp [Session.openCursor, ho, Functor.map, Except.map]
    simpa [call, counted, he, Except.toOption, Except.isOk, Except.toBool] using h
  | ok c =>
    have he : s.openCursor d name = .ok { s with cursors := s.cursors.insert name c } := by
      simp [Session.openCursor, ho, Functor.map, Except.map]
    have hput := h.put name c
    rw [Cursor.holdsHandle_of_open? ho] at hput
    simpa [call, counted, he, Except.toOption, Except.isOk, Except.toBool] using hput

theorem Counted.next (h : s.Counted names) (name : String) :
    (s.call (.next name)).Counted (s.counted names (.next name)) := by
  cases hc : s.cursors.get? name with
  | none =>
    simpa [call, counted, advance_of_none hc, Except.toOption] using h
  | some c =>
    have hput := h.put name (c.next s.broker.durable).2
    rw [Cursor.holdsHandle_next] at hput
    have hheld : c.holdsHandle = true ↔ name ∈ names := by simp [h.mem_iff, holds, hc]
    simp only [call, counted, advance_of_get? hc, Except.toOption, Option.map_some,
      Option.getD_some, Option.any_some, putCursor_run]
    -- the cursor keeps the handle only when it gave an envelope
    cases hm : (c.next s.broker.durable).1 with
    | none => simpa [hm] using hput
    | some m =>
      cases hh : c.holdsHandle
      · have hn : name ∉ names := fun hn => by simp [hheld.2 hn] at hh
        simpa [hm, hh, Finset.erase_eq_of_notMem hn] using hput
      · simpa [hm, hh, Finset.insert_eq_of_mem (hheld.1 hh)] using hput

/-- A step of a named cursor that fails on a read of the disk keeps the cursor, and the caller,
who is told of no end, counts the same names. -/
theorem Counted.failedStep (h : s.Counted names) {name : String} {c : Cursor}
    (hc : s.cursors.get? name = some c) (fault : Option String) {e : StoreError}
    (hfail : (c.nextUnder fault s.broker.durable).1 = .error e) :
    ({ s with cursors := s.cursors.insert name (c.nextUnder fault s.broker.durable).2 } :
      Session).Counted names := by
  rw [Cursor.nextUnder_error hfail]
  have hput := h.put name c
  have hheld : c.holdsHandle = true ↔ name ∈ names := by simp [h.mem_iff, holds, hc]
  -- re-inserting the cursor under its own name counts what was counted
  cases hh : c.holdsHandle
  · have hn : name ∉ names := fun hn => by simp [hheld.2 hn] at hh
    simpa [hh, Finset.erase_eq_of_notMem hn] using hput
  · simpa [hh, Finset.insert_eq_of_mem (hheld.1 hh)] using hput

/-- Closing or dropping a name without a cursor fails and counts nothing new. -/
theorem Counted.of_missing (h : s.Counted names) {name : String}
    (hc : s.cursors.get? name = none) : s.Counted (names.erase name) := by
  rwa [Finset.erase_eq_of_notMem (h.not_mem hc)]

theorem Counted.call (h : s.Counted names) (op : CursorCall) :
    (s.call op).Counted (s.counted names op) := by
  cases op with
  | openCursor d name => exact h.openCursor d name
  | empty name => exact h.put name Cursor.empty
  | next name => exact h.next name
  | close name =>
    cases hc : s.cursors.get? name with
    | none =>
      simpa [Session.call, counted, closeCursor, cursor, hc, Except.toOption]
        using h.of_missing hc
    | some c =>
      simpa [Session.call, counted, closeCursor, cursor, hc, Except.toOption, Functor.map,
        Except.map, Cursor.holdsHandle] using h.put name .closed
  | drop name =>
    cases hc : s.cursors.get? name with
    | none =>
      simpa [Session.call, counted, dropCursor, cursor, hc, Except.toOption]
        using h.of_missing hc
    | some c =>
      simpa [Session.call, counted, dropCursor, cursor, hc, Except.toOption, Functor.map,
        Except.map] using h.erase name
  | reset d => exact h.of_cursors rfl
  | reload d => exact h.of_cursors rfl
  | change d f => exact h.of_cursors rfl

theorem Counted.runCalls (h : s.Counted names) (ops : List CursorCall) :
    (s.runCalls ops).Counted (s.countedAfter names ops) := by
  induction ops generalizing s names with
  | nil => exact h
  | cons op ops ih => exact ih (h.call op)

end Steps

/-! ## Resets and reloads wait for the cursors -/

section Refusals

variable {s : Session} {d : Durability} {st : DiskStore}

theorem withStore_of_storeOf {b : Broker} {x : Store} (h : b.storeOf d = x) :
    b.withStore d x = b := by
  subst h
  cases d <;> rfl

/-- While cursors hold the disk store's handle, a reset and a reload are refused with their
number, and change nothing. -/
theorem withReaders_of_pos (hd : s.broker.storeOf d = .disk st) (hn : 0 < s.readers) :
    s.withReaders d Store.reset = (.error (.cursorsOpen s.readers), s) ∧
      s.withReaders d Store.reload = (.error (.cursorsOpen s.readers), s) := by
  have hback := withStore_of_storeOf hd
  constructor <;>
    simp [withReaders, hd, Store.reset, Store.reload, DiskStore.reset, DiskStore.reload, hn, hback]

/-- With no cursor holding the handle, a reset and a reload are never refused for cursors. -/
theorem withReaders_of_zero (hn : s.readers = 0) (k : Nat) :
    (s.withReaders d Store.reset).1 ≠ .error (.cursorsOpen k) ∧
      (s.withReaders d Store.reload).1 ≠ .error (.cursorsOpen k) := by
  cases hs : s.broker.storeOf d with
  | memory m => simp [withReaders, hs, Store.reset, Store.reload]
  | disk st =>
    constructor <;> by_cases hb : st.blocked <;>
      simp [withReaders, hs, Store.reset, Store.reload, DiskStore.reset, DiskStore.reload, hn, hb,
        DiskStore.close]

/-- With no cursor holding the handle, a reset of a usable disk store wipes it and opens it, and
a reload opens it over its records. -/
theorem withReaders_of_zero_usable (hd : s.broker.storeOf d = .disk st) (hn : s.readers = 0)
    (hb : st.blocked = false) :
    s.withReaders d Store.reset = (.ok (), { s with broker :=
        (s.broker.withStore d (.disk { st with records := {}, isOpen := true })) }) ∧
      s.withReaders d Store.reload = (.ok (), { s with broker :=
        (s.broker.withStore d (.disk { st with isOpen := true })) }) := by
  constructor <;>
    simp [withReaders, hd, Store.reset, Store.reload, DiskStore.reset, DiskStore.reload, hn, hb]

end Refusals

/-- Over any run of calls on the stores and cursors of a session that keeps no cursor at first,
the session counts as holding the disk store's handle exactly the cursors that an open on a disk
store handed out and that have since been neither replaced, closed nor dropped, nor reported
their end: their names are those the caller counts, and there are as many. An open on a closed
disk store fails, and changes nothing. A step of a kept cursor never fails, and the cursor keeps
the handle exactly when it held it and gave an envelope. While the count is positive, a reset or
a reload of a disk store is refused with the count and changes nothing; at zero, neither is
refused for cursors, and on a usable store a reset wipes and opens it and a reload opens it. -/
theorem disk_store_counts_its_cursors (s₀ : Session) (h₀ : s₀.cursors = {})
    (calls : List CursorCall) :
    let s := s₀.runCalls calls
    let names := s₀.countedAfter ∅ calls
    s.readers = names.card ∧ (∀ name, name ∈ names ↔ s.holds name = true) ∧
    (∀ d st name, s.broker.storeOf d = .disk st → st.isOpen = false →
      s.openCursor d name = .error .closed) ∧
    (∀ name c, s.cursors.get? name = some c →
      s.advance name = .ok (c.next s.broker.durable) ∧
      (c.next s.broker.durable).2.holdsHandle =
        (c.holdsHandle && (c.next s.broker.durable).1.isSome)) ∧
    (∀ d st, s.broker.storeOf d = .disk st →
      (0 < s.readers → s.withReaders d Store.reset = (.error (.cursorsOpen s.readers), s) ∧
        s.withReaders d Store.reload = (.error (.cursorsOpen s.readers), s)) ∧
      (s.readers = 0 → (∀ k, (s.withReaders d Store.reset).1 ≠ .error (.cursorsOpen k) ∧
          (s.withReaders d Store.reload).1 ≠ .error (.cursorsOpen k)) ∧
        (st.blocked = false →
          s.withReaders d Store.reset = (.ok (), { s with broker :=
            (s.broker.withStore d (.disk { st with records := {}, isOpen := true })) }) ∧
          s.withReaders d Store.reload = (.ok (), { s with broker :=
            (s.broker.withStore d (.disk { st with isOpen := true })) })))) := by
  intro s names
  have hc : s.Counted names := (counted_start h₀).runCalls calls
  refine ⟨hc.card, hc.mem_iff, fun d st name hd hclosed => ?_,
    fun name c hget => ⟨advance_of_get? hget, Cursor.holdsHandle_next c _⟩,
    fun d st hd => ⟨withReaders_of_pos hd, fun hn => ⟨withReaders_of_zero hn,
      withReaders_of_zero_usable hd hn⟩⟩⟩
  simp [Session.openCursor, hd, Cursor.open?_disk, hclosed, Functor.map, Except.map]

/-- A cursor opened on the disk store of a fresh session keeps a reload waiting: the reload is
refused with one cursor open. -/
theorem disk_store_counts_its_cursors_while_a_reload_waits :
    let s₀ : Session :=
      { broker := ⟨.memory {}, .disk {}, .channel (Channel.make 1), Metrics.fresh, 0⟩
        clock := 0 }
    let s := s₀.runCalls [.openCursor .durable "c"]
    s.withReaders .durable Store.reload = (.error (.cursorsOpen 1), s) := by
  intro s₀ s
  have h := disk_store_counts_its_cursors s₀ rfl [.openCursor .durable "c"]
  have hr : s.readers = 1 := by
    rw [h.1]
    decide
  have hpos : 0 < s.readers := by
    rw [hr]
    exact Nat.one_pos
  have hrefused := ((h.2.2.2.2 .durable {} rfl).1 hpos).2
  rwa [hr] at hrefused

end Bench.Session

end Courier
