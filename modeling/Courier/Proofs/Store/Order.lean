import Courier.Proofs.Store.Calls
import Courier.Proofs.Store.Scan

/-!
# The order of a cursor's walk

A cursor opened on a store and walked to its end gives the store's unacknowledged envelopes,
`Store.pending`, the list a recovery pass resends (`Store.dump_eq`). It gives each envelope the
store keeps exactly once (`Store.mem_pending_iff`), in an order that depends on the kind of
store:

- a memory store walks by strand and then by id (`Store.pending_memory_sorted`): its tables of
  strands and of each strand's envelopes are in key order;
- a disk store walks by record key `strand ++ ":" ++ id`, compared as bytes
  (`Store.pending_disk_sorted`).

The two orders differ as soon as one strand id extends another by a character below `:`. For
strands `a` and `a.b` the disk store walks the envelopes of `a.b` first, since `.` sorts below
`:`, and the memory store those of `a` (`dump_puts_extended_strand_first_on_disk`).

Both orders rest on every table keeping its keys in increasing order (`Store.Sorted`), which
every call keeps (`Store.sorted_call`), and on every record sitting under its own key
(`Store.WF`).
-/

namespace Courier

namespace Store

/-- Every table of the store keeps its keys in increasing order. -/
def Sorted : Store → Prop
  | .memory st => st.strands.Sorted ∧ ∀ p ∈ st.strands.toList, p.2.messages.Sorted
  | .disk st => st.records.envelopes.Sorted

/-- The envelope the store keeps for a strand under an id. -/
def kept : Store → String → String → Option Envelope
  | .memory st, s, id => (st.strands.get? s).bind fun e => e.messages.get? id
  | .disk st, s, id => st.records.envelopes.get? (DiskStore.recordKey s id)

/-! ## Every call keeps the tables in order -/

theorem SameData.sorted {st st' : Store} (h : st.SameData st') (hs : st.Sorted) : st'.Sorted := by
  cases st <;> cases st' <;> simp only [SameData] at h
  · simpa [Sorted, ← h] using hs
  · simpa [Sorted, ← h] using hs

theorem Blank.sorted {st : Store} (h : st.Blank) : st.Sorted := by
  cases st with
  | memory st =>
    simp only [Blank] at h
    simp [Sorted, Keyed.Sorted, Keyed.keys, h]
  | disk st =>
    simp only [Blank] at h
    simp [Sorted, Keyed.Sorted, Keyed.keys, h.2]

/-- A strand table with one entry replaced keeps its entries' tables in order, when the new
entry's table is in order. -/
theorem entries_sorted_insert {t : Keyed MemoryStore.Entry}
    (ht : ∀ p ∈ t.toList, p.2.messages.Sorted) (s : String) {e : MemoryStore.Entry}
    (he : e.messages.Sorted) : ∀ p ∈ (t.insert s e).toList, p.2.messages.Sorted := by
  intro p hp
  rcases Keyed.mem_toList_insert hp with rfl | hp
  · exact he
  · exact ht p hp

theorem sorted_create {st st' : Store} {s : String} {c : StrandConf} (hs : st.Sorted)
    (h : st.create s c = .ok st') : st'.Sorted := by
  cases st with
  | memory st =>
    obtain ⟨st₀, hc, rfl⟩ := map_eq_ok h
    obtain ⟨-, -, rfl⟩ := MemoryStore.create_ok hc
    -- a new strand starts with an empty table
    exact ⟨hs.1.insert _ _, entries_sorted_insert hs.2 s Keyed.sorted_mk_nil⟩
  | disk st =>
    obtain ⟨st₀, hc, rfl⟩ := map_eq_ok h
    obtain ⟨-, -, rfl⟩ := DiskStore.create_ok hc
    simpa [Sorted] using hs

theorem sorted_delete {st st' : Store} {s : String} (hs : st.Sorted)
    (h : st.delete s = .ok st') : st'.Sorted := by
  cases st with
  | memory st =>
    obtain ⟨st₀, hd, rfl⟩ := map_eq_ok h
    obtain ⟨-, -, rfl⟩ := MemoryStore.delete_ok hd
    refine ⟨hs.1.erase s, fun p hp => hs.2 p ?_⟩
    rw [Keyed.toList_erase, List.mem_filter] at hp
    exact hp.1
  | disk st =>
    obtain ⟨st₀, hd, rfl⟩ := map_eq_ok h
    obtain ⟨-, -, -, hev, -⟩ := DiskStore.delete_ok hd
    exact Keyed.Sorted.of_sublist hs (by rw [hev]; exact List.filter_sublist)

theorem sorted_save {st st' : Store} {m : Envelope} (hs : st.Sorted)
    (h : st.save m = .ok st') : st'.Sorted := by
  cases st with
  | memory st =>
    obtain ⟨st₀, hsv, rfl⟩ := map_eq_ok h
    obtain ⟨e, -, he, rfl⟩ := MemoryStore.save_ok hsv
    have hes : e.messages.Sorted := hs.2 _ (Keyed.mem_toList_of_get? he)
    exact ⟨hs.1.insert _ _, entries_sorted_insert hs.2 _ (hes.insert _ _)⟩
  | disk st =>
    obtain ⟨st₀, hsv, rfl⟩ := map_eq_ok h
    obtain ⟨-, -, -, hev, -⟩ := DiskStore.save_ok hsv
    simpa [Sorted, hev] using Keyed.Sorted.insert hs _ m

theorem sorted_acknowledge {st st' : Store} {s id : String} {m : Envelope} (hs : st.Sorted)
    (h : st.acknowledge s id = .ok (m, st')) : st'.Sorted := by
  cases st with
  | memory st =>
    obtain ⟨⟨m₀, st₀⟩, ha, hpair⟩ := map_eq_ok h
    obtain ⟨rfl, rfl⟩ := Prod.mk.inj hpair
    obtain ⟨e, -, he, -, rfl⟩ := MemoryStore.acknowledge_ok ha
    have hes : e.messages.Sorted := hs.2 _ (Keyed.mem_toList_of_get? he)
    exact ⟨hs.1.insert _ _, entries_sorted_insert hs.2 _ (hes.erase _)⟩
  | disk st =>
    obtain ⟨⟨m₀, st₀⟩, ha, hpair⟩ := map_eq_ok h
    obtain ⟨rfl, rfl⟩ := Prod.mk.inj hpair
    obtain ⟨-, -, -, rfl⟩ := DiskStore.acknowledge_ok ha
    simpa [Sorted] using Keyed.Sorted.erase hs _

theorem sorted_call {st : Store} (hs : st.Sorted) (c : StoreCall) : (st.call c).2.Sorted := by
  rcases call_cases st c with hsame | hblank | ⟨s, conf, h, -⟩ | ⟨s, h, -⟩ | ⟨m, h, -⟩ |
      ⟨s, id, m, h⟩
  · exact hsame.sorted hs
  · exact hblank.sorted
  · exact sorted_create hs h
  · exact sorted_delete hs h
  · exact sorted_save hs h
  · exact sorted_acknowledge hs h

/-! ## Every call keeps the kind of store -/

theorem create_isDisk {st st' : Store} {s : String} {c : StrandConf}
    (h : st.create s c = .ok st') : st'.isDisk = st.isDisk := by
  cases st <;> obtain ⟨_, -, rfl⟩ := map_eq_ok h <;> rfl

theorem delete_isDisk {st st' : Store} {s : String} (h : st.delete s = .ok st') :
    st'.isDisk = st.isDisk := by
  cases st <;> obtain ⟨_, -, rfl⟩ := map_eq_ok h <;> rfl

theorem save_isDisk {st st' : Store} {m : Envelope} (h : st.save m = .ok st') :
    st'.isDisk = st.isDisk := by
  cases st <;> obtain ⟨_, -, rfl⟩ := map_eq_ok h <;> rfl

theorem acknowledge_isDisk {st st' : Store} {s id : String} {m : Envelope}
    (h : st.acknowledge s id = .ok (m, st')) : st'.isDisk = st.isDisk := by
  cases st <;> obtain ⟨_, -, hpair⟩ := map_eq_ok h <;> cases hpair <;> rfl

theorem isDisk_call (st : Store) (c : StoreCall) : (st.call c).2.isDisk = st.isDisk := by
  cases c with
  | create s conf =>
    cases h : st.create s conf with
    | ok st' => simpa [call, write, h] using create_isDisk h
    | error e => simp [call, write, h]
  | delete s =>
    cases h : st.delete s with
    | ok st' => simpa [call, write, h] using delete_isDisk h
    | error e => simp [call, write, h]
  | save m =>
    cases h : st.save m with
    | ok st' => simpa [call, write, h] using save_isDisk h
    | error e => simp [call, write, h]
  | acknowledge s id =>
    cases h : st.acknowledge s id with
    | ok p =>
      obtain ⟨m, st'⟩ := p
      simpa [call, h] using acknowledge_isDisk h
    | error e => simp [call, h]
  | close => cases st <;> rfl
  | reset =>
    cases st with
    | memory st => rfl
    | disk st =>
      simp only [call, reset, DiskStore.reset]
      split
      · rfl
      · split <;> rfl
  | reload =>
    cases st with
    | memory st => rfl
    | disk st =>
      simp only [call, reload, DiskStore.reload]
      split
      · rfl
      · split <;> rfl
  | has s => rfl
  | config s => rfl
  | strands => rfl
  | unacked s => rfl
  | dump => rfl

/-! ## What a walk gives -/

theorem walkFrom_listing (l : List Envelope) (st : Store) :
    ∀ n, l.length < n → Cursor.walkFrom n (.listing l) st = l := by
  induction l with
  | nil =>
    intro n hn
    cases n with
    | zero => exact absurd hn (Nat.lt_irrefl _)
    | succ n => rfl
  | cons m rest ih =>
    intro n hn
    cases n with
    | zero => exact absurd hn (Nat.not_lt_zero _)
    | succ n =>
      simp only [Cursor.walkFrom, Cursor.next]
      rw [ih n (by simp at hn; omega)]

/-- A cursor opened on an open store and walked to its end gives the store's unacknowledged
envelopes; on a closed store it cannot be opened. -/
theorem dump_eq {st : Store} (hs : st.Sorted) :
    st.dump = if st.isOpen then .ok st.pending else .error .closed := by
  cases st with
  | memory st =>
    by_cases hc : st.closed
    · simp [dump, Cursor.open?, MemoryStore.snapshot, MemoryStore.guard, isOpen, hc, bind,
        Except.bind, Functor.map, Except.map]
    · have hwalk : (Cursor.listing st.pending).walk (.memory st) = st.pending :=
        walkFrom_listing _ _ _ (Nat.lt_succ_self _)
      simp [dump, Cursor.open?, MemoryStore.snapshot, MemoryStore.guard, isOpen, hc, bind,
        Except.bind, pure, Except.pure, Functor.map, Except.map, hwalk, pending]
  | disk st =>
    by_cases ho : st.isOpen
    · simp [dump, Cursor.open?, DiskStore.guard, isOpen, ho, Functor.map, Except.map,
        Cursor.walk_scan_start hs, pending]
    · simp [dump, Cursor.open?, DiskStore.guard, isOpen, ho, Functor.map, Except.map]

/-- The unacknowledged envelopes are exactly the envelopes the store keeps under their own
strand and id. -/
theorem mem_pending_iff {st : Store} (hs : st.Sorted) (hwf : st.WF) (m : Envelope) :
    m ∈ st.pending ↔ st.kept m.strand m.id = some m := by
  cases st with
  | memory st =>
    rw [mem_pending_memory]
    constructor
    · rintro ⟨e, he, hm⟩
      obtain ⟨s, hse⟩ := Keyed.mem_values_iff.1 he
      obtain ⟨i, him⟩ := Keyed.mem_values_iff.1 hm
      have hget : st.strands.get? s = some e := hs.1.get?_eq_some_iff.2 hse
      -- the envelope sits under its own id, in the entry of its own strand
      have hsit : i = m.id ∧ m.strand = s := (hwf s e hget).2 (i, m) him
      obtain ⟨rfl, rfl⟩ := hsit
      have hmsg : e.messages.get? m.id = some m := (hs.2 _ hse).get?_eq_some_iff.2 him
      simp [kept, hget, hmsg]
    · intro h
      obtain ⟨e, he, hm⟩ := Option.bind_eq_some_iff.1 h
      exact ⟨e, Keyed.mem_values_iff.2 ⟨_, Keyed.mem_toList_of_get? he⟩,
        Keyed.mem_values_iff.2 ⟨_, Keyed.mem_toList_of_get? hm⟩⟩
  | disk st =>
    rw [pending_disk, Keyed.mem_values_iff]
    constructor
    · rintro ⟨k, hk⟩
      have hkey : k = DiskStore.recordKey m.strand m.id := (hwf.2 (k, m) hk).1
      rw [hkey] at hk
      exact (Keyed.Sorted.get?_eq_some_iff hs).2 hk
    · intro h
      exact ⟨_, Keyed.mem_toList_of_get? h⟩

/-- The pairs of a table whose keys increase, in order of their keys. -/
theorem pairwise_toList {α : Type} {t : Keyed α} (h : t.Sorted) :
    t.toList.Pairwise (fun a b => a.1 < b.1) :=
  List.pairwise_map.1 h

/-- A memory store lists its envelopes by strand, and within a strand by id. -/
theorem pending_memory_sorted {st : Store} (hd : st.isDisk = false) (hs : st.Sorted)
    (hwf : st.WF) :
    st.pending.Pairwise (fun m m' => m.strand < m'.strand ∨ m.strand = m'.strand ∧ m.id < m'.id) := by
  cases st with
  | disk st => cases hd
  | memory st =>
    -- the envelopes of an entry sit under their ids, and carry the entry's strand
    have hsit : ∀ p ∈ st.strands.toList, ∀ q ∈ p.2.messages.toList,
        q.1 = q.2.id ∧ q.2.strand = p.1 :=
      fun p hp => (hwf p.1 p.2 (hs.1.get?_eq_some_iff.2 hp)).2
    have hstrand : ∀ p ∈ st.strands.toList, ∀ x ∈ p.2.messages.values, x.strand = p.1 := by
      intro p hp x hx
      obtain ⟨i, hix⟩ := Keyed.mem_values_iff.1 hx
      exact (hsit p hp (i, x) hix).2
    simp only [pending, MemoryStore.pending, Keyed.values, List.map_map]
    rw [List.pairwise_flatten, List.pairwise_map]
    refine ⟨fun l hl => ?_, (pairwise_toList hs.1).imp_of_mem fun {p p'} hp hp' hlt => ?_⟩
    · -- within one strand, by id
      obtain ⟨p, hp, rfl⟩ := List.mem_map.1 hl
      simp only [Function.comp_apply]
      rw [List.pairwise_map]
      refine (pairwise_toList (hs.2 p hp)).imp_of_mem fun {q q'} hq hq' hlt => ?_
      obtain ⟨hqid, hqs⟩ := hsit p hp q hq
      obtain ⟨hqid', hqs'⟩ := hsit p hp q' hq'
      exact .inr ⟨hqs.trans hqs'.symm, hqid ▸ hqid' ▸ hlt⟩
    · -- across strands, by strand
      intro x hx y hy
      simp only [Function.comp_apply] at hx hy
      exact .inl (hstrand p hp x hx ▸ hstrand p' hp' y hy ▸ hlt)

/-- A disk store lists its envelopes by record key, compared as bytes. -/
theorem pending_disk_sorted {st : Store} (hd : st.isDisk = true) (hs : st.Sorted) (hwf : st.WF) :
    st.pending.Pairwise
      (fun m m' => DiskStore.recordKey m.strand m.id < DiskStore.recordKey m'.strand m'.id) := by
  cases st with
  | memory st => cases hd
  | disk st =>
    rw [pending_disk, Keyed.values, List.pairwise_map]
    refine (pairwise_toList hs).imp_of_mem fun {p p'} hp hp' hlt => ?_
    rw [← (hwf.2 p hp).1, ← (hwf.2 p' hp').1]
    exact hlt

end Store

/-- From empty stores and over calls that register no id with `:` in it, a cursor opened on a
store and walked to its end gives the envelopes the store keeps, each once: the list a recovery
pass resends. A memory store gives them by strand and then by id; a disk store by record key
`strand ++ ":" ++ id`, compared as bytes. -/
theorem cursor_walks_in_store_order (calls : List StoreCall)
    (hcalls : ∀ c ∈ calls, c.plainIds = true) :
    let mem := (Store.memory {}).afterCalls calls
    let disk := (Store.disk {}).afterCalls calls
    (mem.dump = (if mem.isOpen then .ok mem.pending else .error .closed) ∧
      (∀ m, m ∈ mem.pending ↔ mem.kept m.strand m.id = some m) ∧
      mem.pending.Pairwise
        (fun m m' => m.strand < m'.strand ∨ m.strand = m'.strand ∧ m.id < m'.id)) ∧
    (disk.dump = (if disk.isOpen then .ok disk.pending else .error .closed) ∧
      (∀ m, m ∈ disk.pending ↔ disk.kept m.strand m.id = some m) ∧
      disk.pending.Pairwise
        (fun m m' => DiskStore.recordKey m.strand m.id < DiskStore.recordKey m'.strand m'.id)) := by
  intro mem disk
  -- both invariants hold of an empty store and survive every call, and so does its kind
  have hinv : ∀ st : Store, st.Blank →
      (st.afterCalls calls).Sorted ∧ (st.afterCalls calls).WF ∧
        (st.afterCalls calls).isDisk = st.isDisk := by
    intro st hb
    refine Store.afterCalls_invariant
      (fun st' => st'.Sorted ∧ st'.WF ∧ st'.isDisk = st.isDisk) (fun c => c.plainIds = true)
      (fun st' c hc h => ⟨Store.sorted_call h.1 c, Store.wf_call h.2.1 c hc, ?_⟩)
      ⟨hb.sorted, hb.wf, rfl⟩ calls hcalls
    rw [Store.isDisk_call, h.2.2]
  obtain ⟨hms, hmwf, hmd⟩ := hinv (.memory {}) rfl
  obtain ⟨hds, hdwf, hdd⟩ := hinv (.disk {}) ⟨rfl, rfl⟩
  exact ⟨⟨Store.dump_eq hms, Store.mem_pending_iff hms hmwf,
      Store.pending_memory_sorted hmd hms hmwf⟩,
    ⟨Store.dump_eq hds, Store.mem_pending_iff hds hdwf, Store.pending_disk_sorted hdd hds hdwf⟩⟩

/-- Strands `a` and `a.b` with one envelope each: a disk store walks them by record key. -/
theorem cursor_walks_in_store_order_on_nested_strands :
    let calls := [StoreCall.create "a" {}, .create "a.b" {}, .save (Envelope.make "1" "a" "x" 0),
      .save (Envelope.make "2" "a.b" "y" 0)]
    let disk := (Store.disk {}).afterCalls calls
    (∀ c ∈ calls, c.plainIds = true) ∧ disk.dump = .ok disk.pending ∧
      disk.pending.Pairwise
        (fun m m' => DiskStore.recordKey m.strand m.id < DiskStore.recordKey m'.strand m'.id) := by
  intro calls disk
  have hcalls : ∀ c ∈ calls, c.plainIds = true := by decide
  have hopen : disk.isOpen = true := by decide
  have hlaw := (cursor_walks_in_store_order calls hcalls).2
  exact ⟨hcalls, by rw [hlaw.1, if_pos hopen], hlaw.2.2⟩

/-- Strands `a` and `a.b` with one envelope each: the disk store walks the envelope of `a.b`
first, since `.` sorts below `:`, and the memory store the envelope of `a`. -/
theorem dump_puts_extended_strand_first_on_disk :
    let x := Envelope.make "1" "a" "x" 0
    let y := Envelope.make "2" "a.b" "y" 0
    let calls := [StoreCall.create "a" {}, .create "a.b" {}, .save x, .save y]
    ((Store.disk {}).afterCalls calls).dump = .ok [y, x] ∧
      ((Store.memory {}).afterCalls calls).dump = .ok [x, y] ∧ x.strand < y.strand := by
  decide

end Courier
