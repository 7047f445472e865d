import Courier.Proofs.Store.Order
import Courier.Proofs.WireForm
import Mathlib.Data.List.Sort

/-!
# The disk store answers as the memory store does

Started empty and given the same calls, a memory store and a disk store give the same answers,
call by call, as long as no strand id registered has `:` in it and no call reloads a store
(a reload empties a memory store and keeps a disk store's records). The answers are equal,
errors included, except the walks of a cursor: those give the same envelopes in the same order
within each strand, and differ only in how the strands are interleaved (the disk store walks
by record key, see `Courier.Proofs.Store.Order`). Every envelope the disk store keeps was
saved by a call, and its wire form reads back as that envelope.

The proof is a simulation. `Store.Mirrors mem disk` relates the two stores through the views
a caller can observe: whether the store is open, the configuration of each strand
(`Store.confOf`), and the envelope kept under each strand and id (`Store.kept`). Each answer
is a function of these views (`call_create_reply` and its kin, `listStrands_spec`,
`held_eq_of_kept`, `pending_mem_iff_of_kept`), and each operation changes them in the same way
on both kinds of store (`kept_save` and its kin), so one step keeps the relation
(`Mirrors.step`) and a run keeps it from the empty stores on (`Mirrors.run`).
-/

namespace Courier

/-- Two lists whose elements increase along a key and that have the same elements are equal. -/
theorem eq_of_pairwise_key_lt {α : Type} (f : α → String) {l₁ l₂ : List α}
    (h₁ : l₁.Pairwise (fun a b => f a < f b)) (h₂ : l₂.Pairwise (fun a b => f a < f b))
    (h : ∀ a, a ∈ l₁ ↔ a ∈ l₂) : l₁ = l₂ :=
  haveI : Std.Antisymm (fun a b : α => f a < f b) :=
    ⟨fun _ _ hab hba => absurd (hab.trans hba) (lt_irrefl _)⟩
  haveI : Std.Irrefl (fun a b : α => f a < f b) := ⟨fun _ => lt_irrefl _⟩
  h₁.eq_of_mem_iff h₂ h

namespace DiskStore

/-- Within one strand, record keys are in the order of the ids. -/
theorem recordKey_lt_recordKey {t a b : String} : recordKey t a < recordKey t b ↔ a < b := by
  have hmono : ∀ {a b : String}, a < b → recordKey t a < recordKey t b := by
    intro a b h
    rw [String.lt_iff_toList_lt] at h ⊢
    rw [recordKey_toList, recordKey_toList]
    exact List.append_left_lt (List.cons_lt_cons_iff.2 (.inr ⟨rfl, h⟩))
  refine ⟨fun h => ?_, hmono⟩
  rcases lt_trichotomy a b with hab | rfl | hba
  · exact hab
  · exact absurd h (lt_irrefl _)
  · exact absurd (hmono hba) (not_lt_of_gt h)

@[simp] theorem withRecords_blocked (st : DiskStore) (r : Records) :
    (st.withRecords r).blocked = st.blocked := rfl

end DiskStore

namespace Store

/-! ## The envelope kept under a strand and an id -/

theorem SameData.kept {st st' : Store} (h : st.SameData st') : st'.kept = st.kept := by
  funext s id
  cases st <;> cases st' <;> simp only [SameData] at h <;> simp [Store.kept, h]

theorem Blank.kept {st : Store} (h : st.Blank) (s id : String) : st.kept s id = none := by
  cases st with
  | memory st => simp [Blank] at h; simp [Store.kept, Keyed.get?, h, Keyed.lookup]
  | disk st => simp [Blank] at h; simp [Store.kept, Keyed.get?, h.2, Keyed.lookup]

/-- A registered strand is the strand of every envelope a well-formed disk store keeps under
one of its keys. -/
theorem disk_kept_sits {st : DiskStore} (hwf : (Store.disk st).WF) {t id : String}
    (ht : ':' ∉ t.toList) {v : Envelope}
    (hv : (DiskStore.recordKey t id, v) ∈ st.records.envelopes.toList) :
    v.strand = t ∧ v.id = id := by
  obtain ⟨hk, hreg⟩ := hwf.2 _ hv
  obtain ⟨hs, hi⟩ := DiskStore.recordKey_inj ht (hwf.1 _ hreg) hk
  exact ⟨hs.symm, hi.symm⟩

theorem kept_create {st st' : Store} {s : String} {c : StrandConf}
    (h : st.create s c = .ok st') : st'.kept = st.kept := by
  cases st with
  | memory st =>
    obtain ⟨st₀, hc, rfl⟩ := map_eq_ok h
    obtain ⟨-, hnone, rfl⟩ := MemoryStore.create_ok hc
    funext t id
    -- the new strand holds nothing, as the missing one did
    by_cases hst : s = t
    · subst hst; simp [kept, hnone]
    · simp [kept, hst]
  | disk st =>
    obtain ⟨st₀, hc, rfl⟩ := map_eq_ok h
    obtain ⟨-, -, rfl⟩ := DiskStore.create_ok hc
    funext t id
    simp [kept]

theorem kept_save {st st' : Store} {m : Envelope} (hwf : st.WF) (h : st.save m = .ok st')
    {t : String} (ht : ':' ∉ t.toList) (id : String) :
    st'.kept t id = if m.strand = t ∧ m.id = id then some m else st.kept t id := by
  cases st with
  | memory st =>
    obtain ⟨st₀, hs, rfl⟩ := map_eq_ok h
    obtain ⟨e, -, he, rfl⟩ := MemoryStore.save_ok hs
    by_cases hst : m.strand = t
    · subst hst
      by_cases hid : m.id = id <;> simp [kept, he, hid]
    · simp [kept, hst]
  | disk st =>
    obtain ⟨st₀, hs, rfl⟩ := map_eq_ok h
    obtain ⟨-, hc, -, hev, -⟩ := DiskStore.save_ok hs
    have hm : ':' ∉ m.strand.toList := hwf.1 _ ((Keyed.contains_iff _ _).1 hc)
    -- distinct strands and ids give distinct record keys
    have hkey : DiskStore.recordKey m.strand m.id = DiskStore.recordKey t id ↔
        m.strand = t ∧ m.id = id :=
      ⟨DiskStore.recordKey_inj hm ht, fun h => h.1 ▸ h.2 ▸ rfl⟩
    simp only [kept, hev, Keyed.get?_insert, hkey]

theorem kept_acknowledge {st st' : Store} {s id : String} {m : Envelope} (hwf : st.WF)
    (h : st.acknowledge s id = .ok (m, st')) {t : String} (ht : ':' ∉ t.toList) (j : String) :
    st'.kept t j = if s = t ∧ id = j then none else st.kept t j := by
  cases st with
  | memory st =>
    obtain ⟨⟨m₀, st₀⟩, ha, hpair⟩ := map_eq_ok h
    obtain ⟨rfl, rfl⟩ := Prod.mk.inj hpair
    obtain ⟨e, -, he, -, rfl⟩ := MemoryStore.acknowledge_ok ha
    by_cases hst : s = t
    · subst hst
      by_cases hid : id = j <;> simp [kept, he, hid]
    · simp [kept, hst]
  | disk st =>
    obtain ⟨⟨m₀, st₀⟩, ha, hpair⟩ := map_eq_ok h
    obtain ⟨rfl, rfl⟩ := Prod.mk.inj hpair
    obtain ⟨-, hc, -, rfl⟩ := DiskStore.acknowledge_ok ha
    have hs : ':' ∉ s.toList := hwf.1 s ((Keyed.contains_iff _ _).1 hc)
    have hkey : DiskStore.recordKey s id = DiskStore.recordKey t j ↔ s = t ∧ id = j :=
      ⟨DiskStore.recordKey_inj hs ht, fun h => h.1 ▸ h.2 ▸ rfl⟩
    simp only [kept, DiskStore.withRecords_records, DiskStore.Records.eraseEnvelope_envelopes,
      Keyed.get?_erase, hkey]

theorem kept_delete {st st' : Store} {s : String} (hs : st.Sorted) (hwf : st.WF)
    (h : st.delete s = .ok st') {t : String} (ht : ':' ∉ t.toList) (id : String) :
    st'.kept t id = if s = t then none else st.kept t id := by
  cases st with
  | memory st =>
    obtain ⟨st₀, hd, rfl⟩ := map_eq_ok h
    obtain ⟨-, -, rfl⟩ := MemoryStore.delete_ok hd
    by_cases hst : s = t <;> simp [kept, hst]
  | disk st =>
    obtain ⟨st₀, hd, rfl⟩ := map_eq_ok h
    have hs' : (Store.disk st₀).Sorted := sorted_delete hs h
    -- compare the two tables pair by pair: the delete drops exactly the pairs of `s`
    apply Option.ext
    intro v
    simp only [kept]
    rw [Keyed.Sorted.get?_eq_some_iff hs', disk_delete_mem hwf hd]
    by_cases hst : s = t
    · subst hst
      simp only [if_true, reduceCtorEq, iff_false, not_and, not_not]
      exact fun hv => (disk_kept_sits hwf ht hv).1
    · rw [if_neg hst, Keyed.Sorted.get?_eq_some_iff hs]
      exact ⟨fun hv => hv.1, fun hv => ⟨hv, fun hvs => hst (hvs.symm.trans
        (disk_kept_sits hwf ht hv).1)⟩⟩

/-! ## What a strand holds, and what a walk gives -/

/-- An envelope a strand without `:` holds is the one kept under that strand and its own id. -/
theorem mem_held_iff {st : Store} (hs : st.Sorted) (hwf : st.WF) {t : String}
    (ht : ':' ∉ t.toList) (x : Envelope) :
    x ∈ st.held t ↔ x.strand = t ∧ st.kept t x.id = some x := by
  cases st with
  | memory st =>
    cases he : st.strands.get? t with
    | none => simp [held, kept, he]
    | some e =>
      have hes : e.messages.Sorted := hs.2 _ (Keyed.mem_toList_of_get? he)
      simp only [held, kept, he, Option.map_some, Option.getD_some, Option.bind_some]
      rw [Keyed.mem_values_iff]
      constructor
      · rintro ⟨k, hk⟩
        -- the entry keeps each envelope under its own id
        have hsit : k = x.id ∧ x.strand = t := (hwf t e he).2 (k, x) hk
        obtain ⟨rfl, hst⟩ := hsit
        exact ⟨hst, hes.get?_eq_some_iff.2 hk⟩
      · rintro ⟨-, hx⟩
        exact ⟨x.id, hes.get?_eq_some_iff.1 hx⟩
  | disk st =>
    simp only [held, kept, DiskStore.strandRecords_eq, List.mem_map, List.mem_filter]
    rw [Keyed.Sorted.get?_eq_some_iff hs]
    constructor
    · rintro ⟨p, ⟨hp, hpre⟩, rfl⟩
      have hpt := (disk_prefix_iff hwf ht hp).1 hpre
      have hk : p.1 = DiskStore.recordKey t p.2.id := hpt ▸ (hwf.2 p hp).1
      exact ⟨hpt, by rw [← hk]; exact hp⟩
    · rintro ⟨hxt, hx⟩
      exact ⟨_, ⟨hx, (disk_prefix_iff hwf ht hx).2 hxt⟩, rfl⟩

/-- A strand holds its envelopes in the order of their ids. -/
theorem held_sorted {st : Store} (hs : st.Sorted) (hwf : st.WF) {t : String}
    (ht : ':' ∉ t.toList) : (st.held t).Pairwise (fun a b => a.id < b.id) := by
  cases st with
  | memory st =>
    cases he : st.strands.get? t with
    | none => simp [held, he]
    | some e =>
      simp only [held, he, Option.map_some, Option.getD_some, Keyed.values, List.pairwise_map]
      refine (pairwise_toList (hs.2 _ (Keyed.mem_toList_of_get? he))).imp_of_mem
        fun {p q} hp hq hlt => ?_
      rw [← ((hwf t e he).2 p hp).1, ← ((hwf t e he).2 q hq).1]
      exact hlt
  | disk st =>
    simp only [held, DiskStore.strandRecords_eq, List.pairwise_map]
    refine ((pairwise_toList hs).sublist List.filter_sublist).imp_of_mem
      fun {p q} hp hq hlt => ?_
    rw [List.mem_filter] at hp hq
    -- both records are keyed by strand `t` and their ids
    have hkp : p.1 = DiskStore.recordKey t p.2.id :=
      (disk_prefix_iff hwf ht hp.1).1 hp.2 ▸ (hwf.2 p hp.1).1
    have hkq : q.1 = DiskStore.recordKey t q.2.id :=
      (disk_prefix_iff hwf ht hq.1).1 hq.2 ▸ (hwf.2 q hq.1).1
    rw [hkp, hkq] at hlt
    exact DiskStore.recordKey_lt_recordKey.1 hlt

/-- Two stores that keep the same envelopes under a strand hold the same list for it. -/
theorem held_eq_of_kept {a b : Store} (ha : a.Sorted) (hwa : a.WF) (hb : b.Sorted)
    (hwb : b.WF) {t : String} (ht : ':' ∉ t.toList) (h : a.kept t = b.kept t) :
    a.held t = b.held t :=
  eq_of_pairwise_key_lt Envelope.id (held_sorted ha hwa ht) (held_sorted hb hwb ht) fun x => by
    rw [mem_held_iff ha hwa ht, mem_held_iff hb hwb ht, h]

/-- Every envelope a well-formed store keeps belongs to a strand without `:`. -/
theorem plain_of_mem_pending {st : Store} (hs : st.Sorted) (hwf : st.WF) {m : Envelope}
    (hm : m ∈ st.pending) : ':' ∉ m.strand.toList := by
  rw [mem_pending_iff hs hwf] at hm
  cases st with
  | memory st =>
    obtain ⟨e, he, -⟩ := Option.bind_eq_some_iff.1 hm
    exact (hwf _ e he).1
  | disk st => exact hwf.1 _ (hwf.2 _ (Keyed.mem_toList_of_get? hm)).2

/-- Two stores that keep the same envelopes under every strand without `:` give the same
envelopes to a walk. -/
theorem pending_mem_iff_of_kept {a b : Store} (ha : a.Sorted) (hwa : a.WF) (hb : b.Sorted)
    (hwb : b.WF) (h : ∀ s, ':' ∉ s.toList → a.kept s = b.kept s) (m : Envelope) :
    m ∈ a.pending ↔ m ∈ b.pending := by
  constructor
  · intro hm
    have hp := plain_of_mem_pending ha hwa hm
    rw [mem_pending_iff ha hwa, h _ hp] at hm
    exact (mem_pending_iff hb hwb m).2 hm
  · intro hm
    have hp := plain_of_mem_pending hb hwb hm
    rw [mem_pending_iff hb hwb, ← h _ hp] at hm
    exact (mem_pending_iff ha hwa m).2 hm

/-- A walk cut down to one strand is in the order of the ids, on either kind of store. -/
theorem pending_filter_sorted {st : Store} (hs : st.Sorted) (hwf : st.WF) (s : String) :
    (st.pending.filter (·.strand = s)).Pairwise (fun a b => a.id < b.id) := by
  cases hd : st.isDisk
  · refine ((pending_memory_sorted hd hs hwf).filter _).imp_of_mem fun {a b} ha hb h => ?_
    simp only [List.mem_filter, decide_eq_true_eq] at ha hb
    -- both envelopes are of strand `s`, so the walk orders them by id
    rcases h with hlt | ⟨-, hid⟩
    · rw [ha.2, hb.2] at hlt
      exact absurd hlt (lt_irrefl _)
    · exact hid
  · refine ((pending_disk_sorted hd hs hwf).filter _).imp_of_mem fun {a b} ha hb h => ?_
    simp only [List.mem_filter, decide_eq_true_eq] at ha hb
    rw [ha.2, hb.2] at h
    exact DiskStore.recordKey_lt_recordKey.1 h

theorem pending_filter_eq_of_kept {a b : Store} (ha : a.Sorted) (hwa : a.WF) (hb : b.Sorted)
    (hwb : b.WF) (h : ∀ s, ':' ∉ s.toList → a.kept s = b.kept s) (s : String) :
    a.pending.filter (·.strand = s) = b.pending.filter (·.strand = s) :=
  eq_of_pairwise_key_lt Envelope.id (pending_filter_sorted ha hwa s)
    (pending_filter_sorted hb hwb s) fun m => by
      simp only [List.mem_filter, pending_mem_iff_of_kept ha hwa hb hwb h]

/-! ## What every store of a run keeps true -/

/-- Whether the table of registered strands keeps its ids in increasing order. -/
def StrandsSorted : Store → Prop
  | .memory st => st.strands.Sorted
  | .disk st => st.records.configs.Sorted

/-- Whether the store's location is unusable; a memory store has none. -/
def blocked : Store → Bool
  | .memory _ => false
  | .disk st => st.blocked

/-- What each store of a run keeps true: every record where its key says, every table in
order, and a usable location. -/
structure Sound (st : Store) : Prop where
  wf : st.WF
  sorted : st.Sorted
  strandsSorted : st.StrandsSorted
  unblocked : st.blocked = false

theorem SameData.strandsSorted {st st' : Store} (h : st.SameData st') (hl : st.StrandsSorted) :
    st'.StrandsSorted := by
  cases st <;> cases st' <;> simp only [SameData] at h
  · simpa [StrandsSorted, ← h] using hl
  · simpa [StrandsSorted, ← h] using hl

theorem Blank.strandsSorted {st : Store} (h : st.Blank) : st.StrandsSorted := by
  cases st with
  | memory st =>
    simp only [Blank] at h
    simp [StrandsSorted, Keyed.Sorted, Keyed.keys, h]
  | disk st =>
    simp only [Blank] at h
    simp [StrandsSorted, Keyed.Sorted, Keyed.keys, h.1]

theorem strandsSorted_call {st : Store} (hl : st.StrandsSorted) (c : StoreCall) :
    (st.call c).2.StrandsSorted := by
  rcases call_cases st c with hsame | hblank | ⟨s, conf, h, -⟩ | ⟨s, h, -⟩ | ⟨m, h, -⟩ |
      ⟨s, id, m, h⟩
  · exact hsame.strandsSorted hl
  · exact hblank.strandsSorted
  · cases st with
    | memory st =>
      obtain ⟨st₀, hc, hst⟩ := map_eq_ok h
      obtain ⟨-, -, rfl⟩ := MemoryStore.create_ok hc
      rw [← hst]
      exact Keyed.Sorted.insert hl _ _
    | disk st =>
      obtain ⟨st₀, hc, hst⟩ := map_eq_ok h
      obtain ⟨-, -, rfl⟩ := DiskStore.create_ok hc
      rw [← hst]
      simpa [StrandsSorted] using Keyed.Sorted.insert hl _ conf
  · cases st with
    | memory st =>
      obtain ⟨st₀, hd, hst⟩ := map_eq_ok h
      obtain ⟨-, -, rfl⟩ := MemoryStore.delete_ok hd
      rw [← hst]
      exact Keyed.Sorted.erase hl _
    | disk st =>
      obtain ⟨st₀, hd, hst⟩ := map_eq_ok h
      obtain ⟨-, -, hcf, -, -⟩ := DiskStore.delete_ok hd
      rw [← hst]
      simpa [StrandsSorted, hcf] using Keyed.Sorted.erase hl s
  · cases st with
    | memory st =>
      obtain ⟨st₀, hsv, hst⟩ := map_eq_ok h
      obtain ⟨e, -, -, rfl⟩ := MemoryStore.save_ok hsv
      rw [← hst]
      exact Keyed.Sorted.insert hl _ _
    | disk st =>
      obtain ⟨st₀, hsv, hst⟩ := map_eq_ok h
      obtain ⟨-, -, hcf, -, -⟩ := DiskStore.save_ok hsv
      rw [← hst]
      simpa [StrandsSorted, hcf] using hl
  · cases st with
    | memory st =>
      obtain ⟨⟨m₀, st₀⟩, ha, hpair⟩ := map_eq_ok h
      obtain ⟨rfl, hst⟩ := Prod.mk.inj hpair
      obtain ⟨e, -, -, -, rfl⟩ := MemoryStore.acknowledge_ok ha
      rw [← hst]
      exact Keyed.Sorted.insert hl _ _
    | disk st =>
      obtain ⟨⟨m₀, st₀⟩, ha, hpair⟩ := map_eq_ok h
      obtain ⟨rfl, hst⟩ := Prod.mk.inj hpair
      obtain ⟨-, -, -, rfl⟩ := DiskStore.acknowledge_ok ha
      rw [← hst]
      simpa [StrandsSorted] using hl

theorem blocked_of_isDisk {st : Store} (h : st.isDisk = false) : st.blocked = false := by
  cases st
  · rfl
  · cases h

/-- No call makes a store's location unusable. -/
theorem blocked_call (st : Store) (c : StoreCall) : (st.call c).2.blocked = st.blocked := by
  cases st with
  | memory st => exact blocked_of_isDisk ((isDisk_call _ c).trans rfl)
  | disk st =>
    -- every write rebuilds the store from the old one with new records
    cases c with
    | create s conf =>
      cases h : st.create s conf with
      | error e => simp [call, write, create, h, Functor.map, Except.map]
      | ok st' =>
        obtain ⟨-, -, rfl⟩ := DiskStore.create_ok h
        simp [call, write, create, h, Functor.map, Except.map, blocked]
    | delete s =>
      cases h : st.delete s with
      | error e => simp [call, write, delete, h, Functor.map, Except.map]
      | ok st' =>
        simp only [call, write, delete, h, Functor.map, Except.map, blocked]
        unfold DiskStore.delete DiskStore.guard DiskStore.require at h
        by_cases ho : st.isOpen <;> by_cases hc : st.records.configs.contains s <;>
          simp_all [bind, Except.bind, pure, Except.pure]
        cases h
        rfl
    | save m =>
      cases h : st.save m with
      | error e => simp [call, write, save, h, Functor.map, Except.map]
      | ok st' =>
        simp only [call, write, save, h, Functor.map, Except.map, blocked]
        unfold DiskStore.save DiskStore.guard DiskStore.require at h
        by_cases ho : st.isOpen <;> by_cases hc : st.records.configs.contains m.strand <;>
          simp_all [bind, Except.bind, pure, Except.pure]
        cases h
        rfl
    | acknowledge s id =>
      cases h : st.acknowledge s id with
      | error e => simp [call, acknowledge, h, Functor.map, Except.map]
      | ok p =>
        obtain ⟨m, st'⟩ := p
        obtain ⟨-, -, -, rfl⟩ := DiskStore.acknowledge_ok h
        simp [call, acknowledge, h, Functor.map, Except.map, blocked]
    | close => rfl
    | reset =>
      simp only [call, reset, DiskStore.reset]
      split
      · rfl
      · split <;> rfl
    | reload =>
      simp only [call, reload, DiskStore.reload]
      split
      · rfl
      · split <;> rfl
    | has s => rfl
    | config s => rfl
    | strands => rfl
    | unacked s => rfl
    | dump => rfl

theorem Sound.call {st : Store} (h : st.Sound) (c : StoreCall) (hc : c.plainIds = true) :
    (st.call c).2.Sound :=
  ⟨wf_call h.wf c hc, sorted_call h.sorted c, strandsSorted_call h.strandsSorted c,
    (blocked_call st c).trans h.unblocked⟩

/-! ## Each answer is a function of the views -/

/-- An open store lists its registered strands with their configurations, in increasing order
of their ids. -/
theorem listStrands_spec {st : Store} (hl : st.StrandsSorted) : ∃ l,
    st.listStrands = (if st.isOpen then .ok l else .error .closed) ∧
      l.Pairwise (fun a b => a.1 < b.1) ∧ ∀ p, p ∈ l ↔ st.confOf p.1 = some p.2 := by
  cases st with
  | memory st =>
    refine ⟨st.strands.toList.map fun q => (q.1, q.2.conf), ?_, ?_, fun p => ?_⟩
    · by_cases hc : st.closed <;>
        simp [listStrands, MemoryStore.listStrands, MemoryStore.guard, isOpen, hc, bind,
          Except.bind, pure, Except.pure]
    · exact List.pairwise_map.2 (pairwise_toList hl)
    · simp only [List.mem_map, confOf, Option.map_eq_some_iff]
      constructor
      · rintro ⟨q, hq, rfl⟩
        exact ⟨q.2, hl.get?_eq_some_iff.2 hq, rfl⟩
      · rintro ⟨e, he, hc⟩
        exact ⟨(p.1, e), hl.get?_eq_some_iff.1 he, by rw [hc]⟩
  | disk st =>
    refine ⟨st.records.configs.toList, ?_, pairwise_toList hl, fun p => ?_⟩
    · by_cases ho : st.isOpen <;>
        simp [listStrands, DiskStore.listStrands, DiskStore.guard, isOpen, ho, bind,
          Except.bind, pure, Except.pure]
    · rw [confOf, hl.get?_eq_some_iff]

theorem call_create_reply (st : Store) (s : String) (c : StrandConf) :
    (st.call (.create s c)).1 = .done (if st.isOpen then
      if st.confOf s = none then .ok () else .error (.strandExists s) else .error .closed) := by
  cases st with
  | memory st =>
    by_cases hc : st.closed <;> cases hs : st.strands.get? s <;>
      simp [call, write, create, MemoryStore.create, MemoryStore.guard, isOpen, confOf, hc, hs,
        Keyed.contains, bind, Except.bind, pure, Except.pure, throw, throwThe,
        MonadExceptOf.throw, Functor.map, Except.map]
  | disk st =>
    by_cases ho : st.isOpen <;> cases hs : st.records.configs.get? s <;>
      simp [call, write, create, DiskStore.create, DiskStore.guard, isOpen, confOf, ho, hs,
        Keyed.contains, bind, Except.bind, pure, Except.pure, throw, throwThe,
        MonadExceptOf.throw, Functor.map, Except.map]

theorem call_delete_reply (st : Store) (s : String) :
    (st.call (.delete s)).1 = .done (if st.isOpen then
      if st.confOf s = none then .error (.strandNotFound s) else .ok () else .error .closed) := by
  cases st with
  | memory st =>
    by_cases hc : st.closed <;> cases hs : st.strands.get? s <;>
      simp [call, write, delete, MemoryStore.delete, MemoryStore.entry, MemoryStore.guard,
        isOpen, confOf, hc, hs, bind, Except.bind, pure, Except.pure, throw, throwThe,
        MonadExceptOf.throw, Functor.map, Except.map]
  | disk st =>
    by_cases ho : st.isOpen <;> cases hs : st.records.configs.get? s <;>
      simp [call, write, delete, DiskStore.delete, DiskStore.guard, DiskStore.require, isOpen,
        confOf, ho, hs, Keyed.contains, bind, Except.bind, pure, Except.pure, Functor.map,
        Except.map]

theorem call_save_reply (st : Store) (m : Envelope) :
    (st.call (.save m)).1 = .done (if st.isOpen then
      if st.confOf m.strand = none then .error (.strandNotFound m.strand) else .ok ()
      else .error .closed) := by
  cases st with
  | memory st =>
    by_cases hc : st.closed <;> cases hs : st.strands.get? m.strand <;>
      simp [call, write, save, MemoryStore.save, MemoryStore.entry, MemoryStore.guard,
        isOpen, confOf, hc, hs, bind, Except.bind, pure, Except.pure, throw, throwThe,
        MonadExceptOf.throw, Functor.map, Except.map]
  | disk st =>
    by_cases ho : st.isOpen <;> cases hs : st.records.configs.get? m.strand <;>
      simp [call, write, save, DiskStore.save, DiskStore.guard, DiskStore.require, isOpen,
        confOf, ho, hs, Keyed.contains, bind, Except.bind, pure, Except.pure, Functor.map,
        Except.map]

theorem call_acknowledge_reply (st : Store) (s id : String) :
    (st.call (.acknowledge s id)).1 = .envelope (if st.isOpen then
      if st.confOf s = none then .error (.strandNotFound s)
      else (st.kept s id).elim (.error (.messageNotFound s id)) .ok
      else .error .closed) := by
  cases st with
  | memory st =>
    by_cases hc : st.closed
    · simp [call, acknowledge, MemoryStore.acknowledge, MemoryStore.entry, MemoryStore.guard,
        isOpen, hc, bind, Except.bind, Functor.map, Except.map]
    · cases hs : st.strands.get? s with
      | none =>
        simp [call, acknowledge, MemoryStore.acknowledge, MemoryStore.entry, MemoryStore.guard,
          isOpen, confOf, hc, hs, bind, Except.bind, throw, throwThe, MonadExceptOf.throw,
          Functor.map, Except.map]
      | some e =>
        cases hm : e.messages.get? id <;>
          simp [call, acknowledge, MemoryStore.acknowledge, MemoryStore.entry,
            MemoryStore.guard, isOpen, confOf, kept, hc, hs, hm, bind, Except.bind, pure,
            Except.pure, throw, throwThe, MonadExceptOf.throw, Functor.map, Except.map]
  | disk st =>
    by_cases ho : st.isOpen
    · cases hs : st.records.configs.get? s with
      | none =>
        simp [call, acknowledge, DiskStore.acknowledge, DiskStore.guard, DiskStore.require,
          isOpen, confOf, ho, hs, Keyed.contains, bind, Except.bind, Functor.map, Except.map]
      | some c =>
        cases hm : st.records.envelopes.get? (DiskStore.recordKey s id) <;>
          simp [call, acknowledge, DiskStore.acknowledge, DiskStore.guard, DiskStore.require,
            isOpen, confOf, kept, ho, hs, hm, Keyed.contains, bind, Except.bind, pure,
            Except.pure, throw, throwThe, MonadExceptOf.throw, Functor.map, Except.map]
    · simp [call, acknowledge, DiskStore.acknowledge, DiskStore.guard, isOpen, ho, bind,
        Except.bind, Functor.map, Except.map]

/-- A reset with no cursor open on a store whose location is usable wipes it and opens it. -/
theorem reset_ok {st : Store} (hb : st.blocked = false) :
    (st.reset 0).1 = .ok () ∧ (st.reset 0).2.Blank ∧ (st.reset 0).2.isOpen = true := by
  cases st with
  | memory st => exact ⟨rfl, rfl, rfl⟩
  | disk st =>
    have hb' : st.blocked = false := hb
    simp [reset, DiskStore.reset, hb', Blank, isOpen]

/-! ## Two stores seen alike -/

/-- Two stores a caller cannot tell apart: both open or both closed, with the same strands and
configurations, and the same envelope under each strand without `:` and each id. -/
structure SameViews (a b : Store) : Prop where
  isOpen : a.isOpen = b.isOpen
  confOf : a.confOf = b.confOf
  kept : ∀ s, ':' ∉ s.toList → a.kept s = b.kept s

/-- Two writes that answer alike both failed with one error, or both went through. -/
theorem write_cases {a b : Store} {ra rb : Except StoreError Store}
    (h : (a.write ra).1 = (b.write rb).1) :
    (∃ e, ra = .error e ∧ rb = .error e) ∨ ∃ a' b', ra = .ok a' ∧ rb = .ok b' := by
  cases ra <;> cases rb <;> simp_all [write]

/-- Two acknowledgements that answer alike both failed with one error, or both handed back
one envelope. -/
theorem acknowledge_cases {a b : Store} {s id : String}
    (h : (a.call (.acknowledge s id)).1 = (b.call (.acknowledge s id)).1) :
    (∃ e, a.acknowledge s id = .error e ∧ b.acknowledge s id = .error e) ∨
      ∃ m a' b', a.acknowledge s id = .ok (m, a') ∧ b.acknowledge s id = .ok (m, b') := by
  simp only [call] at h
  cases ha : a.acknowledge s id with
  | error e =>
    cases hb : b.acknowledge s id with
    | error e' => simp_all
    | ok p => simp_all
  | ok p =>
    obtain ⟨m, a'⟩ := p
    cases hb : b.acknowledge s id with
    | error e' => simp_all
    | ok q =>
      obtain ⟨m', b'⟩ := q
      simp_all

namespace SameViews

variable {a b : Store}

/-- Two writes that answer alike keep two stores alike, when the stores they give on success
are alike. -/
theorem write (h : SameViews a b) {ra rb : Except StoreError Store}
    (hreply : (a.write ra).1 = (b.write rb).1)
    (hok : ∀ a' b', ra = .ok a' → rb = .ok b' → SameViews a' b') :
    SameViews (a.write ra).2 (b.write rb).2 := by
  rcases write_cases hreply with ⟨e, ha, hb⟩ | ⟨a', b', ha, hb⟩
  · rw [ha, hb]
    exact h
  · rw [ha, hb]
    exact hok a' b' ha hb

theorem create (h : SameViews a b) (s : String) (c : StrandConf) :
    (a.call (.create s c)).1 = (b.call (.create s c)).1 ∧
      SameViews (a.call (.create s c)).2 (b.call (.create s c)).2 := by
  have hreply : (a.call (.create s c)).1 = (b.call (.create s c)).1 := by
    rw [call_create_reply, call_create_reply, h.isOpen, h.confOf]
  refine ⟨hreply, h.write hreply fun a' b' ha hb => ?_⟩
  obtain ⟨-, hao, hac, -⟩ := create_ok ha
  obtain ⟨-, hbo, hbc, -⟩ := create_ok hb
  refine ⟨by rw [hao, hbo, h.isOpen], funext fun t => by rw [hac, hbc, h.confOf],
    fun t ht => ?_⟩
  rw [kept_create ha, kept_create hb, h.kept t ht]

theorem delete (h : SameViews a b) (ha : a.Sound) (hb : b.Sound) (s : String) :
    (a.call (.delete s)).1 = (b.call (.delete s)).1 ∧
      SameViews (a.call (.delete s)).2 (b.call (.delete s)).2 := by
  have hreply : (a.call (.delete s)).1 = (b.call (.delete s)).1 := by
    rw [call_delete_reply, call_delete_reply, h.isOpen, h.confOf]
  refine ⟨hreply, h.write hreply fun a' b' had hbd => ?_⟩
  obtain ⟨-, hao, hac⟩ := delete_ok had
  obtain ⟨-, hbo, hbc⟩ := delete_ok hbd
  refine ⟨by rw [hao, hbo, h.isOpen], funext fun t => by rw [hac, hbc, h.confOf],
    fun t ht => funext fun id => ?_⟩
  rw [kept_delete ha.sorted ha.wf had ht, kept_delete hb.sorted hb.wf hbd ht, h.kept t ht]

theorem save (h : SameViews a b) (ha : a.Sound) (hb : b.Sound) (m : Envelope) :
    (a.call (.save m)).1 = (b.call (.save m)).1 ∧
      SameViews (a.call (.save m)).2 (b.call (.save m)).2 := by
  have hreply : (a.call (.save m)).1 = (b.call (.save m)).1 := by
    rw [call_save_reply, call_save_reply, h.isOpen, h.confOf]
  refine ⟨hreply, h.write hreply fun a' b' has hbs => ?_⟩
  obtain ⟨-, hao, hac⟩ := save_ok has
  obtain ⟨-, hbo, hbc⟩ := save_ok hbs
  refine ⟨by rw [hao, hbo, h.isOpen], by rw [hac, hbc, h.confOf],
    fun t ht => funext fun id => ?_⟩
  rw [kept_save ha.wf has ht, kept_save hb.wf hbs ht, h.kept t ht]

theorem acknowledge (h : SameViews a b) (ha : a.Sound) (hb : b.Sound) (s id : String) :
    (a.call (.acknowledge s id)).1 = (b.call (.acknowledge s id)).1 ∧
      SameViews (a.call (.acknowledge s id)).2 (b.call (.acknowledge s id)).2 := by
  have hreply : (a.call (.acknowledge s id)).1 = (b.call (.acknowledge s id)).1 := by
    rw [call_acknowledge_reply, call_acknowledge_reply, h.isOpen, h.confOf]
    by_cases hreg : b.confOf s = none
    · simp [hreg]
    · -- a registered strand has no `:` in its id, so both stores keep the same envelopes
      rw [h.kept s (WF.sep hb.wf hreg)]
  refine ⟨hreply, ?_⟩
  rcases acknowledge_cases hreply with ⟨e, haa, hba⟩ | ⟨m, a', b', haa, hba⟩
  · simp only [call, haa, hba]
    exact h
  · simp only [call, haa, hba]
    obtain ⟨-, hao, hac⟩ := acknowledge_ok haa
    obtain ⟨-, hbo, hbc⟩ := acknowledge_ok hba
    refine ⟨by rw [hao, hbo, h.isOpen], by rw [hac, hbc, h.confOf],
      fun t ht => funext fun j => ?_⟩
    rw [kept_acknowledge ha.wf haa ht, kept_acknowledge hb.wf hba ht, h.kept t ht]

theorem unacked (h : SameViews a b) (ha : a.Sound) (hb : b.Sound) (s : String) :
    a.unacked s = b.unacked s := by
  rw [unacked_eq, unacked_eq, h.isOpen, h.confOf]
  by_cases hreg : b.confOf s = none
  · simp [hreg]
  · -- a registered strand holds the same list in both stores
    have ht := WF.sep hb.wf hreg
    rw [held_eq_of_kept ha.sorted ha.wf hb.sorted hb.wf ht (h.kept s ht)]

theorem listStrands (h : SameViews a b) (ha : a.Sound) (hb : b.Sound) :
    a.listStrands = b.listStrands := by
  obtain ⟨la, hla, hsa, hma⟩ := listStrands_spec ha.strandsSorted
  obtain ⟨lb, hlb, hsb, hmb⟩ := listStrands_spec hb.strandsSorted
  have hl : la = lb :=
    eq_of_pairwise_key_lt Prod.fst hsa hsb fun p => by rw [hma, hmb, h.confOf]
  rw [hla, hlb, hl, h.isOpen]

theorem close (h : SameViews a b) : SameViews a.close b.close :=
  ⟨by simp, by rw [(sameData_close a).confOf, (sameData_close b).confOf, h.confOf],
    fun s hs => by rw [(sameData_close a).kept, (sameData_close b).kept, h.kept s hs]⟩

theorem of_blank {a b : Store} (ha : a.Blank) (hb : b.Blank) (ho : a.isOpen = b.isOpen) :
    SameViews a b :=
  ⟨ho, funext fun s => by rw [ha.confOf, hb.confOf],
    fun s _ => funext fun id => by rw [ha.kept, hb.kept]⟩

end SameViews

end Store

/-! ## The simulation -/

namespace StoreReply

/-- Answers that agree: equal, except that the walks of two cursors agree when they give the
same envelopes in the same order within each strand. -/
def Agree : StoreReply → StoreReply → Prop
  | .envelopes (.ok l), .envelopes (.ok l') =>
    ∀ s, l.filter (·.strand = s) = l'.filter (·.strand = s)
  | r, r' => r = r'

theorem Agree.of_eq {r r' : StoreReply} (h : r = r') : r.Agree r' := by
  subst h
  rcases r with _ | _ | _ | _ | _ | _ | (_ | l) <;> simp [Agree]

end StoreReply

namespace Store

/-- A memory store and a disk store that a caller cannot tell apart, each sound. -/
structure Mirrors (mem disk : Store) : Prop where
  memSound : mem.Sound
  diskSound : disk.Sound
  views : SameViews mem disk

/-- One call on both stores: the answers agree and the stores still mirror each other. -/
theorem Mirrors.step {mem disk : Store} (h : Mirrors mem disk) (c : StoreCall)
    (hc : c.plainIds = true) (hr : c ≠ .reload) :
    (mem.call c).1.Agree (disk.call c).1 ∧ Mirrors (mem.call c).2 (disk.call c).2 := by
  have hv := h.views
  have hstep : (mem.call c).1.Agree (disk.call c).1 ∧
      SameViews (mem.call c).2 (disk.call c).2 := by
    cases c with
    | create s conf => exact (hv.create s conf).imp StoreReply.Agree.of_eq id
    | delete s => exact (hv.delete h.memSound h.diskSound s).imp StoreReply.Agree.of_eq id
    | save m => exact (hv.save h.memSound h.diskSound m).imp StoreReply.Agree.of_eq id
    | acknowledge s j =>
      exact (hv.acknowledge h.memSound h.diskSound s j).imp StoreReply.Agree.of_eq id
    | has s =>
      refine ⟨.of_eq ?_, hv⟩
      simp only [call, has_eq, hv.isOpen, hv.confOf]
    | config s =>
      refine ⟨.of_eq ?_, hv⟩
      simp only [call, config_eq, hv.isOpen, hv.confOf]
    | strands =>
      refine ⟨.of_eq ?_, hv⟩
      simp only [call, hv.listStrands h.memSound h.diskSound]
    | unacked s =>
      refine ⟨.of_eq ?_, hv⟩
      simp only [call, hv.unacked h.memSound h.diskSound]
    | close => exact ⟨.of_eq rfl, hv.close⟩
    | reset =>
      obtain ⟨hm1, hm2, hm3⟩ := reset_ok h.memSound.unblocked
      obtain ⟨hd1, hd2, hd3⟩ := reset_ok h.diskSound.unblocked
      refine ⟨.of_eq ?_, SameViews.of_blank hm2 hd2 (hm3.trans hd3.symm)⟩
      simp only [call, hm1, hd1]
    | reload => exact absurd rfl hr
    | dump =>
      refine ⟨?_, hv⟩
      simp only [call, dump_eq h.memSound.sorted, dump_eq h.diskSound.sorted, hv.isOpen]
      split
      · -- the walks give the same envelopes strand by strand
        exact pending_filter_eq_of_kept h.memSound.sorted h.memSound.wf h.diskSound.sorted
          h.diskSound.wf hv.kept
      · exact .of_eq rfl
  exact ⟨hstep.1, h.memSound.call c hc, h.diskSound.call c hc, hstep.2⟩

/-- Over a run of calls the answers agree one by one, and the stores mirror each other at the
end. -/
theorem Mirrors.run {mem disk : Store} (h : Mirrors mem disk) (calls : List StoreCall)
    (hcalls : ∀ c ∈ calls, c.plainIds = true ∧ c ≠ .reload) :
    List.Forall₂ StoreReply.Agree (mem.replies calls) (disk.replies calls) ∧
      Mirrors (mem.afterCalls calls) (disk.afterCalls calls) := by
  induction calls generalizing mem disk with
  | nil => exact ⟨.nil, h⟩
  | cons c rest ih =>
    obtain ⟨hc, hr⟩ := hcalls c List.mem_cons_self
    obtain ⟨hagree, hnext⟩ := h.step c hc hr
    obtain ⟨hrest, hend⟩ := ih hnext fun c' hc' => hcalls c' (List.mem_cons_of_mem _ hc')
    exact ⟨.cons hagree hrest, hend⟩

theorem sound_of_blank {st : Store} (h : st.Blank) (hb : st.blocked = false) : st.Sound :=
  ⟨h.wf, h.sorted, h.strandsSorted, hb⟩

/-- The empty memory store and the empty disk store mirror each other. -/
theorem mirrors_empty : Mirrors (.memory {}) (.disk {}) :=
  ⟨sound_of_blank rfl rfl, sound_of_blank ⟨rfl, rfl⟩ rfl, SameViews.of_blank rfl ⟨rfl, rfl⟩ rfl⟩

/-! ## What the disk store lists and keeps -/

/-- A store whose strands are in order lists them in order. -/
theorem reply_strands_sorted {st : Store} (hl : st.StrandsSorted) (c : StoreCall)
    {l : List (String × StrandConf)} (h : (st.call c).1 = .strands (.ok l)) :
    l.Pairwise (fun a b => a.1 < b.1) := by
  have hwrite : ∀ r : Except StoreError Store, (st.write r).1 ≠ .strands (.ok l) := by
    intro r
    cases r <;> simp [write]
  cases c with
  | strands =>
    obtain ⟨l', hl', hs, -⟩ := listStrands_spec hl
    simp only [call, hl'] at h
    split at h
    · cases h
      exact hs
    · cases h
  | create s conf => exact absurd h (hwrite _)
  | delete s => exact absurd h (hwrite _)
  | save m => exact absurd h (hwrite _)
  | acknowledge s id =>
    simp only [call] at h
    split at h <;> cases h
  | has s => cases h
  | config s => cases h
  | unacked s => cases h
  | close => cases h
  | reset => cases h
  | reload => cases h
  | dump => cases h

/-- Every strand listing of a run is in order of the ids. -/
theorem replies_strands_sorted {st : Store} (hs : st.Sound) (calls : List StoreCall)
    (hcalls : ∀ c ∈ calls, c.plainIds = true) (l : List (String × StrandConf))
    (hl : StoreReply.strands (.ok l) ∈ st.replies calls) : l.Pairwise (fun a b => a.1 < b.1) := by
  induction calls generalizing st with
  | nil => cases hl
  | cons c rest ih =>
    rcases List.mem_cons.1 hl with h | h
    · exact reply_strands_sorted hs.strandsSorted c h.symm
    · exact ih (hs.call c (hcalls c List.mem_cons_self))
        (fun c' hc' => hcalls c' (List.mem_cons_of_mem _ hc')) h

/-- Every envelope kept at the end of a run from a store that kept none was saved by a call of
the run. -/
theorem pending_saved {st : Store} (hst : st.pending = []) (calls : List StoreCall) :
    ∀ m ∈ (st.afterCalls calls).pending, StoreCall.save m ∈ calls := by
  refine afterCalls_invariant (fun st => ∀ m ∈ st.pending, StoreCall.save m ∈ calls)
    (· ∈ calls) ?_ (by simp [hst]) calls fun _ hc => hc
  intro st c hc hP m hm
  rcases call_cases st c with hsame | hblank | ⟨s, conf, h, -⟩ | ⟨s, h, -⟩ | ⟨m', h, rfl⟩ |
      ⟨s, id, m', h⟩
  · exact hP m (hsame.pending ▸ hm)
  · simp [hblank.pending] at hm
  · exact hP m (pending_create h hm)
  · exact hP m (pending_delete h hm)
  · rcases pending_save h hm with rfl | hm'
    · exact hc
    · exact hP m hm'
  · exact hP m (pending_acknowledge h hm)

end Store

/-- Started empty and given the same calls, none registering an id with `:` and none reloading,
a memory store and a disk store answer alike, call by call: equal answers, errors included,
and walks that give the same envelopes in the same order within each strand. The disk store
lists its strands in order of their ids. Every envelope it keeps at the end was saved by a
call, and when saved timestamps are signed 64-bit values its wire form reads back as it. -/
theorem disk_store_refines_memory_store (calls : List StoreCall)
    (hcalls : ∀ c ∈ calls, c.plainIds = true ∧ c ≠ .reload)
    (hstamps : ∀ m, StoreCall.save m ∈ calls →
      Envelope.minTimestamp ≤ m.timestamp ∧ m.timestamp ≤ Envelope.maxTimestamp) :
    List.Forall₂ StoreReply.Agree ((Store.memory {}).replies calls)
        ((Store.disk {}).replies calls) ∧
      (∀ l, StoreReply.strands (.ok l) ∈ (Store.disk {}).replies calls →
        l.Pairwise (fun a b => a.1 < b.1)) ∧
      ∀ m ∈ ((Store.disk {}).afterCalls calls).pending,
        StoreCall.save m ∈ calls ∧ Envelope.decode m.encode = .ok m := by
  obtain ⟨hagree, -⟩ := Store.mirrors_empty.run calls hcalls
  refine ⟨hagree, Store.replies_strands_sorted Store.mirrors_empty.diskSound calls
    (fun c hc => (hcalls c hc).1), fun m hm => ?_⟩
  have hsaved := Store.pending_saved rfl calls m hm
  exact ⟨hsaved, Envelope.decode_encode m (hstamps m hsaved).1 (hstamps m hsaved).2⟩

/-- Strands `a` and `a.b`, a save to a strand never registered, a walk, an acknowledgement of
a missing id and of a kept one, a close and a reset. -/
theorem disk_store_refines_memory_store_on_a_session :
    let calls := [StoreCall.create "a" {}, .create "a.b" {},
      .save (Envelope.make "1" "a" "x" 0), .save (Envelope.make "2" "a.b" "y" (-3)),
      .save (Envelope.make "3" "b" "z" 0), .strands, .dump, .acknowledge "a" "9",
      .acknowledge "a" "1", .unacked "a", .close, .has "a", .reset]
    (∀ c ∈ calls, c.plainIds = true ∧ c ≠ .reload) ∧
      (∀ m, StoreCall.save m ∈ calls →
        Envelope.minTimestamp ≤ m.timestamp ∧ m.timestamp ≤ Envelope.maxTimestamp) ∧
      List.Forall₂ StoreReply.Agree ((Store.memory {}).replies calls)
        ((Store.disk {}).replies calls) ∧
      (∀ l, StoreReply.strands (.ok l) ∈ (Store.disk {}).replies calls →
        l.Pairwise (fun a b => a.1 < b.1)) ∧
      ∀ m ∈ ((Store.disk {}).afterCalls calls).pending,
        StoreCall.save m ∈ calls ∧ Envelope.decode m.encode = .ok m := by
  intro calls
  have hcalls : ∀ c ∈ calls, c.plainIds = true ∧ c ≠ .reload := by
    simp [calls, StoreCall.plainIds]
  have hstamps : ∀ m, StoreCall.save m ∈ calls →
      Envelope.minTimestamp ≤ m.timestamp ∧ m.timestamp ≤ Envelope.maxTimestamp := by
    intro m hm
    simp only [calls, List.mem_cons, StoreCall.save.injEq, reduceCtorEq, false_or,
      List.not_mem_nil, or_false] at hm
    rcases hm with rfl | rfl | rfl <;> decide
  exact ⟨hcalls, hstamps, disk_store_refines_memory_store calls hcalls hstamps⟩

end Courier
