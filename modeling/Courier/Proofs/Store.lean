import Courier.Store
import Courier.Proofs.Store.Memory
import Courier.Proofs.Store.Disk

/-!
# What a store keeps

Two views of a store of either kind, as its callers see it:

- `Store.confOf st s`: the configuration kept for `s`, when `st` registers `s`;
- `Store.held st s`: the unacknowledged envelopes kept for `s`: the messages of its entry in a
  memory store, the records under its key prefix in a disk store.

Each operation that succeeds changes the views in one way, stated once here: `create` registers
a strand, `save` adds an envelope, `acknowledge` removes the envelopes of one id, `delete`
drops a strand. Closing, reloading and the location flag change no data (`SameData`), and a
reset either keeps the data or leaves the store `Blank`.

The disk store separates strands by key prefix, which is sound only while every key is where
its envelope says and no registered id has `:` in it. `Store.WF` is that condition; every
operation keeps it, so the views of a disk store obey the same equations as a memory store's.
-/

namespace Courier

namespace Store

/-! ## Views -/

/-- Whether the store answers calls. -/
def isOpen : Store → Bool
  | .memory st => !st.closed
  | .disk st => st.isOpen

/-- The configuration the store keeps for a strand, when it registers the strand. -/
def confOf : Store → String → Option StrandConf
  | .memory st, s => (st.strands.get? s).map (·.conf)
  | .disk st, s => st.records.configs.get? s

/-- The unacknowledged envelopes the store keeps for a strand. -/
def held : Store → String → List Envelope
  | .memory st, s => ((st.strands.get? s).map (·.messages.values)).getD []
  | .disk st, s => (st.strandRecords s).map (·.2)

/-- A store that registers nothing and keeps no envelope. -/
def Blank : Store → Prop
  | .memory st => st.strands.toList = []
  | .disk st => st.records.configs.toList = [] ∧ st.records.envelopes.toList = []

/-- Every record is where its key says: an envelope sits under its own id (and, on disk, its
own strand), its strand is registered, and no registered strand has `:` in its id. -/
def WF : Store → Prop
  | .memory st => ∀ s e, st.strands.get? s = some e →
      ':' ∉ s.toList ∧ ∀ p ∈ e.messages.toList, p.1 = p.2.id ∧ p.2.strand = s
  | .disk st => (∀ s, st.records.configs.get? s ≠ none → ':' ∉ s.toList) ∧
      ∀ p ∈ st.records.envelopes.toList,
        p.1 = DiskStore.recordKey p.2.strand p.2.id ∧ st.records.configs.get? p.2.strand ≠ none

/-- Two stores of one kind keeping the same data, whatever their flags. -/
def SameData : Store → Store → Prop
  | .memory a, .memory b => a.strands = b.strands
  | .disk a, .disk b => a.records = b.records
  | _, _ => False

theorem WF.sep {st : Store} (hwf : st.WF) {s : String} (h : st.confOf s ≠ none) :
    ':' ∉ s.toList := by
  cases st with
  | memory st =>
    obtain ⟨e, he⟩ := Option.ne_none_iff_exists'.mp (by simpa [confOf] using h)
    exact (hwf s e he).1
  | disk st => exact hwf.1 s h

theorem SameData.refl (st : Store) : st.SameData st := by
  cases st <;> rfl

theorem SameData.confOf {st st' : Store} (h : st.SameData st') : st'.confOf = st.confOf := by
  funext s
  cases st <;> cases st' <;> simp only [SameData] at h <;> simp [Store.confOf, h]

theorem SameData.held {st st' : Store} (h : st.SameData st') : st'.held = st.held := by
  funext s
  cases st <;> cases st' <;> simp only [SameData] at h <;>
    simp [Store.held, DiskStore.strandRecords, h]

theorem SameData.wf {st st' : Store} (h : st.SameData st') (hwf : st.WF) : st'.WF := by
  cases st <;> cases st' <;> simp only [SameData] at h <;> simp only [WF] at hwf ⊢ <;>
    rw [← h] <;> exact hwf

theorem Blank.confOf {st : Store} (h : st.Blank) (s : String) : st.confOf s = none := by
  cases st with
  | memory st => simp [Blank] at h; simp [Store.confOf, Keyed.get?, h, Keyed.lookup]
  | disk st => simp [Blank] at h; simp [Store.confOf, Keyed.get?, h.1, Keyed.lookup]

theorem Blank.held {st : Store} (h : st.Blank) (s : String) : st.held s = [] := by
  cases st with
  | memory st => simp [Blank] at h; simp [Store.held, Keyed.get?, h, Keyed.lookup]
  | disk st =>
    simp [Blank] at h
    simp [Store.held, DiskStore.strandRecords, Keyed.filterKeys, h.2]

theorem Blank.wf {st : Store} (h : st.Blank) : st.WF := by
  cases st with
  | memory st =>
    simp only [Blank] at h
    intro s e he
    simp [Keyed.get?, h, Keyed.lookup] at he
  | disk st =>
    simp only [Blank] at h
    refine ⟨fun s hs => ?_, fun p hp => ?_⟩
    · simp [Keyed.get?, h.1, Keyed.lookup] at hs
    · simp [h.2] at hp

@[simp] theorem close_isOpen (st : Store) : st.close.isOpen = false := by
  cases st <;> rfl

theorem sameData_close (st : Store) : st.SameData st.close := by
  cases st <;> rfl

/-- A reset wipes the store, or is refused and keeps its data. -/
theorem reset_cases (st : Store) (n : Nat) : (st.reset n).2.Blank ∨ st.SameData (st.reset n).2 := by
  cases st with
  | memory st => exact .inl rfl
  | disk st =>
    simp only [reset, DiskStore.reset]
    split
    · exact .inr rfl
    · split
      · exact .inr rfl
      · exact .inl ⟨rfl, rfl⟩

/-- A reload empties a memory store and keeps a disk store's data, whether it opens or not. -/
theorem reload_cases (st : Store) (n : Nat) :
    (st.reload n).2.Blank ∨ st.SameData (st.reload n).2 := by
  cases st with
  | memory st => exact .inl rfl
  | disk st =>
    simp only [reload, DiskStore.reload]
    split
    · exact .inr rfl
    · split <;> exact .inr rfl

/-! ## Reads -/

theorem has_eq (st : Store) (s : String) :
    st.has s = if st.isOpen then .ok (st.confOf s).isSome else .error .closed := by
  cases st with
  | memory st =>
    by_cases hc : st.closed <;>
      simp [has, MemoryStore.has_eq, hc, isOpen, confOf, Keyed.contains]
  | disk st => by_cases ho : st.isOpen <;> simp [has, DiskStore.has_eq, ho, isOpen, confOf, Keyed.contains]

theorem config_eq (st : Store) (s : String) :
    st.config s = if st.isOpen then .ok (st.confOf s) else .error .closed := by
  cases st with
  | memory st => by_cases hc : st.closed <;> simp [config, MemoryStore.config_eq, hc, isOpen, confOf]
  | disk st => by_cases ho : st.isOpen <;> simp [config, DiskStore.config_eq, ho, isOpen, confOf]

/-- A store counts the envelopes it keeps for a registered strand. -/
theorem unacked_eq (st : Store) (s : String) :
    st.unacked s =
      if st.isOpen then
        if st.confOf s = none then .error (.strandNotFound s) else .ok (st.held s).length
      else .error .closed := by
  cases st with
  | memory st =>
    by_cases hc : st.closed
    · simp [unacked, MemoryStore.unacked_eq, hc, isOpen]
    · cases he : st.strands.get? s <;>
        simp [unacked, MemoryStore.unacked_eq, hc, he, isOpen, confOf, held, Keyed.size,
          Keyed.values]
  | disk st =>
    by_cases ho : st.isOpen <;> by_cases hc : st.records.configs.get? s = none <;>
      simp [unacked, DiskStore.unacked_eq, ho, hc, isOpen, confOf, held, Keyed.contains,
        Option.isSome_iff_ne_none]

/-- A save on a strand the store reports registered goes through. -/
theorem save_ok_of_has {st : Store} {m : Envelope} (h : st.has m.strand = .ok true) :
    ∃ st', st.save m = .ok st' := by
  rw [has_eq] at h
  by_cases ho : st.isOpen
  · simp only [ho, if_true, Except.ok.injEq, Option.isSome_iff_ne_none] at h
    cases st with
    | memory st =>
      obtain ⟨e, he⟩ := Option.ne_none_iff_exists'.mp (by simpa [confOf] using h)
      have hc : st.closed = false := by simpa [isOpen] using ho
      exact ⟨_, by simp [save, MemoryStore.save, MemoryStore.entry, MemoryStore.guard, hc, he,
        bind, Except.bind, pure, Except.pure]; rfl⟩
    | disk st =>
      have ho' : st.isOpen = true := ho
      have hc : st.records.configs.contains m.strand = true := by
        simpa [confOf, Keyed.contains, Option.isSome_iff_ne_none] using h
      exact ⟨_, by simp [save, DiskStore.save, DiskStore.guard, DiskStore.require, ho', hc,
        bind, Except.bind, pure, Except.pure]; rfl⟩
  · simp [ho] at h

/-! ## The disk store by strand -/

/-- In a well-formed disk store, a record lies under the key prefix of a strand without `:`
exactly when its envelope belongs to that strand. -/
theorem disk_prefix_iff {st : DiskStore} (hwf : (Store.disk st).WF) {t : String}
    (ht : ':' ∉ t.toList) {p : String × Envelope} (hp : p ∈ st.records.envelopes.toList) :
    (DiskStore.strandPrefix t).isPrefixOf p.1 = true ↔ p.2.strand = t := by
  obtain ⟨hk, hreg⟩ := hwf.2 p hp
  rw [hk, DiskStore.strandPrefix_isPrefixOf_recordKey ht (hwf.1 _ hreg)]
  exact eq_comm

/-- A strand that is not registered has no envelope. -/
theorem held_of_confOf_none {st : Store} (hwf : st.WF) {s : String} (h : st.confOf s = none)
    (hs : ':' ∉ s.toList) : st.held s = [] := by
  cases st with
  | memory st => simp_all [confOf, held]
  | disk st =>
    simp only [held, DiskStore.strandRecords, Keyed.filterKeys, List.map_eq_nil_iff,
      List.filter_eq_nil_iff]
    intro p hp hpre
    have hstrand := (disk_prefix_iff hwf hs hp).1 hpre
    exact (hwf.2 p hp).2 (hstrand ▸ h)

/-! ## Registering and dropping strands -/

/-- Each operation of `Store` runs the operation of its kind and wraps the result. -/
theorem map_eq_ok {α β : Type} {f : α → β} {x : Except StoreError α} {b : β}
    (h : f <$> x = .ok b) : ∃ a, x = .ok a ∧ f a = b := by
  cases x with
  | error e => simp [Functor.map, Except.map] at h
  | ok a => exact ⟨a, rfl, by simpa [Functor.map, Except.map] using h⟩

theorem create_ok {st st' : Store} {s : String} {c : StrandConf} (h : st.create s c = .ok st') :
    st.confOf s = none ∧ st'.isOpen = st.isOpen ∧
      (∀ t, st'.confOf t = if s = t then some c else st.confOf t) ∧ ∀ t, st'.held t = st.held t := by
  cases st with
  | memory st =>
    obtain ⟨st₀, hc, rfl⟩ := map_eq_ok h
    obtain ⟨-, hnone, rfl⟩ := MemoryStore.create_ok hc
    refine ⟨by simp [confOf, hnone], rfl, fun t => ?_, fun t => ?_⟩
    · by_cases hst : s = t <;> simp [confOf, hst]
    · by_cases hst : s = t
      · subst hst; simp [held, hnone, Keyed.values]
      · simp [held, hst]
  | disk st =>
    obtain ⟨st₀, hc, rfl⟩ := map_eq_ok h
    obtain ⟨-, hnone, rfl⟩ := DiskStore.create_ok hc
    refine ⟨hnone, rfl, fun t => ?_, fun t => ?_⟩
    · by_cases hst : s = t <;> simp [confOf, hst]
    · simp [held, DiskStore.strandRecords_eq]

theorem create_wf {st st' : Store} {s : String} {c : StrandConf} (hwf : st.WF)
    (hs : ':' ∉ s.toList) (h : st.create s c = .ok st') : st'.WF := by
  cases st with
  | memory st =>
    obtain ⟨st₀, hc, rfl⟩ := map_eq_ok h
    obtain ⟨-, -, rfl⟩ := MemoryStore.create_ok hc
    intro t e he
    by_cases hst : s = t
    · subst hst
      simp only [Keyed.get?_insert, if_true, Option.some.injEq] at he
      subst he
      exact ⟨hs, fun p hp => by simp at hp⟩
    · simp only [Keyed.get?_insert, hst, if_false] at he
      exact hwf t e he
  | disk st =>
    obtain ⟨st₀, hc, rfl⟩ := map_eq_ok h
    obtain ⟨-, -, rfl⟩ := DiskStore.create_ok hc
    refine ⟨fun t ht => ?_, fun p hp => ?_⟩
    · by_cases hst : s = t
      · exact hst ▸ hs
      · exact hwf.1 t (by simpa [hst] using ht)
    · obtain ⟨hk, hreg⟩ := hwf.2 p (by simpa using hp)
      refine ⟨hk, ?_⟩
      by_cases hst : s = p.2.strand <;> simp [hst, hreg]

theorem delete_ok {st st' : Store} {s : String} (h : st.delete s = .ok st') :
    st.confOf s ≠ none ∧ st'.isOpen = st.isOpen ∧
      ∀ t, st'.confOf t = if s = t then none else st.confOf t := by
  cases st with
  | memory st =>
    obtain ⟨st₀, hd, rfl⟩ := map_eq_ok h
    obtain ⟨-, hsome, rfl⟩ := MemoryStore.delete_ok hd
    refine ⟨by simpa [confOf] using hsome, rfl, fun t => ?_⟩
    by_cases hst : s = t <;> simp [confOf, hst]
  | disk st =>
    obtain ⟨st₀, hd, rfl⟩ := map_eq_ok h
    obtain ⟨-, hc, hcf, -, hop⟩ := DiskStore.delete_ok hd
    refine ⟨(Keyed.contains_iff _ _).1 hc, hop, fun t => ?_⟩
    by_cases hst : s = t <;> simp [confOf, hcf, hst]

/-- A disk store drops with a strand exactly the records of that strand. -/
theorem disk_delete_mem {st st₀ : DiskStore} {s : String} (hwf : (Store.disk st).WF)
    (hd : st.delete s = .ok st₀) {p : String × Envelope} :
    p ∈ st₀.records.envelopes.toList ↔ p ∈ st.records.envelopes.toList ∧ p.2.strand ≠ s := by
  obtain ⟨-, hc, -, hev, -⟩ := DiskStore.delete_ok hd
  have hs : ':' ∉ s.toList := hwf.1 s ((Keyed.contains_iff _ _).1 hc)
  rw [hev, List.mem_filter, decide_eq_true_iff]
  constructor
  · rintro ⟨hp, hgone⟩
    exact ⟨hp, fun hps =>
      hgone ((DiskStore.mem_strandRecords_keys hp).2 ((disk_prefix_iff hwf hs hp).2 hps))⟩
  · rintro ⟨hp, hps⟩
    exact ⟨hp, fun hgone =>
      hps ((disk_prefix_iff hwf hs hp).1 ((DiskStore.mem_strandRecords_keys hp).1 hgone))⟩

theorem delete_held {st st' : Store} {s : String} (hwf : st.WF) (h : st.delete s = .ok st')
    {t : String} (ht : ':' ∉ t.toList) (hst : s ≠ t) : st'.held t = st.held t := by
  cases st with
  | memory st =>
    obtain ⟨st₀, hd, rfl⟩ := map_eq_ok h
    obtain ⟨-, -, rfl⟩ := MemoryStore.delete_ok hd
    simp [held, hst]
  | disk st =>
    obtain ⟨st₀, hd, rfl⟩ := map_eq_ok h
    obtain ⟨-, hc, -, hev, -⟩ := DiskStore.delete_ok hd
    have hs : ':' ∉ s.toList := hwf.1 s ((Keyed.contains_iff _ _).1 hc)
    simp only [held]
    rw [DiskStore.strandRecords_eq st₀ t, DiskStore.strandRecords_eq st t, hev,
      List.filter_filter]
    congr 1
    apply List.filter_congr
    intro p hp
    -- a record of `t` is not one of the records of `s` that the delete drops
    by_cases hpre : (DiskStore.strandPrefix t).isPrefixOf p.1 = true
    · have hps : p.2.strand ≠ s := fun h => hst (h.symm.trans ((disk_prefix_iff hwf ht hp).1 hpre))
      have hkeep : p.1 ∉ (st.strandRecords s).map (·.1) := fun hgone =>
        hps ((disk_prefix_iff hwf hs hp).1 ((DiskStore.mem_strandRecords_keys hp).1 hgone))
      simp [hpre, hkeep]
    · simp [hpre]

theorem delete_wf {st st' : Store} {s : String} (hwf : st.WF) (h : st.delete s = .ok st') :
    st'.WF := by
  cases st with
  | memory st =>
    obtain ⟨st₀, hd, rfl⟩ := map_eq_ok h
    obtain ⟨-, -, rfl⟩ := MemoryStore.delete_ok hd
    intro t e he
    by_cases hst : s = t
    · simp [hst] at he
    · exact hwf t e (by simpa [hst] using he)
  | disk st =>
    obtain ⟨st₀, hd, rfl⟩ := map_eq_ok h
    obtain ⟨-, -, hcf, -, -⟩ := DiskStore.delete_ok hd
    refine ⟨fun t htc => hwf.1 t ?_, fun p hp => ?_⟩
    · by_cases hst : s = t <;> simp_all
    · obtain ⟨hp', hps⟩ := (disk_delete_mem hwf hd).1 hp
      obtain ⟨hk, hreg⟩ := hwf.2 p hp'
      exact ⟨hk, by simp [hcf, Ne.symm hps, hreg]⟩

/-! ## Saving envelopes -/

theorem save_ok {st st' : Store} {m : Envelope} (h : st.save m = .ok st') :
    st.confOf m.strand ≠ none ∧ st'.isOpen = st.isOpen ∧ st'.confOf = st.confOf := by
  cases st with
  | memory st =>
    obtain ⟨st₀, hs, rfl⟩ := map_eq_ok h
    obtain ⟨e, -, he, rfl⟩ := MemoryStore.save_ok hs
    refine ⟨by simp [confOf, he], rfl, funext fun t => ?_⟩
    by_cases hst : m.strand = t
    · subst hst; simp [confOf, he]
    · simp [confOf, hst]
  | disk st =>
    obtain ⟨st₀, hs, rfl⟩ := map_eq_ok h
    obtain ⟨-, hc, hcf, -, hop⟩ := DiskStore.save_ok hs
    exact ⟨(Keyed.contains_iff _ _).1 hc, hop, funext fun t => by simp [confOf, hcf]⟩

/-- In a well-formed disk store, an envelope whose id its strand does not hold yet goes under
a key no record has. -/
theorem disk_recordKey_fresh {st : DiskStore} (hwf : (Store.disk st).WF) {m : Envelope}
    (hm : ':' ∉ m.strand.toList) (hfresh : ∀ m' ∈ (Store.disk st).held m.strand, m'.id ≠ m.id) :
    st.records.envelopes.get? (DiskStore.recordKey m.strand m.id) = none := by
  rw [Keyed.get?_eq_none_iff]
  intro p hp hkey
  obtain ⟨hk, hreg⟩ := hwf.2 p hp
  obtain ⟨hs, hi⟩ := DiskStore.recordKey_inj (hwf.1 _ hreg) hm (hk.symm.trans hkey)
  refine hfresh p.2 (List.mem_map.2 ⟨p, ?_, rfl⟩) hi
  rw [DiskStore.strandRecords_eq, List.mem_filter]
  exact ⟨hp, (disk_prefix_iff hwf hm hp).2 hs⟩

/-- Saving an envelope whose id its strand does not hold adds it to that strand alone. -/
theorem save_held {st st' : Store} {m : Envelope} (hwf : st.WF)
    (hfresh : ∀ m' ∈ st.held m.strand, m'.id ≠ m.id) (h : st.save m = .ok st') {t : String}
    (ht : ':' ∉ t.toList) :
    (st'.held t).Perm (if m.strand = t then m :: st.held t else st.held t) := by
  cases st with
  | memory st =>
    obtain ⟨st₀, hs, rfl⟩ := map_eq_ok h
    obtain ⟨e, -, he, rfl⟩ := MemoryStore.save_ok hs
    by_cases hst : m.strand = t
    · subst hst
      -- the entry holds every message under its own id, so `m.id` is a new key
      have hnew : e.messages.get? m.id = none := by
        rw [Keyed.get?_eq_none_iff]
        intro p hp hpm
        have hid : p.1 = p.2.id := ((hwf _ e he).2 p hp).1
        refine hfresh p.2 ?_ (hid ▸ hpm)
        simp only [held, he, Option.map_some, Option.getD_some, Keyed.values]
        exact List.mem_map.2 ⟨p, hp, rfl⟩
      simpa [held, he] using Keyed.values_insert_perm m hnew
    · simp [held, hst]
  | disk st =>
    obtain ⟨st₀, hs, rfl⟩ := map_eq_ok h
    obtain ⟨-, hc, -, hev, -⟩ := DiskStore.save_ok hs
    have hm : ':' ∉ m.strand.toList := hwf.1 _ ((Keyed.contains_iff _ _).1 hc)
    have hperm := Keyed.toList_insert_perm m (disk_recordKey_fresh hwf hm hfresh)
    have hkey : (DiskStore.strandPrefix t).isPrefixOf (DiskStore.recordKey m.strand m.id) =
        decide (m.strand = t) := by
      rw [Bool.eq_iff_iff, DiskStore.strandPrefix_isPrefixOf_recordKey ht hm, decide_eq_true_iff,
        eq_comm]
    simp only [held, DiskStore.strandRecords_eq, hev]
    refine ((hperm.filter _).map _).trans ?_
    rw [List.filter_cons, hkey]
    by_cases hst : m.strand = t <;> simp [hst]

/-- Saving an envelope leaves what every other strand holds as it was, whatever its id. -/
theorem save_held_other {st st' : Store} {m : Envelope} (hwf : st.WF) (h : st.save m = .ok st')
    {t : String} (ht : ':' ∉ t.toList) (hne : m.strand ≠ t) : st'.held t = st.held t := by
  cases st with
  | memory st =>
    obtain ⟨st₀, hs, rfl⟩ := map_eq_ok h
    obtain ⟨e, -, -, rfl⟩ := MemoryStore.save_ok hs
    simp [held, hne]
  | disk st =>
    obtain ⟨st₀, hs, rfl⟩ := map_eq_ok h
    obtain ⟨-, hc, -, hev, -⟩ := DiskStore.save_ok hs
    have hm : ':' ∉ m.strand.toList := hwf.1 _ ((Keyed.contains_iff _ _).1 hc)
    -- the new record's key lies outside the key prefix of `t`
    have hkey : (DiskStore.strandPrefix t).isPrefixOf (DiskStore.recordKey m.strand m.id) =
        false := by
      rw [Bool.eq_false_iff, ne_eq, DiskStore.strandPrefix_isPrefixOf_recordKey ht hm]
      exact fun h => hne h.symm
    simp only [held, DiskStore.strandRecords_eq, hev, Keyed.filter_insert_of_not _ m hkey]

theorem save_wf {st st' : Store} {m : Envelope} (hwf : st.WF) (h : st.save m = .ok st') :
    st'.WF := by
  cases st with
  | memory st =>
    obtain ⟨st₀, hs, rfl⟩ := map_eq_ok h
    obtain ⟨e, -, he, rfl⟩ := MemoryStore.save_ok hs
    intro t e' he'
    by_cases hst : m.strand = t
    · subst hst
      simp only [Keyed.get?_insert, if_true, Option.some.injEq] at he'
      subst he'
      refine ⟨(hwf _ e he).1, fun p hp => ?_⟩
      rcases Keyed.mem_toList_insert hp with rfl | hp
      · exact ⟨rfl, rfl⟩
      · exact (hwf _ e he).2 p hp
    · exact hwf t e' (by simpa [hst] using he')
  | disk st =>
    obtain ⟨st₀, hs, rfl⟩ := map_eq_ok h
    obtain ⟨-, hc, hcf, hev, -⟩ := DiskStore.save_ok hs
    refine ⟨fun t ht => hwf.1 t (hcf ▸ ht), fun p hp => ?_⟩
    rw [hev] at hp
    rw [hcf]
    rcases Keyed.mem_toList_insert hp with rfl | hp
    · exact ⟨rfl, (Keyed.contains_iff _ _).1 hc⟩
    · exact hwf.2 p hp

/-! ## Acknowledging envelopes -/

theorem acknowledge_ok {st st' : Store} {s id : String} {m : Envelope}
    (h : st.acknowledge s id = .ok (m, st')) :
    st.confOf s ≠ none ∧ st'.isOpen = st.isOpen ∧ st'.confOf = st.confOf := by
  cases st with
  | memory st =>
    obtain ⟨⟨m₀, st₀⟩, ha, hpair⟩ := map_eq_ok h
    obtain ⟨rfl, rfl⟩ := Prod.mk.inj hpair
    obtain ⟨e, -, he, -, rfl⟩ := MemoryStore.acknowledge_ok ha
    refine ⟨by simp [confOf, he], rfl, funext fun t => ?_⟩
    by_cases hst : s = t
    · subst hst; simp [confOf, he]
    · simp [confOf, hst]
  | disk st =>
    obtain ⟨⟨m₀, st₀⟩, ha, hpair⟩ := map_eq_ok h
    obtain ⟨rfl, rfl⟩ := Prod.mk.inj hpair
    obtain ⟨-, hc, -, rfl⟩ := DiskStore.acknowledge_ok ha
    exact ⟨(Keyed.contains_iff _ _).1 hc, rfl, funext fun t => by simp [confOf]⟩

/-- An acknowledge hands back an envelope the strand held, with the id asked for. -/
theorem acknowledge_mem {st st' : Store} {s id : String} {m : Envelope} (hwf : st.WF)
    (h : st.acknowledge s id = .ok (m, st')) : m ∈ st.held s ∧ m.id = id := by
  cases st with
  | memory st =>
    obtain ⟨⟨m₀, st₀⟩, ha, hpair⟩ := map_eq_ok h
    obtain ⟨rfl, rfl⟩ := Prod.mk.inj hpair
    obtain ⟨e, -, he, hm, -⟩ := MemoryStore.acknowledge_ok ha
    have hp := Keyed.mem_toList_of_get? hm
    refine ⟨?_, ((hwf s e he).2 _ hp).1.symm⟩
    simp only [held, he, Option.map_some, Option.getD_some, Keyed.values]
    exact List.mem_map.2 ⟨_, hp, rfl⟩
  | disk st =>
    obtain ⟨⟨m₀, st₀⟩, ha, hpair⟩ := map_eq_ok h
    obtain ⟨rfl, rfl⟩ := Prod.mk.inj hpair
    obtain ⟨-, hc, hm, -⟩ := DiskStore.acknowledge_ok ha
    have hp := Keyed.mem_toList_of_get? hm
    obtain ⟨hk, hreg⟩ := hwf.2 _ hp
    have hs : ':' ∉ s.toList := hwf.1 s ((Keyed.contains_iff _ _).1 hc)
    obtain ⟨hst, hid⟩ := DiskStore.recordKey_inj hs (hwf.1 _ hreg) hk
    refine ⟨List.mem_map.2 ⟨(DiskStore.recordKey s id, _), ?_, rfl⟩, hid.symm⟩
    rw [DiskStore.strandRecords_eq, List.mem_filter]
    exact ⟨hp, (disk_prefix_iff hwf hs hp).2 hst.symm⟩

/-- Acknowledging an id drops the envelopes of that id from its strand, and from no other. -/
theorem acknowledge_held {st st' : Store} {s id : String} {m : Envelope} (hwf : st.WF)
    (h : st.acknowledge s id = .ok (m, st')) {t : String} (ht : ':' ∉ t.toList) :
    st'.held t = if s = t then (st.held t).filter (·.id ≠ id) else st.held t := by
  cases st with
  | memory st =>
    obtain ⟨⟨m₀, st₀⟩, ha, hpair⟩ := map_eq_ok h
    obtain ⟨rfl, rfl⟩ := Prod.mk.inj hpair
    obtain ⟨e, -, he, -, rfl⟩ := MemoryStore.acknowledge_ok ha
    by_cases hst : s = t
    · subst hst
      simp only [held, he, Keyed.get?_insert, if_true, Option.map_some, Option.getD_some,
        Keyed.values, Keyed.toList_erase, List.filter_map]
      congr 1
      apply List.filter_congr
      intro p hp
      -- the entry keys each message by its own id
      simp [((hwf s e he).2 p hp).1]
    · simp [held, hst]
  | disk st =>
    obtain ⟨⟨m₀, st₀⟩, ha, hpair⟩ := map_eq_ok h
    obtain ⟨rfl, rfl⟩ := Prod.mk.inj hpair
    obtain ⟨-, hc, -, rfl⟩ := DiskStore.acknowledge_ok ha
    have hs : ':' ∉ s.toList := hwf.1 s ((Keyed.contains_iff _ _).1 hc)
    simp only [held, DiskStore.strandRecords_eq, DiskStore.withRecords_records,
      DiskStore.Records.eraseEnvelope_envelopes, Keyed.toList_erase, List.filter_filter]
    by_cases hst : s = t
    · subst hst
      rw [if_pos rfl, List.filter_map, List.filter_filter]
      congr 1
      apply List.filter_congr
      intro p hp
      by_cases hpre : (DiskStore.strandPrefix s).isPrefixOf p.1 = true
      · -- a record of `s` is keyed by its id, so its key is the one erased iff its id is
        have hk : p.1 = DiskStore.recordKey s p.2.id :=
          (disk_prefix_iff hwf hs hp).1 hpre ▸ (hwf.2 p hp).1
        have hkey : p.1 = DiskStore.recordKey s id ↔ p.2.id = id :=
          ⟨fun h => (DiskStore.recordKey_inj hs hs (hk.symm.trans h)).2,
            fun h => hk.trans (h ▸ rfl)⟩
        simp [hpre, hkey]
      · simp [hpre]
    · rw [if_neg hst]
      congr 1
      apply List.filter_congr
      intro p hp
      by_cases hpre : (DiskStore.strandPrefix t).isPrefixOf p.1 = true
      · have hpt := (disk_prefix_iff hwf ht hp).1 hpre
        have hne : p.1 ≠ DiskStore.recordKey s id := fun h =>
          hst ((DiskStore.recordKey_inj (hwf.1 _ (hwf.2 p hp).2) hs
            ((hwf.2 p hp).1.symm.trans h)).1.symm.trans hpt)
        simp [hpre, hne]
      · simp [hpre]

theorem acknowledge_wf {st st' : Store} {s id : String} {m : Envelope} (hwf : st.WF)
    (h : st.acknowledge s id = .ok (m, st')) : st'.WF := by
  cases st with
  | memory st =>
    obtain ⟨⟨m₀, st₀⟩, ha, hpair⟩ := map_eq_ok h
    obtain ⟨rfl, rfl⟩ := Prod.mk.inj hpair
    obtain ⟨e, -, he, -, rfl⟩ := MemoryStore.acknowledge_ok ha
    intro t e' he'
    by_cases hst : s = t
    · subst hst
      simp only [Keyed.get?_insert, if_true, Option.some.injEq] at he'
      subst he'
      refine ⟨(hwf _ e he).1, fun p hp => (hwf _ e he).2 p ?_⟩
      rw [Keyed.toList_erase, List.mem_filter] at hp
      exact hp.1
    · exact hwf t e' (by simpa [hst] using he')
  | disk st =>
    obtain ⟨⟨m₀, st₀⟩, ha, hpair⟩ := map_eq_ok h
    obtain ⟨rfl, rfl⟩ := Prod.mk.inj hpair
    obtain ⟨-, -, -, rfl⟩ := DiskStore.acknowledge_ok ha
    refine ⟨fun t ht => hwf.1 t (by simpa using ht), fun p hp => ?_⟩
    simp only [DiskStore.withRecords_records, DiskStore.Records.eraseEnvelope_envelopes,
      DiskStore.Records.eraseEnvelope_configs, Keyed.toList_erase, List.mem_filter] at hp ⊢
    exact hwf.2 p hp.1

/-! ## Every envelope kept

`pending` lists the envelopes a store keeps, of every strand. No write but a save brings in an
envelope: each operation that succeeds keeps, besides the envelope it saves, only envelopes the
store kept before. -/

theorem mem_pending_memory {st : MemoryStore} {m : Envelope} :
    m ∈ (Store.memory st).pending ↔ ∃ e ∈ st.strands.values, m ∈ e.messages.values := by
  simp [pending, MemoryStore.pending, List.mem_flatten]

theorem pending_disk (st : DiskStore) : (Store.disk st).pending = st.records.envelopes.values :=
  rfl

theorem SameData.pending {st st' : Store} (h : st.SameData st') : st'.pending = st.pending := by
  cases st <;> cases st' <;> simp only [SameData] at h <;>
    simp [Store.pending, MemoryStore.pending, DiskStore.pending, h]

theorem Blank.pending {st : Store} (h : st.Blank) : st.pending = [] := by
  cases st with
  | memory st => simp [Blank] at h; simp [Store.pending, MemoryStore.pending, Keyed.values, h]
  | disk st =>
    simp [Blank] at h
    simp [Store.pending, DiskStore.pending, Keyed.values, h.2]

theorem pending_create {st st' : Store} {s : String} {c : StrandConf}
    (h : st.create s c = .ok st') {x : Envelope} (hx : x ∈ st'.pending) : x ∈ st.pending := by
  cases st with
  | memory st =>
    obtain ⟨st₀, hc, rfl⟩ := map_eq_ok h
    obtain ⟨-, -, rfl⟩ := MemoryStore.create_ok hc
    obtain ⟨e, he, hxe⟩ := mem_pending_memory.1 hx
    rcases Keyed.mem_values_insert he with rfl | he
    · -- a new strand holds no envelope
      simp [Keyed.values] at hxe
    · exact mem_pending_memory.2 ⟨e, he, hxe⟩
  | disk st =>
    obtain ⟨st₀, hc, rfl⟩ := map_eq_ok h
    obtain ⟨-, -, rfl⟩ := DiskStore.create_ok hc
    simpa [pending_disk] using hx

theorem pending_save {st st' : Store} {m : Envelope} (h : st.save m = .ok st') {x : Envelope}
    (hx : x ∈ st'.pending) : x = m ∨ x ∈ st.pending := by
  cases st with
  | memory st =>
    obtain ⟨st₀, hs, rfl⟩ := map_eq_ok h
    obtain ⟨e, -, he, rfl⟩ := MemoryStore.save_ok hs
    have hold : e ∈ st.strands.values := List.mem_map.2 ⟨_, Keyed.mem_toList_of_get? he, rfl⟩
    obtain ⟨e', he', hxe⟩ := mem_pending_memory.1 hx
    rcases Keyed.mem_values_insert he' with rfl | he'
    · rcases Keyed.mem_values_insert hxe with rfl | hxe
      · exact .inl rfl
      · exact .inr (mem_pending_memory.2 ⟨e, hold, hxe⟩)
    · exact .inr (mem_pending_memory.2 ⟨e', he', hxe⟩)
  | disk st =>
    obtain ⟨st₀, hs, rfl⟩ := map_eq_ok h
    obtain ⟨-, -, -, hev, -⟩ := DiskStore.save_ok hs
    rw [pending_disk, hev] at hx
    exact Keyed.mem_values_insert hx

theorem pending_acknowledge {st st' : Store} {s id : String} {m : Envelope}
    (h : st.acknowledge s id = .ok (m, st')) {x : Envelope} (hx : x ∈ st'.pending) :
    x ∈ st.pending := by
  cases st with
  | memory st =>
    obtain ⟨⟨m₀, st₀⟩, ha, hpair⟩ := map_eq_ok h
    obtain ⟨rfl, rfl⟩ := Prod.mk.inj hpair
    obtain ⟨e, -, he, -, rfl⟩ := MemoryStore.acknowledge_ok ha
    obtain ⟨e', he', hxe⟩ := mem_pending_memory.1 hx
    rcases Keyed.mem_values_insert he' with rfl | he'
    · exact mem_pending_memory.2
        ⟨e, List.mem_map.2 ⟨_, Keyed.mem_toList_of_get? he, rfl⟩, Keyed.mem_values_erase hxe⟩
    · exact mem_pending_memory.2 ⟨e', he', hxe⟩
  | disk st =>
    obtain ⟨⟨m₀, st₀⟩, ha, hpair⟩ := map_eq_ok h
    obtain ⟨rfl, rfl⟩ := Prod.mk.inj hpair
    obtain ⟨-, -, -, rfl⟩ := DiskStore.acknowledge_ok ha
    rw [pending_disk, DiskStore.withRecords_records,
      DiskStore.Records.eraseEnvelope_envelopes] at hx
    exact Keyed.mem_values_erase hx

theorem pending_delete {st st' : Store} {s : String} (h : st.delete s = .ok st') {x : Envelope}
    (hx : x ∈ st'.pending) : x ∈ st.pending := by
  cases st with
  | memory st =>
    obtain ⟨st₀, hd, rfl⟩ := map_eq_ok h
    obtain ⟨-, -, rfl⟩ := MemoryStore.delete_ok hd
    obtain ⟨e, he, hxe⟩ := mem_pending_memory.1 hx
    exact mem_pending_memory.2 ⟨e, Keyed.mem_values_erase he, hxe⟩
  | disk st =>
    obtain ⟨st₀, hd, rfl⟩ := map_eq_ok h
    obtain ⟨-, -, -, hev, -⟩ := DiskStore.delete_ok hd
    rw [pending_disk] at hx
    obtain ⟨p, hp, rfl⟩ := List.mem_map.1 hx
    rw [hev, List.mem_filter] at hp
    exact List.mem_map.2 ⟨p, hp.1, rfl⟩

end Store

end Courier
