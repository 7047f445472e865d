import Courier.Proofs.Store.Refinement

/-!
# Refused writes change nothing

A store checks before it writes. Every write it refuses fails at one of its checks, made on
the store as it was: the store is closed, the strand is already registered or is not
registered, or no envelope is kept under the strand and id. A refused write therefore leaves
the store as it was (`call_create_refused` and its kin). The disk store is taken here with every
access to the disk going through; what a failing one leaves behind is in
`Courier.Proofs.Store.Faults`.

An acknowledge that answers hands back the envelope kept under the strand and id, and removes
that envelope and nothing else: the envelopes before it are those after it and the one handed
back (`acknowledge_pending_perm`). A reload or a reset refused because cursors are open leaves
the store as it was (`reload_cursorsOpen`, `reset_cursorsOpen`). `Store.Atomic` gathers these
laws, and every store whose tables are in key order obeys them (`Store.Sorted.atomic`).

What is kept under a strand and an id is, on a disk store, the record under the key
`strand ++ ":" ++ id`. With a registered strand whose id has a `:` in it, two strands can
share a key, and an acknowledge on one strand removes and hands back the other's envelope.
When no registered id has a `:`, the envelope handed back is the one of that strand and id
(`kept_sits`).
-/

namespace Courier

namespace Store

/-! ## Refused writes -/

/-- A refused write answers the refusal and leaves the store as it was. -/
theorem write_refused {st : Store} {r : Except StoreError Store} {e : StoreError}
    (h : (st.write r).1 = .done (.error e)) : (st.write r).2 = st ∧ r = .error e := by
  cases r with
  | ok st' => simp [write] at h
  | error e' =>
    simp only [write, StoreReply.done.injEq, Except.error.injEq] at h
    exact ⟨rfl, by rw [h]⟩

theorem call_create_refused {st : Store} {s : String} {c : StrandConf} {e : StoreError}
    (h : (st.call (.create s c)).1 = .done (.error e)) :
    (st.call (.create s c)).2 = st ∧
      (st.isOpen = false ∧ e = .closed ∨
        st.isOpen = true ∧ st.confOf s ≠ none ∧ e = .strandExists s) := by
  refine ⟨(write_refused h).1, ?_⟩
  rw [call_create_reply] at h
  by_cases ho : st.isOpen <;> by_cases hc : st.confOf s = none <;> simp_all

theorem call_delete_refused {st : Store} {s : String} {e : StoreError}
    (h : (st.call (.delete s)).1 = .done (.error e)) :
    (st.call (.delete s)).2 = st ∧
      (st.isOpen = false ∧ e = .closed ∨
        st.isOpen = true ∧ st.confOf s = none ∧ e = .strandNotFound s) := by
  refine ⟨(write_refused h).1, ?_⟩
  rw [call_delete_reply] at h
  by_cases ho : st.isOpen <;> by_cases hc : st.confOf s = none <;> simp_all

theorem call_save_refused {st : Store} {m : Envelope} {e : StoreError}
    (h : (st.call (.save m)).1 = .done (.error e)) :
    (st.call (.save m)).2 = st ∧
      (st.isOpen = false ∧ e = .closed ∨
        st.isOpen = true ∧ st.confOf m.strand = none ∧ e = .strandNotFound m.strand) := by
  refine ⟨(write_refused h).1, ?_⟩
  rw [call_save_reply] at h
  by_cases ho : st.isOpen <;> by_cases hc : st.confOf m.strand = none <;> simp_all

theorem call_acknowledge_refused {st : Store} {s id : String} {e : StoreError}
    (h : (st.call (.acknowledge s id)).1 = .envelope (.error e)) :
    (st.call (.acknowledge s id)).2 = st ∧
      (st.isOpen = false ∧ e = .closed ∨
        st.isOpen = true ∧ st.confOf s = none ∧ e = .strandNotFound s ∨
        st.isOpen = true ∧ st.confOf s ≠ none ∧ st.kept s id = none ∧
          e = .messageNotFound s id) := by
  constructor
  · -- a refused acknowledge hands back no store of its own
    cases ha : st.acknowledge s id with
    | ok p => simp [call, ha] at h
    | error e' => simp [call, ha]
  · rw [call_acknowledge_reply] at h
    by_cases ho : st.isOpen <;> by_cases hc : st.confOf s = none <;>
      cases hk : st.kept s id <;> simp_all

/-! ## An acknowledge that answers -/

/-- An acknowledge hands back the envelope kept under the strand and id. -/
theorem acknowledge_kept {st st' : Store} {s id : String} {m : Envelope}
    (h : st.acknowledge s id = .ok (m, st')) : st.kept s id = some m := by
  cases st with
  | memory st =>
    obtain ⟨⟨m₀, st₀⟩, ha, hpair⟩ := map_eq_ok h
    obtain ⟨rfl, rfl⟩ := Prod.mk.inj hpair
    obtain ⟨e, -, he, hm, -⟩ := MemoryStore.acknowledge_ok ha
    simp [kept, he, hm]
  | disk st =>
    obtain ⟨⟨m₀, st₀⟩, ha, hpair⟩ := map_eq_ok h
    obtain ⟨rfl, rfl⟩ := Prod.mk.inj hpair
    exact (DiskStore.acknowledge_ok ha).2.2.1

/-- An acknowledge removes exactly the envelope it hands back: the envelopes kept before are
that envelope and the ones kept after. -/
theorem acknowledge_pending_perm {st st' : Store} (hs : st.Sorted) {s id : String} {m : Envelope}
    (h : st.acknowledge s id = .ok (m, st')) : st.pending.Perm (m :: st'.pending) := by
  cases st with
  | memory st =>
    obtain ⟨⟨m₀, st₀⟩, ha, hpair⟩ := map_eq_ok h
    obtain ⟨rfl, rfl⟩ := Prod.mk.inj hpair
    obtain ⟨e, -, he, hm, rfl⟩ := MemoryStore.acknowledge_ok ha
    have hes : e.messages.Sorted := hs.2 _ (Keyed.mem_toList_of_get? he)
    -- the strand's entry, then the others, before and after; only the entry's table changes
    let rest := ((st.strands.erase s).toList.map fun p => p.2.messages.values).flatten
    let e' : MemoryStore.Entry := { e with messages := e.messages.erase id }
    have hbefore : (Store.memory st).pending.Perm (e.messages.values ++ rest) := by
      simpa [pending, MemoryStore.pending, Keyed.values, Function.comp_def, rest] using
        ((Keyed.Sorted.toList_perm_erase hs.1 he).map fun p => p.2.messages.values).flatten
    have hafter : (Store.memory { st with strands := st.strands.insert s e' }).pending.Perm
        (e'.messages.values ++ rest) := by
      simpa [pending, MemoryStore.pending, Keyed.values, Function.comp_def, rest] using
        ((Keyed.Sorted.toList_insert_perm_erase hs.1 s e').map
          fun p => p.2.messages.values).flatten
    exact hbefore.trans (((hes.values_perm_erase hm).append_right rest).trans
      (hafter.symm.cons _))
  | disk st =>
    obtain ⟨⟨m₀, st₀⟩, ha, hpair⟩ := map_eq_ok h
    obtain ⟨rfl, rfl⟩ := Prod.mk.inj hpair
    obtain ⟨-, -, hm, rfl⟩ := DiskStore.acknowledge_ok ha
    rw [pending_disk, pending_disk, DiskStore.withRecords_records,
      DiskStore.Records.eraseEnvelope_envelopes]
    exact Keyed.Sorted.values_perm_erase hs hm

/-- In a well-formed store, the envelope kept under a registered strand and an id is of that
strand and id. -/
theorem kept_sits {st : Store} (hwf : st.WF) {s id : String} (hreg : st.confOf s ≠ none)
    {m : Envelope} (h : st.kept s id = some m) : m.strand = s ∧ m.id = id := by
  cases st with
  | memory st =>
    obtain ⟨e, he, hm⟩ := Option.bind_eq_some_iff.1 h
    obtain ⟨hid, hst⟩ := (hwf s e he).2 _ (Keyed.mem_toList_of_get? hm)
    exact ⟨hst, hid.symm⟩
  | disk st => exact disk_kept_sits hwf (hwf.sep hreg) (Keyed.mem_toList_of_get? h)

/-! ## Reloads and resets refused for open cursors -/

theorem reload_cursorsOpen {st : Store} {n k : Nat}
    (h : (st.reload n).1 = .error (.cursorsOpen k)) : (st.reload n).2 = st := by
  cases st with
  | memory st => simp [reload] at h
  | disk st =>
    -- a disk store refuses for cursors before it touches its handle
    by_cases hn : n > 0
    · simp [reload, DiskStore.reload, hn]
    · by_cases hb : st.blocked <;> simp [reload, DiskStore.reload, hn, hb] at h

theorem reset_cursorsOpen {st : Store} {n k : Nat}
    (h : (st.reset n).1 = .error (.cursorsOpen k)) : (st.reset n).2 = st := by
  cases st with
  | memory st => simp [reset] at h
  | disk st =>
    by_cases hn : n > 0
    · simp [reset, DiskStore.reset, hn]
    · by_cases hb : st.blocked <;> simp [reset, DiskStore.reset, hn, hb] at h

/-! ## The laws together -/

/-- What a store promises of its writes: a refused write fails at a check of the store as it
was and leaves it so, an acknowledge that answers removes exactly the envelope kept under its
strand and id, and a reload or reset refused for open cursors changes nothing. -/
structure Atomic (st : Store) : Prop where
  create : ∀ s c e, (st.call (.create s c)).1 = .done (.error e) →
    (st.call (.create s c)).2 = st ∧
      (st.isOpen = false ∧ e = .closed ∨
        st.isOpen = true ∧ st.confOf s ≠ none ∧ e = .strandExists s)
  delete : ∀ s e, (st.call (.delete s)).1 = .done (.error e) →
    (st.call (.delete s)).2 = st ∧
      (st.isOpen = false ∧ e = .closed ∨
        st.isOpen = true ∧ st.confOf s = none ∧ e = .strandNotFound s)
  save : ∀ m e, (st.call (.save m)).1 = .done (.error e) →
    (st.call (.save m)).2 = st ∧
      (st.isOpen = false ∧ e = .closed ∨
        st.isOpen = true ∧ st.confOf m.strand = none ∧ e = .strandNotFound m.strand)
  acknowledgeRefused : ∀ s id e, (st.call (.acknowledge s id)).1 = .envelope (.error e) →
    (st.call (.acknowledge s id)).2 = st ∧
      (st.isOpen = false ∧ e = .closed ∨
        st.isOpen = true ∧ st.confOf s = none ∧ e = .strandNotFound s ∨
        st.isOpen = true ∧ st.confOf s ≠ none ∧ st.kept s id = none ∧
          e = .messageNotFound s id)
  acknowledgeAnswered : ∀ s id m, (st.call (.acknowledge s id)).1 = .envelope (.ok m) →
    st.kept s id = some m ∧ st.pending.Perm (m :: (st.call (.acknowledge s id)).2.pending) ∧
      (st.call (.acknowledge s id)).2.confOf = st.confOf ∧
      (st.call (.acknowledge s id)).2.isOpen = st.isOpen
  reload : ∀ n k, (st.reload n).1 = .error (.cursorsOpen k) → (st.reload n).2 = st
  reset : ∀ n k, (st.reset n).1 = .error (.cursorsOpen k) → (st.reset n).2 = st

/-- A store whose tables are in key order keeps the laws. -/
theorem Sorted.atomic {st : Store} (hs : st.Sorted) : st.Atomic where
  create _ _ _ h := call_create_refused h
  delete _ _ h := call_delete_refused h
  save _ _ h := call_save_refused h
  acknowledgeRefused _ _ _ h := call_acknowledge_refused h
  acknowledgeAnswered s id m h := by
    cases ha : st.acknowledge s id with
    | error e => simp [call, ha] at h
    | ok p =>
      obtain ⟨m', st'⟩ := p
      simp only [call, ha, StoreReply.envelope.injEq, Except.ok.injEq] at h ⊢
      subst h
      obtain ⟨-, hopen, hconf⟩ := acknowledge_ok ha
      exact ⟨acknowledge_kept ha, acknowledge_pending_perm hs ha, hconf, hopen⟩
  reload _ _ h := reload_cursorsOpen h
  reset _ _ h := reset_cursorsOpen h

end Store

end Courier
