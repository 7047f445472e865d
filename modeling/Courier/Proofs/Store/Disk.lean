import Courier.Store.Disk
import Courier.Proofs.Keyed

/-!
# The disk store: keys and operations

A disk store keeps every envelope under the flat key `strand ++ ":" ++ id`. The key layout
separates strands only for strand ids without `:`: then the key of `(s, i)` determines `s` and
`i` (`recordKey_inj`), and the prefix `s ++ ":"` starts exactly the keys of `s`
(`strandPrefix_isPrefixOf_recordKey`). The broker registers no other ids, and the invariant
`Store.WF` (in `Courier.Proofs.Store`) carries the fact.

Each operation that succeeds gets one lemma giving the store it returns, with the checks it
passed. The leaf bookkeeping of `noteNewKey` and `noteGoneKey` only moves leaf bounds, so it
changes neither the configurations nor the envelopes.
-/

namespace Courier

namespace DiskStore

/-! ## Key layout -/

theorem sep_prefix_iff {a b : List Char} (ha : ':' ∉ a) (hb : ':' ∉ b) (rest : List Char) :
    a ++ [':'] <+: b ++ ':' :: rest ↔ a = b := by
  induction a generalizing b with
  | nil =>
    cases b with
    | nil => simp
    | cons y b =>
      have hy : y ≠ ':' := fun h => hb (h ▸ List.mem_cons_self)
      simp [List.cons_prefix_cons, Ne.symm hy]
  | cons x a ih =>
    have hx : x ≠ ':' := fun h => ha (h ▸ List.mem_cons_self)
    have ha' : ':' ∉ a := fun h => ha (List.mem_cons_of_mem _ h)
    cases b with
    | nil => simp [List.cons_prefix_cons, hx]
    | cons y b =>
      have hb' : ':' ∉ b := fun h => hb (List.mem_cons_of_mem _ h)
      simp [List.cons_prefix_cons, ih ha' hb']

theorem recordKey_toList (s i : String) : (recordKey s i).toList = s.toList ++ ':' :: i.toList := by
  simp [recordKey]

theorem strandPrefix_toList (s : String) : (strandPrefix s).toList = s.toList ++ [':'] := by
  simp [strandPrefix]

/-- The key prefix of a strand starts the keys of that strand and of no other. -/
theorem strandPrefix_isPrefixOf_recordKey {s t : String} (hs : ':' ∉ s.toList)
    (ht : ':' ∉ t.toList) (i : String) :
    (strandPrefix s).isPrefixOf (recordKey t i) = true ↔ s = t := by
  simp only [String.isPrefixOf, String.startsWith_string_iff, strandPrefix_toList,
    recordKey_toList, sep_prefix_iff hs ht, String.toList_inj]

/-- A record key names one strand and one id. -/
theorem recordKey_inj {s t i j : String} (hs : ':' ∉ s.toList) (ht : ':' ∉ t.toList)
    (h : recordKey s i = recordKey t j) : s = t ∧ i = j := by
  have hst : s = t := by
    have hp : s.toList ++ [':'] <+: t.toList ++ ':' :: j.toList := by
      rw [← recordKey_toList, ← h, recordKey_toList]
      exact ⟨i.toList, by simp⟩
    exact String.toList_inj.mp ((sep_prefix_iff hs ht _).1 hp)
  subst hst
  refine ⟨rfl, ?_⟩
  have hl := congrArg String.toList h
  simp only [recordKey_toList, List.append_cancel_left_eq, List.cons.injEq, true_and] at hl
  exact String.toList_inj.mp hl

/-! ## Leaf bookkeeping -/

namespace Records

@[simp] theorem noteNewKey_configs (r : Records) (k : String) :
    (r.noteNewKey k).configs = r.configs := by
  unfold noteNewKey; dsimp only; split
  · split <;> rfl
  · rfl

@[simp] theorem noteNewKey_envelopes (r : Records) (k : String) :
    (r.noteNewKey k).envelopes = r.envelopes := by
  unfold noteNewKey; dsimp only; split
  · split <;> rfl
  · rfl

@[simp] theorem noteGoneKey_configs (r : Records) (k : String) :
    (r.noteGoneKey k).configs = r.configs := by
  unfold noteGoneKey; dsimp only; split
  · rfl
  · split <;> rfl

@[simp] theorem noteGoneKey_envelopes (r : Records) (k : String) :
    (r.noteGoneKey k).envelopes = r.envelopes := by
  unfold noteGoneKey; dsimp only; split
  · rfl
  · split <;> rfl

@[simp] theorem eraseEnvelope_configs (r : Records) (k : String) :
    (r.eraseEnvelope k).configs = r.configs := by
  simp [eraseEnvelope]

@[simp] theorem eraseEnvelope_envelopes (r : Records) (k : String) :
    (r.eraseEnvelope k).envelopes = r.envelopes.erase k := by
  simp [eraseEnvelope]

/-- Erasing keys one by one keeps the pairs of every other key. -/
theorem foldl_eraseEnvelope (r : Records) (ks : List String) :
    (ks.foldl eraseEnvelope r).configs = r.configs ∧
      (ks.foldl eraseEnvelope r).envelopes.toList =
        r.envelopes.toList.filter (fun p => p.1 ∉ ks) := by
  induction ks generalizing r with
  | nil => simp
  | cons k rest ih =>
    obtain ⟨hc, he⟩ := ih (r.eraseEnvelope k)
    refine ⟨by simp [hc], ?_⟩
    simp only [List.foldl_cons, he, eraseEnvelope_envelopes, Keyed.toList_erase,
      List.filter_filter, List.mem_cons, not_or]
    congr 1
    funext p
    simp [Bool.and_comm]

end Records

/-! ## Operations -/

@[simp] theorem withRecords_records (st : DiskStore) (r : Records) :
    (st.withRecords r).records = r := rfl

@[simp] theorem withRecords_isOpen (st : DiskStore) (r : Records) :
    (st.withRecords r).isOpen = st.isOpen := rfl

theorem strandRecords_eq (st : DiskStore) (s : String) :
    st.strandRecords s =
      st.records.envelopes.toList.filter (fun p => (strandPrefix s).isPrefixOf p.1) := rfl

/-- A record's key is among the keys of a strand's records exactly when it has the strand's
prefix. -/
theorem mem_strandRecords_keys {st : DiskStore} {s : String} {p : String × Envelope}
    (hp : p ∈ st.records.envelopes.toList) :
    p.1 ∈ (st.strandRecords s).map (·.1) ↔ (strandPrefix s).isPrefixOf p.1 = true := by
  constructor
  · intro hk
    obtain ⟨q, hq, hqp⟩ := List.mem_map.1 hk
    rw [strandRecords_eq, List.mem_filter] at hq
    exact hqp ▸ hq.2
  · intro hpre
    exact List.mem_map.2 ⟨p, by rw [strandRecords_eq, List.mem_filter]; exact ⟨hp, hpre⟩, rfl⟩

theorem create_ok {st st' : DiskStore} {s : String} {c : StrandConf}
    (h : st.create s c = .ok st') :
    st.isOpen = true ∧ st.records.configs.get? s = none ∧
      st' = st.withRecords ({ st.records with configs := st.records.configs.insert s c }.noteNewKey
        (configKey s)) := by
  unfold create guard at h
  by_cases ho : st.isOpen <;> by_cases hc : st.records.configs.contains s <;>
    simp_all [bind, Except.bind, pure, Except.pure, Keyed.contains]

theorem save_ok {st st' : DiskStore} {m : Envelope} (h : st.save m = .ok st') :
    st.isOpen = true ∧ st.records.configs.contains m.strand = true ∧
      st'.records.configs = st.records.configs ∧
      st'.records.envelopes = st.records.envelopes.insert (recordKey m.strand m.id) m ∧
      st'.isOpen = st.isOpen := by
  unfold save guard require at h
  by_cases ho : st.isOpen <;> by_cases hc : st.records.configs.contains m.strand <;>
    simp_all [bind, Except.bind, pure, Except.pure]
  split at h <;> (cases h; simp [ho])

theorem acknowledge_ok {st st' : DiskStore} {s id : String} {m : Envelope}
    (h : st.acknowledge s id = .ok (m, st')) :
    st.isOpen = true ∧ st.records.configs.contains s = true ∧
      st.records.envelopes.get? (recordKey s id) = some m ∧
      st' = st.withRecords (st.records.eraseEnvelope (recordKey s id)) := by
  unfold acknowledge guard require at h
  by_cases ho : st.isOpen <;> by_cases hc : st.records.configs.contains s <;>
    simp_all [bind, Except.bind, pure, Except.pure]
  split at h
  · cases h
  · rename_i m' hm
    cases h
    exact ⟨hm, rfl⟩

theorem delete_ok {st st' : DiskStore} {s : String} (h : st.delete s = .ok st') :
    st.isOpen = true ∧ st.records.configs.contains s = true ∧
      st'.records.configs = st.records.configs.erase s ∧
      st'.records.envelopes.toList =
        st.records.envelopes.toList.filter (fun p => p.1 ∉ (st.strandRecords s).map (·.1)) ∧
      st'.isOpen = st.isOpen := by
  unfold delete guard require at h
  by_cases ho : st.isOpen <;> by_cases hc : st.records.configs.contains s <;>
    simp_all [bind, Except.bind, pure, Except.pure]
  cases h
  obtain ⟨hcf, hev⟩ := Records.foldl_eraseEnvelope st.records ((st.strandRecords s).map (·.1))
  simp [hcf, hev, ho]

theorem has_eq (st : DiskStore) (s : String) :
    st.has s = if st.isOpen then .ok (st.records.configs.contains s) else .error .closed := by
  unfold has guard
  by_cases ho : st.isOpen <;> simp [ho, bind, Except.bind, pure, Except.pure]

theorem config_eq (st : DiskStore) (s : String) :
    st.config s = if st.isOpen then .ok (st.records.configs.get? s) else .error .closed := by
  unfold config guard
  by_cases ho : st.isOpen <;> simp [ho, bind, Except.bind, pure, Except.pure]

theorem unacked_eq (st : DiskStore) (s : String) :
    st.unacked s =
      if st.isOpen ∧ st.records.configs.contains s then .ok (st.strandRecords s).length
      else if st.isOpen then .error (.strandNotFound s) else .error .closed := by
  unfold unacked guard require
  by_cases ho : st.isOpen <;> by_cases hc : st.records.configs.contains s <;>
    simp [ho, hc, bind, Except.bind, pure, Except.pure]

end DiskStore

end Courier
