import Mathlib
import Courier.Proofs.Metrics
import Courier.Proofs.Store.Calls

/-!
# Store keys keep strands apart

A disk store lays its records out in one key space: `msg:` followed by `strand ++ ":" ++ id`
for an envelope (`envelopeKey (recordKey s i)`), and `strand-config:` followed by the strand for
a configuration (`configKey s`). A strand's envelopes are found by the scan prefix `msg:` followed
by `strand ++ ":"`. For strand ids without `:` the layout is unambiguous: the key of `(s, i)`
names `s` and `i` (`envelopeKey_recordKey_eq_iff`), the scan prefix of `s` starts exactly the
keys of `s` (`scanPrefix_isPrefixOf_iff`), and no key of one kind starts with the prefix of the
other. The configuration keys give back the registered ids as they were, whatever the ids hold
(`configStrand?_configKey`).

The broker registers only ids that pass `Strand.check`, so along every run its stores stay well
formed (`Store.WF`, by `World.storesWF_run`), and a disk store deletes, counts and lists exactly
one strand's records (`DiskStore.Separated`). With an id holding `:` the layout fails: the
envelope `b:x` of `a` and the envelope `x` of `a:b` share a key, and deleting `a` drops the
envelopes of `a:b` (`store_keys_isolate_strands`).
-/

namespace Courier

namespace DiskStore

/-! ## The key layout -/

theorem envelopeKey_toList (k : String) :
    (envelopeKey k).toList = 'm' :: 's' :: 'g' :: ':' :: k.toList := by
  simp [envelopeKey]

theorem envelopeKey_inj {k k' : String} : envelopeKey k = envelopeKey k' ↔ k = k' := by
  rw [← String.toList_inj, envelopeKey_toList, envelopeKey_toList]
  simp only [List.cons.injEq, true_and]
  exact String.toList_inj

/-- For strand ids without `:`, the key of an envelope names its strand and its id. -/
theorem envelopeKey_recordKey_eq_iff {s t i j : String} (hs : ':' ∉ s.toList)
    (ht : ':' ∉ t.toList) :
    envelopeKey (recordKey s i) = envelopeKey (recordKey t j) ↔ s = t ∧ i = j := by
  rw [envelopeKey_inj]
  constructor
  · exact recordKey_inj hs ht
  · rintro ⟨rfl, rfl⟩
    rfl

theorem envelopeKey_isPrefixOf_iff (p k : String) :
    (envelopeKey p).isPrefixOf (envelopeKey k) = true ↔ p.isPrefixOf k = true := by
  simp only [String.isPrefixOf, String.startsWith_string_iff, envelopeKey_toList,
    List.cons_prefix_cons, true_and]

/-- For strand ids without `:`, the scan prefix of a strand starts the keys of that strand's
envelopes and of no other strand's. -/
theorem scanPrefix_isPrefixOf_iff {s t : String} (hs : ':' ∉ s.toList) (ht : ':' ∉ t.toList)
    (j : String) :
    (envelopeKey (strandPrefix s)).isPrefixOf (envelopeKey (recordKey t j)) = true ↔ s = t := by
  rw [envelopeKey_isPrefixOf_iff]
  exact strandPrefix_isPrefixOf_recordKey hs ht j

/-- The two kinds of keys part at their first character, so neither prefix starts a key of the
other kind. -/
theorem prefixes_part (k s : String) :
    "strand-config:".isPrefixOf (envelopeKey k) = false ∧
      "msg:".isPrefixOf (configKey s) = false := by
  constructor
  · rw [Bool.eq_false_iff]
    simp [String.isPrefixOf, String.startsWith_string_iff, envelopeKey_toList]
  · rw [Bool.eq_false_iff]
    simp [String.isPrefixOf, String.startsWith_string_iff, configKey]

/-- The strand a configuration key names: the key less the configuration prefix. A key of the
other kind names none. -/
def configStrand? (k : String) : Option String :=
  (k.toList.dropPrefix? "strand-config:".toList).map String.ofList

theorem configStrand?_configKey (s : String) : configStrand? (configKey s) = some s := by
  have h : (configKey s).toList.dropPrefix? "strand-config:".toList = some s.toList :=
    List.dropPrefix?_eq_some_iff.2 ⟨"strand-config:".toList, by simp [configKey], by simp⟩
  simp only [configStrand?, h, Option.map_some, String.ofList_toList]

theorem configStrand?_envelopeKey (k : String) : configStrand? (envelopeKey k) = none := by
  simp [configStrand?, envelopeKey_toList, List.dropPrefix?]

/-- The configuration keys of the key space give back the registered ids, in order. -/
theorem Records.allKeys_filterMap_configStrand? (r : Records) :
    r.allKeys.filterMap configStrand? = r.configs.keys := by
  simp [Records.allKeys, List.filterMap_append, List.filterMap_map, configStrand?_envelopeKey,
    configStrand?_configKey]

/-! ## One strand's records -/

/-- On a disk store, deleting a registered strand removes its configuration and exactly its
envelopes, its count is the number of its envelopes, and the listing gives back the ids that
the configuration keys name. -/
structure Separated (st : DiskStore) : Prop where
  delete : ∀ s, st.records.configs.get? s ≠ none → ∃ st', st.delete s = .ok st' ∧
    st'.records.configs = st.records.configs.erase s ∧
    st'.records.envelopes.values = st.records.envelopes.values.filter (·.strand ≠ s)
  unacked : ∀ s, st.records.configs.get? s ≠ none →
    st.unacked s = .ok (st.records.envelopes.values.filter (·.strand = s)).length
  listStrands : ∃ l, st.listStrands = .ok l ∧
    l.map Prod.fst = st.records.allKeys.filterMap configStrand? ∧
    ∀ s, s ∈ l.map Prod.fst ↔ st.records.configs.get? s ≠ none

section WellFormed

variable {st : DiskStore} (hwf : (Store.disk st).WF)
include hwf

/-- In a well-formed store the records under a registered strand's prefix are those of its
envelopes. -/
theorem strandRecords_eq_filter {s : String} (hreg : st.records.configs.get? s ≠ none) :
    st.strandRecords s = st.records.envelopes.toList.filter (·.2.strand = s) := by
  rw [strandRecords_eq]
  apply List.filter_congr
  intro p hp
  rw [Bool.eq_iff_iff, Store.disk_prefix_iff hwf (hwf.1 s hreg) hp, decide_eq_true_iff]

theorem unacked_eq_count (ho : st.isOpen = true) {s : String}
    (hreg : st.records.configs.get? s ≠ none) :
    st.unacked s = .ok (st.records.envelopes.values.filter (·.strand = s)).length := by
  have hc : st.records.configs.contains s = true := (Keyed.contains_iff _ _).2 hreg
  rw [unacked_eq, if_pos ⟨ho, hc⟩, strandRecords_eq_filter hwf hreg, Keyed.values,
    List.filter_map, List.length_map]
  rfl

theorem delete_drops_strand (ho : st.isOpen = true) {s : String}
    (hreg : st.records.configs.get? s ≠ none) :
    ∃ st', st.delete s = .ok st' ∧ st'.records.configs = st.records.configs.erase s ∧
      st'.records.envelopes.values = st.records.envelopes.values.filter (·.strand ≠ s) := by
  have hc : st.records.configs.contains s = true := (Keyed.contains_iff _ _).2 hreg
  have hok : ∃ st', st.delete s = .ok st' := by
    unfold delete guard require
    simp [ho, hc, bind, Except.bind, pure, Except.pure]
  obtain ⟨st', hd⟩ := hok
  obtain ⟨-, -, hcf, hev, -⟩ := delete_ok hd
  refine ⟨st', hd, hcf, ?_⟩
  -- a record is dropped exactly when its key is under the strand's prefix, that is when it
  -- holds an envelope of the strand
  rw [Keyed.values, hev, Keyed.values, List.filter_map]
  congr 1
  apply List.filter_congr
  intro p hp
  have hgone := (mem_strandRecords_keys (s := s) hp).trans
    (Store.disk_prefix_iff hwf (hwf.1 s hreg) hp)
  simp only [Function.comp, hgone, decide_not]

theorem separated (ho : st.isOpen = true) : st.Separated where
  delete _ hreg := delete_drops_strand hwf ho hreg
  unacked _ hreg := unacked_eq_count hwf ho hreg
  listStrands := by
    refine ⟨st.records.configs.toList, by simp [listStrands, guard, ho, bind, Except.bind, pure,
      Except.pure], (Records.allKeys_filterMap_configStrand? _).symm, fun s => ?_⟩
    exact Keyed.mem_keys

end WellFormed

end DiskStore

open DiskStore in
/-- For strand ids without `:`, the key of an envelope names its strand and id, the scan prefix
of a strand starts exactly its envelopes' keys, and envelope and configuration keys never start
with each other's prefix. Along every broker run from empty stores, an open disk store therefore
deletes, counts and lists exactly one strand's records. With the ids `a` and `a:b` the layout
fails: `(a, b:x)` and `(a:b, x)` share a key, and deleting `a` drops the envelope of `a:b`. -/
theorem store_keys_isolate_strands :
    (∀ s t i j : String, ':' ∉ s.toList → ':' ∉ t.toList →
      (envelopeKey (recordKey s i) = envelopeKey (recordKey t j) ↔ s = t ∧ i = j)) ∧
    (∀ s t j : String, ':' ∉ s.toList → ':' ∉ t.toList →
      ((envelopeKey (strandPrefix s)).isPrefixOf (envelopeKey (recordKey t j)) = true ↔ s = t)) ∧
    (∀ k s : String, "strand-config:".isPrefixOf (envelopeKey k) = false ∧
      "msg:".isPrefixOf (configKey s) = false) ∧
    (∀ (stamps : Nat → Stamp) (b : Broker) (acts : List Action) (d : Durability) (st : DiskStore),
      b.volatile.Blank → b.durable.Blank →
      (World.run stamps ⟨b, []⟩ acts).broker.storeOf d = .disk st → st.isOpen = true →
      st.Separated) ∧
    (envelopeKey (recordKey "a" "b:x") = envelopeKey (recordKey "a:b" "x") ∧
      let x := Envelope.make "x" "a:b" "y" 0
      let disk := (Store.disk {}).afterCalls [.create "a" {}, .create "a:b" {}, .save x]
      disk.pending = [x] ∧ (disk.call (.delete "a")).1 = .done (.ok ()) ∧
        (disk.call (.delete "a")).2.pending = []) := by
  refine ⟨fun s t i j hs ht => envelopeKey_recordKey_eq_iff hs ht,
    fun s t j hs ht => scanPrefix_isPrefixOf_iff hs ht j, prefixes_part,
    fun stamps b acts d st hv hd hst ho => ?_, ⟨?_, by decide +kernel⟩⟩
  · -- the broker registers only checked ids, so its stores stay well formed
    have hwf : b.StoresWF := by
      intro d
      cases d
      · exact hd.wf
      · exact hv.wf
    have hrun := World.storesWF_run stamps (w := ⟨b, []⟩) hwf acts d
    rw [hst] at hrun
    exact separated hrun ho
  · rw [envelopeKey_inj, ← String.toList_inj]
    simp [recordKey]

/-- A durable strand added on a disk store and sent an envelope: the store the run ends in
deletes, counts and lists that strand's records alone. -/
theorem store_keys_isolate_strands_after_a_send :
    let stamps : Nat → Stamp := fun n => ⟨toString n, 0⟩
    let b : Broker := ⟨.memory {}, .disk {}, .channel (Channel.make 1), Metrics.fresh, 0⟩
    let w := World.run stamps ⟨b, []⟩ [.addStrand "a" { durable := true }, .send "a" "hi"]
    ∃ st, w.broker.storeOf .durable = .disk st ∧ st.isOpen = true ∧ st.Separated := by
  intro stamps b w
  obtain ⟨st, hst⟩ : ∃ st, w.broker.storeOf .durable = .disk st := ⟨_, rfl⟩
  have ho : st.isOpen = true := by
    have h : (w.broker.storeOf .durable).isOpen = true := by decide
    rwa [hst] at h
  exact ⟨st, hst, ho,
    store_keys_isolate_strands.2.2.2.1 stamps b _ .durable st rfl ⟨rfl, rfl⟩ hst ho⟩

end Courier
