import Courier.Store
import Courier.Proofs.Keyed

/-!
# Walking a disk store

A cursor over a disk store reads the key space one leaf at a time (`Cursor.scanStep`). Over a
store that stays as it is, a cursor opened on it gives every envelope record once, in key
order, whatever the leaves are: its walk is `DiskStore.pending`, the values of the envelope
table (`Cursor.walk_scan_start`).

The cursor keeps one fact as it goes (`Records.Ahead`): its leaf is the leaf of some key, and
every record after the last key it gave lies at or above that leaf's lower bound. From there a
call returns the first record after the last key (`scanStep_cons`), or ends the walk when there
is none (`scanStep_nil`). A leaf with no record after the last key either ends the key space
or hands over to the next leaf, whose lower bound is at most its own upper bound. A leaf that
holds a configuration ends the walk, but only after every envelope record, since `msg:` keys
sort below `strand-config:` keys (`envelopeKey_lt_configKey`). Each hop passes a split, so the
fuel of a call, two more than the number of splits, is never used up (`Records.hops`).
-/

namespace Courier

namespace DiskStore

/-! ## The key space -/

theorem envelopeKey_lt_configKey (k s : String) : envelopeKey k < configKey s := by
  have hm : "msg:".toList = ['m', 's', 'g', ':'] := by decide
  have hs : "strand-config:".toList =
      ['s', 't', 'r', 'a', 'n', 'd', '-', 'c', 'o', 'n', 'f', 'i', 'g', ':'] := by decide
  rw [String.lt_iff_toList_lt, envelopeKey, configKey, String.toList_append, String.toList_append,
    hm, hs]
  -- the first characters already differ
  exact (List.lt_iff_lex_lt _ _).2 (List.Lex.rel (by decide))

theorem envelopeKey_lt {k k' : String} (h : k < k') : envelopeKey k < envelopeKey k' := by
  rw [String.lt_iff_toList_lt] at h ⊢
  rw [envelopeKey, envelopeKey, String.toList_append, String.toList_append]
  exact List.append_left_lt h

theorem envelopeKey_empty_le (k : String) : envelopeKey "" ≤ envelopeKey k := by
  refine String.not_lt.1 fun h => ?_
  have hm : "msg:".toList = ['m', 's', 'g', ':'] := by decide
  rw [String.lt_iff_toList_lt, envelopeKey, envelopeKey, String.toList_append, String.toList_append,
    String.toList_empty, List.append_nil, hm] at h
  simp [List.not_lt_nil] at h

namespace Records

/-! ## Leaves -/

/-- The envelope records under their keys in the store's key space, in key order. -/
def keyed (r : Records) : List (String × Envelope) :=
  r.envelopes.toList.map fun (key, m) => (envelopeKey key, m)

/-- The envelope records whose key is above `last`. -/
def after (r : Records) (last : Option String) : List (String × Envelope) :=
  r.keyed.filter fun e => last.all (· < e.1)

theorem leafAt_records (r : Records) (j : String) :
    (r.leafAt j).records = r.keyed.filter fun e => within (r.leafBounds j) e.1 := rfl

theorem within_iff (b : Option String × Option String) (k : String) :
    within b k = true ↔ b.1.all (· ≤ k) = true ∧ b.2.all (k < ·) = true := by
  simp [within]

theorem leafBounds_fst_le (r : Records) (j : String) : (r.leafBounds j).1.all (· ≤ j) = true := by
  cases h : (r.leafBounds j).1 with
  | none => rfl
  | some lo =>
    have hlo := List.mem_of_getLast? h
    rw [List.mem_filter] at hlo
    simpa using hlo.2

theorem leafBounds_snd {r : Records} {j h : String} (hh : (r.leafBounds j).2 = some h) :
    j < h ∧ h ∈ r.splits :=
  ⟨by simpa using List.find?_some hh, List.mem_of_find?_eq_some hh⟩

theorem mem_keyed {r : Records} {e : String × Envelope} (he : e ∈ r.keyed) :
    ∃ key, e.1 = envelopeKey key := by
  obtain ⟨⟨key, m⟩, -, rfl⟩ := List.mem_map.1 he
  exact ⟨key, rfl⟩

theorem keyed_sorted {r : Records} (hs : r.envelopes.Sorted) :
    r.keyed.Pairwise (fun a b => a.1 < b.1) := by
  unfold keyed
  rw [List.pairwise_map]
  exact (List.pairwise_map.1 hs).imp envelopeKey_lt

theorem after_none (r : Records) : r.after none = r.keyed := by
  simp [after]

theorem map_snd_keyed (r : Records) : r.keyed.map (·.2) = r.envelopes.values := by
  simp [keyed, Keyed.values]

/-- What follows the first record after `last` is what comes after that record. -/
theorem after_of_cons {r : Records} (hs : r.envelopes.Sorted) {last : Option String}
    {e : String × Envelope} {rest : List (String × Envelope)} (he : r.after last = e :: rest) :
    r.after (some e.1) = rest := by
  have hsorted : (e :: rest).Pairwise (fun a b => a.1 < b.1) :=
    he ▸ (keyed_sorted hs).filter _
  have hlast : last.all (· < e.1) = true :=
    (List.mem_filter.1 (he ▸ List.mem_cons_self : e ∈ r.after last)).2
  -- a record above `e` is above `last` too, so it is one of `e :: rest`
  have hsub : r.after (some e.1) = (r.after last).filter fun x => e.1 < x.1 := by
    simp only [after, List.filter_filter]
    apply List.filter_congr
    intro x _
    cases last with
    | none => simp
    | some l =>
      simp only [Option.all_some, decide_eq_true_eq] at hlast ⊢
      by_cases hx : e.1 < x.1
      · simp [hx, lt_trans hlast hx]
      · simp [hx]
  rw [hsub, he, List.filter_cons_of_neg (by simp), List.filter_eq_self]
  intro x hx
  simpa using List.rel_of_pairwise_cons hsorted hx

/-! ## One call of a cursor -/

/-- Every record after `last` lies at or above the lower bound of the leaf of `j`. -/
def Ahead (r : Records) (last : Option String) (j : String) : Prop :=
  ∀ e ∈ r.after last, (r.leafBounds j).1.all (· ≤ e.1) = true

theorem ahead_start (r : Records) : r.Ahead none (envelopeKey "") := by
  intro e he
  rw [after_none] at he
  obtain ⟨key, hkey⟩ := mem_keyed he
  have hlo := leafBounds_fst_le r (envelopeKey "")
  cases hb : (r.leafBounds (envelopeKey "")).1 with
  | none => rfl
  | some lo =>
    rw [hb] at hlo
    simp only [Option.all_some, decide_eq_true_eq] at hlo ⊢
    rw [hkey]
    exact le_trans hlo (envelopeKey_empty_le key)

/-- A cursor in the leaf of a record it gave is ahead of what comes after that record. -/
theorem ahead_of_within {r : Records} {j k : String} (hw : within (r.leafBounds j) k = true) :
    r.Ahead (some k) j := by
  intro e he
  have hlt : k < e.1 := by simpa [after] using (List.mem_filter.1 he).2
  have hlo := ((within_iff _ _).1 hw).1
  cases hb : (r.leafBounds j).1 with
  | none => rfl
  | some lo =>
    rw [hb] at hlo
    simp only [Option.all_some, decide_eq_true_eq] at hlo ⊢
    exact le_of_lt (lt_of_le_of_lt hlo hlt)

/-- The number of splits at or above the upper bound of the leaf of `j`: each hop to the next
leaf passes one. -/
def hops (r : Records) (j : String) : Nat :=
  match (r.leafBounds j).2 with
  | none => 0
  | some h => (r.splits.filter (h ≤ ·)).length

theorem hops_le (r : Records) (j : String) : r.hops j ≤ r.splits.length := by
  unfold hops
  split
  · exact Nat.zero_le _
  · exact List.length_filter_le _ _

theorem hops_lt {r : Records} {j h : String} (hh : (r.leafBounds j).2 = some h) :
    r.hops h < r.hops j := by
  have hmem := (leafBounds_snd hh).2
  have hself : h ∈ r.splits.filter (h ≤ ·) := List.mem_filter.2 ⟨hmem, by simp⟩
  unfold hops
  rw [hh]
  split
  · exact List.length_pos_of_mem hself
  · rename_i h' hh'
    have hlt : h < h' := (leafBounds_snd hh').1
    -- the splits at or above `h'` are those at or above `h`, less `h` itself
    have hsub : r.splits.filter (h' ≤ ·) = (r.splits.filter (h ≤ ·)).filter (h' ≤ ·) := by
      rw [List.filter_filter]
      apply List.filter_congr
      intro x _
      by_cases hx : h' ≤ x
      · simp [hx, le_trans (le_of_lt hlt) hx]
      · simp [hx]
    rw [hsub, List.length_filter_lt_length_iff_exists]
    exact ⟨h, hself, by simpa using hlt⟩

/-- The first record after `last` among those of the leaf of `j`. -/
theorem find?_leafAt (r : Records) (last : Option String) (j : String) :
    (r.leafAt j).records.find? (fun e => last.all (· < e.1)) =
      ((r.after last).filter fun e => within (r.leafBounds j) e.1).head? := by
  rw [leafAt_records, ← List.head?_filter, List.filter_comm]
  rfl

end Records

end DiskStore

namespace Cursor

open DiskStore

variable {r : DiskStore.Records} {last : Option String}

/-- With no record after `last`, a call ends the walk. -/
theorem scanStep_nil (hA : r.after last = []) (fuel : Nat) (j : String) :
    scanStep r fuel last (r.leafAt j) = (none, .closed) := by
  induction fuel generalizing j with
  | zero => rfl
  | succ fuel ih =>
    simp only [scanStep]
    rw [Records.find?_leafAt, hA, List.filter_nil, List.head?_nil]
    dsimp only
    split
    · rfl
    · split
      · rfl
      · exact ih _

/-- A call returns the first record after `last` and stays in a leaf that holds it. -/
theorem scanStep_cons (hs : r.envelopes.Sorted) {k : String} {m : Envelope}
    {rest : List (String × Envelope)} (hA : r.after last = (k, m) :: rest) {fuel : Nat} :
    ∀ j, r.Ahead last j → r.hops j < fuel →
      ∃ j', scanStep r fuel last (r.leafAt j) = (some m, .scan (some k) (some (r.leafAt j'))) ∧
        Records.within (r.leafBounds j') k = true := by
  have hsorted : ((k, m) :: rest).Pairwise (fun a b => a.1 < b.1) :=
    hA ▸ (Records.keyed_sorted hs).filter _
  have hkey : ∃ key, k = envelopeKey key :=
    Records.mem_keyed (List.mem_filter.1 (hA ▸ List.mem_cons_self : (k, m) ∈ r.after last)).1
  induction fuel with
  | zero => intro j _ hf; exact absurd hf (Nat.not_lt_zero _)
  | succ fuel ih =>
    intro j ha hf
    simp only [scanStep]
    rw [Records.find?_leafAt, hA]
    by_cases hw : Records.within (r.leafBounds j) k = true
    · simp only [List.filter_cons, hw, if_true, List.head?_cons]
      exact ⟨j, rfl, hw⟩
    · -- the record lies past the leaf: the leaf has an upper bound `h` at or below it
      have hlo : (r.leafBounds j).1.all (· ≤ k) = true := ha (k, m) (hA ▸ List.mem_cons_self)
      obtain ⟨h, hh, hhk⟩ : ∃ h, (r.leafBounds j).2 = some h ∧ h ≤ k := by
        cases hb : (r.leafBounds j).2 with
        | none => exact absurd ((Records.within_iff _ _).2 ⟨hlo, by simp [hb]⟩) hw
        | some h =>
          have hkh : ¬ k < h := fun hkh =>
            hw ((Records.within_iff _ _).2
              ⟨hlo, by rw [hb, Option.all_some]; exact decide_eq_true hkh⟩)
          exact ⟨h, rfl, not_lt.1 hkh⟩
      have hnone : (((k, m) :: rest).filter fun e => Records.within (r.leafBounds j) e.1) = [] := by
        rw [List.filter_eq_nil_iff]
        intro x hx hwx
        have hxk : k ≤ x.1 := by
          rcases List.mem_cons.1 hx with rfl | hx
          · exact le_refl _
          · exact le_of_lt (List.rel_of_pairwise_cons hsorted hx)
        have hxh := ((Records.within_iff _ _).1 hwx).2
        rw [hh] at hxh
        simp only [Option.all_some, decide_eq_true_eq] at hxh
        exact absurd (lt_of_lt_of_le hxh (le_trans hhk hxk)) (lt_irrefl _)
      -- no configuration lies below an envelope record, so this leaf does not end the walk
      have hends : (r.leafAt j).endsWalk = false := by
        simp only [Records.leafAt, List.any_eq_false]
        intro s _ hws
        have hsh := ((Records.within_iff _ _).1 hws).2
        rw [hh] at hsh
        simp only [Option.all_some, decide_eq_true_eq] at hsh
        obtain ⟨key, rfl⟩ := hkey
        exact absurd (lt_of_lt_of_le hsh hhk) (not_lt.2 (le_of_lt (envelopeKey_lt_configKey key s)))
      rw [hnone, List.head?_nil]
      dsimp only
      rw [if_neg (by simp [hends])]
      rw [show (r.leafAt j).next = some h from hh]
      refine ih h (fun x hx => ?_) (Nat.lt_of_lt_of_le (Records.hops_lt hh) (Nat.lt_succ_iff.1 hf))
      -- the next leaf starts at or below `h`, and every record after `last` is at or above it
      have hxk : k ≤ x.1 := by
        rw [hA] at hx
        rcases List.mem_cons.1 hx with rfl | hx
        · exact le_refl _
        · exact le_of_lt (List.rel_of_pairwise_cons hsorted hx)
      have hlo' := Records.leafBounds_fst_le r h
      cases hb : (r.leafBounds h).1 with
      | none => rfl
      | some lo =>
        rw [hb] at hlo'
        simp only [Option.all_some, decide_eq_true_eq] at hlo' ⊢
        exact le_trans hlo' (le_trans hhk hxk)

/-- Over a store that stays as it is, a cursor ahead of `last` walks the records after `last`,
in key order. -/
theorem walkFrom_scan {st : DiskStore} (hs : st.records.envelopes.Sorted) :
    ∀ n last (leaf? : Option Leaf) j,
      leaf?.getD (st.records.leafAt (envelopeKey "")) = st.records.leafAt j →
      st.records.Ahead last j → (st.records.after last).length < n →
      walkFrom n (.scan last leaf?) (.disk st) = (st.records.after last).map (·.2) := by
  intro n
  induction n with
  | zero => intro _ _ _ _ _ hn; exact absurd hn (Nat.not_lt_zero _)
  | succ n ih =>
    intro last leaf? j hleaf ha hn
    simp only [walkFrom, next, Store.diskRecords, hleaf]
    have hfuel : st.records.hops j < st.records.splits.length + 2 :=
      Nat.lt_of_le_of_lt (Records.hops_le _ _) (by omega)
    cases hA : st.records.after last with
    | nil => rw [scanStep_nil hA]; rfl
    | cons e rest =>
      obtain ⟨k, m⟩ := e
      obtain ⟨j', hstep, hw⟩ := scanStep_cons hs hA j ha hfuel
      rw [hstep]
      dsimp only
      have hrest := Records.after_of_cons hs hA
      rw [ih (some k) (some (st.records.leafAt j')) j' rfl (Records.ahead_of_within hw)
        (by rw [hA] at hn; simp only [hrest]; simpa using hn), hrest]
      rfl

/-- A cursor over a disk store that stays as it is walks its envelopes in key order, each once. -/
theorem walk_scan_start {st : DiskStore} (hs : st.records.envelopes.Sorted) :
    (Cursor.scan none none).walk (.disk st) = st.pending := by
  have hlen : (st.records.after none).length < st.records.envelopes.size + 1 := by
    simp [Records.after_none, Records.keyed, Keyed.size]
  simp only [walk, Store.diskRecords]
  rw [walkFrom_scan hs _ none none (envelopeKey "") rfl (Records.ahead_start _) hlen,
    Records.after_none, Records.map_snd_keyed]
  rfl

end Cursor

end Courier
