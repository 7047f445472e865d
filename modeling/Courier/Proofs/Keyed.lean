import Courier.Keyed
import Mathlib.Data.List.Perm.Basic
import Mathlib.Data.String.Basic

/-!
# Tables keyed by text: the pairs they hold

`Courier.Keyed` states what `insert` and `erase` do through `get?`. The stores also read their
tables whole: a strand's envelopes are the values of its table, and a disk store's records of a
strand are the pairs under its key prefix. This module states the two operations through the
list of pairs instead.

- `insert` of a key the table does not have adds its pair, somewhere: the pairs are a
  permutation of the new pair followed by the old ones (`toList_insert_perm`). Nothing here
  depends on the pairs being in key order.
- `erase` keeps the pairs of every other key, in order (`toList_erase`).

Both keep the keys strictly increasing (`Sorted.insert`, `Sorted.erase`); in a table whose keys
increase a pair is present exactly when `get?` finds it (`Sorted.get?_eq_some_iff`).
-/

namespace Courier

namespace Keyed

variable {α : Type}

theorem lookup_eq_none_iff (k : String) (l : List (String × α)) :
    lookup k l = none ↔ ∀ p ∈ l, p.1 ≠ k := by
  induction l with
  | nil => simp [lookup]
  | cons p rest ih =>
    obtain ⟨k', v'⟩ := p
    by_cases h : k' = k <;> simp [lookup, h, ih]

theorem mem_of_lookup_eq_some {k : String} {v : α} {l : List (String × α)}
    (h : lookup k l = some v) : (k, v) ∈ l := by
  induction l with
  | nil => simp [lookup] at h
  | cons p rest ih =>
    obtain ⟨k', v'⟩ := p
    by_cases hk : k' = k
    · subst hk
      simp only [lookup, if_true, Option.some.injEq] at h
      subst h
      exact List.mem_cons_self
    · simp only [lookup, hk, if_false] at h
      exact List.mem_cons_of_mem _ (ih h)

/-- A pair placed under a key the list does not have is one more pair, somewhere. -/
theorem place_perm {k : String} (v : α) {l : List (String × α)} (h : lookup k l = none) :
    (place k v l).Perm ((k, v) :: l) := by
  induction l with
  | nil => simp [place]
  | cons p rest ih =>
    obtain ⟨k', v'⟩ := p
    have hk : k' ≠ k := ((lookup_eq_none_iff k _).1 h (k', v') List.mem_cons_self)
    have hrest : lookup k rest = none := by simpa [lookup, hk] using h
    by_cases hlt : k < k'
    · simp [place, hk, hlt]
    · simp only [place, hk, hlt, if_false]
      -- the pair goes further down the list; swap it past the head
      exact ((ih hrest).cons (k', v')).trans (List.Perm.swap _ _ _)

theorem mem_place {k : String} {v : α} {l : List (String × α)} {p : String × α}
    (h : p ∈ place k v l) : p = (k, v) ∨ p ∈ l := by
  induction l with
  | nil => simpa [place] using h
  | cons q rest ih =>
    obtain ⟨k', v'⟩ := q
    by_cases hk : k' = k
    · simp only [place, hk, if_true, List.mem_cons] at h
      rcases h with rfl | h
      · exact .inl rfl
      · exact .inr (List.mem_cons_of_mem _ h)
    · by_cases hlt : k < k'
      · simpa [place, hk, hlt] using h
      · simp only [place, hk, hlt, if_false, List.mem_cons] at h
        rcases h with rfl | h
        · exact .inr List.mem_cons_self
        · rcases ih h with rfl | h
          · exact .inl rfl
          · exact .inr (List.mem_cons_of_mem _ h)

/-- Placing a pair under a key that `p` rejects leaves the pairs `p` keeps as they were. -/
theorem filter_place_of_not {k : String} (v : α) (l : List (String × α)) {p : String → Bool}
    (hk : p k = false) : (place k v l).filter (fun kv => p kv.1) = l.filter (fun kv => p kv.1) := by
  induction l with
  | nil => simp [place, hk]
  | cons q rest ih =>
    obtain ⟨k', v'⟩ := q
    by_cases h1 : k' = k
    · subst h1; simp [place, hk]
    · by_cases h2 : k < k'
      · simp [place, h1, h2, hk]
      · simp only [place, h1, h2, if_false, List.filter_cons, ih]

theorem remove_eq_filter (k : String) (l : List (String × α)) :
    remove k l = l.filter (fun p => p.1 ≠ k) := by
  induction l with
  | nil => rfl
  | cons p rest ih =>
    obtain ⟨k', v'⟩ := p
    by_cases hk : k' = k <;> simp [remove, hk, ih]

theorem get?_eq_none_iff (t : Keyed α) (k : String) :
    t.get? k = none ↔ ∀ p ∈ t.toList, p.1 ≠ k :=
  lookup_eq_none_iff k t.toList

theorem mem_toList_of_get? {t : Keyed α} {k : String} {v : α} (h : t.get? k = some v) :
    (k, v) ∈ t.toList :=
  mem_of_lookup_eq_some h

theorem contains_iff (t : Keyed α) (k : String) : t.contains k = true ↔ t.get? k ≠ none := by
  simp [contains, Option.isSome_iff_ne_none]

theorem mem_toList_insert {t : Keyed α} {k : String} {v : α} {p : String × α}
    (h : p ∈ (t.insert k v).toList) : p = (k, v) ∨ p ∈ t.toList :=
  mem_place h

/-- Inserting under a new key adds exactly its pair. -/
theorem toList_insert_perm {t : Keyed α} {k : String} (v : α) (h : t.get? k = none) :
    (t.insert k v).toList.Perm ((k, v) :: t.toList) :=
  place_perm v h

theorem filter_insert_of_not (t : Keyed α) {k : String} (v : α) {p : String → Bool}
    (hk : p k = false) :
    (t.insert k v).toList.filter (fun kv => p kv.1) = t.toList.filter (fun kv => p kv.1) :=
  filter_place_of_not v t.toList hk

/-- Erasing a key keeps every pair of another key. -/
theorem toList_erase (t : Keyed α) (k : String) :
    (t.erase k).toList = t.toList.filter (fun p => p.1 ≠ k) :=
  remove_eq_filter k t.toList

@[simp] theorem toList_mk (l : List (String × α)) : (⟨l⟩ : Keyed α).toList = l := rfl

@[simp] theorem get?_mk_nil (k : String) : (⟨[]⟩ : Keyed α).get? k = none := rfl

theorem mem_values_insert {t : Keyed α} {k : String} {v x : α} (h : x ∈ (t.insert k v).values) :
    x = v ∨ x ∈ t.values := by
  obtain ⟨p, hp, rfl⟩ := List.mem_map.1 h
  rcases mem_toList_insert hp with rfl | hp
  · exact .inl rfl
  · exact .inr (List.mem_map.2 ⟨p, hp, rfl⟩)

theorem mem_values_erase {t : Keyed α} {k : String} {x : α} (h : x ∈ (t.erase k).values) :
    x ∈ t.values := by
  obtain ⟨p, hp, rfl⟩ := List.mem_map.1 h
  rw [toList_erase, List.mem_filter] at hp
  exact List.mem_map.2 ⟨p, hp.1, rfl⟩

theorem values_insert_perm {t : Keyed α} {k : String} (v : α) (h : t.get? k = none) :
    (t.insert k v).values.Perm (v :: t.values) := by
  simpa [values] using (toList_insert_perm v h).map Prod.snd

/-! ## Keys in order -/

/-- The keys strictly increase, as `insert` and `erase` keep them. -/
def Sorted (t : Keyed α) : Prop := t.keys.Pairwise (· < ·)

theorem place_sorted {k : String} (v : α) {l : List (String × α)}
    (h : (l.map (·.1)).Pairwise (· < ·)) : ((place k v l).map (·.1)).Pairwise (· < ·) := by
  induction l with
  | nil => simp [place]
  | cons q rest ih =>
    obtain ⟨k', v'⟩ := q
    rw [List.map_cons, List.pairwise_cons] at h
    by_cases h1 : k' = k
    · subst h1
      simpa [place] using h
    · by_cases h2 : k < k'
      · simp only [place, h1, h2, if_false, if_true, List.map_cons]
        refine List.Pairwise.cons (fun x hx => ?_) (List.pairwise_cons.2 h)
        rcases List.mem_cons.1 hx with rfl | hx
        · exact h2
        · exact lt_trans h2 (h.1 x hx)
      · -- the pair goes further down, past a key below it
        have hlt : k' < k := lt_of_le_of_ne (not_lt.1 h2) h1
        simp only [place, h1, h2, if_false, List.map_cons, List.pairwise_cons]
        refine ⟨fun x hx => ?_, ih h.2⟩
        obtain ⟨p, hp, rfl⟩ := List.mem_map.1 hx
        rcases mem_place hp with rfl | hp
        · exact hlt
        · exact h.1 _ (List.mem_map_of_mem hp)

theorem Sorted.insert {t : Keyed α} (h : t.Sorted) (k : String) (v : α) : (t.insert k v).Sorted :=
  place_sorted v h

theorem Sorted.of_sublist {t t' : Keyed α} (h : t.Sorted) (hs : t'.toList.Sublist t.toList) :
    t'.Sorted :=
  h.sublist (hs.map _)

theorem Sorted.erase {t : Keyed α} (h : t.Sorted) (k : String) : (t.erase k).Sorted :=
  h.of_sublist (by rw [toList_erase]; exact List.filter_sublist)

@[simp] theorem sorted_mk_nil : (⟨[]⟩ : Keyed α).Sorted := List.Pairwise.nil

theorem lookup_of_mem {k : String} {v : α} {l : List (String × α)}
    (hl : (l.map (·.1)).Pairwise (· ≠ ·)) (h : (k, v) ∈ l) : lookup k l = some v := by
  induction l with
  | nil => simp at h
  | cons q rest ih =>
    obtain ⟨k', v'⟩ := q
    rw [List.map_cons, List.pairwise_cons] at hl
    rcases List.mem_cons.1 h with hq | hrest
    · cases hq
      simp [lookup]
    · -- a later pair has a key other than the head's
      have hk : k' ≠ k := hl.1 k (List.mem_map_of_mem (f := (·.1)) hrest)
      simp only [lookup, hk, if_false]
      exact ih hl.2 hrest

/-- In a table whose keys increase, `get?` finds exactly the pairs it holds. -/
theorem Sorted.get?_eq_some_iff {t : Keyed α} (h : t.Sorted) {k : String} {v : α} :
    t.get? k = some v ↔ (k, v) ∈ t.toList :=
  ⟨mem_toList_of_get?, lookup_of_mem (h.imp ne_of_lt)⟩

/-- In a table whose keys increase, the pair found under a key parts the other pairs into those
before it and those after it, none of them under that key. -/
theorem Sorted.eq_append_cons {t : Keyed α} (h : t.Sorted) {k : String} {v : α}
    (hk : t.get? k = some v) :
    ∃ l₁ l₂, t.toList = l₁ ++ (k, v) :: l₂ ∧ (∀ p ∈ l₁, p.1 ≠ k) ∧ ∀ p ∈ l₂, p.1 ≠ k := by
  obtain ⟨l₁, l₂, hl⟩ := List.append_of_mem (mem_toList_of_get? hk)
  have hkeys : (l₁.map (·.1) ++ k :: l₂.map (·.1)).Pairwise (· < ·) := by
    simpa [Sorted, keys, hl] using h
  rw [List.pairwise_append, List.pairwise_cons] at hkeys
  refine ⟨l₁, l₂, hl, fun p hp => ?_, fun p hp => ?_⟩
  · exact ne_of_lt (hkeys.2.2 p.1 (List.mem_map_of_mem hp) k List.mem_cons_self)
  · exact ne_of_gt (hkeys.2.1.1 p.1 (List.mem_map_of_mem hp))

theorem mem_values_iff {t : Keyed α} {v : α} : v ∈ t.values ↔ ∃ k, (k, v) ∈ t.toList := by
  simp [values]

/-- In a list whose keys increase, the pair found under a key and the pairs of the other keys
are all the pairs. -/
theorem perm_remove_of_lookup {k : String} {v : α} {l : List (String × α)}
    (hl : (l.map (·.1)).Pairwise (· < ·)) (h : lookup k l = some v) :
    l.Perm ((k, v) :: remove k l) := by
  induction l with
  | nil => simp [lookup] at h
  | cons q rest ih =>
    obtain ⟨k', v'⟩ := q
    rw [List.map_cons, List.pairwise_cons] at hl
    by_cases hk : k' = k
    · subst hk
      simp only [lookup, if_true, Option.some.injEq] at h
      subst h
      -- the later keys are above the found one, so removing it leaves them all
      have hrest : remove k' rest = rest := by
        rw [remove_eq_filter, List.filter_eq_self]
        intro p hp
        simpa using ne_of_gt (hl.1 p.1 (List.mem_map_of_mem hp))
      simp [remove, hrest]
    · simp only [lookup, hk, if_false] at h
      simp only [remove, hk, if_false]
      exact ((ih hl.2 h).cons _).trans (List.Perm.swap _ _ _)

/-- Erasing a key a table holds takes away exactly its pair. -/
theorem Sorted.toList_perm_erase {t : Keyed α} (h : t.Sorted) {k : String} {v : α}
    (hk : t.get? k = some v) : t.toList.Perm ((k, v) :: (t.erase k).toList) :=
  perm_remove_of_lookup h hk

/-- Inserting under a key puts its pair in place of whatever the key held. -/
theorem Sorted.toList_insert_perm_erase {t : Keyed α} (h : t.Sorted) (k : String) (v : α) :
    (t.insert k v).toList.Perm ((k, v) :: (t.erase k).toList) := by
  have hins := (h.insert k v).toList_perm_erase (by simp : (t.insert k v).get? k = some v)
  -- without the key, the table with the new pair is the table without the old one
  have herase : ((t.insert k v).erase k).toList = (t.erase k).toList := by
    rw [toList_erase, toList_erase]
    exact filter_insert_of_not t v (p := fun j => decide (j ≠ k)) (by simp)
  rwa [herase] at hins

theorem mem_keys {t : Keyed α} {k : String} : k ∈ t.keys ↔ t.get? k ≠ none := by
  rw [Ne, get?_eq_none_iff]
  simp [keys]

theorem Sorted.values_perm_erase {t : Keyed α} (h : t.Sorted) {k : String} {v : α}
    (hk : t.get? k = some v) : t.values.Perm (v :: (t.erase k).values) := by
  simpa [values] using (h.toList_perm_erase hk).map Prod.snd

/-- Counting the values that pass a test: those of the table without a key, and the key's own
value if it passes. -/
theorem Sorted.countP_values_erase {t : Keyed α} (h : t.Sorted) (p : α → Bool) (k : String) :
    t.values.countP p = (t.erase k).values.countP p + if (t.get? k).any p then 1 else 0 := by
  cases hk : t.get? k with
  | none =>
    -- without the key, erasing it keeps every pair
    have hsame : (t.erase k).toList = t.toList := by
      rw [toList_erase, List.filter_eq_self]
      intro q hq
      simpa using (get?_eq_none_iff t k).1 hk q hq
    simp [values, hsame]
  | some v =>
    rw [(h.values_perm_erase hk).countP_eq, List.countP_cons]
    simp

/-- Counting the values that pass a test after an insert: those of the table without the key,
and the inserted value if it passes. -/
theorem Sorted.countP_values_insert {t : Keyed α} (h : t.Sorted) (p : α → Bool) (k : String)
    (v : α) :
    (t.insert k v).values.countP p = (t.erase k).values.countP p + if p v then 1 else 0 := by
  have hperm : (t.insert k v).values.Perm (v :: (t.erase k).values) := by
    simpa [values] using (h.toList_insert_perm_erase k v).map Prod.snd
  rw [hperm.countP_eq, List.countP_cons]

end Keyed

end Courier
