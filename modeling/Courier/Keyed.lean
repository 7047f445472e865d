/-!
# Tables keyed by text

`Keyed α` is a table from `String` keys to values, kept as a list of pairs in increasing key
order. `String` order compares code points one by one, which is the order of the UTF-8 bytes,
so walking the list visits the keys in byte order: the order in which the stores list strands
and messages, and in which metrics are reported.

`insert` replaces the value of a present key and otherwise puts the pair at its place;
`erase` removes a key. Their views through `get?` are `get?_insert` and `get?_erase`.
-/

namespace Courier

/-- A table from text keys to values, in increasing key order. -/
structure Keyed (α : Type) where
  /-- The pairs, in increasing key order. -/
  toList : List (String × α) := []
  deriving Inhabited, Repr

namespace Keyed

variable {α : Type}

/-- The empty table. -/
def empty : Keyed α := {}

/-- The value stored under a key, found in a list of pairs. -/
def lookup (k : String) : List (String × α) → Option α
  | [] => none
  | (k', v) :: rest => if k' = k then some v else lookup k rest

/-- A pair put at its place in a list of pairs in key order, replacing one of the same key. -/
def place (k : String) (v : α) : List (String × α) → List (String × α)
  | [] => [(k, v)]
  | (k', v') :: rest =>
    if k' = k then (k, v) :: rest
    else if k < k' then (k, v) :: (k', v') :: rest
    else (k', v') :: place k v rest

/-- A list of pairs without the pairs of one key. -/
def remove (k : String) : List (String × α) → List (String × α)
  | [] => []
  | (k', v') :: rest => if k' = k then remove k rest else (k', v') :: remove k rest

/-- The value stored under a key. -/
def get? (t : Keyed α) (k : String) : Option α := lookup k t.toList

/-- Whether a key is present. -/
def contains (t : Keyed α) (k : String) : Bool := (t.get? k).isSome

/-- The table with `v` stored under `k`. -/
def insert (t : Keyed α) (k : String) (v : α) : Keyed α := ⟨place k v t.toList⟩

/-- The table without the key `k`. -/
def erase (t : Keyed α) (k : String) : Keyed α := ⟨remove k t.toList⟩

/-- The table with the value under `k` changed by `f`, starting from `d` when `k` is absent. -/
def alter (t : Keyed α) (k : String) (d : α) (f : α → α) : Keyed α :=
  t.insert k (f ((t.get? k).getD d))

/-- The keys, in order. -/
def keys (t : Keyed α) : List String := t.toList.map (·.1)

/-- The values, in key order. -/
def values (t : Keyed α) : List α := t.toList.map (·.2)

/-- The number of keys. -/
def size (t : Keyed α) : Nat := t.toList.length

/-- The pairs whose key satisfies `p`, in order. -/
def filterKeys (t : Keyed α) (p : String → Bool) : List (String × α) :=
  t.toList.filter (fun kv => p kv.1)

/-- The table without the keys that satisfy `p`. -/
def eraseWhere (t : Keyed α) (p : String → Bool) : Keyed α :=
  ⟨t.toList.filter (fun kv => !p kv.1)⟩

theorem lookup_place (k j : String) (v : α) (l : List (String × α)) :
    lookup j (place k v l) = if k = j then some v else lookup j l := by
  induction l with
  | nil => simp [place, lookup]
  | cons kv rest ih =>
    obtain ⟨k', v'⟩ := kv
    by_cases h1 : k' = k
    · subst h1; by_cases h2 : k' = j <;> simp [place, lookup, h2]
    · by_cases h3 : k < k'
      · by_cases h2 : k = j
        · subst h2; simp [place, lookup, h1, h3]
        · simp [place, lookup, h1, h3, h2]
      · simp only [place, h1, h3, if_false, lookup, ih]
        by_cases h2 : k' = j
        · subst h2; simp [Ne.symm h1]
        · simp [h2]

theorem lookup_remove (k j : String) (l : List (String × α)) :
    lookup j (remove k l) = if k = j then none else lookup j l := by
  induction l with
  | nil => simp [remove, lookup]
  | cons kv rest ih =>
    obtain ⟨k', v'⟩ := kv
    by_cases h1 : k' = k
    · subst h1
      simp only [remove, if_true, ih]
      by_cases h2 : k' = j <;> simp [lookup, h2]
    · simp only [remove, h1, if_false, lookup, ih]
      by_cases h2 : k' = j
      · subst h2; simp [Ne.symm h1]
      · simp [h2]

/-- What `insert` does, seen through `get?`. -/
@[simp] theorem get?_insert (t : Keyed α) (k j : String) (v : α) :
    (t.insert k v).get? j = if k = j then some v else t.get? j :=
  lookup_place k j v t.toList

/-- What `erase` does, seen through `get?`. -/
@[simp] theorem get?_erase (t : Keyed α) (k j : String) :
    (t.erase k).get? j = if k = j then none else t.get? j :=
  lookup_remove k j t.toList

@[simp] theorem get?_empty (j : String) : (empty : Keyed α).get? j = none := rfl

end Keyed

end Courier
