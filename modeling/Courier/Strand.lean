/-!
# Strands

A strand is a named queue. Its id is the key under which a store keeps it, so an id must be
usable inside a store key: it is non-empty, at most 255 bytes of UTF-8, and free of `':'`,
the separator of record keys in the disk store (`Courier.Store.Disk`).

`Strand.check` applies the three rules in a fixed order, and `Strand.Invalid` names the first
rule an id breaks. `StrandConf` is the per-strand configuration: whether the strand lives in
the durable store, and whether it asks for ordered delivery.
-/

namespace Courier

/-- The longest strand id, counted in bytes of its UTF-8 form. -/
def Strand.maxBytes : Nat := 255

/-- Why a strand id is refused: the first rule of `Strand.check` that it breaks. -/
inductive Strand.Invalid where
  /-- The id has no characters. -/
  | empty
  /-- The id takes more than `Strand.maxBytes` bytes. -/
  | tooLong
  /-- The id contains the key separator `':'`. -/
  | separator
  deriving DecidableEq, Repr

/-- The sentence that reports a refused id. -/
def Strand.Invalid.message : Strand.Invalid → String
  | .empty => "strand id is empty"
  | .tooLong => "strand id exceeds 255 bytes"
  | .separator => "strand id contains ':'"

/-- The name of a refusal as a word (`Empty`, `TooLong`, `ContainsSeparator`). -/
def Strand.Invalid.name : Strand.Invalid → String
  | .empty => "Empty"
  | .tooLong => "TooLong"
  | .separator => "ContainsSeparator"

/-- Checks a strand id: empty first, then the byte length, then the separator. -/
def Strand.check (id : String) : Except Strand.Invalid Unit :=
  if id.isEmpty then .error .empty
  else if id.utf8ByteSize > Strand.maxBytes then .error .tooLong
  else if id.toList.contains ':' then .error .separator
  else .ok ()

/-- An id that passes every rule of `Strand.check`. -/
def Strand.Valid (id : String) : Prop :=
  id ≠ "" ∧ id.utf8ByteSize ≤ Strand.maxBytes ∧ ':' ∉ id.toList

/-- Per-strand configuration: the owning store and the ordering request. -/
structure StrandConf where
  /-- The strand lives in the durable store. -/
  durable : Bool := false
  /-- Delivery order is asked to follow send order. -/
  ordered : Bool := false
  deriving DecidableEq, Repr, Inhabited

/-- A strand kept in the durable store, unordered. -/
def StrandConf.persistent : StrandConf := { durable := true }

/-- A strand kept in memory only, unordered; also the default configuration. -/
def StrandConf.transient : StrandConf := {}

/-- The same configuration, asking for ordered delivery. -/
def StrandConf.withOrder (c : StrandConf) : StrandConf := { c with ordered := true }

/-- Which of the two stores owns a strand. -/
inductive Durability where
  /-- The durable store. -/
  | durable
  /-- The volatile store. -/
  | volatile
  deriving DecidableEq, Repr

/-- The store a configuration asks for. -/
def Durability.ofConf (c : StrandConf) : Durability :=
  if c.durable then .durable else .volatile

/-- The name of a durability as the program writes it. -/
def Durability.name : Durability → String
  | .durable => "Durable"
  | .volatile => "Volatile"

theorem Strand.check_ok_iff (id : String) : Strand.check id = .ok () ↔ Strand.Valid id := by
  unfold Strand.check Strand.Valid
  split
  · rename_i h
    have : id = "" := String.isEmpty_iff.mp h
    simp [this]
  · rename_i h1
    have hne : id ≠ "" := fun e => h1 (String.isEmpty_iff.mpr e)
    split
    · rename_i h2
      simp only [reduceCtorEq, false_iff, not_and]
      intro _
      exact fun h => absurd h (Nat.not_le.mpr h2)
    · rename_i h2
      split
      · rename_i h3
        simp only [reduceCtorEq, false_iff, not_and, Classical.not_not]
        intro _ _
        simpa using h3
      · rename_i h3
        simp only [true_iff]
        exact ⟨hne, Nat.not_lt.mp h2, by simpa using h3⟩

end Courier
