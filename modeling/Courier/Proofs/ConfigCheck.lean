import Mathlib
import Courier.Config.Decode

/-!
# Which error a configuration check reports

`BrokerConfig.validate` reads a configuration once: the capacity first, then the strands in list
order, each against the names read before it. Its answer is fixed by the first *faulty* position
of the list of names: one whose name is no valid strand id or repeats an earlier name
(`BrokerConfig.Faulty`).

* The check passes exactly when the capacity is positive and the names are valid and distinct.
* A zero capacity is reported before anything else.
* Otherwise the first faulty name is reported: as an invalid id, with the first rule of
  `Strand.check` it breaks, when it is one; as a duplicate when it is valid
  (`BrokerConfig.Reports`). A later fault, even an invalid id, is never reported first.

Reading a configuration from TOML succeeds exactly when the text reads as a configuration that
passes the check (`validate_reports_first_fault`).
-/

namespace Courier

namespace Strand

/-- `r` is the first rule, in the order empty, too long, separator, that `id` breaks. -/
def Invalid.FirstBroken : Invalid → String → Prop
  | .empty, id => id = ""
  | .tooLong, id => id ≠ "" ∧ maxBytes < id.utf8ByteSize
  | .separator, id => id ≠ "" ∧ id.utf8ByteSize ≤ maxBytes ∧ ':' ∈ id.toList

/-- The check of an id refuses it with the first rule it breaks. -/
theorem check_eq_error_iff (id : String) (r : Invalid) :
    check id = .error r ↔ r.FirstBroken id := by
  unfold check
  by_cases he : id = ""
  · subst he
    cases r <;> simp [Invalid.FirstBroken]
  · have hne : id.isEmpty = false := by simpa [String.isEmpty_iff] using he
    by_cases hl : maxBytes < id.utf8ByteSize
    · cases r <;> simp [Invalid.FirstBroken, hne, hl, he, Nat.not_le.2 hl]
    · by_cases hc : ':' ∈ id.toList
      · cases r <;> simp [Invalid.FirstBroken, hne, hl, he, hc, Nat.not_lt.1 hl]
      · cases r <;> simp [Invalid.FirstBroken, hne, hl, he, hc]

end Strand

namespace BrokerConfig

/-- The names of a configuration's strands, in order. -/
def names (c : BrokerConfig) : List String := c.strands.map (·.name)

/-- Position `i` of `names` holds `n`, which is no valid strand id or was seen already: it is
among `seen` or at an earlier position of `names`. -/
def Faulty (seen names : List String) (i : Nat) (n : String) : Prop :=
  names[i]? = some n ∧ (¬ Strand.Valid n ∨ n ∈ seen ∨ ∃ j < i, names[j]? = some n)

/-- The error that reports the faulty name `n`: the first rule its id breaks, or, for a valid
id, that it is listed twice. -/
def Reports (n : String) (e : ConfigError) : Prop :=
  (∃ r, r.FirstBroken n ∧ e = .invalidStrand n r) ∨ (Strand.Valid n ∧ e = .duplicateStrand n)

theorem faulty_cons_zero {seen names : List String} {a n : String} :
    Faulty seen (a :: names) 0 n ↔ a = n ∧ (¬ Strand.Valid n ∨ n ∈ seen) := by
  simp [Faulty]

/-- One position further along the list is one name more seen. -/
theorem faulty_cons_succ {seen names : List String} {a n : String} {k : Nat} :
    Faulty seen (a :: names) (k + 1) n ↔ Faulty (a :: seen) names k n := by
  simp only [Faulty, List.getElem?_cons_succ, List.mem_cons]
  constructor
  · rintro ⟨hk, hv | hs | ⟨j, hj, hjn⟩⟩
    · exact ⟨hk, .inl hv⟩
    · exact ⟨hk, .inr (.inl (.inr hs))⟩
    · cases j with
      | zero => exact ⟨hk, .inr (.inl (.inl (by simpa using hjn.symm)))⟩
      | succ j => exact ⟨hk, .inr (.inr ⟨j, by omega, by simpa using hjn⟩)⟩
  · rintro ⟨hk, hv | (ha | hs) | ⟨j, hj, hjn⟩⟩
    · exact ⟨hk, .inl hv⟩
    · exact ⟨hk, .inr (.inr ⟨0, by omega, by simp [ha]⟩)⟩
    · exact ⟨hk, .inr (.inl hs)⟩
    · exact ⟨hk, .inr (.inr ⟨j + 1, by omega, by simpa using hjn⟩)⟩

theorem checkStrands_cons (seen : List String) (e : StrandEntry) (rest : List StrandEntry) :
    checkStrands seen (e :: rest) =
      match Strand.check e.name with
      | .error reason => .error (.invalidStrand e.name reason)
      | .ok () =>
        if seen.contains e.name then .error (.duplicateStrand e.name)
        else checkStrands (e.name :: seen) rest := rfl

/-- A name that passes both checks is read past, and the rest is checked with it seen. -/
theorem checkStrands_cons_of_fresh {seen : List String} {e : StrandEntry}
    (hv : Strand.Valid e.name) (hs : e.name ∉ seen) (rest : List StrandEntry) :
    checkStrands seen (e :: rest) = checkStrands (e.name :: seen) rest := by
  rw [checkStrands_cons, (Strand.check_ok_iff _).2 hv]
  simp [hs]

/-- The strands pass when their names are valid, distinct and none of them seen. -/
theorem checkStrands_eq_ok_iff (seen : List String) (l : List StrandEntry) :
    checkStrands seen l = .ok () ↔
      (∀ n ∈ l.map (·.name), Strand.Valid n ∧ n ∉ seen) ∧ (l.map (·.name)).Nodup := by
  induction l generalizing seen with
  | nil => simp [checkStrands]
  | cons e rest ih =>
    by_cases hv : Strand.Valid e.name
    · by_cases hs : e.name ∈ seen
      · have hdup : checkStrands seen (e :: rest) = .error (.duplicateStrand e.name) := by
          rw [checkStrands_cons, (Strand.check_ok_iff _).2 hv]
          simp [hs]
        rw [hdup]
        simp only [reduceCtorEq, false_iff, not_and]
        intro hall
        exact absurd hs (hall e.name List.mem_cons_self).2
      · rw [checkStrands_cons_of_fresh hv hs, ih]
        simp only [List.map_cons, List.mem_cons, forall_eq_or_imp, List.nodup_cons, not_or]
        grind
    · have hinv : ∃ r, checkStrands seen (e :: rest) = .error (.invalidStrand e.name r) := by
        cases hc : Strand.check e.name with
        | error r => exact ⟨r, by rw [checkStrands_cons, hc]⟩
        | ok u => exact absurd ((Strand.check_ok_iff _).1 hc) hv
      obtain ⟨r, hr⟩ := hinv
      rw [hr]
      simp only [reduceCtorEq, false_iff, not_and]
      intro hall
      exact absurd (hall e.name List.mem_cons_self).1 hv

/-- The check stops at the first faulty position and reports its name. The induction runs
along the list; one position on, the name passed is among those seen. -/
theorem checkStrands_first_fault (seen : List String) (l : List StrandEntry) (i : Nat)
    (n : String) (hi : Faulty seen (l.map (·.name)) i n)
    (hfirst : ∀ k < i, ∀ n', ¬ Faulty seen (l.map (·.name)) k n') :
    ∃ e, checkStrands seen l = .error e ∧ Reports n e := by
  induction l generalizing seen i with
  | nil => simp [Faulty] at hi
  | cons a rest ih =>
    cases i with
    | zero =>
      obtain ⟨rfl, hbad⟩ := faulty_cons_zero.1 hi
      cases hc : Strand.check a.name with
      | error r =>
        exact ⟨_, by rw [checkStrands_cons, hc],
          .inl ⟨r, (Strand.check_eq_error_iff _ _).1 hc, rfl⟩⟩
      | ok u =>
        have hv := (Strand.check_ok_iff _).1 hc
        have hs : a.name ∈ seen := hbad.resolve_left (not_not_intro hv)
        refine ⟨_, ?_, .inr ⟨hv, rfl⟩⟩
        rw [checkStrands_cons, hc]
        simp [hs]
    | succ k =>
      -- the first name is no fault, so the check reads past it
      have hhead : Strand.Valid a.name ∧ a.name ∉ seen := by
        by_contra hbad
        refine hfirst 0 (Nat.zero_lt_succ k) a.name (faulty_cons_zero.2 ⟨rfl, ?_⟩)
        by_cases hv : Strand.Valid a.name
        · exact .inr (by simpa [hv] using hbad)
        · exact .inl hv
      rw [checkStrands_cons_of_fresh hhead.1 hhead.2]
      exact ih (a.name :: seen) k (faulty_cons_succ.1 hi)
        fun k' hk' n' hf => hfirst (k' + 1) (by omega) n' (faulty_cons_succ.2 hf)

/-- Reading a configuration from TOML gives what the text reads as, once it passes the check. -/
theorem ofToml_eq_ok_iff (text : String) (c : BrokerConfig) :
    ofToml text = .ok c ↔ parseToml text = .ok c ∧ c.validate = .ok () := by
  unfold ofToml
  cases hp : parseToml text with
  | error e => simp [bind, Except.bind]
  | ok c' =>
    cases hv : c'.validate with
    | error e =>
      simp only [bind, Except.bind, hv, reduceCtorEq, false_iff, not_and, Except.ok.injEq]
      rintro rfl
      simp [hv]
    | ok u =>
      simp only [bind, Except.bind, hv, pure, Except.pure, Except.ok.injEq]
      constructor
      · rintro rfl
        exact ⟨rfl, hv⟩
      · rintro ⟨rfl, -⟩
        rfl

end BrokerConfig

open BrokerConfig in
/-- The check of a configuration passes exactly when the capacity is positive and the strand
names are valid and distinct. A zero capacity is reported first; otherwise the error is the one
for the first faulty name, the rule its id breaks taking precedence over its repeating an earlier
name. Reading a configuration from TOML succeeds exactly when the text reads as one that
passes the check. -/
theorem validate_reports_first_fault (c : BrokerConfig) :
    (c.validate = .ok () ↔
      0 < c.channelCapacity ∧ (∀ n ∈ c.names, Strand.Valid n) ∧ c.names.Nodup) ∧
    (c.channelCapacity = 0 → c.validate = .error .zeroCapacity) ∧
    (0 < c.channelCapacity → ∀ i n, Faulty [] c.names i n →
      (∀ k < i, ∀ n', ¬ Faulty [] c.names k n') →
      ∃ e, c.validate = .error e ∧ Reports n e) ∧
    ∀ text, ofToml text = .ok c ↔ parseToml text = .ok c ∧ c.validate = .ok () := by
  refine ⟨?_, fun h0 => by simp [validate, h0], fun hpos i n hi hfirst => ?_,
    fun text => ofToml_eq_ok_iff text c⟩
  · by_cases h0 : c.channelCapacity = 0
    · simp [validate, h0]
    · simp only [validate, if_neg h0, checkStrands_eq_ok_iff, names, List.not_mem_nil,
        not_false_eq_true, and_true]
      exact ⟨fun h => ⟨Nat.pos_of_ne_zero h0, h⟩, fun h => h.2⟩
  · have h0 : c.channelCapacity ≠ 0 := by omega
    simp only [validate, if_neg h0]
    exact checkStrands_first_fault [] c.strands i n hi hfirst

/-- Names `a`, `b`, `a`, `""`: the repeated `a` at position two is the first fault, so it is
reported as a duplicate although the empty id after it is invalid. -/
theorem validate_reports_first_fault_before_an_empty_id :
    let c : BrokerConfig := { strands := [{ name := "a" }, { name := "b" }, { name := "a" },
      { name := "" }] }
    BrokerConfig.Faulty [] c.names 2 "a" ∧ (∀ k < 2, ∀ n', ¬ BrokerConfig.Faulty [] c.names k n') ∧
      ∃ e, c.validate = .error e ∧ BrokerConfig.Reports "a" e := by
  intro c
  have hfault : BrokerConfig.Faulty [] c.names 2 "a" := ⟨rfl, .inr (.inr ⟨0, by omega, rfl⟩)⟩
  have hfirst : ∀ k < 2, ∀ n', ¬ BrokerConfig.Faulty [] c.names k n' := by
    intro k hk n' hf
    obtain ⟨hkn, hbad⟩ := hf
    interval_cases k
    · simp only [c, BrokerConfig.names, List.map_cons, List.getElem?_cons_zero,
        Option.some.injEq] at hkn
      subst hkn
      rcases hbad with hv | hs | ⟨j, hj, -⟩
      · exact hv ((Strand.check_ok_iff _).1 (by decide))
      · simp at hs
      · omega
    · simp only [c, BrokerConfig.names, List.map_cons, List.getElem?_cons_succ,
        List.getElem?_cons_zero, Option.some.injEq] at hkn
      subst hkn
      rcases hbad with hv | hs | ⟨j, hj, hjn⟩
      · exact hv ((Strand.check_ok_iff _).1 (by decide))
      · simp at hs
      · interval_cases j
        simp [c, BrokerConfig.names] at hjn
  exact ⟨hfault, hfirst,
    (validate_reports_first_fault c).2.2.1 (by decide) 2 "a" hfault hfirst⟩

end Courier
