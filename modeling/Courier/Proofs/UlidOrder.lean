import Mathlib
import Courier.Ulid

/-!
# The order of generated ids

An id is written as 26 digits of Crockford's base 32, most significant first. Fixed-width digits
keep the order of the numbers they write (`digits_lt_digits`) and read back to them
(`readDigits_digits`), so the text order of ids is the order of their 128-bit values, and the
first ten digits of an id read back as its top 48 bits, its millisecond (`millisOf_encode`).

A generator fed clock readings below `2 ^ 48` hands out ids that increase: each one is the last
plus one when the reading is not past the last id's millisecond, and otherwise an id of the
reading's millisecond, which outweighs any entropy of an earlier millisecond (`next_spec`). The
one thing that breaks this is an increment with no entropy left; `Generator.IncrementsFit` says
that a run of readings never asks for one. Along such a run the stamps' ids increase
(`stamps_increase`), and at every point of it the next id relates to the last as
`ulid_stamps_increase` states.
-/

namespace Courier.Ulid

/-! ## Fixed-width digits -/

theorem digits_zero (n : Nat) : digits 0 n = [] := rfl

theorem digits_succ (k n : Nat) :
    digits (k + 1) n = alphabet.getD (n / 32 ^ k % 32) '0' :: digits k n := by
  simp [digits, List.range_succ, Nat.pow_eq]

theorem digits_length (k n : Nat) : (digits k n).length = k := by
  simp [digits]

/-- The last `k` digits of a number depend only on it modulo `32 ^ k`. -/
theorem digits_mod (k n : Nat) : digits k (n % 32 ^ k) = digits k n := by
  induction k generalizing n with
  | zero => rfl
  | succ k ih =>
    have hhead : n % 32 ^ (k + 1) / 32 ^ k % 32 = n / 32 ^ k % 32 := by
      rw [Nat.pow_succ, Nat.mod_mul_right_div_self, Nat.mod_mod]
    have htail : n % 32 ^ (k + 1) % 32 ^ k = n % 32 ^ k :=
      Nat.mod_mod_of_dvd n (Nat.pow_dvd_pow 32 (Nat.le_succ k))
    rw [digits_succ, digits_succ, hhead, ← ih (n % 32 ^ (k + 1)), htail, ih]

/-- `j + k` digits are the `j` digits of the number's high part, then its `k` low digits. -/
theorem digits_append (j k n : Nat) : digits (j + k) n = digits j (n / 32 ^ k) ++ digits k n := by
  induction j with
  | zero => simp [digits_zero]
  | succ j ih =>
    rw [Nat.add_right_comm, digits_succ, ih, digits_succ, Nat.div_div_eq_div_mul, ← Nat.pow_add,
      Nat.add_comm k j]
    rfl

theorem alphabet_lt : ∀ i ∈ List.range 32, ∀ j ∈ List.range 32, i < j →
    alphabet.getD i '0' < alphabet.getD j '0' := by decide

theorem digitValue_alphabet : ∀ i ∈ List.range 32, digitValue (alphabet.getD i '0') = some i := by
  decide

/-- Fixed-width digits keep the order of the numbers they write. -/
theorem digits_lt_digits {k a b : Nat} (hab : a < b) (hb : b < 32 ^ k) :
    digits k a < digits k b := by
  induction k generalizing a b with
  | zero => omega
  | succ k ih =>
    rw [digits_succ, digits_succ]
    have hpos : 0 < 32 ^ k := by positivity
    have hqb : b / 32 ^ k < 32 := by
      rw [Nat.div_lt_iff_lt_mul hpos]; rw [Nat.pow_succ] at hb; linarith
    have hqa : a / 32 ^ k ≤ b / 32 ^ k := Nat.div_le_div_right hab.le
    rw [Nat.mod_eq_of_lt hqb, Nat.mod_eq_of_lt (by omega)]
    rcases Nat.lt_or_eq_of_le hqa with hlt | heq
    · -- the leading digits already differ
      exact List.Lex.rel (alphabet_lt _ (List.mem_range.2 (by omega)) _ (List.mem_range.2 hqb) hlt)
    · -- equal leading digits: the order is that of the remainders
      rw [heq, ← digits_mod k a, ← digits_mod k b]
      refine List.Lex.cons (ih ?_ (Nat.mod_lt _ hpos))
      have ha := Nat.div_add_mod a (32 ^ k)
      have hb' := Nat.div_add_mod b (32 ^ k)
      rw [heq] at ha
      omega

/-- One step of `readDigits`. -/
def readStep (acc : Option Nat) (c : Char) : Option Nat := do
  let a ← acc; let d ← digitValue c; pure (a * 32 + d)

theorem readDigits_eq (cs : List Char) : readDigits cs = cs.foldl readStep (some 0) := rfl

theorem foldl_readStep_digits (k a n : Nat) (hn : n < 32 ^ k) :
    (digits k n).foldl readStep (some a) = some (a * 32 ^ k + n) := by
  induction k generalizing a n with
  | zero => simp [digits_zero] at hn ⊢; omega
  | succ k ih =>
    have hpos : 0 < 32 ^ k := by positivity
    have hq : n / 32 ^ k < 32 := by
      rw [Nat.div_lt_iff_lt_mul hpos]; rw [Nat.pow_succ] at hn; linarith
    have hd : digitValue (alphabet.getD (n / 32 ^ k % 32) '0') = some (n / 32 ^ k) := by
      rw [Nat.mod_eq_of_lt hq]; exact digitValue_alphabet _ (List.mem_range.2 hq)
    rw [digits_succ, List.foldl_cons, ← digits_mod k n]
    simp only [readStep, hd, Option.bind_eq_bind, Option.bind_some, Option.pure_def]
    rw [ih _ _ (Nat.mod_lt _ hpos)]
    congr 1
    conv_rhs => rw [← Nat.div_add_mod n (32 ^ k)]
    ring

/-- Fixed-width digits read back to the number they write. -/
theorem readDigits_digits {k n : Nat} (hn : n < 32 ^ k) : readDigits (digits k n) = some n := by
  rw [readDigits_eq, foldl_readStep_digits k 0 n hn, Nat.zero_mul, Nat.zero_add]

/-! ## Ids -/

/-- Both parts of an id fit their bits: 48 of time, 80 of entropy. -/
def Fits (u : Ulid) : Prop := u.millis < 2 ^ 48 ∧ u.entropy < 2 ^ 80

theorem value_eq (u : Ulid) : u.value = u.millis * 2 ^ 80 + u.entropy := rfl

theorem Fits.value_lt {u : Ulid} (h : u.Fits) : u.value < 2 ^ 128 :=
  calc u.value < (u.millis + 1) * 2 ^ 80 := by rw [value_eq]; linarith [h.2]
    _ ≤ 2 ^ 48 * 2 ^ 80 := Nat.mul_le_mul_right _ h.1
    _ = 2 ^ 128 := by norm_num

/-- The top bits of an id's value are its millisecond. -/
theorem value_div {u : Ulid} (h : u.entropy < 2 ^ 80) : u.value / 2 ^ 80 = u.millis := by
  rw [value_eq, Nat.mul_comm, Nat.mul_add_div (by positivity), Nat.div_eq_of_lt h, Nat.add_zero]

theorem encode_toList (u : Ulid) : u.encode.toList = digits 26 u.value := by
  simp [encode]

theorem encode_length (u : Ulid) : u.encode.length = 26 := by
  rw [← String.length_toList, encode_toList, digits_length]

theorem readDigits_encode {u : Ulid} (h : u.Fits) : readDigits u.encode.toList = some u.value := by
  rw [encode_toList]
  exact readDigits_digits (lt_of_lt_of_le h.value_lt (by norm_num))

/-- The first ten digits of an id's text read back as the top 48 bits of its value. -/
theorem millisOf_encode {u : Ulid} (h : u.Fits) : millisOf? u.encode = some (u.value / 2 ^ 80) := by
  have hsplit : digits 26 u.value = digits 10 (u.value / 32 ^ 16) ++ digits 16 u.value :=
    digits_append 10 16 u.value
  have hpow : (32 : Nat) ^ 16 = 2 ^ 80 := by norm_num
  have htop : u.value / 2 ^ 80 < 32 ^ 10 := by
    rw [Nat.div_lt_iff_lt_mul (by positivity)]
    exact lt_of_lt_of_le h.value_lt (by norm_num)
  rw [millisOf?, encode_toList, hsplit, List.take_left' (digits_length 10 _), hpow]
  exact readDigits_digits htop

/-- The text of ids keeps the order of their values. -/
theorem encode_lt_encode {u v : Ulid} (huv : u.value < v.value) (hv : v.Fits) :
    u.encode < v.encode := by
  show u.encode.toList < v.encode.toList
  rw [encode_toList, encode_toList]
  exact digits_lt_digits huv (lt_of_lt_of_le hv.value_lt (by norm_num))

/-! ## One id -/

namespace Generator

variable {g : Generator} {now : Int} {e : Nat}

/-- A reading at or before the last id's millisecond, with entropy to spare, gives the last id
plus one. -/
theorem next_of_le (hle : now.toNat ≤ g.last.millis) (hfit : g.last.entropy + 1 < 2 ^ 80) :
    g.next now e = (⟨g.last.millis, g.last.entropy + 1⟩, ⟨⟨g.last.millis, g.last.entropy + 1⟩⟩) := by
  unfold next
  rw [if_pos hle, if_pos (show g.last.entropy + 1 < Nat.pow 2 entropyBits from hfit)]

/-- A later reading starts its own millisecond. -/
theorem next_of_lt (hlt : g.last.millis < now.toNat) :
    g.next now e = (⟨millisOfInstant now, e % 2 ^ 80⟩, ⟨⟨millisOfInstant now, e % 2 ^ 80⟩⟩) := by
  unfold next
  rw [if_neg (by omega)]
  rfl

theorem millisOfInstant_of_lt (h : now < 2 ^ 48) : millisOfInstant now = now.toNat := by
  simp only [millisOfInstant, timeBits, Nat.pow_eq]
  exact Nat.mod_eq_of_lt (by omega)

/-- The last id keeps fitting its bits, whatever the reading. -/
theorem Fits.next (hg : g.last.Fits) : (g.next now e).2.last.Fits := by
  unfold Generator.next
  split_ifs with hle hfit
  · exact ⟨hg.1, hfit⟩
  · exact hg
  · exact ⟨Nat.mod_lt _ (Nat.two_pow_pos _), Nat.mod_lt _ (Nat.two_pow_pos _)⟩

/-- With no increment running out, the generator's new last id is the id it gave. -/
theorem next_last (hfit : now.toNat ≤ g.last.millis → g.last.entropy + 1 < 2 ^ 80) :
    (g.next now e).2.last = (g.next now e).1 := by
  by_cases hle : now.toNat ≤ g.last.millis
  · rw [next_of_le hle (hfit hle)]
  · rw [next_of_lt (by omega)]

/-- One id, from a generator whose last id fits, at a reading below `2 ^ 48` that does not run
the entropy out: it fits, lies above the last id, and is either the last id plus one or an id of
the reading's millisecond. -/
theorem next_spec (hg : g.last.Fits) (hnow : now < 2 ^ 48)
    (hfit : now.toNat ≤ g.last.millis → g.last.entropy + 1 < 2 ^ 80) :
    (g.next now e).2.last = (g.next now e).1 ∧ (g.next now e).1.Fits ∧
      g.last.value < (g.next now e).1.value ∧
      (now.toNat ≤ g.last.millis → (g.next now e).1.value = g.last.value + 1) ∧
      (g.last.millis < now.toNat → (g.next now e).1.millis = now.toNat) := by
  refine ⟨next_last hfit, ?_⟩
  by_cases hle : now.toNat ≤ g.last.millis
  · rw [next_of_le hle (hfit hle)]
    refine ⟨⟨hg.1, hfit hle⟩, ?_, fun _ => ?_, fun h => absurd h (by omega)⟩
    · simp only [value_eq]; omega
    · simp only [value_eq]; omega
  · rw [next_of_lt (by omega), millisOfInstant_of_lt hnow]
    have he : e % 2 ^ 80 < 2 ^ 80 := Nat.mod_lt _ (by positivity)
    refine ⟨⟨show now.toNat < 2 ^ 48 by omega, he⟩, ?_, fun h => absurd h hle, fun _ => rfl⟩
    -- a later millisecond outweighs any entropy
    show g.last.value < now.toNat * 2 ^ 80 + e % 2 ^ 80
    calc g.last.value < (g.last.millis + 1) * 2 ^ 80 := by rw [value_eq]; linarith [hg.2]
      _ ≤ now.toNat * 2 ^ 80 := Nat.mul_le_mul_right _ (by omega)
      _ ≤ _ := Nat.le_add_right _ _

theorem stamp_fst (g : Generator) (now : Int) (e : Nat) :
    (g.stamp now e).1 = { id := (g.next now e).1.encode, timestamp := now / 1000 } := rfl

theorem stamp_snd (g : Generator) (now : Int) (e : Nat) : (g.stamp now e).2 = (g.next now e).2 :=
  rfl

/-! ## Runs -/

/-- The generator after stamping each reading in turn; a reading comes with the entropy drawn
for it. -/
def after (g : Generator) (rs : List (Int × Nat)) : Generator :=
  rs.foldl (fun g r => (g.stamp r.1 r.2).2) g

/-- The stamps given for the readings in turn. -/
def stamps : Generator → List (Int × Nat) → List Stamp
  | _, [] => []
  | g, r :: rest => (g.stamp r.1 r.2).1 :: stamps (g.stamp r.1 r.2).2 rest

/-- No increment along the readings runs out of entropy: whenever a reading falls at or before
the millisecond of the generator's last id, that id's entropy is not all ones. -/
def IncrementsFit : Generator → List (Int × Nat) → Prop
  | _, [] => True
  | g, r :: rest =>
    (r.1.toNat ≤ g.last.millis → g.last.entropy + 1 < 2 ^ 80) ∧ IncrementsFit (g.stamp r.1 r.2).2 rest

theorem incrementsFit_append (g : Generator) (pre rs : List (Int × Nat)) :
    g.IncrementsFit (pre ++ rs) ↔ g.IncrementsFit pre ∧ (g.after pre).IncrementsFit rs := by
  induction pre generalizing g with
  | nil => simp [IncrementsFit, after]
  | cons r pre ih =>
    simp only [List.cons_append, IncrementsFit, ih, after, List.foldl_cons, and_assoc]

theorem Fits.after (hg : g.last.Fits) (rs : List (Int × Nat)) : (g.after rs).last.Fits := by
  induction rs generalizing g with
  | nil => exact hg
  | cons r rest ih => exact ih (Fits.next hg)

/-- With no increment running out, the last stamp of a run carries the generator's last id. -/
theorem last_stamp (rs : List (Int × Nat)) (hfit : g.IncrementsFit rs) :
    ∀ p ∈ (g.stamps rs).getLast?, p.id = (g.after rs).last.encode := by
  induction rs generalizing g with
  | nil => simp [stamps]
  | cons r rest ih =>
    intro p hp
    cases rest with
    | nil =>
      simp only [stamps, List.getLast?_singleton, Option.mem_def, Option.some.injEq] at hp
      rw [← hp, stamp_fst, after, List.foldl_cons, List.foldl_nil, stamp_snd, next_last hfit.1]
    | cons r' rest =>
      have hne : (g.stamp r.1 r.2).2.stamps (r' :: rest) ≠ [] := by simp [stamps]
      rw [stamps, List.getLast?_cons, List.getLast?_eq_some_getLast hne, Option.getD_some] at hp
      exact ih hfit.2 p (by rw [List.getLast?_eq_some_getLast hne]; exact hp)

/-- Along a run of readings below `2 ^ 48` that runs no increment out, every stamp's id is above
the generator's last id, and the ids increase. -/
theorem stamps_increase (rs : List (Int × Nat)) (hg : g.last.Fits)
    (hread : ∀ r ∈ rs, r.1 < 2 ^ 48) (hfit : g.IncrementsFit rs) :
    (∀ s ∈ g.stamps rs, g.last.encode < s.id) ∧ ((g.stamps rs).map (·.id)).Pairwise (· < ·) := by
  induction rs generalizing g with
  | nil => simp [stamps]
  | cons r rest ih =>
    obtain ⟨hlast, hu, hlt, -, -⟩ := next_spec (e := r.2) hg (hread r List.mem_cons_self) hfit.1
    have hnext : g.last.encode < (g.next r.1 r.2).1.encode := encode_lt_encode hlt hu
    have hrest := ih (g := (g.stamp r.1 r.2).2) (by rw [stamp_snd, hlast]; exact hu)
      (fun r' h => hread r' (List.mem_cons_of_mem _ h)) hfit.2
    rw [stamp_snd, hlast] at hrest
    refine ⟨?_, ?_⟩
    · intro s hs
      rcases List.mem_cons.1 hs with rfl | hs
      · exact hnext
      · exact String.lt_trans hnext (hrest.1 s hs)
    · refine List.pairwise_cons.2 ⟨?_, hrest.2⟩
      intro x hx
      obtain ⟨s, hs, rfl⟩ := List.mem_map.1 hx
      exact hrest.1 s hs

end Generator

open Generator in
/-- Ids from one generator fed clock readings below `2 ^ 48`, none of which runs an increment
out of entropy. At every point of such a run, with `g` the generator after the readings so far
(whose last id is the last id given, or the nil id at first), the id given for the next reading
is the 26-digit text of a 128-bit value whose first ten digits read as its top 48 bits; it lies
above the last id as a number and as text; it is the last id plus one when the reading is not
past the last id's millisecond, and has the reading's millisecond as its top bits otherwise.
The stamp carries the reading's seconds, rounded down, and the whole run's ids increase. -/
theorem ulid_stamps_increase (pre : List (Int × Nat)) (now : Int) (e : Nat)
    (hread : ∀ r ∈ pre ++ [(now, e)], r.1 < 2 ^ 48)
    (hfit : ({} : Generator).IncrementsFit (pre ++ [(now, e)])) :
    let g := ({} : Generator).after pre
    let u := (g.next now e).1
    let s := (g.stamp now e).1
    (∀ p ∈ (({} : Generator).stamps pre).getLast?, p.id = g.last.encode) ∧
    s.id = u.encode ∧ s.id.length = 26 ∧ u.value < 2 ^ 128 ∧
    readDigits s.id.toList = some u.value ∧ millisOf? s.id = some (u.value / 2 ^ 80) ∧
    g.last.value < u.value ∧ g.last.encode < s.id ∧
    (now.toNat ≤ g.last.millis → u.value = g.last.value + 1) ∧
    (g.last.millis < now.toNat → u.value / 2 ^ 80 = now.toNat) ∧
    s.timestamp * 1000 ≤ now ∧ now < s.timestamp * 1000 + 1000 ∧
    ((({} : Generator).stamps (pre ++ [(now, e)])).map (·.id)).Pairwise (· < ·) := by
  intro g u s
  obtain ⟨hpre, hlastFit⟩ := (incrementsFit_append _ pre [(now, e)]).1 hfit
  have hnil : ({} : Generator).last.Fits := ⟨by norm_num, by norm_num⟩
  have hg : g.last.Fits := Fits.after hnil pre
  obtain ⟨-, hu, hlt, hinc, hfresh⟩ :=
    next_spec (e := e) hg (hread _ (List.mem_append_right _ (List.mem_singleton_self _)))
      hlastFit.1
  refine ⟨last_stamp pre hpre, rfl, encode_length u, hu.value_lt, readDigits_encode hu,
    millisOf_encode hu, hlt, encode_lt_encode hlt hu, hinc,
    fun h => by rw [value_div hu.2, hfresh h], ?_, ?_, (stamps_increase _ hnil hread hfit).2⟩
  · show now / 1000 * 1000 ≤ now; omega
  · show now < now / 1000 * 1000 + 1000; omega

/-- Under a clock at or before the epoch the ids count up from one. -/
example : (({} : Generator).stamps [(-5, 7), (0, 3), (-1, 2)]).map (·.id) =
    ["00000000000000000000000001", "00000000000000000000000002", "00000000000000000000000003"] := by
  decide

open Generator in
/-- Readings before the epoch, at it, and then in 2023: the first two ids count up from the nil
id, and the third starts its own millisecond. -/
theorem ulid_stamps_increase_across_the_epoch :
    (∀ r ∈ [((-5 : Int), 7), (0, 3)] ++ [(1700000000000, 9)], r.1 < 2 ^ 48) ∧
    ({} : Generator).IncrementsFit ([(-5, 7), (0, 3)] ++ [(1700000000000, 9)]) ∧
    let g := ({} : Generator).after [(-5, 7), (0, 3)]
    let u := (g.next 1700000000000 9).1
    let s := (g.stamp 1700000000000 9).1
    (∀ p ∈ (({} : Generator).stamps [(-5, 7), (0, 3)]).getLast?, p.id = g.last.encode) ∧
    s.id = u.encode ∧ s.id.length = 26 ∧ u.value < 2 ^ 128 ∧
    readDigits s.id.toList = some u.value ∧ millisOf? s.id = some (u.value / 2 ^ 80) ∧
    g.last.value < u.value ∧ g.last.encode < s.id ∧
    ((1700000000000 : Int).toNat ≤ g.last.millis → u.value = g.last.value + 1) ∧
    (g.last.millis < (1700000000000 : Int).toNat →
      u.value / 2 ^ 80 = (1700000000000 : Int).toNat) ∧
    s.timestamp * 1000 ≤ 1700000000000 ∧ 1700000000000 < s.timestamp * 1000 + 1000 ∧
    ((({} : Generator).stamps ([(-5, 7), (0, 3)] ++ [(1700000000000, 9)])).map (·.id)).Pairwise
      (· < ·) := by
  have hread : ∀ r ∈ [((-5 : Int), 7), (0, 3)] ++ [(1700000000000, 9)], r.1 < 2 ^ 48 := by decide
  have hfit : ({} : Generator).IncrementsFit ([(-5, 7), (0, 3)] ++ [(1700000000000, 9)]) := by
    refine ⟨?_, ?_, ?_, trivial⟩ <;> decide
  exact ⟨hread, hfit, ulid_stamps_increase [(-5, 7), (0, 3)] 1700000000000 9 hread hfit⟩

end Courier.Ulid
