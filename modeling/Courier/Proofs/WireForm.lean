import Courier.Envelope.Decode
import Mathlib.Data.String.Basic

/-!
# The wire form reads back

`Envelope.decode` reads back what `Envelope.encode` writes: every envelope whose timestamp is a
signed 64-bit value comes back whole (`Envelope.decode_encode`), whatever characters its
texts hold.

The reader is a state monad over the characters left, with a line and a column for reports.
`Json.Parses p inp v rest` says that `p`, started on any reader whose characters are `inp`,
answers `v` and leaves `rest`. Parses compose along `>>=` (`Parses.bind`), so each reading
function gets one lemma for the text the writer produces:

- a quoted string reads back its characters, one escape at a time (`parses_stringBody_step`,
  over the three ways `Json.escapeChar` writes a character, `escapeChar_cases`);
- a timestamp reads back from its decimal digits, the digits of a number below `2 ^ 64`
  never overflowing the significand (`parses_readI64`);
- the object reads its five fields in the order they are written (`parses_readFields_field`).
-/

namespace Courier

namespace Json

/-- Started on any reader whose characters left are `inp`, `p` answers `v` and leaves `rest`. -/
def Parses {α : Type} (p : Read α) (inp : List Char) (v : α) (rest : List Char) : Prop :=
  ∀ r : Reader, r.rest = inp → (p.run.run r).1 = .ok v ∧ (p.run.run r).2.rest = rest

/-- Whether `skipBlanks` stops at a character. -/
def NotBlank (c : Char) : Prop := c ≠ ' ' ∧ c ≠ '\t' ∧ c ≠ '\r' ∧ c ≠ '\n'

instance (c : Char) : Decidable (NotBlank c) := inferInstanceAs (Decidable (_ ∧ _))

/-! ## Reading steps -/

theorem run_bind {α β : Type} (x : Read α) (f : α → Read β) (r : Reader) :
    (x >>= f).run.run r = match x.run.run r with
      | (.ok a, r') => (f a).run.run r'
      | (.error e, r') => (.error e, r') := by
  simp only [ExceptT.run_bind, StateT.run_bind]
  rcases x.run.run r with ⟨_ | _, r'⟩ <;> rfl

theorem run_bind_of_ok {α β : Type} {x : Read α} {f : α → Read β} {r : Reader} {a : α}
    (h : (x.run.run r).1 = .ok a) : (x >>= f).run.run r = (f a).run.run (x.run.run r).2 := by
  rw [run_bind]
  rcases hx : x.run.run r with ⟨y, r'⟩
  rw [hx] at h
  simp only at h
  subst h
  rfl

theorem Parses.bind {α β : Type} {p : Read α} {f : α → Read β} {inp mid rest : List Char}
    {a : α} {b : β} (h₁ : Parses p inp a mid) (h₂ : Parses (f a) mid b rest) :
    Parses (p >>= f) inp b rest := by
  intro r hr
  obtain ⟨h1, h2⟩ := h₁ r hr
  rw [run_bind_of_ok h1]
  exact h₂ _ h2

theorem parses_pure {α : Type} (a : α) (inp : List Char) : Parses (pure a) inp a inp :=
  fun _ hr => ⟨rfl, hr⟩

theorem Parses.map {α β : Type} {p : Read α} {f : α → β} {inp rest : List Char} {a : α}
    (h : Parses p inp a rest) : Parses (f <$> p) inp (f a) rest := by
  rw [← bind_pure_comp]
  exact h.bind (parses_pure _ _)

theorem parses_peek (inp : List Char) : Parses peek inp inp.head? inp := by
  intro r hr
  subst hr
  exact ⟨rfl, rfl⟩

theorem advance_rest {r : Reader} {c : Char} {cs : List Char} (h : r.rest = c :: cs) :
    r.advance.rest = cs := by
  obtain ⟨rest, l, col⟩ := r
  simp only at h
  subst h
  simp only [Reader.advance]
  split <;> rfl

theorem parses_bump (c : Char) (cs : List Char) : Parses bump (c :: cs) () cs :=
  fun _ hr => ⟨rfl, advance_rest hr⟩

theorem parses_blanks {c : Char} (hc : NotBlank c) (cs : List Char) :
    Parses blanks (c :: cs) () (c :: cs) := by
  intro r hr
  obtain ⟨rest, l, col⟩ := r
  simp only at hr
  subst hr
  obtain ⟨h1, h2, h3, h4⟩ := hc
  refine ⟨rfl, ?_⟩
  show (Reader.skipBlanks ⟨c :: cs, l, col⟩).rest = c :: cs
  simp [Reader.skipBlanks, h1, h2, h3, h4]

theorem parses_blanks_nil : Parses blanks [] () [] := by
  intro r hr
  obtain ⟨rest, l, col⟩ := r
  simp only at hr
  subst hr
  refine ⟨rfl, ?_⟩
  show (Reader.skipBlanks ⟨[], l, col⟩).rest = []
  simp [Reader.skipBlanks]

theorem Reader.start_rest (s : String) : (Reader.start s).rest = s.toList := rfl

theorem parses_budget (inp : List Char) : Parses budget inp (inp.length + 1) inp := by
  intro r hr
  subst hr
  exact ⟨rfl, rfl⟩

theorem run_get_bind {α : Type} (f : Reader → Read α) (r : Reader) :
    (get >>= f).run.run r = (f r).run.run r := rfl

theorem run_set_bind {α : Type} (s : Reader) (f : PUnit → Read α) (r : Reader) :
    (set s >>= f).run.run r = (f ()).run.run s := rfl

theorem parses_keyword (cs rest : List Char) : Parses (keyword cs) (cs ++ rest) () rest := by
  induction cs with
  | nil => exact parses_pure () rest
  | cons c cs ih =>
    unfold keyword
    refine (parses_peek _).bind ?_
    simp only [List.cons_append, List.head?_cons, if_true]
    exact (parses_bump _ _).bind ih

/-- Observing a step that answers gives its answer, wrapped. -/
theorem Parses.observe {α : Type} {p : Read α} {inp rest : List Char} {a : α}
    (h : Parses p inp a rest) : Parses (Json.observe p) inp (.ok a) rest := by
  intro r hr
  obtain ⟨h1, h2⟩ := h r hr
  have hrun : ((Except.ok <$> p : Read (Except ReadError α))).run.run r =
      (.ok (.ok a), (p.run.run r).2) := by
    rw [← bind_pure_comp, run_bind_of_ok h1]
    rfl
  have heq : (Json.observe p).run.run r = (.ok (.ok a), (p.run.run r).2) := by
    show (ExceptT.tryCatch (Except.ok <$> p) _).run.run r = _
    simp only [ExceptT.tryCatch, ExceptT.run_mk, StateT.run_bind]
    erw [hrun]
    rfl
  rw [heq]
  exact ⟨rfl, h2⟩

/-! ## Strings -/

/-- The escapes of one letter after a backslash, with the characters they stand for. -/
def shortEscapes : List (Char × Char) :=
  [('"', '"'), ('\\', '\\'), ('n', '\n'), ('r', '\r'), ('t', '\t'), ('b', Char.ofNat 8),
    ('f', Char.ofNat 12)]

/-- The three ways `escapeChar` writes a character: a backslash and a letter, `\u00xx` for the
other control characters, or the character itself. -/
theorem escapeChar_cases (c : Char) :
    (∃ e, (e, c) ∈ shortEscapes ∧ escapeChar c = ['\\', e]) ∨
    (c.toNat < 32 ∧
      escapeChar c = ['\\', 'u', '0', '0', hexDigit (c.toNat / 16), hexDigit (c.toNat % 16)]) ∨
    (c ≠ '"' ∧ c ≠ '\\' ∧ ¬ c.toNat < 32 ∧ escapeChar c = [c]) := by
  by_cases hq : c = '"'
  · subst hq; exact .inl ⟨'"', by decide, rfl⟩
  by_cases hb : c = '\\'
  · subst hb; exact .inl ⟨'\\', by decide, rfl⟩
  by_cases hn : c = '\n'
  · subst hn; exact .inl ⟨'n', by decide, rfl⟩
  by_cases hr : c = '\r'
  · subst hr; exact .inl ⟨'r', by decide, rfl⟩
  by_cases ht : c = '\t'
  · subst ht; exact .inl ⟨'t', by decide, rfl⟩
  -- backspace and form feed have no character literal: name them by their code
  by_cases h8 : c.toNat = 8
  · rw [← Char.ofNat_toNat c, h8]; exact .inl ⟨'b', by decide, rfl⟩
  by_cases h12 : c.toNat = 12
  · rw [← Char.ofNat_toNat c, h12]; exact .inl ⟨'f', by decide, rfl⟩
  have hrest : escapeChar c = if c.toNat < 32 then
      ['\\', 'u', '0', '0', hexDigit (c.toNat / 16), hexDigit (c.toNat % 16)] else [c] := by
    simp only [escapeChar, if_neg hq, if_neg hb, if_neg hn, if_neg hr, if_neg ht, if_neg h8,
      if_neg h12]
  by_cases hlt : c.toNat < 32
  · exact .inr (.inl ⟨hlt, by rw [hrest, if_pos hlt]⟩)
  · exact .inr (.inr ⟨hq, hb, hlt, by rw [hrest, if_neg hlt]⟩)

theorem parses_escape_short {e c : Char} (h : (e, c) ∈ shortEscapes) (acc more : List Char) :
    Parses (escape acc) (e :: more) (c :: acc) more := by
  simp only [shortEscapes, List.mem_cons, Prod.mk.injEq, List.not_mem_nil, or_false] at h
  unfold escape
  refine (parses_peek _).bind ?_
  rcases h with ⟨rfl, rfl⟩ | ⟨rfl, rfl⟩ | ⟨rfl, rfl⟩ | ⟨rfl, rfl⟩ | ⟨rfl, rfl⟩ | ⟨rfl, rfl⟩ |
      ⟨rfl, rfl⟩ <;>
    · simp only [List.head?_cons]
      simp
      exact (parses_bump _ _).map

theorem parses_stringBody_backslash {inp : List Char} {c : Char} {fuel : Nat}
    {acc more rest : List Char} {v : String} (hesc : Parses (escape acc) inp (c :: acc) more)
    (h : Parses (stringBody fuel (c :: acc)) more v rest) :
    Parses (stringBody (fuel + 1) acc) ('\\' :: inp) v rest := by
  simp only [stringBody]
  refine (parses_peek _).bind ?_
  simp only [List.head?_cons]
  rw [if_pos trivial]
  exact (parses_bump _ _).bind (hesc.bind h)

theorem parses_stringBody_plain {c : Char} (hq : c ≠ '"') (hb : c ≠ '\\') (hc : ¬ c.toNat < 32)
    {fuel : Nat} {acc more rest : List Char} {v : String}
    (h : Parses (stringBody fuel (c :: acc)) more v rest) :
    Parses (stringBody (fuel + 1) acc) (c :: more) v rest := by
  simp only [stringBody]
  refine (parses_peek _).bind ?_
  simp only [List.head?_cons, hq, hb, hc, if_false]
  exact (parses_bump _ _).bind h

theorem parses_hexEscape {a b c d : Char} {n : Nat}
    (hsize : a.utf8Size = 1 ∧ b.utf8Size = 1 ∧ c.utf8Size = 1 ∧ d.utf8Size = 1)
    (hline : a ≠ '\n' ∧ b ≠ '\n' ∧ c ≠ '\n' ∧ d ≠ '\n') (hv : hex4 [a, b, c, d] = some n)
    (more : List Char) : Parses hexEscape (a :: b :: c :: d :: more) n more := by
  intro r hr
  obtain ⟨rest, l, col⟩ := r
  simp only at hr
  subst hr
  obtain ⟨ha, hb, hc, hd⟩ := hsize
  obtain ⟨la, lb, lc, ld⟩ := hline
  unfold hexEscape
  rw [run_get_bind]
  dsimp only
  -- four one-byte characters are there to read
  rw [if_neg (by simp [ha, hb, hc, hd]; omega), run_set_bind]
  simp only [List.take_succ_cons, List.take_zero, hv, Option.elim_some]
  refine ⟨rfl, ?_⟩
  simp [Reader.advanceBytes, Reader.advanceBytes.go, ha, hb, hc, hd, la, lb, lc, ld]
  rfl

theorem hexDigit_facts : ∀ k, k < 16 →
    (hexDigit k).utf8Size = 1 ∧ hexDigit k ≠ '\n' ∧ hexValue (hexDigit k) = some k := by
  decide

/-- A control character comes back from its `\u00xx` escape. -/
theorem parses_escape_control {c : Char} (hc : c.toNat < 32) (acc more : List Char) :
    Parses (escape acc)
      ('u' :: '0' :: '0' :: hexDigit (c.toNat / 16) :: hexDigit (c.toNat % 16) :: more)
      (c :: acc) more := by
  have h1 := hexDigit_facts (c.toNat / 16) (by omega)
  have h2 := hexDigit_facts (c.toNat % 16) (by omega)
  have hv : hex4 ['0', '0', hexDigit (c.toNat / 16), hexDigit (c.toNat % 16)] = some c.toNat := by
    simp only [hex4, h1.2.2, h2.2.2]
    simp [hexValue]
    omega
  unfold escape
  refine (parses_peek _).bind ?_
  simp only [List.head?_cons]
  rw [if_pos trivial]
  refine (parses_bump _ _).bind ?_
  unfold unicodeEscape
  refine (parses_hexEscape ⟨by decide, by decide, h1.1, h2.1⟩ ⟨by decide, by decide, h1.2.1, h2.2.1⟩
    hv more).bind ?_
  rw [if_neg (by omega), if_pos (.inl (by omega)), Char.ofNat_toNat]
  exact parses_pure _ _

/-- One character of a string comes back from what `escapeChar` writes for it. -/
theorem parses_stringBody_step (c : Char) {fuel : Nat} {acc more rest : List Char} {v : String}
    (h : Parses (stringBody fuel (c :: acc)) more v rest) :
    Parses (stringBody (fuel + 1) acc) (escapeChar c ++ more) v rest := by
  rcases escapeChar_cases c with ⟨e, hec, he⟩ | ⟨hlt, he⟩ | ⟨hq, hb, hlt, he⟩ <;> rw [he]
  · exact parses_stringBody_backslash (parses_escape_short hec acc more) h
  · exact parses_stringBody_backslash (parses_escape_control hlt acc more) h
  · exact parses_stringBody_plain hq hb hlt h

/-- The body of a string, escaped, comes back whole up to its closing quote. -/
theorem parses_stringBody (s : List Char) : ∀ (fuel : Nat) (acc rest : List Char),
    s.length < fuel →
      Parses (stringBody fuel acc) (escapeChars s ++ '"' :: rest)
        (String.ofList (acc.reverse ++ s)) rest := by
  induction s with
  | nil =>
    intro fuel acc rest hf
    obtain ⟨fuel, rfl⟩ : ∃ k, fuel = k + 1 := ⟨fuel - 1, by simp at hf; omega⟩
    simp only [stringBody, escapeChars_nil, List.nil_append, List.append_nil]
    refine (parses_peek _).bind ?_
    simp only [List.head?_cons, if_true]
    exact (parses_bump _ _).bind (parses_pure _ _)
  | cons c s ih =>
    intro fuel acc rest hf
    obtain ⟨fuel, rfl⟩ : ∃ k, fuel = k + 1 := ⟨fuel - 1, by simp at hf; omega⟩
    rw [escapeChars_cons, List.append_assoc]
    have hrest := ih fuel (c :: acc) rest (by simp at hf; omega)
    rw [List.reverse_cons, List.append_assoc, List.singleton_append] at hrest
    exact parses_stringBody_step c hrest

theorem length_le_escapeChars (s : List Char) : s.length ≤ (escapeChars s).length := by
  induction s with
  | nil => simp
  | cons c s ih =>
    have hc : 1 ≤ (escapeChar c).length := by
      rcases escapeChar_cases c with ⟨_, _, he⟩ | ⟨_, he⟩ | ⟨_, _, _, he⟩ <;> simp [he]
    simp only [escapeChars_cons, List.length_append, List.length_cons]
    omega

theorem parses_string (s : List Char) (rest : List Char) :
    Parses string (escapeChars s ++ '"' :: rest) (String.ofList s) rest := by
  unfold string
  refine (parses_budget _).bind ?_
  have hlen := length_le_escapeChars s
  exact parses_stringBody s _ [] rest (by simp; omega)

theorem quote_toList (s : String) :
    (quote s).toList = '"' :: (escapeChars s.toList ++ ['"']) := by
  simp [quote]

/-- A string written by `quote` reads back, whatever characters it holds. -/
theorem parses_readString (s : String) (rest : List Char) :
    Parses readString ((quote s).toList ++ rest) s rest := by
  simp only [quote_toList, List.cons_append, List.append_assoc]
  unfold readString
  refine (parses_blanks (by decide) _).bind ?_
  refine (parses_peek _).bind ?_
  simp only [List.head?_cons]
  refine (parses_bump _ _).bind ?_
  simpa using parses_string s.toList rest

/-! ### Numbers -/

theorem digitChar_facts : ∀ k, k < 10 →
    digitValue (Nat.digitChar k) = some k ∧ (Nat.digitChar k = '0' ↔ k = 0) ∧
      NotBlank (Nat.digitChar k) ∧ Nat.digitChar k ≠ '-' := by
  decide

/-- The decimal digits `Nat.toDigits` writes, as numbers: read left to right they give `n`
back, and the first is not zero unless `n` is. -/
theorem toDigits_ten (n : Nat) : ∃ k ks, Nat.toDigits 10 n = (k :: ks).map Nat.digitChar ∧
    (∀ j ∈ k :: ks, j < 10) ∧ ks.foldl (fun a j => a * 10 + j) k = n ∧ (k = 0 → n = 0) := by
  induction n using Nat.strong_induction_on with
  | _ n ih =>
    by_cases hn : n < 10
    · exact ⟨n, [], Nat.toDigits_of_lt_base hn, by simpa using hn, rfl, id⟩
    · obtain ⟨k, ks, hd, hlt, hv, hk⟩ := ih (n / 10) (by omega)
      refine ⟨k, ks ++ [n % 10], ?_, ?_, ?_, fun h0 => absurd (hk h0) (by omega)⟩
      · rw [Nat.toDigits_of_base_le (by decide) (by omega), hd]
        simp
      · intro j hj
        rcases List.mem_cons.1 hj with rfl | hj
        · exact hlt _ List.mem_cons_self
        rcases List.mem_append.1 hj with hj | hj
        · exact hlt j (List.mem_cons_of_mem _ hj)
        · rw [List.mem_singleton.1 hj]
          omega
      · rw [List.foldl_append, hv]
        simp only [List.foldl_cons, List.foldl_nil]
        omega

theorem le_foldl_digits (ks : List Nat) (s : Nat) : s ≤ ks.foldl (fun a j => a * 10 + j) s := by
  induction ks generalizing s with
  | nil => exact Nat.le_refl s
  | cons j ks ih => exact Nat.le_trans (by omega) (ih (s * 10 + j))

/-- The digit loop of `integer` reads digits up to the first non-digit, the significand
never passing `u64Max` on the way when it does not at the end. -/
theorem parses_more (positive : Bool) {rest rest' : List Char} {v : Number}
    (hstop : ∀ c ∈ rest.head?, digitValue c = none) (ks : List Nat) :
    ∀ (s fuel : Nat), (∀ j ∈ ks, j < 10) → ks.length ≤ fuel →
      ks.foldl (fun a j => a * 10 + j) s ≤ u64Max →
      Parses (afterInteger positive (ks.foldl (fun a j => a * 10 + j) s)) rest v rest' →
      Parses (integer.more positive fuel s) (ks.map Nat.digitChar ++ rest) v rest' := by
  induction ks with
  | nil =>
    intro s fuel _ _ _ h
    cases fuel with
    | zero => exact h
    | succ fuel =>
      simp only [integer.more, List.map_nil, List.nil_append]
      refine (parses_peek _).bind ?_
      cases rest with
      | nil => exact h
      | cons c cs => simp only [List.head?_cons, hstop c rfl]; exact h
  | cons j ks ih =>
    intro s fuel hlt hlen hmax h
    obtain ⟨fuel, rfl⟩ : ∃ f, fuel = f + 1 := ⟨fuel - 1, by simp at hlen; omega⟩
    have hj := digitChar_facts j (hlt j List.mem_cons_self)
    have hle : s * 10 + j ≤ u64Max :=
      Nat.le_trans (le_foldl_digits ks (s * 10 + j)) hmax
    simp only [integer.more, List.map_cons, List.cons_append]
    refine (parses_peek _).bind ?_
    simp only [List.head?_cons, hj.1]
    rw [if_neg (by omega)]
    exact (parses_bump _ _).bind
      (ih (s * 10 + j) fuel (fun i hi => hlt i (List.mem_cons_of_mem _ hi))
        (by simp at hlen; omega) hmax h)

/-- The digits of a number up to `u64Max`, followed by a non-digit, read back as that
number. -/
theorem parses_integer (positive : Bool) (n : Nat) (hn : n ≤ u64Max) {rest rest' : List Char}
    {v : Number} (hstop : ∀ c ∈ rest.head?, digitValue c = none)
    (h : Parses (afterInteger positive n) rest v rest') :
    Parses (integer positive) (Nat.toDigits 10 n ++ rest) v rest' := by
  by_cases h0 : n = 0
  · subst h0
    simp only [Nat.toDigits_zero, List.cons_append, List.nil_append]
    unfold integer
    refine (parses_peek _).bind ?_
    simp only [List.head?_cons, if_true]
    refine (parses_bump _ _).bind ((parses_peek _).bind ?_)
    cases rest with
    | nil => exact h
    | cons c cs => simp only [List.head?_cons, hstop c rfl, Option.isSome_none]; exact h
  · obtain ⟨k, ks, hd, hlt, hv, hk⟩ := toDigits_ten n
    have hkf := digitChar_facts k (hlt k List.mem_cons_self)
    rw [hd, List.map_cons, List.cons_append]
    unfold integer
    refine (parses_peek _).bind ?_
    simp only [List.head?_cons]
    rw [if_neg (fun e => h0 (hk (hkf.2.1.1 e))), hkf.1]
    refine (parses_bump _ _).bind ((parses_budget _).bind ?_)
    exact parses_more positive hstop ks k _ (fun j hj => hlt j (List.mem_cons_of_mem _ hj))
      (by simp; omega) (hv ▸ hn) (hv ▸ h)

theorem parses_afterInteger_unsigned (n : Nat) (r : List Char) :
    Parses (afterInteger true n) ('\x7d' :: r) (.unsigned n) ('\x7d' :: r) := by
  unfold afterInteger
  refine (parses_peek _).bind ?_
  simp only [List.head?_cons, if_true]
  exact parses_pure _ _

theorem parses_afterInteger_signed (n : Nat) (h0 : n ≠ 0) (hn : n ≤ Nat.pow 2 63)
    (r : List Char) :
    Parses (afterInteger false n) ('\x7d' :: r) (.signed (-(n : Int))) ('\x7d' :: r) := by
  unfold afterInteger
  refine (parses_peek _).bind ?_
  simp only [List.head?_cons, Bool.false_eq_true, if_false, if_neg h0, if_pos hn]
  exact parses_pure _ _

theorem stops_at_close (r : List Char) : ∀ c ∈ ('\x7d' :: r).head?, digitValue c = none := by
  intro c hc
  cases Option.mem_def.1 hc
  decide

/-- A timestamp in the signed 64-bit range reads back from its decimal text. -/
theorem parses_readI64 (t : Int) (h1 : Envelope.minTimestamp ≤ t)
    (h2 : t ≤ Envelope.maxTimestamp)
    (r : List Char) : Parses readI64 ((toString t).toList ++ '\x7d' :: r) t ('\x7d' :: r) := by
  have hpow : Nat.pow 2 63 = 9223372036854775808 := rfl
  cases t with
  | ofNat n =>
    have hn : n < Nat.pow 2 63 := by
      simp only [Envelope.maxTimestamp, Int.ofNat_eq_natCast] at h2
      omega
    have htext : (toString (Int.ofNat n)).toList = Nat.toDigits 10 n := by
      rw [show toString (Int.ofNat n) = toString n from rfl, Nat.toString_eq_ofList_toDigits,
        String.toList_ofList]
    have hint := parses_integer true n (by unfold u64Max; omega) (stops_at_close r)
      (parses_afterInteger_unsigned n r)
    obtain ⟨k, ks, hd, hlt, -, -⟩ := toDigits_ten n
    have hkf := digitChar_facts k (hlt k List.mem_cons_self)
    rw [hd, List.map_cons, List.cons_append] at hint
    rw [htext, hd, List.map_cons, List.cons_append]
    unfold readI64
    refine (parses_blanks hkf.2.2.1 _).bind ((parses_peek _).bind ?_)
    simp only [List.head?_cons]
    split
    · contradiction
    · exact absurd (Option.some.inj ‹_›) hkf.2.2.2
    · rename_i c _ hc
      cases Option.some.inj hc
      rw [if_pos (by simp [hkf.1])]
      refine hint.bind ?_
      simp only [asI64, if_pos hn]
      exact parses_pure _ _
  | negSucc n =>
    have hn : n + 1 ≤ Nat.pow 2 63 := by
      simp only [Envelope.minTimestamp, Int.negSucc_eq] at h1
      omega
    have htext : (toString (Int.negSucc n)).toList = '-' :: Nat.toDigits 10 (n + 1) := by
      rw [show toString (Int.negSucc n) = "-" ++ toString (n + 1) from rfl,
        String.toList_append, Nat.toString_eq_ofList_toDigits, String.toList_ofList]
      simp
    have hint := parses_integer false (n + 1) (by unfold u64Max; omega) (stops_at_close r)
      (parses_afterInteger_signed (n + 1) (by omega) hn r)
    rw [htext, List.cons_append]
    unfold readI64
    refine (parses_blanks (by decide) _).bind ((parses_peek _).bind ?_)
    simp only [List.head?_cons]
    refine (parses_bump _ _).bind (hint.bind ?_)
    exact parses_pure _ _

/-! ## Booleans -/

theorem parses_readBool (b : Bool) (rest : List Char) :
    Parses readBool ((Envelope.boolText b).toList ++ rest) b rest := by
  unfold readBool
  cases b with
  | true =>
    rw [show (Envelope.boolText true).toList = ['t', 'r', 'u', 'e'] by decide, List.cons_append]
    refine (parses_blanks (by decide) _).bind ((parses_peek _).bind ?_)
    simp only [List.head?_cons]
    exact (parses_bump _ _).bind ((parses_keyword _ _).bind (parses_pure _ _))
  | false =>
    rw [show (Envelope.boolText false).toList = ['f', 'a', 'l', 's', 'e'] by decide,
      List.cons_append]
    refine (parses_blanks (by decide) _).bind ((parses_peek _).bind ?_)
    simp only [List.head?_cons]
    exact (parses_bump _ _).bind ((parses_keyword _ _).bind (parses_pure _ _))

/-! ## Objects -/

theorem parses_finish_nil : Parses finish [] () [] := by
  unfold finish
  exact parses_blanks_nil.bind ((parses_peek _).bind (parses_pure _ _))

/-- A bracketed value whose body and closing step both answer gives the body's answer. -/
theorem parses_bracketed {body : Read Envelope} {close : Read Unit} {inp mid rest : List Char}
    {v : Envelope} (hb : Parses body inp v mid) (hc : Parses close mid () rest) :
    Parses (Envelope.bracketed body close) inp v rest := by
  unfold Envelope.bracketed
  refine hb.observe.bind (hc.observe.bind ?_)
  intro r hr
  rw [run_get_bind]
  exact ⟨rfl, hr⟩

end Json

namespace Envelope

open Json

theorem parses_colon (rest : List Char) : Parses colon (':' :: rest) () rest := by
  unfold colon
  refine (parses_blanks (by decide) _).bind ((parses_peek _).bind ?_)
  simp only [List.head?_cons]
  exact parses_bump _ _

theorem parses_closeObject (rest : List Char) :
    Parses closeObject ('\x7d' :: rest) () rest := by
  unfold closeObject
  refine (parses_blanks (by decide) _).bind ((parses_peek _).bind ?_)
  simp only [List.head?_cons]
  exact parses_bump _ _

/-- A field's value, after its colon, read into the partial envelope. -/
theorem parses_fieldValue {α : Type} {rd : Read α} (f : α → Partial) {inp rest : List Char}
    {x : α} (h : Parses rd inp x rest) :
    Parses (do colon; let x ← rd; pure (f x)) (':' :: inp) (f x) rest :=
  (parses_colon _).bind (h.bind (parses_pure _ _))

/-- One field of an object, its name a plain word, read into the partial envelope; the
first field comes without a comma before it. -/
theorem parses_readFields_field (first : Bool) (fuel : Nat) (p p' : Partial) (key : String)
    (hkey : escapeChars key.toList = key.toList) {value mid rest : List Char} {v : Partial}
    (hf : Parses (readField p key) (':' :: (value ++ mid)) p' mid)
    (hnext : Parses (readFields fuel p' false) mid v rest) :
    Parses (readFields (fuel + 1) p first)
      ((if first then [] else [',']) ++ '"' :: (key.toList ++ '"' :: ':' :: (value ++ mid)))
      v rest := by
  have hkey' : Parses (do bump; let key ← string; let p ← readField p key; readFields fuel p false)
      ('"' :: (key.toList ++ '"' :: ':' :: (value ++ mid))) v rest := by
    refine (parses_bump _ _).bind ?_
    have hs := parses_string key.toList (':' :: (value ++ mid))
    rw [hkey, String.ofList_toList] at hs
    exact hs.bind (hf.bind hnext)
  unfold readFields
  cases first with
  | true =>
    refine (parses_blanks (by decide) _).bind ((parses_peek _).bind ?_)
    simp only [List.head?_cons, if_true]
    exact (parses_pure _ _).bind hkey'
  | false =>
    simp only [Bool.false_eq_true, if_false, List.cons_append, List.nil_append]
    refine (parses_blanks (by decide) _).bind ((parses_peek _).bind ?_)
    simp only [List.head?_cons]
    refine (parses_bump _ _).bind ((parses_blanks (by decide) _).bind ((parses_peek _).bind ?_))
    simp only [List.head?_cons]
    exact (parses_pure _ _).bind hkey'

/-- An object's fields end at its closing brace, which is left for `closeObject`. -/
theorem parses_readFields_end (fuel : Nat) (p : Partial) (rest : List Char) :
    Parses (readFields (fuel + 1) p false) ('\x7d' :: rest) p ('\x7d' :: rest) := by
  unfold readFields
  refine (parses_blanks (by decide) _).bind ((parses_peek _).bind ?_)
  simp only [List.head?_cons]
  exact (parses_pure _ _).bind (parses_pure _ _)

theorem encode_toList (m : Envelope) : m.encode.toList =
    '\x7b' :: '"' :: ("id".toList ++ '"' :: ':' :: ((quote m.id).toList ++
      ',' :: '"' :: ("strand".toList ++ '"' :: ':' :: ((quote m.strand).toList ++
      ',' :: '"' :: ("payload".toList ++ '"' :: ':' :: ((quote m.payload).toList ++
      ',' :: '"' :: ("acked".toList ++ '"' :: ':' :: ((boolText m.acked).toList ++
      ',' :: '"' :: ("timestamp".toList ++ '"' :: ':' :: ((toString m.timestamp).toList ++
        ['\x7d'])))))))))) := by
  unfold encode
  simp only [String.toList_append, List.append_assoc]
  simp

/-- The fields of an encoded envelope, read in the order they are written, fill the partial
envelope and stop at the closing brace. -/
theorem parses_readFields_encode (m : Envelope) (h1 : minTimestamp ≤ m.timestamp)
    (h2 : m.timestamp ≤ maxTimestamp) (fuel : Nat) :
    Parses (readFields (fuel + 6) {} true) m.encode.toList.tail
      { id := some m.id, strand := some m.strand, payload := some m.payload,
        acked := some m.acked, timestamp := some m.timestamp } ['\x7d'] := by
  rw [encode_toList, List.tail_cons]
  -- one field at a time, each read by its own branch of `readField`
  refine parses_readFields_field true _ {} { id := some m.id } "id" (by decide) ?_ ?_
  · simp [readField]
    exact parses_fieldValue _ (parses_readString _ _)
  refine parses_readFields_field false _ _ { id := some m.id, strand := some m.strand }
    "strand" (by decide) ?_ ?_
  · simp [readField]
    exact parses_fieldValue _ (parses_readString _ _)
  refine parses_readFields_field false _ _
    { id := some m.id, strand := some m.strand, payload := some m.payload } "payload"
    (by decide) ?_ ?_
  · simp [readField]
    exact parses_fieldValue _ (parses_readString _ _)
  refine parses_readFields_field false _ _
    { id := some m.id, strand := some m.strand, payload := some m.payload,
      acked := some m.acked } "acked" (by decide) ?_ ?_
  · simp [readField]
    exact parses_fieldValue _ (parses_readBool _ _)
  refine parses_readFields_field false _ _ _ "timestamp" (by decide) ?_
    (parses_readFields_end _ _ _)
  simp [readField]
  exact parses_fieldValue _ (parses_readI64 _ h1 h2 _)

/-- Every envelope whose timestamp is a signed 64-bit value reads back from its wire form. -/
theorem decode_encode (m : Envelope) (h1 : minTimestamp ≤ m.timestamp)
    (h2 : m.timestamp ≤ maxTimestamp) : decode m.encode = .ok m := by
  obtain ⟨fuel, hfuel⟩ : ∃ f, m.encode.toList.tail.length + 1 = f + 6 :=
    ⟨m.encode.toList.tail.length - 5, by rw [encode_toList]; simp⟩
  have hbody : Parses (do let p ← readFields (← budget) {} true; p.complete)
      m.encode.toList.tail m ['\x7d'] := by
    refine (parses_budget _).bind ?_
    rw [hfuel]
    exact (parses_readFields_encode m h1 h2 fuel).bind (parses_pure _ _)
  have hread : Parses readEnvelope m.encode.toList m [] := by
    rw [encode_toList] at hbody ⊢
    rw [List.tail_cons] at hbody
    unfold readEnvelope
    refine (parses_blanks (by decide) _).bind ((parses_peek _).bind ?_)
    simp only [List.head?_cons]
    exact (parses_bump _ _).bind (parses_bracketed hbody (parses_closeObject []))
  have hrun : Parses (do let m ← readEnvelope; finish; pure m) m.encode.toList m [] :=
    hread.bind (parses_finish_nil.bind (parses_pure m []))
  unfold decode
  exact (hrun _ (Reader.start_rest m.encode)).1

end Envelope

end Courier
