import Courier.Proofs.WireForm
import Mathlib.Data.List.Forall2

/-!
# The written form of an envelope

`Envelope.encode` is the text a standard JSON serialiser writes for an envelope's record.
This module states that text by its rules, apart from the writer, and shows that the writer
follows them and nothing else:

- `Json.Escapes c w`: how one character of a string is written. `"` and `\` take a backslash;
  backspace, form feed, newline, carriage return and tab are `\b \f \n \r \t`; every other
  character below U+0020 is `\u00` and its code in two lowercase hexadecimal digits; every
  other character, DEL and U+2028 included, stands for itself.
- `Json.Quoted s t`: `t` is `s` between double quotes, each character written by `Escapes`.
- `Json.Decimal n t`: `t` is the decimal text of the integer `n`.
- `Envelope.Written m t`: `t` is the object with the fields `id`, `strand`, `payload`, `acked`,
  `timestamp` in this order, without blanks.

Each relation holds of exactly one text, the writer's (`escapes_iff`, `quoted_iff`,
`decimal_iff`, `Envelope.written_iff`). With `decode_encode`, the main statement
`Envelope.encode_is_the_written_form` says that the wire form of an envelope whose timestamp is
a signed 64-bit value is exactly the written form, reads back whole, and belongs to no other
such envelope.
-/

namespace Courier

namespace Json

/-- How one character of a string is written in JSON text. -/
inductive Escapes : Char → List Char → Prop where
  | quote : Escapes '"' ['\\', '"']
  | backslash : Escapes '\\' ['\\', '\\']
  | backspace : Escapes '\x08' ['\\', 'b']
  | formFeed : Escapes '\x0c' ['\\', 'f']
  | newline : Escapes '\n' ['\\', 'n']
  | carriageReturn : Escapes '\r' ['\\', 'r']
  | tab : Escapes '\t' ['\\', 't']
  /-- Another control character: `\u00` and its code in two lowercase hexadecimal digits. -/
  | control (c : Char) (hlt : c.toNat < 32) (h8 : c.toNat ≠ 8) (h9 : c.toNat ≠ 9)
      (h10 : c.toNat ≠ 10) (h12 : c.toNat ≠ 12) (h13 : c.toNat ≠ 13) :
      Escapes c ['\\', 'u', '0', '0', Nat.digitChar (c.toNat / 16), Nat.digitChar (c.toNat % 16)]
  /-- Any character from U+0020 up, other than `"` and `\`, as itself. -/
  | raw (c : Char) (hge : 32 ≤ c.toNat) (hq : c ≠ '"') (hb : c ≠ '\\') : Escapes c [c]

/-- A string's JSON text: its characters, each written as `Escapes` says, between double
quotes. -/
def Quoted (s t : String) : Prop :=
  ∃ ws : List (List Char), List.Forall₂ Escapes s.toList ws ∧ t.toList = '"' :: ws.flatten ++ ['"']

/-- The decimal text of an integer: a minus sign when it is negative, then the digits of its
absolute value, most significant first, with no leading zero. -/
def Decimal (n : Int) (t : String) : Prop :=
  t.toList = (if n < 0 then ['-'] else []) ++ Nat.toDigits 10 n.natAbs

/-! ## One character -/

/-- The hexadecimal digits of the writer are the library's lowercase digits. -/
theorem hexDigit_eq_digitChar : ∀ n, n < 16 → hexDigit n = Nat.digitChar n := by
  decide

/-- The code of a character fixes it. -/
theorem toNat_eq_iff {c d : Char} : c.toNat = d.toNat ↔ c = d :=
  ⟨Char.toNat_inj.1, congrArg Char.toNat⟩

/-- The writer writes each character as `Escapes` says. -/
theorem escapeChar_escapes (c : Char) : Escapes c (escapeChar c) := by
  by_cases hq : c = '"'
  · subst hq; exact .quote
  by_cases hb : c = '\\'
  · subst hb; exact .backslash
  by_cases hn : c = '\n'
  · subst hn; exact .newline
  by_cases hr : c = '\r'
  · subst hr; exact .carriageReturn
  by_cases ht : c = '\t'
  · subst ht; exact .tab
  -- backspace and form feed are named by their codes in the writer
  by_cases h8 : c.toNat = 8
  · obtain rfl : c = '\x08' := toNat_eq_iff.1 h8
    exact .backspace
  by_cases h12 : c.toNat = 12
  · obtain rfl : c = '\x0c' := toNat_eq_iff.1 h12
    exact .formFeed
  have h9 : c.toNat ≠ 9 := fun h => ht (toNat_eq_iff.1 h)
  have h10 : c.toNat ≠ 10 := fun h => hn (toNat_eq_iff.1 h)
  have h13 : c.toNat ≠ 13 := fun h => hr (toNat_eq_iff.1 h)
  have hrest : escapeChar c = if c.toNat < 32 then
      ['\\', 'u', '0', '0', hexDigit (c.toNat / 16), hexDigit (c.toNat % 16)] else [c] := by
    simp only [escapeChar, if_neg hq, if_neg hb, if_neg hn, if_neg hr, if_neg ht, if_neg h8,
      if_neg h12]
  by_cases hlt : c.toNat < 32
  · rw [hrest, if_pos hlt, hexDigit_eq_digitChar _ (by omega), hexDigit_eq_digitChar _ (by omega)]
    exact .control c hlt h8 h9 h10 h12 h13
  · rw [hrest, if_neg hlt]
    exact .raw c (by omega) hq hb

/-- What `Escapes` allows for a character is what the writer writes. -/
theorem Escapes.eq_escapeChar {c : Char} {w : List Char} (h : Escapes c w) : w = escapeChar c := by
  cases h with
  | quote => rfl
  | backslash => rfl
  | backspace => rfl
  | formFeed => rfl
  | newline => rfl
  | carriageReturn => rfl
  | tab => rfl
  | control c hlt h8 h9 h10 h12 h13 =>
    -- a control character is none of the characters the writer tests before its code
    have hq : c ≠ '"' := fun e => by subst e; simp at hlt
    have hb : c ≠ '\\' := fun e => by subst e; simp at hlt
    have hn : c ≠ '\n' := fun e => h10 (by rw [e]; rfl)
    have hr : c ≠ '\r' := fun e => h13 (by rw [e]; rfl)
    have ht : c ≠ '\t' := fun e => h9 (by rw [e]; rfl)
    simp only [escapeChar, if_neg hq, if_neg hb, if_neg hn, if_neg hr, if_neg ht, if_neg h8,
      if_neg h12, if_pos hlt, hexDigit_eq_digitChar _ (show c.toNat / 16 < 16 by omega),
      hexDigit_eq_digitChar _ (show c.toNat % 16 < 16 by omega)]
  | raw c hge hq hb => exact (escapeChar_plain c hge hq hb).symm

/-- `Escapes` is the writer's rule and no other: a character is written one way only. -/
theorem escapes_iff {c : Char} {w : List Char} : Escapes c w ↔ w = escapeChar c :=
  ⟨Escapes.eq_escapeChar, fun h => h ▸ escapeChar_escapes c⟩

/-! ## Strings and numbers -/

/-- Character by character, the escaped forms of a list are the writer's. -/
theorem forall₂_escapes_iff {cs : List Char} {ws : List (List Char)} :
    List.Forall₂ Escapes cs ws ↔ ws = cs.map escapeChar := by
  induction cs generalizing ws with
  | nil => simp
  | cons c cs ih =>
    cases ws with
    | nil => simp
    | cons w ws => simp [escapes_iff, ih]

/-- A string has one quoted form, the writer's. -/
theorem quoted_iff {s t : String} : Quoted s t ↔ t = quote s := by
  have hq : (quote s).toList = '"' :: (s.toList.map escapeChar).flatten ++ ['"'] := by
    simp [quote_toList, escapeChars, List.flatMap_def]
  constructor
  · rintro ⟨ws, hws, ht⟩
    rw [forall₂_escapes_iff.1 hws, ← hq] at ht
    exact String.ext ht
  · rintro rfl
    exact ⟨_, forall₂_escapes_iff.2 rfl, hq⟩

/-- An integer has one decimal text, the one `toString` gives. -/
theorem decimal_iff {n : Int} {t : String} : Decimal n t ↔ t = toString n := by
  have hd : (toString n).toList = (if n < 0 then ['-'] else []) ++ Nat.toDigits 10 n.natAbs := by
    cases n with
    | ofNat k => simp [toString, Int.repr, Nat.repr]
    | negSucc k => simp [toString, Int.repr, Nat.repr, Int.negSucc_lt_zero]
  constructor
  · intro h
    exact String.ext (h.trans hd.symm)
  · rintro rfl
    exact hd

end Json

namespace Envelope

/-- The wire form of an envelope, by its rules: a JSON object with the fields `id`, `strand`,
`payload`, `acked` and `timestamp` in this order and no blanks, the texts quoted, the flag as
`true` or `false`, the timestamp in decimal. -/
def Written (m : Envelope) (t : String) : Prop :=
  ∃ i s p d, Json.Quoted m.id i ∧ Json.Quoted m.strand s ∧ Json.Quoted m.payload p ∧
    Json.Decimal m.timestamp d ∧
    t = "\x7b\"id\":" ++ i ++ ",\"strand\":" ++ s ++ ",\"payload\":" ++ p ++ ",\"acked\":" ++
      (if m.acked then "true" else "false") ++ ",\"timestamp\":" ++ d ++ "\x7d"

/-- An envelope has one written form, and `encode` writes it. -/
theorem written_iff {m : Envelope} {t : String} : Written m t ↔ t = m.encode := by
  constructor
  · rintro ⟨i, s, p, d, hi, hs, hp, hd, rfl⟩
    obtain rfl := Json.quoted_iff.1 hi
    obtain rfl := Json.quoted_iff.1 hs
    obtain rfl := Json.quoted_iff.1 hp
    obtain rfl := Json.decimal_iff.1 hd
    rfl
  · rintro rfl
    exact ⟨_, _, _, _, Json.quoted_iff.2 rfl, Json.quoted_iff.2 rfl, Json.quoted_iff.2 rfl,
      Json.decimal_iff.2 rfl, rfl⟩

/-- Two envelopes with signed 64-bit timestamps and one wire form are one envelope. -/
theorem eq_of_encode_eq {m m' : Envelope} (h1 : minTimestamp ≤ m.timestamp)
    (h2 : m.timestamp ≤ maxTimestamp) (h1' : minTimestamp ≤ m'.timestamp)
    (h2' : m'.timestamp ≤ maxTimestamp) (h : m'.encode = m.encode) : m' = m := by
  have hdec := decode_encode m' h1' h2'
  rw [h, decode_encode m h1 h2] at hdec
  exact (Except.ok.inj hdec).symm

/-- The wire form of an envelope whose timestamp is a signed 64-bit value is exactly its
written form, reads back whole, and is the wire form of no other such envelope. -/
theorem encode_is_the_written_form (m : Envelope) (h1 : minTimestamp ≤ m.timestamp)
    (h2 : m.timestamp ≤ maxTimestamp) :
    (∀ t, Written m t ↔ t = m.encode) ∧ decode m.encode = .ok m ∧
      ∀ m' : Envelope, minTimestamp ≤ m'.timestamp → m'.timestamp ≤ maxTimestamp →
        m'.encode = m.encode → m' = m :=
  ⟨fun _ => written_iff, decode_encode m h1 h2,
    fun _ h1' h2' h => eq_of_encode_eq h1 h2 h1' h2' h⟩

/-- An envelope with a quote, a newline, a control character and a letter outside ASCII in its
texts, acknowledged, at the least timestamp. -/
def escapeSample : Envelope :=
  { id := "a\"b", strand := "s\n", payload := "\x01\\é", acked := true,
    timestamp := minTimestamp }

theorem encode_is_the_written_form_on_escapes :
    minTimestamp ≤ escapeSample.timestamp ∧ escapeSample.timestamp ≤ maxTimestamp ∧
      ((∀ t, Written escapeSample t ↔ t = escapeSample.encode) ∧
        decode escapeSample.encode = .ok escapeSample ∧
        ∀ m' : Envelope, minTimestamp ≤ m'.timestamp → m'.timestamp ≤ maxTimestamp →
          m'.encode = escapeSample.encode → m' = escapeSample) :=
  ⟨by decide, by decide, encode_is_the_written_form escapeSample (by decide) (by decide)⟩

end Envelope

end Courier
