/-!
# JSON string text

How a string is written inside JSON text: between double quotes, with a backslash before
`"` and `\`, the short escapes `\b \f \n \r \t`, every other character below U+0020 as
`\u00xx` with lowercase hex digits, and every other character as itself (DEL, U+2028 and
characters outside the basic plane included).

`Json.escapeChar` is the rule for one character; `Json.quote` applies it to a whole string.
The lemmas say that escaping is character by character and that printable ASCII other than
the two specials stands for itself.
-/

namespace Courier

namespace Json

/-- A lowercase hexadecimal digit for `n < 16`. -/
def hexDigit (n : Nat) : Char :=
  if n < 10 then Char.ofNat (48 + n) else Char.ofNat (87 + n)

/-- The JSON text of one character of a string. -/
def escapeChar (c : Char) : List Char :=
  if c = '"' then ['\\', '"']
  else if c = '\\' then ['\\', '\\']
  else if c = '\n' then ['\\', 'n']
  else if c = '\r' then ['\\', 'r']
  else if c = '\t' then ['\\', 't']
  else if c.toNat = 8 then ['\\', 'b']
  else if c.toNat = 12 then ['\\', 'f']
  else if c.toNat < 32 then ['\\', 'u', '0', '0', hexDigit (c.toNat / 16), hexDigit (c.toNat % 16)]
  else [c]

/-- The escaped characters of a string, without the surrounding quotes. -/
def escapeChars (cs : List Char) : List Char :=
  cs.flatMap escapeChar

/-- A string as JSON text, quotes included. -/
def quote (s : String) : String :=
  String.ofList ('"' :: escapeChars s.toList ++ ['"'])

@[simp] theorem escapeChars_nil : escapeChars [] = [] := rfl

@[simp] theorem escapeChars_cons (c : Char) (cs : List Char) :
    escapeChars (c :: cs) = escapeChar c ++ escapeChars cs := by
  simp [escapeChars]

theorem escapeChars_append (a b : List Char) :
    escapeChars (a ++ b) = escapeChars a ++ escapeChars b := by
  simp [escapeChars]

/-- A character from space to `~`, other than `"` and `\`, is written as itself. -/
theorem escapeChar_plain (c : Char) (h1 : 32 ≤ c.toNat) (hq : c ≠ '"') (hb : c ≠ '\\') :
    escapeChar c = [c] := by
  have hn : c ≠ '\n' := by intro e; subst e; simp at h1
  have hr : c ≠ '\r' := by intro e; subst e; simp at h1
  have ht : c ≠ '\t' := by intro e; subst e; simp at h1
  have h8 : c.toNat ≠ 8 := by omega
  have h12 : c.toNat ≠ 12 := by omega
  have hlt : ¬ c.toNat < 32 := by omega
  simp [escapeChar, hq, hb, hn, hr, ht, h8, h12, hlt]

end Json

end Courier
