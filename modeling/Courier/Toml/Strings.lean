import Courier.Toml.Token

/-!
# TOML strings and keys

The text of the four kinds of TOML string, and of keys.

A string token is checked from its delimiters inwards: the opening delimiter, then the
closing one, then the body character by character, and the first fault found is the error.
A one-line string whose closing quote is missing but whose body ends in an escaped quote
(`"x\"`) loses that quote to the closing delimiter, so that the backslash before it misses
its escaped value.

* Basic strings take the escapes `\b \e \f \n \r \t \\ \"`, `\xHH`, `\uHHHH` and
  `\UHHHHHHHH`; in a multi-line one a backslash before blanks and a line end drops the
  blanks and line ends after it.
* Literal strings are taken as written.
* Multi-line strings drop a line end right after their opening delimiter, and allow line
  ends; a carriage return in them must be followed by a line feed.
* Control characters other than tab are refused, and so is DEL. In a basic string the
  error covers the whole run of refused characters; in a literal string it points at the
  first one.

Keys are bare (letters, digits, `-` and `_`, not empty) or one-line strings; the error for a
bare key covers the run of bytes that may not stand in one.
-/

namespace Courier

namespace Toml

namespace Strings

/-- Characters with the byte offset of each in the source. -/
abbrev Marked := List (Nat × Char)

/-- What a bare key may hold. -/
def keyExpected : List Expected :=
  [.description "letters", .description "numbers", .literal "-", .literal "_"]

/-- Whether a character may stand in a bare key. -/
def isKeyChar (c : Char) : Bool :=
  ('a' ≤ c && c ≤ 'z') || ('A' ≤ c && c ≤ 'Z') || ('0' ≤ c && c ≤ '9') || c = '-' || c = '_'

/-- Whether a character may stand unescaped in a one-line basic string. -/
def isBasicChar (c : Char) : Bool :=
  let n := c.toNat
  c = '\t' || n = 0x20 || n = 0x21 || (0x23 ≤ n && n ≤ 0x5B) || (0x5D ≤ n && n ≤ 0x7E) ||
    0x80 ≤ n

/-- Whether a character may stand in a one-line literal string. -/
def isLiteralChar (c : Char) : Bool :=
  let n := c.toNat
  c = '\t' || (0x20 ≤ n && n ≤ 0x26) || (0x28 ≤ n && n ≤ 0x7E) || 0x80 ≤ n

/-- The value of a hexadecimal digit. -/
def hexValue (c : Char) : Option Nat :=
  if '0' ≤ c ∧ c ≤ '9' then some (c.toNat - '0'.toNat)
  else if 'a' ≤ c ∧ c ≤ 'f' then some (c.toNat - 'a'.toNat + 10)
  else if 'A' ≤ c ∧ c ≤ 'F' then some (c.toNat - 'A'.toNat + 10)
  else none

/-- Whether a character is a hexadecimal digit. -/
def isHex (c : Char) : Bool := (hexValue c).isSome

/-- The number written by hexadecimal digits. -/
def hexNumber (cs : List Char) : Nat :=
  cs.foldl (fun acc c => acc * 16 + (hexValue c).getD 0) 0

/-- Whether a number is a Unicode scalar value. -/
def isScalarValue (n : Nat) : Bool := n < 0xD800 || (0xDFFF < n && n ≤ 0x10FFFF)

/-- The escapes a basic string knows, as its error lists them. -/
def escapeExpected : List Expected :=
  [.literal "b", .literal "e", .literal "f", .literal "n", .literal "r", .literal "\\",
    .literal "\"", .literal "x", .literal "u", .literal "U"]

/-- The error for a backslash without a known escape after it, at the byte after it. -/
def missingEscape (pos : Nat) : Error :=
  .expecting "missing escaped value" escapeExpected ⟨pos, pos⟩

/-- The error for a carriage return without a line feed, at the byte after it. -/
def loneReturn (pos : Nat) : Error :=
  .expecting "carriage return must be followed by newline" [.description "newline"] ⟨pos, pos⟩

/-- The byte where some marked characters start, or `stop` when there are none. -/
def startOf (ms : Marked) (stop : Nat) : Nat :=
  match ms with
  | (p, _) :: _ => p
  | [] => stop

/-- Strips the delimiters of a string token: gives the body and the byte after it. A missing
opening delimiter is reported at the start of the token, a missing closing one at its end;
the closing one is asked for as a single quote character, the first of the three of a
multi-line string. -/
def strip (what : String) (delim : List Char) (span : Span) (ms : Marked) :
    Except Error (Marked × Nat) := do
  let body ←
    if (ms.take delim.length).map (·.2) = delim then pure (ms.drop delim.length)
    else throw (.expecting what [.literal (String.ofList delim)] span.before)
  let n := body.length
  if delim.length ≤ n && (body.drop (n - delim.length)).map (·.2) = delim then
    let inner := body.take (n - delim.length)
    pure (inner, startOf (body.drop (n - delim.length)) span.stop)
  else throw (.expecting what [.literal (String.ofList (delim.take 1))] span.after)

/-- Drops a line end at the start of a multi-line string's body. -/
def dropFirstLineEnd : Marked → Marked
  | (_, '\n') :: rest => rest
  | (_, '\r') :: (_, '\n') :: rest => rest
  | ms => ms

/-- Reads `n` hexadecimal digits after `\x`, `\u` or `\U`: the character they name and the
rest. Too few digits are reported where the digits stop; a number that names no character
is reported where the digits start. -/
def hexEscape (n : Nat) (stop : Nat) (ms : Marked) : Except Error (Char × Marked) :=
  let ds := (ms.take n).takeWhile fun (_, c) => isHex c
  if ds.length < n then
    let pos := startOf (ms.drop ds.length) stop
    .error (.expecting "too few unicode value digits" [.description "unicode hexadecimal value"]
      ⟨pos, pos⟩)
  else
    let v := hexNumber (ds.map (·.2))
    if isScalarValue v then .ok (Char.ofNat v, ms.drop n)
    else
      let pos := startOf ms stop
      .error (.expecting "invalid value" [.description "unicode hexadecimal value"] ⟨pos, pos⟩)

/-- Reads the escape after a backslash: the character it stands for and the rest. -/
def escape (stop : Nat) : Marked → Except Error (Char × Marked)
  | [] => .error (missingEscape stop)
  | (p, e) :: rest =>
    match e with
    | 'b' => .ok (Char.ofNat 8, rest)
    | 'e' => .ok (Char.ofNat 27, rest)
    | 'f' => .ok (Char.ofNat 12, rest)
    | 'n' => .ok ('\n', rest)
    | 'r' => .ok ('\r', rest)
    | 't' => .ok ('\t', rest)
    | '\\' => .ok ('\\', rest)
    | '"' => .ok ('"', rest)
    | 'x' => hexEscape 2 stop rest
    | 'u' => hexEscape 4 stop rest
    | 'U' => hexEscape 8 stop rest
    | _ => .error (missingEscape p)

/-- Whether blanks and then a line break follow: a backslash before them ends the line. A
carriage return counts as a line break here; one without a line feed is refused when the
line end is dropped. -/
def endsLine : Marked → Bool
  | [] => false
  | (_, c) :: rest =>
    if c = ' ' || c = '\t' then endsLine rest
    else c = '\n' || c = '\r'

/-- Drops the blanks and line ends after a line-ending backslash; a carriage return without
a line feed among them is an error. -/
def dropFolded : Marked → Except Error Marked
  | [] => .ok []
  | (p, c) :: rest =>
    if c = ' ' || c = '\t' || c = '\n' then dropFolded rest
    else if c = '\r' then
      if (rest.head?.map (·.2)) = some '\n' then dropFolded rest else .error (loneReturn (p + 1))
    else .ok ((p, c) :: rest)

/-- Whether a character may stand in the body of a basic string as it is: the escape
backslash, and in a multi-line one line ends and double quotes, count as allowed. -/
def basicAllowed (block : Bool) (c : Char) : Bool :=
  isBasicChar c || c = '\\' || (block && (c = '\n' || c = '\r' || c = '"'))

/-- The end of the run of refused characters that starts a body. -/
def refusedEnd (block : Bool) (stop : Nat) (ms : Marked) : Nat :=
  startOf (ms.dropWhile fun (_, c) => !basicAllowed block c) stop

/-- The body of a basic string; `block` for a multi-line one, where `bad` is the error for
a run of characters that may not stand there. `fuel` bounds the steps. -/
def basicBody (block : Bool) (bad : Span → Error) (stop : Nat) : Nat → Marked → Except Error (List Char)
  | 0, _ => .ok []
  | _, [] => .ok []
  | fuel + 1, (p, c) :: rest =>
    if c = '\\' then
      if block && endsLine rest then do basicBody block bad stop fuel (← dropFolded rest)
      else do
        let (d, rest) ← escape stop rest
        let tail ← basicBody block bad stop fuel rest
        pure (d :: tail)
    else if block && c = '\n' then ('\n' :: ·) <$> basicBody block bad stop fuel rest
    else if block && c = '\r' then
      match rest with
      | (_, '\n') :: more => (['\r', '\n'] ++ ·) <$> basicBody block bad stop fuel more
      | _ => .error (loneReturn (p + 1))
    else if isBasicChar c || (block && c = '"') then (c :: ·) <$> basicBody block bad stop fuel rest
    else .error (bad ⟨p, refusedEnd block stop ((p, c) :: rest)⟩)

/-- The body of a literal string; `block` for a multi-line one, where `bad` is the error for
a character that may not stand there, at that character. -/
def literalBody (block : Bool) (bad : Span → Error) : Marked → Except Error (List Char)
  | [] => .ok []
  | (p, c) :: rest =>
    if block && c = '\n' then ('\n' :: ·) <$> literalBody block bad rest
    else if block && c = '\r' then
      match rest with
      | (_, '\n') :: more => (['\r', '\n'] ++ ·) <$> literalBody block bad more
      | _ => .error (loneReturn (p + 1))
    else if isLiteralChar c || (block && c = '\'') then (c :: ·) <$> literalBody block bad rest
    else .error (bad ⟨p, p⟩)

/-- The error for characters a string refuses: `what`, and what may stand there. -/
def refused (what : String) (expected : List Expected) (span : Span) : Error :=
  .expecting what expected span

/-- The text of a string token. -/
def string (t : Token) : Except Error String := do
  let ms := Error.offsets t.span.start t.text
  match t.kind with
  | .basic =>
    let what := "invalid basic string"
    let (body, stop) ← strip what ['"'] t.span ms
    let bad := refused what [.description "non-double-quote visible characters", .literal "\\"]
    String.ofList <$> basicBody false bad stop (body.length + 1) body
  | .literal =>
    let what := "invalid literal string"
    let (body, _) ← strip what ['\''] t.span ms
    String.ofList <$> literalBody false (refused what [.description "non-single-quote visible characters"]) body
  | .basicBlock =>
    let what := "invalid multi-line basic string"
    let (body, stop) ← strip what ['"', '"', '"'] t.span ms
    let body := dropFirstLineEnd body
    let bad := refused what [.literal "\\", .description "characters"]
    String.ofList <$> basicBody true bad stop (body.length + 1) body
  | .literalBlock =>
    let what := "invalid multi-line literal string"
    let (body, _) ← strip what ['\'', '\'', '\''] t.span ms
    String.ofList <$> literalBody true (refused what [.description "non-single-quote characters"])
      (dropFirstLineEnd body)
  | _ => pure (String.ofList t.text)

/-- The text of a key part: a bare key or a one-line string. -/
def key (t : Token) : Except Error String :=
  match t.kind with
  | .basicBlock =>
    .error (.expecting "keys cannot be multi-line basic strings"
      [.description "basic string", .description "literal string"] t.span)
  | .literalBlock =>
    .error (.expecting "keys cannot be multi-line literal strings"
      [.description "basic string", .description "literal string"] t.span)
  | .basic | .literal => string t
  | _ =>
    if t.text.isEmpty then .error (.expecting "unquoted keys cannot be empty" keyExpected t.span)
    else
      let ms := Error.offsets t.span.start t.text
      match ms.dropWhile (fun (_, c) => isKeyChar c) with
      | (p, _) :: rest =>
        let stop := startOf (rest.dropWhile fun (_, c) => !isKeyChar c) t.span.stop
        .error (.expecting "invalid unquoted key" keyExpected ⟨p, stop⟩)
      | [] => .ok (String.ofList t.text)

end Strings

end Toml

end Courier
