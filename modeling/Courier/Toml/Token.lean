import Courier.Toml.Error

/-!
# The tokens of a TOML document

`Token.scan` cuts a TOML text into tokens: brackets, braces, commas, dots and equals signs
one character each; runs of blanks; line ends (`\n`, `\r\n`, or a carriage return alone,
which the reader refuses); comments up to a line feed or carriage return; the four kinds of
string, delimiters included; and *atoms*, the runs of other characters, which are bare keys
and the text of numbers, booleans and dates. A dot always stands alone, so `1.5` is three
tokens; the reader joins them again where a value is expected.

A one-line string that meets a line feed or the end of the text is cut there; a multi-line
string runs to its closing delimiter or the end of the text. A string token records whether
it was closed. A byte order mark at the very start is skipped.

The tokens cover the text without gaps, and each token knows the bytes it spans.
-/

namespace Courier

namespace Toml

/-- The kinds of token. -/
inductive TokenKind where
  | openBracket
  | closeBracket
  | openBrace
  | closeBrace
  | comma
  | dot
  | equals
  | blank
  | lineEnd
  | comment
  | basic
  | literal
  | basicBlock
  | literalBlock
  | atom
  deriving DecidableEq, Repr, Inhabited

/-- A token: its kind, its text, the bytes it spans, and for a string whether it was
closed. -/
structure Token where
  /-- What it is. -/
  kind : TokenKind
  /-- Its text as written. -/
  text : List Char
  /-- Its bytes in the source. -/
  span : Span
  /-- For a string, whether its closing delimiter was found. -/
  closed : Bool := true
  deriving Repr, Inhabited

namespace Token

/-- Characters that end an atom. Quotes do not: `abc'` is one atom, a string that lost its
opening quote. -/
def stops (c : Char) : Bool :=
  c = ' ' || c = '\t' || c = '\n' || c = '\r' || c = '#' || c = ',' || c = '=' || c = '[' ||
    c = ']' || c = '\x7b' || c = '\x7d' || c = '.'

/-- The number of bytes of some characters. -/
def bytes (cs : List Char) : Nat := (cs.map Char.utf8Size).foldr (· + ·) 0

/-- The body of a one-line string after its opening quote: the characters up to and with
the closing quote, and whether it was found. The string stops before a line feed (a carriage
return before it stays in the string). When `escapes` is set, a backslash takes a following
backslash or quote along. -/
def lineString (quote : Char) (escapes : Bool) : List Char → List Char × Bool
  | [] => ([], false)
  | c :: rest =>
    if c = quote then ([c], true)
    else if c = '\n' then ([], false)
    else if escapes && c = '\\' then
      match rest with
      | d :: rest' =>
        if d = '\\' || d = quote then
          let (body, ok) := lineString quote escapes rest'
          (c :: d :: body, ok)
        else
          let (body, ok) := lineString quote escapes (d :: rest')
          (c :: body, ok)
      | [] => ([c], false)
    else let (body, ok) := lineString quote escapes rest; (c :: body, ok)

/-- The body of a multi-line string after its opening delimiter: the characters up to and
with the closing three quotes, which may be preceded by one or two more quotes of the
content, and whether they were found. -/
def blockString (quote : Char) (escapes : Bool) : List Char → List Char × Bool
  | [] => ([], false)
  | c :: rest =>
    if c = quote && rest.take 2 = [quote, quote] then
      let extra := ((rest.drop 2).takeWhile (· = quote)).take 2
      (c :: quote :: quote :: extra, true)
    else if escapes && c = '\\' then
      match rest with
      | d :: rest' => let (body, ok) := blockString quote escapes rest'; (c :: d :: body, ok)
      | [] => ([c], false)
    else let (body, ok) := blockString quote escapes rest; (c :: body, ok)

/-- The first token of a non-empty text: its kind, its characters, and whether it is
closed. -/
def first (c : Char) (rest : List Char) : TokenKind × List Char × Bool :=
  match c with
  | '[' => (.openBracket, [c], true)
  | ']' => (.closeBracket, [c], true)
  | '\x7b' => (.openBrace, [c], true)
  | '\x7d' => (.closeBrace, [c], true)
  | ',' => (.comma, [c], true)
  | '.' => (.dot, [c], true)
  | '=' => (.equals, [c], true)
  | ' ' | '\t' => (.blank, c :: rest.takeWhile (fun d => d = ' ' || d = '\t'), true)
  | '\n' => (.lineEnd, [c], true)
  | '#' => (.comment, c :: rest.takeWhile (fun d => d ≠ '\n' && d ≠ '\r'), true)
  | '"' =>
    if rest.take 2 = ['"', '"'] then
      let (body, ok) := blockString '"' true (rest.drop 2)
      (.basicBlock, c :: '"' :: '"' :: body, ok)
    else let (body, ok) := lineString '"' true rest; (.basic, c :: body, ok)
  | '\'' =>
    if rest.take 2 = ['\'', '\''] then
      let (body, ok) := blockString '\'' false (rest.drop 2)
      (.literalBlock, c :: '\'' :: '\'' :: body, ok)
    else let (body, ok) := lineString '\'' false rest; (.literal, c :: body, ok)
  | '\r' =>
    if rest.head? = some '\n' then (.lineEnd, ['\r', '\n'], true) else (.lineEnd, [c], true)
  | _ => (.atom, c :: rest.takeWhile (fun d => !stops d), true)

/-- Cuts a text into tokens, starting at byte `start`; `fuel` bounds the number of tokens. -/
def scanFrom : Nat → Nat → List Char → List Token
  | 0, _, _ => []
  | _, _, [] => []
  | fuel + 1, start, c :: rest =>
    let (kind, text, closed) := first c rest
    let size := bytes text
    { kind, text, span := ⟨start, start + size⟩, closed } ::
      scanFrom fuel (start + size) ((c :: rest).drop text.length)

/-- The byte order mark, skipped at the start of a text. -/
def byteOrderMark : Char := Char.ofNat 0xFEFF

/-- The tokens of a TOML text. -/
def scan (source : String) : List Token :=
  match source.toList with
  | c :: rest =>
    if c = byteOrderMark then scanFrom (rest.length + 1) 3 rest
    else scanFrom (rest.length + 2) 0 (c :: rest)
  | [] => []

end Token

end Toml

end Courier
