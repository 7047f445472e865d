/-!
# Errors in TOML documents

A TOML error has a message and, usually, the span of the source it is about: a range of
byte offsets. `Toml.Error.report` writes it the way a reader wants to see it: the line and
column where the span starts, the line itself under a gutter of its number, and carets under
the span.

Columns count characters from one. When the span starts inside a character of more than one
byte, the column counts bytes instead; spans made by the reader always start on a character.
The carets cover the span, cut at the end of the line, and there is always at least one, so
that an empty span (the end of the text, say) is still shown.
-/

namespace Courier

namespace Toml

/-- A range of byte offsets of a source text, `start` included and `stop` not. -/
structure Span where
  /-- The first byte. -/
  start : Nat
  /-- The byte after the last. -/
  stop : Nat
  deriving DecidableEq, Repr, Inhabited

namespace Span

/-- The empty span at the start of a span. -/
def before (s : Span) : Span := ⟨s.start, s.start⟩

/-- The empty span at the end of a span. -/
def after (s : Span) : Span := ⟨s.stop, s.stop⟩

/-- The span from the start of one span to the end of another. -/
def join (a b : Span) : Span := ⟨a.start, b.stop⟩

/-- The number of bytes a span covers. -/
def size (s : Span) : Nat := s.stop - s.start

end Span

/-- What a reader expected where it found something else. -/
inductive Expected where
  /-- A piece of text, shown in backticks. -/
  | literal (text : String)
  /-- A kind of thing, shown as words. -/
  | description (text : String)
  deriving DecidableEq, Repr

/-- The text of an expectation. -/
def Expected.render : Expected → String
  | .literal t => "`" ++ t ++ "`"
  | .description t => t

/-- An error in a TOML document: a message and the span it is about, if any. -/
structure Error where
  /-- What is wrong. -/
  message : String
  /-- Where, when known. -/
  span : Option Span := none
  deriving DecidableEq, Repr, Inhabited

namespace Error

/-- An error that says what was found and what was expected instead; an empty list of
expectations reads `nothing`. -/
def expecting (what : String) (expected : List Expected) (span : Span) : Error :=
  let list := if expected.isEmpty then "nothing" else ", ".intercalate (expected.map Expected.render)
  { message := what ++ ", expected " ++ list, span := some span }

/-- An error about a span. -/
def about (message : String) (span : Span) : Error := { message, span := some span }

/-- Gives an error a span if it has none yet. -/
def within (e : Error) (span : Span) : Error :=
  match e.span with
  | some _ => e
  | none => { e with span := some span }

/-- The characters of a text with the byte offset of each, the first at `start`. -/
def offsets (start : Nat) : List Char → List (Nat × Char)
  | [] => []
  | c :: cs => (start, c) :: offsets (start + c.utf8Size) cs

/-- The line (from zero) and column (from zero) of a byte offset of a text. An offset past
the last byte counts on from the last one. -/
def position (source : String) (index : Nat) : Nat × Nat :=
  let total := source.utf8ByteSize
  if total = 0 then (0, index) else
  let safe := min index (total - 1)
  let beyond := index - safe
  let chars := offsets 0 source.toList
  let breaks := chars.filter fun (o, c) => c = '\n' ∧ o < safe
  let lineStart := match breaks.getLast? with
    | some (o, _) => o + 1
    | none => 0
  let line := breaks.length
  let whole := chars.any fun (o, c) => o + c.utf8Size - 1 = safe
  let column :=
    if whole then (chars.filter fun (o, _) => lineStart ≤ o ∧ o ≤ safe).length - 1
    else safe - lineStart
  (line, column + beyond)

/-- `n` spaces. -/
def spaces (n : Nat) : String := String.ofList (List.replicate n ' ')

/-- The full text of an error about a source: the place, the line with carets under the
span, and the message, each line ended by a newline. -/
def report (source : String) (e : Error) : String :=
  match e.span with
  | none => e.message ++ "\n"
  | some span =>
    let (line, column) := position source span.start
    let lineNum := toString (line + 1)
    let gutter := lineNum.length
    let content := ((source.splitOn "\n").getD line "")
    let width := min span.size (content.utf8ByteSize - column)
    let carets := String.ofList (List.replicate (max 1 width) '^')
    "TOML parse error at line " ++ lineNum ++ ", column " ++ toString (column + 1) ++ "\n" ++
      spaces (gutter + 1) ++ "|\n" ++
      lineNum ++ " | " ++ content ++ "\n" ++
      spaces (gutter + 1) ++ "|" ++ spaces (column + 1) ++ carets ++ "\n" ++
      e.message ++ "\n"

end Error

end Toml

end Courier
