import Courier.Toml.Token

/-!
# The statements of a TOML document

`Syntax.read` takes the tokens of a document to its statements: key/value pairs, table
headers `[a.b]` and array-of-tables headers `[[a.b]]`. Values are kept as written (a string
or atom token, an array, an inline table); giving them meaning is the next step, so this
one only checks the shape of the document, and the first fault in the shape is the error of
the whole document.

An unquoted value is an atom with the atoms and dots right after it (`1.5`), and with an
atom after blanks (`1979-05-27 07:32:00`, or the mistaken `1 2`). Line ends, comments and
blanks are checked where they are passed: a carriage return must be followed by a line feed,
and comments may hold no control character but tab.

Inline tables may span lines, hold comments, and end in a comma.

Shape errors, and where they point:

* a key not followed by `=`: the start of what follows (a key with no value, or a missing
  value when the line starts with a dot);
* `=` where a value should start: that `=`; a closing bracket or brace there: its start;
* an array or inline table that is not closed: just after its last token;
* an array or inline table opened inside `maxDepth` others: its opening;
* two array elements without a comma between them: the start of the second;
* a comma where a value, key or `=` should stand;
* in an inline table, each token out of place, said for what was wanted (a key, `=`, a
  value or a comma): a second `=` is an extra assignment, a bracket or brace where a key or
  comma should be a missing key, anything but `=` after a key a missing assignment, a key
  after a value a missing comma, and `]` an invalid element;
* anything but a comment after a statement on its line: the start of it;
* a header without its closing bracket: just after its last token;
* a line that starts with a comma or a brace.

A comment is checked even on the rest of a line that is skipped.

Some gaps are left for the next step to report: a key part missing (as in `= 1` or `a. = 1`)
becomes an empty atom, a value missing after `=` an empty atom where it should start, and
the value of a key left without one at the end of an inline table an empty literal string.
-/

namespace Courier

namespace Toml

/-- A key as written: its dotted parts. -/
abbrev KeyText := List Token

/-- A value as written. -/
inductive Piece where
  /-- A string, or an atom: the text of a number, boolean or date (or a mistake). -/
  | scalar (t : Token)
  /-- An array and its span, brackets included. -/
  | array (items : List Piece) (span : Span)
  /-- An inline table and its span, braces included. -/
  | inline (entries : List (KeyText × Piece)) (span : Span)
  deriving Repr, Inhabited

/-- A statement of a document. -/
inductive Statement where
  /-- `key = value`. -/
  | pair (key : KeyText) (value : Piece)
  /-- `[key]` and the span of the header. -/
  | header (key : KeyText) (span : Span)
  /-- `[[key]]` and the span of the header. -/
  | arrayHeader (key : KeyText) (span : Span)
  deriving Repr, Inhabited

/-- Where a reading stands: the tokens left, the end of the last token taken that is not
layout, and the end of the text. -/
structure Cursor where
  /-- Tokens not yet read. -/
  rest : List Token
  /-- The byte after the last token taken that is not a blank, line end or comment. -/
  last : Nat := 0
  /-- The byte size of the text. -/
  eof : Nat
  deriving Inhabited

/-- Readers of a part of a document. -/
abbrev Reader := StateT Cursor (Except Error)

namespace Syntax

/-- Whether a token is layout: blanks, line ends and comments. -/
def isLayout (t : Token) : Bool :=
  t.kind = .blank || t.kind = .lineEnd || t.kind = .comment

/-- Whether a token can be a part of a key. -/
def isKeyToken (t : Token) : Bool :=
  t.kind = .atom || t.kind = .basic || t.kind = .literal || t.kind = .basicBlock ||
    t.kind = .literalBlock

/-- Whether a character may stand in a comment. -/
def isCommentChar (c : Char) : Bool :=
  c = '\t' || (0x20 ≤ c.toNat && c.toNat ≤ 0x7E) || 0x80 ≤ c.toNat

/-- The fault of a layout token, if it has one: a carriage return without a line feed
(reported just after it), or a control character in a comment. -/
def layoutFault (t : Token) : Option Error :=
  match t.kind with
  | .lineEnd =>
    if t.text = ['\r'] then
      some (.expecting "carriage return must be followed by newline" [.description "newline"]
        t.span.after)
    else none
  | .comment =>
    (Error.offsets t.span.start t.text).find? (fun (_, c) => !isCommentChar c) |>.map
      fun (p, _) => .expecting "invalid comment character" [.description "printable characters"] ⟨p, p⟩
  | _ => none

/-- The next token, if any. -/
def peek : Reader (Option Token) := do return (← get).rest.head?

/-- Where the next token starts (the end of the text when none is left). -/
def here : Reader Nat := do
  let c ← get
  return match c.rest.head? with
    | some t => t.span.start
    | none => c.eof

/-- Takes the next token. -/
def advance : Reader Unit :=
  modify fun c => match c.rest with
    | t :: rest => { c with rest, last := if isLayout t then c.last else t.span.stop }
    | [] => c

/-- Fails with an error. -/
def fail (e : Error) : Reader α := throw e

/-- An error just after the last token taken that is not layout. -/
def afterLast (what : String) (expected : List Expected) : Reader α := do
  let p := (← get).last
  fail (.expecting what expected ⟨p, p⟩)

/-- Skips blanks. -/
def skipBlanks : Reader Unit :=
  modify fun c => { c with rest := c.rest.dropWhile (·.kind = .blank) }

/-- Skips blanks, line ends and comments, checking each. -/
def skipLayout : Reader Unit := do
  let c ← get
  match ((c.rest.takeWhile isLayout).filterMap layoutFault).head? with
  | some e => fail e
  | none => set { c with rest := c.rest.dropWhile isLayout }

/-- Skips to the end of the line, checking a comment on the way. -/
def skipLine : Reader Unit := do
  let c ← get
  let inLine (t : Token) : Bool := t.kind != TokenKind.lineEnd
  match ((c.rest.takeWhile inLine).filterMap layoutFault).head? with
  | some e => fail e
  | none => set { c with rest := c.rest.dropWhile inLine }

/-- An empty atom at a byte: a missing key part or value. -/
def emptyAt (pos : Nat) : Token := { kind := .atom, text := [], span := ⟨pos, pos⟩ }

/-- Reads a dotted key; `fuel` bounds its parts. A part missing before a dot or at the end
becomes an empty atom where it should stand. -/
def key : Nat → Reader KeyText
  | 0 => pure []
  | fuel + 1 => do
    skipBlanks
    let part ← match ← peek with
      | some t => if isKeyToken t then do advance; pure t else pure (emptyAt t.span.start)
      | none => pure (emptyAt (← here))
    skipBlanks
    match ← peek with
    | some t =>
      if t.kind = .dot then do
        advance
        return part :: (← key fuel)
      else return [part]
    | none => return [part]

/-- The tokens that continue an unquoted value, and those after them: atoms and dots, and an
atom after blanks. -/
def gather : List Token → List Token × List Token
  | [] => ([], [])
  | u :: rest =>
    if u.kind = .atom || u.kind = .dot then
      let (more, after) := gather rest
      (u :: more, after)
    else if u.kind = .blank then
      match rest with
      | v :: rest' =>
        if v.kind = .atom then
          let (more, after) := gather rest'
          (u :: v :: more, after)
        else ([], u :: rest)
      | [] => ([], [u])
    else ([], u :: rest)

/-- Joins an unquoted value's first token with the tokens that continue it. -/
def joinAtom (t : Token) : Reader Token := do
  let c ← get
  let (more, rest) := gather c.rest
  let stop := (more.getLast?.map fun u : Token => u.span.stop).getD t.span.stop
  set { c with rest, last := stop }
  return { t with text := t.text ++ (more.map (·.text)).flatten, span := ⟨t.span.start, stop⟩ }

/-- What an inline table waits for next. -/
inductive Want where
  | key
  | equals
  | value
  | comma
  deriving DecidableEq

/-- What an inline table's error says it expected. -/
def Want.expected : Want → List Expected
  | .key => [.description "key"]
  | .equals => [.literal "="]
  | .value => [.description "value"]
  | .comma => [.literal ","]

/-- How deep arrays and inline tables may nest. -/
def maxDepth : Nat := 80

/-- The error for an array or inline table opened deeper than `maxDepth`. -/
def tooDeep (t : Token) : Error := .about "cannot recurse further; max recursion depth met" t.span

mutual

/-- Reads a value after `=` or in an array or inline table, inside `depth` open arrays and
inline tables; `fuel` bounds the nesting and length. A value that is missing (a line end,
comment or comma follows) is an empty atom. -/
def value : Nat → Nat → Reader Piece
  | 0, _ => fail { message := "document is too large" }
  | fuel + 1, depth => do
    skipBlanks
    match ← peek with
    | none => return .scalar (emptyAt (← here))
    | some t =>
      match t.kind with
      | .basic | .literal | .basicBlock | .literalBlock => advance; return .scalar t
      | .atom | .dot => advance; return .scalar (← joinAtom t)
      | .openBracket =>
        if depth + 1 > maxDepth then fail (tooDeep t)
        else do advance; array fuel (depth + 1) t [] true
      | .openBrace =>
        if depth + 1 > maxDepth then fail (tooDeep t)
        else do advance; inline fuel (depth + 1) t [] .key []
      | .closeBracket => fail (.expecting "missing array opening" [.literal "["] t.span.before)
      | .closeBrace =>
        fail (.expecting "missing inline table opening" [.literal "\x7b"] t.span.before)
      | .equals => fail (.expecting "extra `=`" [] t.span)
      | _ => return .scalar (emptyAt t.span.start)

/-- Reads the rest of an array opened by `opening` at `depth`; `items` are read so far, and
`needValue` says that a comma or the opening bracket came last. -/
def array : Nat → Nat → Token → List Piece → Bool → Reader Piece
  | 0, _, _, _, _ => fail { message := "document is too large" }
  | fuel + 1, depth, opening, items, needValue => do
    skipLayout
    match ← peek with
    | none => afterLast "unclosed array" [.literal "]"]
    | some t =>
      match t.kind with
      | .closeBracket =>
        advance
        return .array items.reverse ⟨opening.span.start, t.span.stop⟩
      | .comma =>
        if needValue then fail (.expecting "extra comma in array" [.description "value"] t.span)
        else do advance; array fuel depth opening items true
      | .equals =>
        fail (.expecting "unexpected `=` in array" [.description "value", .literal "]"] t.span)
      | _ =>
        if needValue then do
          let v ← value fuel depth
          array fuel depth opening (v :: items) false
        else fail (.expecting "missing comma between array elements" [.literal ","] t.span.before)

/-- Reads the rest of an inline table opened by `opening` at `depth`; `entries` are read so
far, `want` is what comes next, and `pending` the key waiting for its value. -/
def inline : Nat → Nat → Token → List (KeyText × Piece) → Want → KeyText → Reader Piece
  | 0, _, _, _, _, _ => fail { message := "document is too large" }
  | fuel + 1, depth, opening, entries, want, pending => do
    skipLayout
    match ← peek with
    | none => afterLast "unclosed inline table" [.literal "\x7d"]
    | some t =>
      let close (entries : List (KeyText × Piece)) : Reader Piece := do
        advance
        return .inline entries.reverse ⟨opening.span.start, t.span.stop⟩
      let wrong (what : String) : Reader Piece := fail (.expecting what want.expected t.span.before)
      match t.kind with
      | .closeBrace =>
        if want = .key || want = .comma then close entries
        else close ((pending, .scalar { kind := .literal, text := [], span := t.span.before }) :: entries)
      | .comma =>
        if want = .comma then do advance; inline fuel depth opening entries .key []
        else fail (.expecting "extra comma in inline table" want.expected t.span)
      | .equals =>
        if want = .key then do advance; inline fuel depth opening entries .value [emptyAt t.span.start]
        else if want = .equals then do advance; inline fuel depth opening entries .value pending
        else wrong "extra assignment between key-value pairs"
      | .closeBracket =>
        if want = .value then do
          let v ← value fuel depth
          inline fuel depth opening ((pending, v) :: entries) .comma []
        else wrong "invalid inline table element"
      | .openBrace | .openBracket =>
        match want with
        | .value => do
          let v ← value fuel depth
          inline fuel depth opening ((pending, v) :: entries) .comma []
        | .equals => wrong "missing assignment between key-value pairs"
        | _ => wrong "missing key for inline table element"
      | _ =>
        match want with
        | .key => do
          let k ← key fuel
          inline fuel depth opening entries .equals k
        | .equals => wrong "missing assignment between key-value pairs"
        | .value => do
          let v ← value fuel depth
          inline fuel depth opening ((pending, v) :: entries) .comma []
        | .comma => wrong "missing comma between key-value pairs"

end

/-- Checks the end of a statement's line: blanks, then perhaps a comment, then the line end
or the end of the text. -/
def lineEnd : Reader Unit := do
  skipBlanks
  match ← peek with
  | some t =>
    if t.kind = .lineEnd || t.kind = .comment then pure ()
    else fail (.expecting "unexpected key or value" [.description "newline", .literal "#"] t.span.before)
  | none => pure ()

/-- Reads `key = value`. A key without `=` after it is reported as a key with no value, or
as a missing value when the line starts with a dot. -/
def pair (fuel : Nat) : Reader Statement := do
  let dotFirst := ((← peek).map (·.kind == .dot)).getD false
  let k ← key fuel
  skipBlanks
  let noValue := if dotFirst then "missing value for key" else "key with no value"
  match ← peek with
  | some t =>
    if t.kind = .equals then advance
    else fail (.expecting noValue [.literal "="] t.span.before)
  | none => fail (.expecting noValue [.literal "="] ⟨(← here), (← here)⟩)
  let v ← value fuel 0
  lineEnd
  return .pair k v

/-- Reads a header `[key]` or `[[key]]`. When its key is cut short by a token that cannot
continue it and no closing bracket follows, the rest of the line is skipped and the key is
left for the next step to report. -/
def header (fuel : Nat) : Reader Statement := do
  let c ← get
  match c.rest with
  | opening :: rest =>
    let double : Bool := match rest with
      | o :: _ => o.kind = .openBracket
      | [] => false
    advance
    if double then advance
    let k ← key fuel
    skipBlanks
    let whole := k.all fun p => !p.text.isEmpty
    let made (stop : Nat) : Statement :=
      if double then .arrayHeader k ⟨opening.span.start, stop⟩ else .header k ⟨opening.span.start, stop⟩
    let unclosed : Reader Statement := do
      if whole then
        if double then afterLast "unclosed array table" [.literal "]]"]
        else afterLast "unclosed table" [.literal "]"]
      else do skipLine; return made (← get).last
    match ← peek with
    | some t =>
      if t.kind ≠ .closeBracket then unclosed
      else do
        advance
        if double then
          match ← peek with
          | some u =>
            if u.kind = .closeBracket then do
              advance
              lineEnd
              return made u.span.stop
            else fail (.expecting "unclosed array table" [.literal "]"] t.span.after)
          | none => fail (.expecting "unclosed array table" [.literal "]"] t.span.after)
        else do
          lineEnd
          return made t.span.stop
    | none => unclosed
  | [] => fail { message := "expected a header" }

/-- Reads the statements of a document; `fuel` bounds their number. -/
def statements (fuel : Nat) : Nat → List Statement → Reader (List Statement)
  | 0, acc => pure acc.reverse
  | n + 1, acc => do
    skipLayout
    match ← peek with
    | none => pure acc.reverse
    | some t =>
      match t.kind with
      | .openBracket =>
        let s ← header fuel
        statements fuel n (s :: acc)
      | .closeBracket =>
        fail (.expecting "missing table open" [.literal "["] t.span.before)
      | .comma | .openBrace | .closeBrace =>
        fail (.expecting "invalid key-value pair" [.description "key"] t.span)
      | _ =>
        let s ← pair fuel
        statements fuel n (s :: acc)

/-- The statements of a TOML text, or the first error in its shape. -/
def read (source : String) : Except Error (List Statement) :=
  let tokens := Token.scan source
  let fuel := 2 * tokens.length + 2
  (statements fuel (tokens.length + 1) []).run' { rest := tokens, eof := source.utf8ByteSize }

end Syntax

end Toml

end Courier
