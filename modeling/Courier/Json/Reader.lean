import Courier.Decimal.Shortest
import Courier.Text.Quoted

/-!
# Reading JSON text

A streaming reader of JSON text, the one the envelope decoder is built on. It reads what a
typed value asks for and reports the first fault with the position where it was noticed:
the line (one plus the line feeds before it) and the column (bytes since the last line feed).
A fault noticed on a character that was only looked at, not taken, is reported one byte
past the reading position; a fault that belongs to a value rather than to the text
(`invalid type`, `missing field`) gets its position from the caller once the enclosing
value has been closed.

Numbers are read as an unsigned 64-bit integer when they are one, as a negative integer when
it fits 64 bits, and otherwise as a double: digits beyond 64 bits and fractional digits go
into a decimal exponent, and the significand is multiplied or divided by one power of ten.
Values the reader is told to skip are checked for syntax only, at any depth.
-/

namespace Courier

namespace Json

/-- What a value turned out to be, when it was not what the reader wanted. -/
inductive Unexpected where
  /-- A boolean. -/
  | bool (b : Bool)
  /-- A non-negative integer. -/
  | unsigned (n : Nat)
  /-- A negative integer. -/
  | signed (i : Int)
  /-- A number read as a double. -/
  | float (f : Float)
  /-- A string. -/
  | str (s : String)
  /-- `null`. -/
  | unit
  /-- An array. -/
  | seq
  /-- An object. -/
  | map

/-- The words for an unexpected value. -/
def Unexpected.describe : Unexpected → String
  | .bool b => "boolean `" ++ (if b then "true" else "false") ++ "`"
  | .unsigned n => "integer `" ++ toString n ++ "`"
  | .signed i => "integer `" ++ toString i ++ "`"
  | .float f => "floating point `" ++ Decimal.render Decimal.plain f ++ "`"
  | .str s => "string " ++ Quoted.debug s
  | .unit => "null"
  | .seq => "sequence"
  | .map => "map"

/-- A fault found while reading. -/
inductive Fault where
  | eofList
  | eofObject
  | eofString
  | eofValue
  | expectedColon
  | expectedListCommaOrEnd
  | expectedObjectCommaOrEnd
  | expectedIdent
  | expectedValue
  | invalidEscape
  | invalidNumber
  | numberOutOfRange
  | controlCharacter
  | keyMustBeString
  | loneLeadingSurrogate
  | trailingComma
  | trailingCharacters
  | unexpectedEndOfHexEscape
  /-- A value of the wrong kind for what was expected. -/
  | invalidType (found : Unexpected) (expected : String)
  /-- A value of the right kind out of the expected range. -/
  | invalidValue (found : Unexpected) (expected : String)
  /-- An array with too few items. -/
  | invalidLength (count : Nat) (expected : String)
  /-- A required field that never came. -/
  | missingField (name : String)
  /-- A field given twice. -/
  | duplicateField (name : String)

/-- The sentence for a fault. -/
def Fault.describe : Fault → String
  | .eofList => "EOF while parsing a list"
  | .eofObject => "EOF while parsing an object"
  | .eofString => "EOF while parsing a string"
  | .eofValue => "EOF while parsing a value"
  | .expectedColon => "expected `:`"
  | .expectedListCommaOrEnd => "expected `,` or `]`"
  | .expectedObjectCommaOrEnd => "expected `,` or `\x7d`"
  | .expectedIdent => "expected ident"
  | .expectedValue => "expected value"
  | .invalidEscape => "invalid escape"
  | .invalidNumber => "invalid number"
  | .numberOutOfRange => "number out of range"
  | .controlCharacter => "control character (\\u0000-\\u001F) found while parsing a string"
  | .keyMustBeString => "key must be a string"
  | .loneLeadingSurrogate => "lone leading surrogate in hex escape"
  | .trailingComma => "trailing comma"
  | .trailingCharacters => "trailing characters"
  | .unexpectedEndOfHexEscape => "unexpected end of hex escape"
  | .invalidType u e => "invalid type: " ++ u.describe ++ ", expected " ++ e
  | .invalidValue u e => "invalid value: " ++ u.describe ++ ", expected " ++ e
  | .invalidLength n e => "invalid length " ++ toString n ++ ", expected " ++ e
  | .missingField n => "missing field `" ++ n ++ "`"
  | .duplicateField n => "duplicate field `" ++ n ++ "`"

/-- A fault and, once known, the line and column where it was noticed. -/
structure ReadError where
  /-- What went wrong. -/
  fault : Fault
  /-- Line and byte column. -/
  pos : Option (Nat × Nat)

/-- The report of a read error: the fault, then its position. -/
def ReadError.message (e : ReadError) : String :=
  match e.pos with
  | some (l, c) => e.fault.describe ++ " at line " ++ toString l ++ " column " ++ toString c
  | none => e.fault.describe

/-- Where reading stands: the characters left, the line and the byte column reached. -/
structure Reader where
  /-- Characters not read yet. -/
  rest : List Char
  /-- The current line, from one. -/
  line : Nat
  /-- Bytes since the last line feed. -/
  column : Nat

/-- A reader at the start of a text. -/
def Reader.start (s : String) : Reader := ⟨s.toList, 1, 0⟩

/-- The reader past one character. -/
def Reader.advance (r : Reader) : Reader :=
  match r.rest with
  | [] => r
  | c :: cs => if c = '\n' then ⟨cs, r.line + 1, 0⟩ else ⟨cs, r.line, r.column + c.utf8Size⟩

/-- The position one byte past the reading position, stopping at the end of the text. -/
def Reader.peekPos (r : Reader) : Nat × Nat :=
  match r.rest with
  | [] => (r.line, r.column)
  | c :: _ => if c = '\n' then (r.line + 1, 0) else (r.line, r.column + 1)

/-- The reader past `n` more bytes; a character cut in the middle counts its bytes up to the cut. -/
def Reader.advanceBytes (n : Nat) (r : Reader) : Reader :=
  go n r.rest r.line r.column
where
  /-- Walks the characters, counting bytes down. -/
  go : Nat → List Char → Nat → Nat → Reader
    | 0, cs, l, col => ⟨cs, l, col⟩
    | _, [], l, col => ⟨[], l, col⟩
    | n + 1, c :: cs, l, col =>
      if c.utf8Size ≤ n + 1 then
        if c = '\n' then go n cs (l + 1) 0 else go (n + 1 - c.utf8Size) cs l (col + c.utf8Size)
      else ⟨cs, l, col + n + 1⟩

/-- The reader at the end of its text. -/
def Reader.toEnd (r : Reader) : Reader :=
  r.advanceBytes ((r.rest.map Char.utf8Size).foldr (· + ·) 0)

/-- Skips blanks (space, tab, carriage return, line feed). -/
def Reader.skipBlanks : Reader → Reader
  | ⟨c :: cs, l, col⟩ =>
    if c = ' ' ∨ c = '\t' ∨ c = '\r' then Reader.skipBlanks ⟨cs, l, col + 1⟩
    else if c = '\n' then Reader.skipBlanks ⟨cs, l + 1, 0⟩
    else ⟨c :: cs, l, col⟩
  | ⟨[], l, col⟩ => ⟨[], l, col⟩

/-- A reading step: it may fail, and the reader's state survives a failure. -/
abbrev Read := ExceptT ReadError (StateM Reader)

/-- A fault at the reading position. -/
def failHere (f : Fault) : Read α := do
  let r ← get
  throw ⟨f, some (r.line, r.column)⟩

/-- A fault one byte past the reading position (found on a character only looked at). -/
def failPeek (f : Fault) : Read α := do
  let r ← get
  throw ⟨f, some r.peekPos⟩

/-- A fault without a position yet. -/
def failBare (f : Fault) : Read α := throw ⟨f, none⟩

/-- Gives an error without a position the reading position. -/
def ReadError.place (e : ReadError) (r : Reader) : ReadError :=
  match e.pos with
  | some _ => e
  | none => { e with pos := some (r.line, r.column) }

/-- The next character, not taken. -/
def peek : Read (Option Char) := do return (← get).rest.head?

/-- Takes one character. -/
def bump : Read Unit := modify Reader.advance

/-- Skips blanks. -/
def blanks : Read Unit := modify Reader.skipBlanks

/-- Runs a step and returns its outcome, keeping the state where it stopped. -/
def observe (m : Read α) : Read (Except ReadError α) :=
  tryCatch (Except.ok <$> m) (fun e => pure (.error e))

/-- Takes the rest of a keyword whose first letter was taken. A wrong byte is reported just
past it. -/
def keyword : List Char → Read Unit
  | [] => pure ()
  | c :: cs => do
    match ← peek with
    | none => failHere .eofValue
    | some d => if d = c then do bump; keyword cs else failPeek .expectedIdent

/-- The value of a hexadecimal digit. -/
def hexValue (c : Char) : Option Nat :=
  if '0' ≤ c ∧ c ≤ '9' then some (c.toNat - 48)
  else if 'a' ≤ c ∧ c ≤ 'f' then some (c.toNat - 87)
  else if 'A' ≤ c ∧ c ≤ 'F' then some (c.toNat - 55)
  else none

/-- The value of four hexadecimal digits. -/
def hex4 (cs : List Char) : Option Nat :=
  match cs with
  | [a, b, c, d] => do
    let a ← hexValue a
    let b ← hexValue b
    let c ← hexValue c
    let d ← hexValue d
    pure (((a * 16 + b) * 16 + c) * 16 + d)
  | _ => none

/-- Reads the four hex digits of a `\u` escape. -/
def hexEscape : Read Nat := do
  let r ← get
  if (r.rest.map Char.utf8Size).foldr (· + ·) 0 < 4 then
    set r.toEnd
    failHere .eofString
  else
    set (r.advanceBytes 4)
    (hex4 (r.rest.take 4)).elim (failHere .invalidEscape) pure

/-- Reads the rest of a `\u` escape (the `u` taken) and adds its character to `acc`. -/
def unicodeEscape (acc : List Char) : Read (List Char) := do
  let n ← hexEscape
  if 0xDC00 ≤ n ∧ n ≤ 0xDFFF then failHere .loneLeadingSurrogate
  else if n < 0xD800 ∨ n > 0xDBFF then pure (Char.ofNat n :: acc)
  else
    match ← peek with
    | none => failHere .eofString
    | some c =>
      if c ≠ '\\' then failPeek .unexpectedEndOfHexEscape else
      bump
      match ← peek with
      | none => failHere .eofString
      | some c =>
        if c ≠ 'u' then failPeek .unexpectedEndOfHexEscape else
        bump
        let n2 ← hexEscape
        if n2 < 0xDC00 ∨ n2 > 0xDFFF then failHere .loneLeadingSurrogate
        else pure (Char.ofNat (((n - 0xD800) * 1024 + (n2 - 0xDC00)) + 0x10000) :: acc)

/-- Reads one escape (the backslash taken) and adds its character to `acc`. -/
def escape (acc : List Char) : Read (List Char) := do
  match ← peek with
  | none => failHere .eofString
  | some c =>
    if c = '"' then do bump; pure ('"' :: acc)
    else if c = '\\' then do bump; pure ('\\' :: acc)
    else if c = '/' then do bump; pure ('/' :: acc)
    else if c = 'b' then do bump; pure (Char.ofNat 8 :: acc)
    else if c = 'f' then do bump; pure (Char.ofNat 12 :: acc)
    else if c = 'n' then do bump; pure ('\n' :: acc)
    else if c = 'r' then do bump; pure ('\r' :: acc)
    else if c = 't' then do bump; pure ('\t' :: acc)
    else if c = 'u' then do bump; unicodeEscape acc
    else failPeek .invalidEscape

/-- Reads the rest of a string (the opening quote taken); `acc` holds what was read, reversed. -/
def stringBody : Nat → List Char → Read String
  | 0, _ => failHere .eofString
  | fuel + 1, acc => do
    match ← peek with
    | none => failHere .eofString
    | some c =>
      if c = '"' then
        bump
        pure (String.ofList acc.reverse)
      else if c = '\\' then
        bump
        let acc ← escape acc
        stringBody fuel acc
      else if c.toNat < 32 then
        bump
        failHere .controlCharacter
      else
        bump
        stringBody fuel (c :: acc)

/-- The number of steps that reading the rest of the text can take. -/
def budget : Read Nat := do return (← get).rest.length + 1

/-- Reads a string whose opening quote was taken. -/
def string : Read String := do stringBody (← budget) []

/-- Skips an escape (the backslash taken), checking its syntax. -/
def skipEscape : Read Unit := do
  match ← peek with
  | none => failHere .eofString
  | some c =>
    if c = 'u' then do bump; discard hexEscape
    else if c = '"' ∨ c = '\\' ∨ c = '/' ∨ c = 'b' ∨ c = 'f' ∨ c = 'n' ∨ c = 'r' ∨ c = 't' then
      bump
    else failPeek .invalidEscape

/-- Skips the rest of a string (the opening quote taken). -/
def skipStringBody : Nat → Read Unit
  | 0 => failHere .eofString
  | fuel + 1 => do
    match ← peek with
    | none => failHere .eofString
    | some c =>
      if c = '"' then bump
      else if c = '\\' then
        bump
        skipEscape
        skipStringBody fuel
      else if c.toNat < 32 then failHere .controlCharacter
      else
        bump
        skipStringBody fuel

/-- A number as read: an unsigned or negative 64-bit integer, or a double. -/
inductive Number where
  | unsigned (n : Nat)
  | signed (i : Int)
  | float (f : Float)

/-- How a number shows in a report of an unexpected value. -/
def Number.unexpected : Number → Unexpected
  | .unsigned n => .unsigned n
  | .signed i => .signed i
  | .float f => .float f

/-- The largest unsigned 64-bit value. -/
def u64Max : Nat := 18446744073709551615

/-- Keeps an exponent within the signed 32-bit range. -/
def clampExp (e : Int) : Int := max (-2147483648) (min 2147483647 e)

/-- Whether `c` is a decimal digit, and its value. -/
def digitValue (c : Char) : Option Nat :=
  if '0' ≤ c ∧ c ≤ '9' then some (c.toNat - 48) else none

/-- The double `significand * 10 ^ exponent`, or `number out of range` if it overflows. -/
def fromParts (positive : Bool) (significand : Nat) (exponent : Int) : Read Float := do
  let rec go : Nat → Float → Int → Read Float
    | 0, f, _ => pure f
    | fuel + 1, f, e =>
      if e.natAbs ≤ 308 then
        let p := Decimal.nearest (Nat.pow 10 e.natAbs)
        if 0 ≤ e then
          let g := f * p
          if g.isInf then failHere .numberOutOfRange else pure g
        else pure (f / p)
      else if f == 0.0 then pure f
      else if 0 ≤ e then failHere .numberOutOfRange
      else go fuel (f / Decimal.nearest (Nat.pow 10 308)) (e + 308)
  let f ← go 8000000 (Decimal.nearest significand) exponent
  pure (if positive then f else -f)

/-- Skips digits that no longer fit the significand. -/
def skipDigits : Nat → Read Unit
  | 0 => pure ()
  | fuel + 1 => do
    match ← peek with
    | some c => if (digitValue c).isSome then bump; skipDigits fuel else pure ()
    | none => pure ()

/-- The exponent part (at `e` or `E`), applied to `significand * 10 ^ start`. -/
def exponentPart (positive : Bool) (significand : Nat) (start : Int) : Read Float := do
  bump
  let negExp ← match ← peek with
    | some '+' => do bump; pure false
    | some '-' => do bump; pure true
    | _ => pure false
  match ← peek with
  | none => failHere .eofValue
  | some c =>
    match digitValue c with
    | none => failPeek .invalidNumber
    | some d =>
      bump
      let rec digits : Nat → Nat → Read (Option Nat)
        | 0, e => pure (some e)
        | fuel + 1, e => do
          match ← peek with
          | some c =>
            match digitValue c with
            | some d =>
              bump
              if e * 10 + d > 2147483647 then pure none else digits fuel (e * 10 + d)
            | none => pure (some e)
          | none => pure (some e)
      match ← digits (← budget) d with
      | none =>
        -- an exponent past 32 bits: zero for a zero significand or a negative exponent
        if significand ≠ 0 ∧ ¬ negExp then failHere .numberOutOfRange
        else
          skipDigits (← budget)
          pure (if positive then 0.0 else -0.0)
      | some e =>
        let final := if negExp then clampExp (start - e) else clampExp (start + e)
        fromParts positive significand final

/-- The fraction part (at `.`) of `significand * 10 ^ start`. -/
def fractionPart (positive : Bool) (significand : Nat) (start : Int) : Read Float := do
  bump
  let rec digits : Nat → Nat → Int → Bool → Read (Nat × Int × Bool × Bool)
    | 0, s, e, any => pure (s, e, any, false)
    | fuel + 1, s, e, any => do
      match ← peek with
      | some c =>
        match digitValue c with
        | some d =>
          if s * 10 + d > u64Max then pure (s, e, true, true)
          else
            bump
            digits fuel (s * 10 + d) (e - 1) true
        | none => pure (s, e, any, false)
      | none => pure (s, e, any, false)
  let (s, e, any, overflowed) ← digits (← budget) significand 0 false
  if overflowed then
    skipDigits (← budget)
    match ← peek with
    | some 'e' => exponentPart positive s (start + e)
    | some 'E' => exponentPart positive s (start + e)
    | _ => fromParts positive s (start + e)
  else if ¬ any then
    match ← peek with
    | some _ => failPeek .invalidNumber
    | none => failPeek .eofValue
  else
    match ← peek with
    | some 'e' => exponentPart positive s (start + e)
    | some 'E' => exponentPart positive s (start + e)
    | _ => fromParts positive s (start + e)

/-- What follows the integer digits of a number. -/
def afterInteger (positive : Bool) (significand : Nat) : Read Number := do
  match ← peek with
  | some '.' => return .float (← fractionPart positive significand 0)
  | some 'e' => return .float (← exponentPart positive significand 0)
  | some 'E' => return .float (← exponentPart positive significand 0)
  | _ =>
    if positive then return .unsigned significand
    else if significand = 0 then return .float (-0.0)
    else if significand ≤ Nat.pow 2 63 then return .signed (-(significand : Int))
    else return .float (-(Decimal.nearest significand))

/-- Digits past 64 bits count as powers of ten. -/
def longInteger (positive : Bool) (significand : Nat) : Read Float := do
  let rec count : Nat → Int → Read Int
    | 0, e => pure e
    | fuel + 1, e => do
      match ← peek with
      | some c => if (digitValue c).isSome then bump; count fuel (e + 1) else pure e
      | none => pure e
  let e ← count (← budget) 0
  match ← peek with
  | some '.' => fractionPart positive significand e
  | some 'e' => exponentPart positive significand e
  | some 'E' => exponentPart positive significand e
  | _ => fromParts positive significand e

/-- Reads the digits of a number (its sign taken). -/
def integer (positive : Bool) : Read Number := do
  match ← peek with
  | none => failHere .eofValue
  | some c =>
    if c = '0' then
      bump
      match ← peek with
      | some d => if (digitValue d).isSome then failPeek .invalidNumber else afterInteger positive 0
      | none => afterInteger positive 0
    else
      match digitValue c with
      | none => failPeek .invalidNumber
      | some d =>
        bump
        let rec more : Nat → Nat → Read Number
          | 0, s => afterInteger positive s
          | fuel + 1, s => do
            match ← peek with
            | some c =>
              match digitValue c with
              | some d =>
                if s * 10 + d > u64Max then return .float (← longInteger positive s)
                else
                  bump
                  more fuel (s * 10 + d)
              | none => afterInteger positive s
            | none => afterInteger positive s
        more (← budget) d

/-- Skips the exponent part of a skipped number. -/
def skipExponent : Read Unit := do
  bump
  match ← peek with
  | some '+' => bump
  | some '-' => bump
  | _ => pure ()
  match ← peek with
  | some c =>
    if (digitValue c).isSome then
      bump
      skipDigits (← budget)
    else failPeek .invalidNumber
  | none => failHere .invalidNumber

/-- Skips a number (its sign taken), checking its syntax. -/
def skipNumber : Read Unit := do
  match ← peek with
  | some c =>
    if c = '0' then
      bump
      match ← peek with
      | some d => if (digitValue d).isSome then failPeek .invalidNumber else pure ()
      | none => pure ()
    else if (digitValue c).isSome then do bump; skipDigits (← budget)
    else failPeek .invalidNumber
  | none => failHere .invalidNumber
  match ← peek with
  | some '.' =>
    bump
    match ← peek with
    | some d =>
      if (digitValue d).isSome then
        skipDigits (← budget)
        match ← peek with
        | some 'e' => skipExponent
        | some 'E' => skipExponent
        | _ => pure ()
      else failPeek .invalidNumber
    | none => failPeek .invalidNumber
  | some 'e' => skipExponent
  | some 'E' => skipExponent
  | _ => pure ()

/-- Closes brackets after a skipped value. Returns the bracket whose next item follows, or
`none` when the outermost value is complete. -/
def closeFrames : Nat → List Char → Char → Bool → Read (Option (List Char × Char))
  | 0, _, _, _ => failHere .eofValue
  | fuel + 1, stack, frame, acceptComma => do
    blanks
    match ← peek with
    | none => failPeek (if frame = '[' then .eofList else .eofObject)
    | some c =>
      if c = ',' ∧ acceptComma then
        bump
        pure (some (stack, frame))
      else if (c = ']' ∧ frame = '[') ∨ (c = '\x7d' ∧ frame = '\x7b') then
        bump
        match stack with
        | [] => pure none
        | f :: rest => closeFrames fuel rest f true
      else if acceptComma then
        failPeek (if frame = '[' then .expectedListCommaOrEnd else .expectedObjectCommaOrEnd)
      else pure (some (stack, frame))

/-- Skips one value of any shape, checking its syntax. `stack` holds the enclosing brackets
and `enclosing` the innermost one. -/
def skipLoop : Nat → List Char → Option Char → Read Unit
  | 0, _, _ => failHere .eofValue
  | fuel + 1, stack, enclosing => do
    blanks
    let opened ← match ← peek with
      | none => failPeek .eofValue
      | some 'n' => do bump; keyword ['u', 'l', 'l']; pure none
      | some 't' => do bump; keyword ['r', 'u', 'e']; pure none
      | some 'f' => do bump; keyword ['a', 'l', 's', 'e']; pure none
      | some '-' => do bump; skipNumber; pure none
      | some '"' => do bump; skipStringBody (← budget); pure none
      | some c =>
        if (digitValue c).isSome then do skipNumber; pure none
        else if c = '[' ∨ c = '\x7b' then do bump; pure (some c)
        else failPeek .expectedValue
    let stack := match opened with
      | some _ => enclosing.toList ++ stack
      | none => stack
    let resume ← match opened with
      | some f => closeFrames fuel stack f false
      | none =>
        match enclosing with
        | some f => closeFrames fuel stack f true
        | none =>
          match stack with
          | [] => pure none
          | f :: rest => closeFrames fuel rest f true
    match resume with
    | none => pure ()
    | some (stack, frame) =>
      if frame = '\x7b' then
        blanks
        match ← peek with
        | some '"' => bump
        | some _ => failPeek .keyMustBeString
        | none => failPeek .eofObject
        skipStringBody (← budget)
        blanks
        match ← peek with
        | some ':' => bump
        | some _ => failPeek .expectedColon
        | none => failPeek .eofObject
      skipLoop fuel stack (some frame)

/-- Skips one value of any shape. -/
def skipValue : Read Unit := do skipLoop (← budget) [] none

/-- Fails with `invalid type`, reading the value that is there to name it. -/
def refuse (expected : String) : Read α := do
  let found ← match ← peek with
    | some 'n' => do bump; keyword ['u', 'l', 'l']; pure Unexpected.unit
    | some 't' => do bump; keyword ['r', 'u', 'e']; pure (Unexpected.bool true)
    | some 'f' => do bump; keyword ['a', 'l', 's', 'e']; pure (Unexpected.bool false)
    | some '-' => do bump; pure (← integer false).unexpected
    | some '"' => do bump; pure (Unexpected.str (← string))
    | some '[' => pure Unexpected.seq
    | some '\x7b' => pure Unexpected.map
    | some c =>
      if (digitValue c).isSome then do pure (← integer true).unexpected
      else failPeek .expectedValue
    | none => failPeek .expectedValue
  failHere (.invalidType found expected)

/-- Reads a string value. -/
def readString : Read String := do
  blanks
  match ← peek with
  | none => failPeek .eofValue
  | some '"' => bump; string
  | some _ => refuse "a string"

/-- Reads a boolean value. -/
def readBool : Read Bool := do
  blanks
  match ← peek with
  | none => failPeek .eofValue
  | some 't' => bump; keyword ['r', 'u', 'e']; pure true
  | some 'f' => bump; keyword ['a', 'l', 's', 'e']; pure false
  | some _ => refuse "a boolean"

/-- A number as a signed 64-bit integer. -/
def asI64 : Number → Read Int
  | .unsigned n => if n < Nat.pow 2 63 then pure n else failHere (.invalidValue (.unsigned n) "i64")
  | .signed i => pure i
  | .float f => failHere (.invalidType (.float f) "i64")

/-- Reads a signed 64-bit integer value. -/
def readI64 : Read Int := do
  blanks
  match ← peek with
  | none => failPeek .eofValue
  | some '-' => bump; asI64 (← integer false)
  | some c => if (digitValue c).isSome then asI64 (← integer true) else refuse "i64"

/-- Checks that only blanks are left. -/
def finish : Read Unit := do
  blanks
  match ← peek with
  | some _ => failPeek .trailingCharacters
  | none => pure ()

end Json

end Courier
