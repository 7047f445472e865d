import Courier.Toml.Value
import Courier.Toml.Strings
import Courier.Toml.Datetime

/-!
# TOML scalars

`Scalar.value` gives the value of a string or unquoted scalar token. The text of an unquoted
scalar is told apart by its first character, the way the TOML parser does it:

* a sign starts a number (or `inf`, `nan`); a second sign is redundant;
* `0` starts a number with a radix prefix (`0x`, `0o`, `0b`), or a decimal number or a
  date-time;
* another digit or `_` starts a date-time (digits then `-` or `:`), a float (a `.`, `e` or
  `E` follows the leading digits) or an integer;
* `.` starts a float with no mantissa;
* `t`, `f`, `i` and `n` (of either case) start `true`, `false`, `inf` and `nan`;
* anything else is a string that should have been quoted, or one whose opening quote is
  missing when it ends in a quote.

A text that holds a space (blanks join an atom to the one before, so `1 2` is one text) is a
string that should have been quoted, unless it is a date-time with a space between its date
and its time.

Each kind is then checked part by part, and the first fault is the error: the sign and the
radix prefix, the digits of the radix, where each `_` stands (only between two digits), and
for floats the mantissa, fraction and exponent. A date-time must then be a real one
(`Toml.Datetime`). A number that passes is converted: an integer must fit in 128 bits
(signed, or unsigned when not negative) and a float must not overflow to an infinity. A
number that does not is kept as `Value.overflow`, an error only for whoever reads it, so
that every fault in the shape of the document is found first.
-/

namespace Courier

namespace Toml

namespace Scalar

open Strings

/-- What an unquoted scalar was read as: a boolean, a float or an integer with its text
(signs and digits, without `_`), or a date-time. -/
inductive Reading where
  | boolean (b : Bool)
  | float (text : List Char)
  | integer (radix : Nat) (text : List Char)
  | datetime
  deriving Inhabited

/-- The error for an `_` that does not stand between two digits. -/
def between (p : Nat) : Error := .expecting "`_` may only go between digits" [] ⟨p, p + 1⟩

/-- The error for a leading zero. -/
def leadingZero (p : Nat) : Error := .expecting "unexpected leading zero" [] ⟨p, p + 1⟩

/-- Whether a character is a digit in a radix (ten for floats). -/
def isDigitIn (radix : Nat) (c : Char) : Bool := (hexValue c).any fun v => decide (v < radix)

/-- The characters of a number without its `_`, or the error for the first `_` that does not
stand between two digits. `prev` is the character before. -/
def dropUnderscores (radix : Nat) (prev : Option Char) : Marked → Except Error (List Char)
  | [] => .ok []
  | (p, c) :: rest =>
    if c = '_' then
      let afterDigit := (prev.map (isDigitIn radix)).getD false
      let beforeDigit := (rest.head?.map fun (_, d) => isDigitIn radix d).getD false
      if afterDigit && beforeDigit then dropUnderscores radix (some c) rest
      else .error (between p)
    else (c :: ·) <$> dropUnderscores radix (some c) rest

/-- Checks a run of decimal digits (with `_`) at the start of `ms`, as the mantissa, fraction
or exponent of a float: there must be a digit, and a mantissa of more than one digit must not
start with zero. Gives what follows the run. -/
def digitRun (leadingZeroOk : Bool) (what : String) (stop : Nat) (ms : Marked) :
    Except Error Marked :=
  let run := ms.takeWhile fun (_, c) => c.isDigit || c = '_'
  let count := (run.filter fun (_, c) => c.isDigit).length
  let here := startOf ms stop
  if count = 0 then .error (.expecting what [.description "digits"] ⟨here, here⟩)
  else if 2 ≤ count && !leadingZeroOk && (ms.head?.map (·.2)) = some '0' then
    .error (leadingZero here)
  else .ok (ms.drop run.length)

/-- Checks the shape of a float: a mantissa, then an optional fraction, then an optional
exponent with an optional sign, and nothing after. -/
def floatShape (stop : Nat) (ms : Marked) : Except Error Unit := do
  let rest ← digitRun false "invalid mantissa" stop ms
  let rest ← match rest with
    | (_, '.') :: r => digitRun true "invalid fraction" stop r
    | r => pure r
  let rest ← match rest with
    | (_, e) :: r =>
      if e = 'e' || e = 'E' then
        let r := match r with
          | (_, s) :: r' => if s = '+' || s = '-' then r' else r
          | [] => []
        digitRun true "invalid exponent" stop r
      else pure rest
    | [] => pure []
  match rest with
  | (p, _) :: _ => throw (.expecting "invalid float" [] ⟨p, stop⟩)
  | [] => pure ()

/-- The error for an unquoted text that is no scalar: a string missing its opening quote
when it ends in one, else a string that should have been quoted. -/
def invalid (t : Token) : Error :=
  let ends (q : List Char) := t.text.length ≥ q.length && t.text.drop (t.text.length - q.length) = q
  let missing (q : String) := .expecting "missing opening quote" [.literal q] t.span.before
  if ends ['\'', '\'', '\''] then missing "'''"
  else if ends ['"', '"', '"'] then missing "\"\"\""
  else if ends ['\''] then missing "'"
  else if ends ['"'] then missing "\""
  else .expecting "string values must be quoted" [.description "literal string"] t.span

/-- A word that must be exactly `word`; `what` names its kind for the error, which covers the
text from byte `start`. -/
def symbol (t : Token) (text : List Char) (start : Nat) (word : String) (what : String)
    (r : Reading) : Except Error Reading :=
  if text = word.toList then .ok r
  else .error (.expecting ("invalid " ++ what) [.literal word] ⟨start, t.span.stop⟩)

/-- A whole scalar that must be exactly `expected`; one that holds a space is rather a string
that should have been quoted (`fancy car` is no misspelt `false`). -/
def word (t : Token) (expected : String) (what : String) (r : Reading) : Except Error Reading :=
  if t.text ≠ expected.toList && t.text.contains ' ' then .error (invalid t)
  else symbol t t.text t.span.start expected what r

/-- The text of a decimal integer after the checks of its digits. -/
def decimalInteger (raw : Marked) : Except Error Reading :=
  (Reading.integer 10) <$> dropUnderscores 10 none raw

/-- Reads a number or date-time whose value (after any sign) starts with a digit or `_`;
`raw` is the whole text, sign included. -/
def numberOrDatetime (t : Token) (value raw : Marked) : Except Error Reading :=
  let lead := value.takeWhile fun (_, c) => c.isDigit
  let noLeadingZero : Except Error Unit :=
    match value with
    | (p, '0') :: _ => .error (leadingZero p)
    | _ => .ok ()
  match value.drop lead.length with
  | [] => do noLeadingZero; decimalInteger raw
  | rest@((_, d) :: _) =>
    let has (c : Char) := rest.any (·.2 = c)
    if d = '-' || d = ':' then .ok .datetime
    else if has ' ' then .error (invalid t)
    else if has '.' || has 'e' || has 'E' then do
      floatShape t.span.stop value
      (Reading.float) <$> dropUnderscores 10 none raw
    else if d = '_' then do noLeadingZero; decimalInteger raw
    else .error (invalid t)

/-- The description of a bad digit in a radix. -/
def radixDigitError (radix : Nat) : String :=
  if radix = 16 then "invalid hexadecimal number"
  else if radix = 8 then "invalid octal number"
  else "invalid binary number"

/-- Reads the digits after a radix prefix. -/
def radixed (radix : Nat) (digits : Marked) : Except Error Reading := do
  match digits with
  | (p, s) :: _ =>
    if s = '+' || s = '-' then throw (.expecting "unexpected sign" [] ⟨p, p + 1⟩)
  | [] => pure ()
  match digits.find? fun (_, c) => !isDigitIn radix c && c ≠ '_' with
  | some (p, _) => throw (.about (radixDigitError radix) ⟨p, p⟩)
  | none => pure ()
  (Reading.integer radix) <$> dropUnderscores radix none digits

/-- Reads a number whose value (after any sign) starts with `0`. -/
def zeroPrefixed (t : Token) (signed : Bool) (value raw : Marked) : Except Error Reading :=
  match value with
  | [_] => decimalInteger raw
  | (p, _) :: (_, r) :: digits =>
    let radix := match r with
      | 'x' | 'X' => some 16
      | 'o' | 'O' => some 8
      | 'b' | 'B' => some 2
      | _ => none
    let signError : Except Error Unit :=
      if signed then .error (.expecting "integers with a radix cannot be signed" [] ⟨t.span.start, t.span.start + 1⟩)
      else .ok ()
    match radix with
    | some n => do
      if t.text.contains ' ' then throw (invalid t)
      signError
      if r.isUpper then
        throw (.expecting "radix must be lowercase" [.literal (String.ofList ['0', r.toLower])] ⟨p, p + 2⟩)
      radixed n digits
    | none =>
      if r = 'd' || r = 'D' then do
        if t.text.contains ' ' then throw (invalid t)
        signError
        throw (.expecting "redundant integer number prefix" [] ⟨p, p + 2⟩)
      else numberOrDatetime t value raw
  | [] => .error (invalid t)

/-- Reads what follows a sign; `value` is the text after the signs read so far. -/
def afterSign (t : Token) (raw : Marked) : Marked → Except Error Reading
  | [] => .error (invalid t)
  | value@((p, c) :: rest) =>
    if c = '+' || c = '-' then
      .error (.expecting "redundant numeric sign" [] ⟨p, p + 1⟩)
    else if c = '_' || ('1' ≤ c && c ≤ '9') then numberOrDatetime t value raw
    else if c = '0' then zeroPrefixed t true value raw
    else if t.text.contains ' ' then .error (invalid t)
    else if c = '.' then do
      floatShape t.span.stop raw
      (Reading.float) <$> dropUnderscores 10 none raw
    else if c = 'i' || c = 'I' then
      symbol t (c :: rest.map (·.2)) p "inf" "float" (.float t.text)
    else if c = 'n' || c = 'N' then
      symbol t (c :: rest.map (·.2)) p "nan" "float" (.float t.text)
    else .error (invalid t)

/-- Reads the text of an unquoted scalar. -/
def read (t : Token) : Except Error Reading :=
  let raw := Error.offsets t.span.start t.text
  match t.text with
  | [] => .error (invalid t)
  | c :: _ =>
    if c = '+' || c = '-' then afterSign t raw raw.tail
    else if c = '_' || ('1' ≤ c && c ≤ '9') then numberOrDatetime t raw raw
    else if c = '0' then zeroPrefixed t false raw raw
    else if c = '.' then do
      if t.text.contains ' ' then throw (invalid t)
      floatShape t.span.stop raw
      (Reading.float) <$> dropUnderscores 10 none raw
    else if c = 't' || c = 'T' then word t "true" "boolean" (.boolean true)
    else if c = 'f' || c = 'F' then word t "false" "boolean" (.boolean false)
    else if c = 'i' || c = 'I' then word t "inf" "float" (.float t.text)
    else if c = 'n' || c = 'N' then word t "nan" "float" (.float t.text)
    else .error (invalid t)

/-- The value of digits in a radix. -/
def digitsValue (radix : Nat) (ds : List Char) : Nat :=
  ds.foldl (fun a c => a * radix + (hexValue c).getD 0) 0

/-- The number of decimal digits of a natural number (one for zero). -/
def width (n : Nat) : Nat := (Nat.toDigits 10 n).length

/-- The double nearest to `m · 10^e`, with the sign `neg`. Values far out of range are
infinite or zero without computing them. -/
def decimalFloat (neg : Bool) (m : Nat) (e : Int) : Float :=
  let mag : Float :=
    if m = 0 then 0.0
    else if e + width m > 311 then 1.0 / 0.0
    else if e + width m < -344 then 0.0
    else if e < 0 then Float.ofScientific m true e.natAbs
    else Float.ofScientific m false e.natAbs
  if neg then -mag else mag

/-- The sign of a number's text and the rest. -/
def signOf : List Char → Bool × List Char
  | '-' :: rest => (true, rest)
  | '+' :: rest => (false, rest)
  | cs => (false, cs)

/-- The double written by a float's text (checked already), or by `inf` or `nan` with an
optional sign. -/
def floatOf (text : List Char) : Float :=
  let (neg, body) := signOf text
  if body = ['i', 'n', 'f'] then (if neg then -(1.0 / 0.0) else 1.0 / 0.0)
  else if body = ['n', 'a', 'n'] then (if neg then -(0.0 / 0.0) else 0.0 / 0.0)
  else
    let intPart := body.takeWhile Char.isDigit
    let afterInt := body.drop intPart.length
    let (fracPart, afterFrac) := match afterInt with
      | '.' :: rest => (rest.takeWhile Char.isDigit, (rest.dropWhile Char.isDigit))
      | rest => ([], rest)
    let expo : Int := match afterFrac with
      | _ :: rest =>
        let (eneg, ds) := signOf rest
        if eneg then -(digitsValue 10 ds : Int) else digitsValue 10 ds
      | [] => 0
    decimalFloat neg (digitsValue 10 (intPart ++ fracPart)) (expo - fracPart.length)

/-- Whether an integer fits in 128 bits, signed or (when not negative) unsigned. -/
def fits (n : Int) : Bool := -Int.pow 2 127 ≤ n && n < Int.pow 2 128

/-- The value of an unquoted scalar. -/
def unquotedValue (t : Token) : Except Error Value := do
  match ← read t with
  | .boolean b => pure (.boolean t.span b)
  | .float text =>
    let x := floatOf text
    let (_, body) := signOf text
    if x.isInf && body ≠ ['i', 'n', 'f'] then pure (.overflow t.span .float)
    else pure (.float t.span x)
  | .integer radix text =>
    let (neg, body) := signOf text
    let n : Int := if neg then -(digitsValue radix body : Int) else digitsValue radix body
    if body.isEmpty || !fits n then pure (.overflow t.span .integer)
    else pure (.integer t.span n)
  | .datetime =>
    match Datetime.check t.text with
    | some e => throw (.about e t.span)
    | none => pure (.datetime t.span (String.ofList t.text))

/-- The value of a scalar token. -/
def value (t : Token) : Except Error Value :=
  match t.kind with
  | .basic | .literal | .basicBlock | .literalBlock => (Value.string t.span) <$> Strings.string t
  | _ => unquotedValue t

end Scalar

end Toml

end Courier
