import Courier.Toml.Error

/-!
# TOML values

A TOML value is a string, an integer, a float, a boolean, a date-time, an array or a table,
or a number too large to be read; each keeps the span of its text so that later errors
about it can point there. Tables keep
their keys in the order they were first written, and a date-time keeps its text.
-/

namespace Courier

namespace Toml

/-- The two kinds of number. -/
inductive Number where
  | integer
  | float
  deriving DecidableEq, Repr, Inhabited

/-- What reading a number that overflowed says. -/
def Number.overflowed : Number → String
  | .integer => "integer number overflowed"
  | .float => "floating-point number overflowed"

/-- A TOML value and the span of its text. -/
inductive Value where
  | string (span : Span) (text : String)
  | integer (span : Span) (n : Int)
  | float (span : Span) (x : Float)
  /-- A number that names no value a reader can hold: an integer beyond 128 bits or without
  digits (`0x`), or a float beyond the largest double. Reading it is an error. -/
  | overflow (span : Span) (kind : Number)
  | boolean (span : Span) (b : Bool)
  | datetime (span : Span) (text : String)
  | array (span : Span) (items : List Value)
  | table (span : Span) (entries : List (String × Value))
  deriving Inhabited

namespace Value

/-- The span of a value's text. -/
def span : Value → Span
  | .string s _ | .integer s _ | .float s _ | .overflow s _ | .boolean s _ | .datetime s _
  | .array s _ | .table s _ => s

/-- A value with another span. -/
def withSpan (v : Value) (s : Span) : Value :=
  match v with
  | .string _ t => .string s t
  | .integer _ n => .integer s n
  | .float _ x => .float s x
  | .overflow _ k => .overflow s k
  | .boolean _ b => .boolean s b
  | .datetime _ t => .datetime s t
  | .array _ items => .array s items
  | .table _ entries => .table s entries

/-- The name of a value's type, as errors about values written after `=` give it; a table
there is an inline one. -/
def typeName : Value → String
  | .string .. => "string"
  | .integer .. => "integer"
  | .float .. | .overflow _ .float => "float"
  | .overflow _ .integer => "integer"
  | .boolean .. => "boolean"
  | .datetime .. => "datetime"
  | .array .. => "array"
  | .table .. => "inline table"

end Value

end Toml

end Courier
