/-!
# JSON values

`Json` is the data format in which the scripted sessions of `Courier.Bench` receive requests
and give answers. A number is `mantissa / 10 ^ exponent`, so an integer is a number whose
exponent is zero and any other number is read as "not an integer".

Objects are lists of fields; a lookup takes the first field of a name. The accessors return
`none` on a value of another shape, so a request decoder can tell a missing field from a
field of the wrong type.
-/

namespace Courier

/-- A JSON value. -/
inductive Json where
  /-- `null`. -/
  | null
  /-- `true` or `false`. -/
  | bool (b : Bool)
  /-- The number `mantissa / 10 ^ exponent`. -/
  | number (mantissa : Int) (exponent : Nat)
  /-- A string. -/
  | str (s : String)
  /-- An array. -/
  | arr (items : List Json)
  /-- An object, as its fields in order. -/
  | obj (fields : List (String × Json))
  deriving Inhabited, Repr

namespace Json

/-- An integer as a JSON number. -/
def int (n : Int) : Json := .number n 0

/-- A natural number as a JSON number. -/
def nat (n : Nat) : Json := .number (n : Int) 0

/-- The first field of an object named `key`. -/
def field? (j : Json) (key : String) : Option Json :=
  match j with
  | .obj fields => (fields.find? (·.1 == key)).map (·.2)
  | _ => none

/-- The text of a string value. -/
def string? : Json → Option String
  | .str s => some s
  | _ => none

/-- The value of an integer number. -/
def int? : Json → Option Int
  | .number m 0 => some m
  | _ => none

/-- The value of a non-negative integer number. -/
def nat? (j : Json) : Option Nat :=
  match j.int? with
  | some n => if n < 0 then none else some n.toNat
  | none => none

/-- The value of a boolean. -/
def bool? : Json → Option Bool
  | .bool b => some b
  | _ => none

/-- The items of an array. -/
def items? : Json → Option (List Json)
  | .arr xs => some xs
  | _ => none

/-- Whether a value is `null`. -/
def isNull : Json → Bool
  | .null => true
  | _ => false

/-- An object with `fields` appended; any other value is left as it is. -/
def merge (j : Json) (fields : List (String × Json)) : Json :=
  match j with
  | .obj fs => .obj (fs ++ fields)
  | other => other

end Json

end Courier
