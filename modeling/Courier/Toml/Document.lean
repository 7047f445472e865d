import Courier.Toml.Syntax
import Courier.Toml.Scalar

/-!
# TOML documents

`Toml.parse` reads a whole TOML text into its root table. It first reads the statements
(`Syntax.read`), so an error in the shape of the document wins over any other. It then takes
the statements in order, reading their keys and values and placing them, and stops at the
first error.

While a document is built, each key of a table holds a `Node`: a value written after `=`,
a table, or an array of tables. Tables are made in three ways, and the way decides what may
be added to them later:

* a header `[a.b]` makes `a.b` an explicit table, and `a` an implicit one if it is new;
* a dotted key `a.b = 1` makes `a` a dotted table if it is new;
* a header `[[a.b]]` adds a table to the array of tables `a.b`.

A path through the tables goes into an array of tables by its last table. An implicit table
may later get its own header once; a dotted key may go through implicit tables but not
through explicit ones, and may add keys to dotted tables only, while a plain key adds to
explicit tables and headers only. Values written after `=` are closed: a longer key through
one of them cannot extend it. Any other redefinition is a duplicate key. Errors point at the
key part that makes them.

The key/value pairs under a header are gathered in a table of their own, which is placed
when the next header or the end of the text comes. A header `[a.b]` is checked when it is
read, and takes over the implicit table `a.b` if there is one; a header `[[a.b]]` is checked
only when its table is placed, after the pairs under it were read.

Inside an inline table the same rules hold, except that an inline table written as a value
in it counts as an explicit table: a dotted key through it is a duplicate key. Its fields are
placed one by one, each after its value was read. A key of more than `maxKeyParts` parts is
refused, without a place.
-/

namespace Courier

namespace Toml

/-- What a key of a table holds while a document is built. -/
inductive Node where
  /-- A value written after `=`. -/
  | value (v : Value)
  /-- A table: its span, whether it is implicit, whether a dotted key made it, and its keys
  in the order they were placed. -/
  | table (span : Span) (implicit : Bool) (dotted : Bool) (entries : List (String × Node))
  /-- An array of tables: the span of its first header and its tables in order. -/
  | tables (span : Span) (items : List Node)
  deriving Inhabited

namespace Node

/-- An empty table. -/
def empty (span : Span) (implicit dotted : Bool) : Node := .table span implicit dotted []

mutual

/-- The value a node stands for. -/
def toValue : Node → Value
  | .value v => v
  | .table span _ _ entries => .table span (entriesValue entries)
  | .tables span items => .array span (itemsValue items)

/-- The values of the keys of a table. -/
def entriesValue : List (String × Node) → List (String × Value)
  | [] => []
  | (k, n) :: rest => (k, toValue n) :: entriesValue rest

/-- The values of the tables of an array of tables. -/
def itemsValue : List Node → List Value
  | [] => []
  | n :: rest => toValue n :: itemsValue rest

end

end Node

/-- A key part with the span of its text. -/
abbrev KeyName := String × Span

/-- Replaces what a key holds in a list of entries. -/
def setEntry (k : String) (n : Node) : List (String × Node) → List (String × Node)
  | [] => []
  | (j, m) :: rest => if j = k then (j, n) :: rest else (j, m) :: setEntry k n rest

/-- How a path is followed: by a dotted key or a header, and inside an inline table or not. -/
structure Walk where
  /-- The path is the front of a dotted key, not of a header. -/
  dotted : Bool
  /-- The path is followed inside an inline table being built. -/
  inInline : Bool := false

namespace Walk

/-- The error for a key that is already defined. -/
def duplicate (span : Span) : Error := .about "duplicate key" span

/-- The error for a key that goes through a value written after `=`. -/
def cannotExtend (v : Value) (span : Span) : Error :=
  .about ("cannot extend value of type " ++ v.typeName ++ " with a dotted key") span

/-- Follows a path of key parts from a table and works on the table reached with `leaf`;
gives the changed table and what `leaf` gives. Missing tables on the way are made implicit
(dotted ones when the walk is dotted). -/
def follow (w : Walk) (leaf : Node → Except Error (Node × α)) :
    List KeyName → Node → Except Error (Node × α)
  | [], n => leaf n
  | (k, s) :: rest, n =>
    match n with
    | .table span implicit dotted entries =>
      match entries.lookup k with
      | none => do
        let (child, a) ← follow w leaf rest (.empty s true w.dotted)
        pure (.table span implicit dotted (entries ++ [(k, child)]), a)
      | some (.table cs ci cd ce) =>
        if w.dotted && !ci then .error (duplicate s)
        else do
          let (child, a) ← follow w leaf rest (.table cs ci cd ce)
          pure (.table span implicit dotted (setEntry k child entries), a)
      | some (.tables ts items) =>
        match items.getLast? with
        | some last => do
          let (child, a) ← follow w leaf rest last
          pure (.table span implicit dotted (setEntry k (.tables ts (items.dropLast ++ [child])) entries), a)
        | none => .error (duplicate s)
      | some (.value v) =>
        match v with
        | .table .. => if w.inInline then .error (duplicate s) else .error (cannotExtend v s)
        | _ => .error (cannotExtend v s)
    | _ => .error (duplicate s)

end Walk

/-- Adds the last part of a key with its value to a table. A plain key may not add to a
dotted table, nor a dotted key to any other. -/
def addField (dottedKey : Bool) (k : KeyName) (v : Value) : Node → Except Error (Node × Unit)
  | .table span implicit dotted entries =>
    if dotted != dottedKey then .error (Walk.duplicate k.2)
    else if (entries.lookup k.1).isSome then .error (Walk.duplicate k.2)
    else .ok (.table span implicit dotted (entries ++ [(k.1, .value v)]), ())
  | _ => .error (Walk.duplicate k.2)

/-- Adds a key/value pair to a table; `inInline` inside an inline table. -/
def Node.addPair (inInline : Bool) (names : List KeyName) (v : Value) (n : Node) :
    Except Error Node :=
  match names.getLast? with
  | none => .error { message := "empty key" }
  | some last => do
    let (n, ()) ← Walk.follow { dotted := true, inInline } (addField (names.length > 1) last v)
      names.dropLast n
    pure n

/-- Takes a key out of a table, with what it held. -/
def takeKey (k : String) : Node → Except Error (Node × Option Node)
  | .table span implicit dotted entries =>
    .ok (.table span implicit dotted (entries.filter (·.1 ≠ k)), entries.lookup k)
  | n => .ok (n, none)

/-- Puts a table at a key of a table. -/
def putKey (k : KeyName) (t : Node) : Node → Except Error (Node × Unit)
  | .table span implicit dotted entries =>
    if (entries.lookup k.1).isSome then .error (Walk.duplicate k.2)
    else .ok (.table span implicit dotted (entries ++ [(k.1, t)]), ())
  | _ => .error (Walk.duplicate k.2)

/-- Adds a table to the array of tables at a key of a table, making the array if it is new;
`span` is the span of the header. -/
def pushItem (k : KeyName) (span : Span) (t : Node) : Node → Except Error (Node × Unit)
  | .table ts implicit dotted entries =>
    match entries.lookup k.1 with
    | none => .ok (.table ts implicit dotted (entries ++ [(k.1, .tables span [t])]), ())
    | some (.tables s items) => .ok (.table ts implicit dotted (setEntry k.1 (.tables s (items ++ [t])) entries), ())
    | some _ => .error (Walk.duplicate k.2)
  | _ => .error (Walk.duplicate k.2)

/-- A header being read: its key parts, its span, and whether it heads a table of an array
of tables. -/
structure Header where
  names : List KeyName
  span : Span
  isArray : Bool

/-- A document being built: the root table, the table that the pairs under the last header
go into, and that header (none before the first). -/
structure Document where
  root : Node := .empty ⟨0, 0⟩ false false
  current : Node := .empty ⟨0, 0⟩ false false
  header : Option Header := none
  deriving Inhabited

namespace Document

/-- How many parts a key may have. -/
def maxKeyParts : Nat := 80

/-- The names of a key's parts, with their spans. -/
def keyNames (k : KeyText) : Except Error (List KeyName) := do
  let names ← k.mapM fun t => do pure (← Strings.key t, t.span)
  if names.length > maxKeyParts then throw { message := "recursion limit" }
  pure names

/-- The walk of a header's path from the root. -/
def headerWalk : Walk := { dotted := false }

/-- Places the table of the last header in the root. -/
def finish (d : Document) : Except Error Document :=
  match d.header with
  | none => .ok { d with root := d.current }
  | some h =>
    match h.names.getLast? with
    | none => .ok d
    | some last => do
      let place := if h.isArray then pushItem last h.span d.current else putKey last d.current
      let (root, ()) ← headerWalk.follow place h.names.dropLast d.root
      pure { d with root }

/-- Starts the table of a header: a table header takes over the implicit table at its key,
if there is one, and refuses any other. -/
def start (d : Document) (h : Header) : Except Error Document := do
  let fresh := { d with current := .empty h.span false false, header := some h }
  if h.isArray then pure fresh
  else
    match h.names.getLast? with
    | none => pure fresh
    | some (k, s) => do
      let (root, old) ← headerWalk.follow (takeKey k) h.names.dropLast d.root
      match old with
      | none => pure { fresh with root }
      | some (.table _ true false entries) =>
        pure { fresh with root, current := .table h.span false false entries }
      | some _ => throw (Walk.duplicate s)

mutual

/-- The value of a piece of text. -/
def pieceValue : Piece → Except Error Value
  | .scalar t => Scalar.value t
  | .array items span => (Value.array span) <$> itemValues items
  | .inline entries span => do
    let n ← fill (.empty span false false) entries
    pure (n.toValue.withSpan span)

/-- The values of the items of an array. -/
def itemValues : List Piece → Except Error (List Value)
  | [] => .ok []
  | p :: ps => do
    let v ← pieceValue p
    let vs ← itemValues ps
    pure (v :: vs)

/-- Adds the fields of an inline table, in order. -/
def fill (n : Node) : List (KeyText × Piece) → Except Error Node
  | [] => .ok n
  | (k, p) :: rest => do
    let names ← keyNames k
    let v ← pieceValue p
    let n ← n.addPair true names v
    fill n rest

end

/-- Takes one statement into a document. -/
def apply (d : Document) : Statement → Except Error Document
  | .pair k p => do
    let names ← keyNames k
    let v ← pieceValue p
    pure { d with current := ← d.current.addPair false names v }
  | .header k span => do
    let d ← d.finish
    d.start { names := ← keyNames k, span, isArray := false }
  | .arrayHeader k span => do
    let d ← d.finish
    d.start { names := ← keyNames k, span, isArray := true }

end Document

/-- Reads a TOML text into its root table, or gives the first error. -/
def parse (source : String) : Except Error Value := do
  let statements ← Syntax.read source
  let d ← statements.foldlM Document.apply {}
  let d ← d.finish
  pure d.root.toValue

end Toml

end Courier
