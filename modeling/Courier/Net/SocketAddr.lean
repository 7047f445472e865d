/-!
# Socket addresses

A socket address is an IPv4 address and a port (`192.0.2.1:80`), or an IPv6 address, a
scope id and a port in brackets (`[fe80::1%2]:22`).

`SocketAddr.parse?` accepts exactly the standard text forms: four decimal octets without
leading zeros; eight hexadecimal groups of at most four digits, where one run of groups may be
written `::` and the last two groups may be an IPv4 address; a decimal scope id after `%`; a
decimal port, leading zeros allowed. The whole text must be taken.

`SocketAddr.render` writes the canonical form: an IPv6 address in lower case with its longest
run of two or more zero groups (the first of equal runs) written `::`, an IPv4-mapped address
as `::ffff:a.b.c.d`, and the scope id only when it is not zero.
-/

namespace Courier

/-- An IP address. -/
inductive IpAddr where
  /-- Four octets. -/
  | v4 (octets : List Nat)
  /-- Eight 16-bit groups. -/
  | v6 (groups : List Nat)
  deriving DecidableEq, Repr, Inhabited

/-- An IP address with a port, and for IPv6 a scope id. -/
structure SocketAddr where
  /-- The address. -/
  ip : IpAddr
  /-- The port. -/
  port : Nat
  /-- The IPv6 scope id, zero when absent. -/
  scope : Nat := 0
  deriving DecidableEq, Repr, Inhabited

namespace SocketAddr

/-- A reader of a prefix of a text: the value and the rest, or `none`. -/
abbrev Scan (α : Type) := List Char → Option (α × List Char)

/-- The value of a digit in a radix up to 16. -/
def digitIn (radix : Nat) (c : Char) : Option Nat :=
  let v :=
    if '0' ≤ c ∧ c ≤ '9' then some (c.toNat - '0'.toNat)
    else if 'a' ≤ c ∧ c ≤ 'f' then some (c.toNat - 'a'.toNat + 10)
    else if 'A' ≤ c ∧ c ≤ 'F' then some (c.toNat - 'A'.toNat + 10)
    else none
  match v with
  | some d => if d < radix then some d else none
  | none => none

/-- The leading digits of a text in a radix. -/
def leadingDigits (radix : Nat) : List Char → List Nat × List Char
  | [] => ([], [])
  | c :: rest =>
    match digitIn radix c with
    | some d => let (ds, r) := leadingDigits radix rest; (d :: ds, r)
    | none => ([], c :: rest)

/-- The number written by digits in a radix. -/
def digitsValue (radix : Nat) (ds : List Nat) : Nat := ds.foldl (fun a d => a * radix + d) 0

/-- A number in a radix: at least one digit, at most `maxDigits` if given, a value at most
`limit`, and no leading zero unless `zeroPrefix`. -/
def number (radix : Nat) (maxDigits : Option Nat) (zeroPrefix : Bool) (limit : Nat) : Scan Nat :=
  fun cs =>
    let (ds, rest) := leadingDigits radix cs
    let tooMany := match maxDigits with
      | some m => ds.length > m
      | none => false
    let v := digitsValue radix ds
    if ds.isEmpty || tooMany || v > limit then none
    else if !zeroPrefix && ds.head? = some 0 && ds.length > 1 then none
    else some (v, rest)

/-- Takes one given character. -/
def char (c : Char) : Scan Unit
  | d :: rest => if d = c then some ((), rest) else none
  | [] => none

/-- An IPv4 address. -/
def ipv4 : Scan (List Nat) := fun cs => do
  let (a, cs) ← number 10 (some 3) false 255 cs
  let ((), cs) ← char '.' cs
  let (b, cs) ← number 10 (some 3) false 255 cs
  let ((), cs) ← char '.' cs
  let (c, cs) ← number 10 (some 3) false 255 cs
  let ((), cs) ← char '.' cs
  let (d, cs) ← number 10 (some 3) false 255 cs
  pure ([a, b, c, d], cs)

/-- Takes the separator before every item but the first. -/
def separated (index : Nat) (sep : Char) (item : Scan α) : Scan α := fun cs =>
  if index = 0 then item cs
  else match char sep cs with
    | some ((), rest) => item rest
    | none => none

/-- Up to `limit` colon-separated groups, the last two of which may be an IPv4 address
(taken only where at least two groups are left). Gives the groups and whether an IPv4
address ended them. -/
def groups (limit : Nat) : Nat → List Nat → List Char → List Nat × Bool × List Char
  | 0, acc, cs => (acc, false, cs)
  | fuel + 1, acc, cs =>
    let i := acc.length
    if i ≥ limit then (acc, false, cs)
    else
      let v4 := if i + 1 < limit then separated i ':' ipv4 cs else none
      match v4 with
      | some (os, rest) =>
        (acc ++ [os.getD 0 0 * 256 + os.getD 1 0, os.getD 2 0 * 256 + os.getD 3 0], true, rest)
      | none =>
        match separated i ':' (number 16 (some 4) true 65535) cs with
        | some (g, rest) => groups limit fuel (acc ++ [g]) rest
        | none => (acc, false, cs)

/-- An IPv6 address. -/
def ipv6 : Scan (List Nat) := fun cs =>
  let (head, headV4, cs) := groups 8 8 [] cs
  if head.length = 8 then some (head, cs)
  else if headV4 then none
  else do
    let ((), cs) ← char ':' cs
    let ((), cs) ← char ':' cs
    let (tail, _, cs) := groups (8 - (head.length + 1)) 8 [] cs
    pure (head ++ List.replicate (8 - head.length - tail.length) 0 ++ tail, cs)

/-- A port after its colon. -/
def portPart : Scan Nat := fun cs => do
  let ((), cs) ← char ':' cs
  number 10 none true 65535 cs

/-- An IPv4 socket address. -/
def scanV4 : Scan SocketAddr := fun cs => do
  let (ip, cs) ← ipv4 cs
  let (p, cs) ← portPart cs
  pure ({ ip := .v4 ip, port := p }, cs)

/-- An IPv6 socket address. -/
def scanV6 : Scan SocketAddr := fun cs => do
  let ((), cs) ← char '[' cs
  let (ip, cs) ← ipv6 cs
  let (scope, cs) := match char '%' cs with
    | some ((), rest) => match number 10 none true 4294967295 rest with
      | some (s, rest') => (s, rest')
      | none => (0, cs)
    | none => (0, cs)
  let ((), cs) ← char ']' cs
  let (p, cs) ← portPart cs
  pure ({ ip := .v6 ip, port := p, scope }, cs)

/-- Reads a socket address from its whole text. -/
def parse? (s : String) : Option SocketAddr :=
  let whole (r : Option (SocketAddr × List Char)) : Option SocketAddr :=
    match r with
    | some (a, []) => some a
    | _ => none
  match whole (scanV4 s.toList) with
  | some a => some a
  | none => whole (scanV6 s.toList)

/-- The text of a number in lower-case hexadecimal. -/
def hex (n : Nat) : String := String.ofList (Nat.toDigits 16 n)

/-- Groups in hexadecimal, joined by colons. -/
def joinGroups (gs : List Nat) : String := ":".intercalate (gs.map hex)

/-- The longest run of zero groups as (start, length); the first of equal runs. -/
def zeroRun (gs : List Nat) : Nat × Nat :=
  let step (st : (Nat × Nat) × (Nat × Nat) × Nat) (g : Nat) :=
    let (best, cur, i) := st
    let cur := if g = 0 then (if cur.2 = 0 then (i, 1) else (cur.1, cur.2 + 1)) else (0, 0)
    let best := if cur.2 > best.2 then cur else best
    (best, cur, i + 1)
  (gs.foldl step ((0, 0), (0, 0), 0)).1

/-- The text of an IPv4 address. -/
def renderV4 (os : List Nat) : String := ".".intercalate (os.map toString)

/-- The text of an IPv6 address. -/
def renderV6 (gs : List Nat) : String :=
  match gs with
  | [0, 0, 0, 0, 0, 0xffff, ab, cd] => "::ffff:" ++ renderV4 [ab / 256, ab % 256, cd / 256, cd % 256]
  | _ =>
    let (start, len) := zeroRun gs
    if len > 1 then joinGroups (gs.take start) ++ "::" ++ joinGroups (gs.drop (start + len))
    else joinGroups gs

/-- The text of a socket address. -/
def render (a : SocketAddr) : String :=
  match a.ip with
  | .v4 os => renderV4 os ++ ":" ++ toString a.port
  | .v6 gs =>
    let scope := if a.scope = 0 then "" else "%" ++ toString a.scope
    "[" ++ renderV6 gs ++ scope ++ "]:" ++ toString a.port

end SocketAddr

end Courier
