/-!
# Sortable ids

A ULID is a 128-bit id: 48 bits of milliseconds since the epoch, then 80 bits of entropy. It
is written as 26 digits of Crockford's base 32, most significant first, so the text order of
ids is their numeric order and their time order.

`Ulid.Generator` hands out strictly increasing ids: within the millisecond of the last id (or
any earlier one) it adds one to the last id; otherwise it starts a new millisecond with fresh
entropy. It starts from the id zero, so ids stamped at the epoch or before count up from one.
When the last id's entropy is all ones there is no next id in its millisecond: the generator
then hands out a fresh id of the clock's millisecond and keeps its last id.

`Ulid.Generator.stamp` is what stamps an envelope from a clock reading: the generator's next id,
written out, and the reading's whole seconds.
-/

namespace Courier

/-- The id and time given to a new envelope. -/
structure Stamp where
  /-- The envelope id. -/
  id : String
  /-- Seconds since the epoch. -/
  timestamp : Int
  deriving Inhabited, Repr

/-- A 128-bit id of a time part and an entropy part. -/
structure Ulid where
  /-- Milliseconds since the epoch, below `2 ^ 48`. -/
  millis : Nat
  /-- Entropy, below `2 ^ 80`. -/
  entropy : Nat
  deriving DecidableEq, Repr, Inhabited

namespace Ulid

/-- The number of entropy bits. -/
def entropyBits : Nat := 80

/-- The number of time bits. -/
def timeBits : Nat := 48

/-- The 32 digits of Crockford's base 32. -/
def alphabet : List Char := "0123456789ABCDEFGHJKMNPQRSTVWXYZ".toList

/-- The id as one number. -/
def value (u : Ulid) : Nat := u.millis * Nat.pow 2 entropyBits + u.entropy

/-- The last `count` base-32 digits of `n`, most significant first. -/
def digits (count n : Nat) : List Char :=
  (List.range count).reverse.map fun i => alphabet.getD (n / Nat.pow 32 i % 32) '0'

/-- The 26-digit text of an id. -/
def encode (u : Ulid) : String := String.ofList (digits 26 u.value)

/-- The value of a base-32 digit, either case. -/
def digitValue (c : Char) : Option Nat := alphabet.idxOf? c.toUpper

/-- The number written by base-32 digits. -/
def readDigits (cs : List Char) : Option Nat :=
  cs.foldl (fun acc c => do let a ← acc; let d ← digitValue c; pure (a * 32 + d)) (some 0)

/-- The milliseconds of an id's text: its first ten digits. -/
def millisOf? (s : String) : Option Nat := readDigits (s.toList.take 10)

/-- Whether a text is 26 digits of base 32 whose value fits in 128 bits. -/
def isValid (s : String) : Bool :=
  s.length = 26 && (readDigits s.toList).any (· < Nat.pow 2 128)

/-- The time part of an instant: whole milliseconds after the epoch, zero before it, kept to
48 bits. -/
def millisOfInstant (ms : Int) : Nat := ms.toNat % Nat.pow 2 timeBits

/-- A generator of increasing ids. -/
structure Generator where
  /-- The last id handed out. -/
  last : Ulid := ⟨0, 0⟩
  deriving Inhabited

/-- The next id at the clock reading `now`, in milliseconds since the epoch, with `entropy` used
when a new millisecond starts. A reading at or before the millisecond of the last id gives the
last id plus one; a later one gives a fresh id of the reading's millisecond. When the last id's
entropy is all ones, the fresh id is handed out and the generator keeps its last id. -/
def Generator.next (g : Generator) (now : Int) (entropy : Nat) : Ulid × Generator :=
  let fresh : Ulid := ⟨millisOfInstant now, entropy % Nat.pow 2 entropyBits⟩
  if now.toNat ≤ g.last.millis then
    if g.last.entropy + 1 < Nat.pow 2 entropyBits then
      let u := { g.last with entropy := g.last.entropy + 1 }
      (u, { last := u })
    else (fresh, g)
  else (fresh, { last := fresh })

/-- The stamp for the clock reading `now`, in milliseconds since the epoch: the next id,
written out, and the reading's whole seconds, rounded down. -/
def Generator.stamp (g : Generator) (now : Int) (entropy : Nat) : Stamp × Generator :=
  let r := g.next now entropy
  ({ id := r.1.encode, timestamp := now / 1000 }, r.2)

/-- `count` ids in a row at one clock reading, with entropy drawn from `entropy`. -/
def Generator.run (g : Generator) (now : Int) (entropy : Nat → Nat) : Nat → List Ulid × Generator
  | 0 => ([], g)
  | n + 1 =>
    let (u, g) := g.next now (entropy 0)
    let (us, g) := Generator.run g now (fun i => entropy (i + 1)) n
    (u :: us, g)

end Ulid

end Courier
