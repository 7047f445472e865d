/-!
# Shortest decimal text of a double

A finite double is `m * 2 ^ e` for an integer significand `m`. The reals that round to it
form an interval around it, with its ends when `m` is even (ties go to the even significand).
`Decimal.shortest` finds the fewest significant digits of a decimal in that interval: for
`n = 1, 2, …` it tries the two neighbours of the value on the grid of `n`-digit decimals, in
exact natural-number arithmetic, and takes the first grid with a hit, the nearer neighbour
when both hit.

`Decimal.Format` is the part that only decides layout: where positional notation ends and how
an exponent is written. `Decimal.render` writes a double with a format; `Decimal.plain` is the
format of number texts in reports (`1.0`, `0.001`, `1.5e+20`).
-/

namespace Courier

namespace Decimal

/-- The sign, integer significand and binary exponent of a finite double. -/
def parts (f : Float) : Bool × Nat × Int :=
  let bits : Nat := f.toBits.toNat
  let sign := bits / Nat.pow 2 63 % 2 = 1
  let expBits : Nat := bits / Nat.pow 2 52 % Nat.pow 2 11
  let frac : Nat := bits % Nat.pow 2 52
  if expBits = 0 then (sign, frac, -1074)
  else (sign, frac + Nat.pow 2 52, (expBits : Int) - 1075)

/-- The double nearest to a natural number, ties to an even significand (infinity past the
largest double). -/
def nearest (n : Nat) : Float :=
  if n = 0 then 0.0 else
  let b := n.log2
  if b ≤ 52 then
    Float.ofBits (UInt64.ofNat ((b + 1023) * Nat.pow 2 52 + (n * Nat.pow 2 (52 - b) - Nat.pow 2 52)))
  else
    let shift := b - 52
    let q := n / Nat.pow 2 shift
    let r := n % Nat.pow 2 shift
    let half := Nat.pow 2 (shift - 1)
    let q := if r > half ∨ (r = half ∧ q % 2 = 1) then q + 1 else q
    let (q, b) := if q = Nat.pow 2 53 then (Nat.pow 2 52, b + 1) else (q, b)
    if b > 1023 then Float.ofBits 0x7FF0000000000000
    else Float.ofBits (UInt64.ofNat ((b + 1023) * Nat.pow 2 52 + (q - Nat.pow 2 52)))

/-- Whether `c * 10 ^ k` is below (`.lt`), at or above `n * 2 ^ q`. -/
def compareScaled (c : Nat) (k : Int) (n : Nat) (q : Int) : Ordering :=
  let lhs := c * Nat.pow 10 k.toNat * Nat.pow 2 (-q).toNat
  let rhs := n * Nat.pow 10 (-k).toNat * Nat.pow 2 q.toNat
  compare lhs rhs

/-- The number of decimal digits of `n` (one for zero). -/
def digitCount (n : Nat) : Nat := (Nat.toDigits 10 n).length

/-- The decimal `c * 10 ^ k` lies in the rounding interval `[lo, hi] * 2 ^ q`, ends included
when `closed`. -/
def within (c : Nat) (k : Int) (lo hi : Nat) (q : Int) (closed : Bool) : Bool :=
  let above := match compareScaled c k lo q with
    | .gt => true
    | .eq => closed
    | .lt => false
  let below := match compareScaled c k hi q with
    | .lt => true
    | .eq => closed
    | .gt => false
  above && below

/-- The fewest-digit decimal `c * 10 ^ k` that rounds to `m * 2 ^ e`, for `m > 0`, with the
trailing zeros of `c` moved into `k`. -/
def shortest (m : Nat) (e : Int) (lowerHalf : Bool) : Nat × Int :=
  -- the interval is [4m - gap, 4m + 2] in units of 2 ^ (e - 2)
  let lo := 4 * m - (if lowerHalf then 1 else 2)
  let hi := 4 * m + 2
  let q := e - 2
  let closed := m % 2 = 0
  -- the value exactly, as d * 10 ^ x
  let (d, x) : Nat × Int := if 0 ≤ e then (m * Nat.pow 2 e.toNat, 0) else (m * Nat.pow 5 (-e).toNat, e)
  let top : Int := (digitCount d : Int) - 1 + x
  let rec search (fuel : Nat) (n : Nat) : Nat × Int :=
    match fuel with
    | 0 => (d, x)
    | fuel + 1 =>
      let k := top - (n : Int) + 1
      let c := if x ≤ k then d / Nat.pow 10 (k - x).toNat else d * Nat.pow 10 (x - k).toNat
      let inLow := within c k lo hi q closed
      let inHigh := within (c + 1) k lo hi q closed
      if inLow && inHigh then
        -- twice the value against the midpoint of the two neighbours
        match compareScaled (2 * c + 1) k (8 * m) q with
        | .gt => (c, k)
        | .lt => (c + 1, k)
        | .eq => if c % 2 = 0 then (c, k) else (c + 1, k)
      else if inLow then (c, k)
      else if inHigh then (c + 1, k)
      else search fuel (n + 1)
  let rec strip (fuel : Nat) (c : Nat) (k : Int) : Nat × Int :=
    match fuel with
    | 0 => (c, k)
    | fuel + 1 => if c ≠ 0 ∧ c % 10 = 0 then strip fuel (c / 10) (k + 1) else (c, k)
  let (c, k) := search 20 1
  strip 20 c k

/-- Layout choices for the text of a double. -/
structure Format where
  /-- Largest position of the decimal point (digits before it) written positionally. -/
  maxPoint : Int
  /-- Smallest position of the decimal point written positionally (`-4` gives `0.0000123`). -/
  minPoint : Int
  /-- Write `+` before a non-negative exponent. -/
  plusSign : Bool
  /-- Least number of exponent digits. -/
  expWidth : Nat

/-- Number texts in reports: positional from `0.00001` up to sixteen integer digits, else
`d.ddde+X` or `d.ddde-X`, the exponent always signed and without padding. -/
def plain : Format := ⟨16, -4, true, 1⟩

/-- `n` copies of the digit zero. -/
def zeros (n : Nat) : String := String.ofList (List.replicate n '0')

/-- The text of a finite double in a format. -/
def render (fmt : Format) (f : Float) : String :=
  let (neg, m, e) := parts f
  let sign := if neg then "-" else ""
  if m = 0 then sign ++ "0.0" else
  let lowerHalf := m = Nat.pow 2 52 ∧ e > -1074
  let (c, k) := shortest m e lowerHalf
  let s := String.ofList (Nat.toDigits 10 c)
  let len : Int := s.length
  let point := len + k
  if 0 ≤ k ∧ point ≤ fmt.maxPoint then sign ++ s ++ zeros k.toNat ++ ".0"
  else if 0 < point ∧ point ≤ fmt.maxPoint then
    sign ++ String.ofList (s.toList.take point.toNat) ++ "." ++
      String.ofList (s.toList.drop point.toNat)
  else if fmt.minPoint ≤ point ∧ point ≤ 0 then sign ++ "0." ++ zeros (-point).toNat ++ s
  else
    let exp := point - 1
    let body := if s.length = 1 then s
      else String.ofList (s.toList.take 1) ++ "." ++ String.ofList (s.toList.drop 1)
    let expDigits := Nat.toDigits 10 exp.natAbs
    let padded := String.ofList (List.replicate (fmt.expWidth - expDigits.length) '0' ++ expDigits)
    let expSign := if exp < 0 then "-" else if fmt.plusSign then "+" else ""
    sign ++ body ++ "e" ++ expSign ++ padded

end Decimal

end Courier
