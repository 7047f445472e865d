import Courier.Net.SocketAddr

/-!
# Resolving addresses to bind

A text names an address to bind either as a socket address, or as `host:port`, split at the
last colon. The port is a decimal number below 65536 with an optional `+`. A host that is an
IP address or `localhost` resolves; this host has no name service, so any other name fails.

An IPv4 host may also be written in the older numeric forms that the system's resolver
reads: one to four parts joined by dots, each decimal, octal (a leading `0`) or hexadecimal
(a leading `0x`), where the last part fills the bytes left (`127.1` is `127.0.0.1`, and
`2130706433` is too).

The failures are the system's texts: no colon at all is "invalid socket address", a bad port
"invalid port value", and an unknown host a failed lookup.
-/

namespace Courier

namespace SocketAddr

/-- A text split at its last colon, if it has one. -/
def splitLastColon (cs : List Char) : Option (List Char × List Char) :=
  match cs.reverse.span (· ≠ ':') with
  | (_, []) => none
  | (portRev, _ :: hostRev) => some (hostRev.reverse, portRev.reverse)

/-- Whether a text is a port: decimal digits, an optional `+` before them, below 65536. -/
def isPortText (cs : List Char) : Bool :=
  let ds := match cs with
    | '+' :: rest => rest
    | _ => cs
  !ds.isEmpty && ds.all Char.isDigit &&
    ds.foldl (fun a c => a * 10 + (c.toNat - '0'.toNat)) 0 ≤ 65535

/-- The value of digits in a radix. -/
def digitsIn (radix : Nat) (ds : List Char) : Nat :=
  ds.foldl (fun a c => a * radix + (if c.isDigit then c.toNat - '0'.toNat
    else c.toLower.toNat - 'a'.toNat + 10)) 0

/-- Reads a number at the start of a text, as C reads one with its radix told by a prefix:
`0x` hexadecimal, `0` octal, otherwise decimal. Gives the value and the rest; a `0x` with no
hexadecimal digit after it reads as `0`, before the `x`. -/
def prefixedNumber (cs : List Char) : Nat × List Char :=
  match cs with
  | '0' :: x :: rest =>
    if x = 'x' || x = 'X' then
      let ds := rest.takeWhile fun c => c.isDigit || ('a' ≤ c.toLower && c.toLower ≤ 'f')
      if ds.isEmpty then (0, x :: rest) else (digitsIn 16 ds, rest.drop ds.length)
    else
      let ds := (x :: rest).takeWhile fun c => '0' ≤ c && c ≤ '7'
      (digitsIn 8 ds, (x :: rest).drop ds.length)
  | _ =>
    let ds := cs.takeWhile Char.isDigit
    (digitsIn 10 ds, cs.drop ds.length)

/-- The numeric parts of an old-style IPv4 text, at most `n` of them, each starting with a
digit and below 2^32. -/
def numericParts : Nat → List Char → Option (List Nat)
  | 0, _ => none
  | _, [] => none
  | n + 1, c :: cs =>
    if !c.isDigit then none
    else
      let (v, rest) := prefixedNumber (c :: cs)
      if v > 0xFFFFFFFF then none
      else
        match rest with
        | [] => some [v]
        | '.' :: more => (v :: ·) <$> numericParts n more
        | _ => none

/-- Whether a host is an IPv4 address in the old numeric forms: every part but the last
is a byte, and the last fills the bytes left. -/
def isNumericHost (host : List Char) : Bool :=
  match numericParts 4 host with
  | some parts =>
    let front := parts.dropLast
    let last := parts.getLast?.getD 0
    front.all (· ≤ 0xFF) && last < Nat.pow 2 (8 * (4 - front.length))
  | none => false

/-- Why a text names no address to bind, or `none` when it names one. -/
def unresolvable (s : String) : Option String :=
  match parse? s with
  | some _ => none
  | none =>
    match splitLastColon s.toList with
    | none => some "invalid socket address"
    | some (host, portText) =>
      let host := String.ofList host
      if !isPortText portText then some "invalid port value"
      else if host = "localhost" || (parse? (host ++ ":0")).isSome ||
          (parse? ("[" ++ host ++ "]:0")).isSome || isNumericHost host.toList then none
      else some "failed to lookup address information: Temporary failure in name resolution"

end SocketAddr

end Courier
