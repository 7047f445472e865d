/-!
# TOML date-times

A TOML date-time is an offset date-time `1979-05-27T07:32:00Z`, a local date-time
`1979-05-27T07:32:00`, a local date `1979-05-27` or a local time `07:32:00`. Seconds may be
left out (`07:32`), a fraction of a second may follow them, the date and the time are joined
by `T`, `t` or a space, and the offset is `Z`, `z` or `±hh:mm`.

`Datetime.check` reads such a text the way the date-time reader of the TOML library does: it
cuts the text into small tokens (runs of digits and single signs), takes the parts in order,
and says what it expected at the first part that does not fit. Its messages read
`invalid <part>, expected <what>`, where the part is `date`, `time`, `date-time` or `offset`,
or `invalid datetime` when the text goes on after a whole date-time.
-/

namespace Courier

namespace Toml

namespace Datetime

/-- The tokens of a date-time text. -/
inductive Piece where
  /-- A run of decimal digits. -/
  | digits (ds : List Char)
  | dash
  | colon
  /-- `T` or `t`, between a date and a time. -/
  | tee
  | space
  /-- `Z` or `z`. -/
  | zulu
  | plus
  | dot
  /-- Any other character. -/
  | unknown
  deriving DecidableEq, Repr, Inhabited

/-- Cuts a date-time text into tokens. -/
def pieces : List Char → List Piece
  | [] => []
  | c :: rest =>
    if c.isDigit then
      let ds := rest.takeWhile Char.isDigit
      .digits (c :: ds) :: pieces (rest.drop ds.length)
    else
      let p : Piece := match c with
        | '-' => .dash
        | ':' => .colon
        | 'T' | 't' => .tee
        | ' ' => .space
        | 'Z' | 'z' => .zulu
        | '+' => .plus
        | '.' => .dot
        | _ => .unknown
      p :: pieces rest
termination_by cs => cs.length
decreasing_by all_goals (simp only [List.length_cons, List.length_drop]; omega)

/-- The number written by decimal digits. -/
def number (ds : List Char) : Nat :=
  ds.foldl (fun n c => n * 10 + (c.toNat - '0'.toNat)) 0

/-- An error about a part: `invalid <what>, expected <expected>`. -/
def fault (what expected : String) : String := "invalid " ++ what ++ ", expected " ++ expected

/-- An error about the text as a whole. -/
def general (expected : String) : String := "invalid datetime, expected " ++ expected

/-- Takes a run of digits, or fails with `err`. -/
def takeDigits (err : String) : List Piece → Except String (List Char × List Piece)
  | .digits ds :: rest => .ok (ds, rest)
  | _ => .error err

/-- Takes one given token, or fails with `err`. -/
def takeSign (p : Piece) (err : String) : List Piece → Except String (List Piece)
  | q :: rest => if q = p then .ok rest else .error err
  | [] => .error err

/-- The number of days of a month. -/
def monthDays (year month : Nat) : Nat :=
  if month = 2 then
    if year % 4 = 0 && (year % 100 ≠ 0 || year % 400 = 0) then 29 else 28
  else if month = 4 || month = 6 || month = 9 || month = 11 then 30 else 31

/-- Reads a date after its year digits and dash: the month, a dash and the day, then checks
their widths and ranges. Gives the tokens after the day. -/
def date (year : List Char) (ps : List Piece) : Except String (List Piece) := do
  let (month, ps) ← takeDigits (fault "date" "month") ps
  let ps ← takeSign .dash (fault "date" "`-` (MM-DD)") ps
  let (day, ps) ← takeDigits (fault "date" "day") ps
  if year.length ≠ 4 then throw (fault "date" "a four-digit year (YYYY)")
  if month.length ≠ 2 then throw (fault "date" "a two-digit month (MM)")
  if day.length ≠ 2 then throw (fault "date" "a two-digit day (DD)")
  let (y, m, d) := (number year, number month, number day)
  if m < 1 || m > 12 then throw (fault "date" "month between 01 and 12")
  let most := monthDays y m
  if d < 1 || d > most then
    throw (fault "date" ("day between 01 and " ++ toString most))
  pure ps

/-- Reads a time: hours, a colon, minutes, and optionally a colon, seconds and a fraction;
then checks the widths and ranges. Gives the tokens after it. -/
def time (ps : List Piece) : Except String (List Piece) := do
  let (hour, ps) ← takeDigits (fault "time" "hour") ps
  let ps ← takeSign .colon (fault "time" "`:` (HH:MM)") ps
  let (minute, ps) ← takeDigits (fault "time" "minute") ps
  let (second, ps) ← match ps with
    | .colon :: rest => do
      let (s, rest) ← takeDigits (fault "time" "second") rest
      pure (some s, rest)
    | _ => pure (none, ps)
  let ps ← match second, ps with
    | some _, .dot :: rest => do
      let (_, rest) ← takeDigits (fault "time" "nanosecond") rest
      pure rest
    | _, _ => pure ps
  if hour.length ≠ 2 then throw (fault "time" "a two-digit hour (HH)")
  if minute.length ≠ 2 then throw (fault "time" "a two-digit minute (MM)")
  if (second.map fun s => s.length != 2).getD false then throw (fault "time" "a two-digit second (SS)")
  if number hour > 23 then throw (fault "time" "hour between 00 and 23")
  if number minute > 59 then throw (fault "time" "minute between 00 and 59")
  if ((second.map number).getD 0) > 60 then throw (fault "time" "second between 00 and 60")
  pure ps

/-- Reads the offset after a date and a time, if there is one. Gives the tokens after it. -/
def offset (ps : List Piece) : Except String (List Piece) :=
  match ps with
  | .zulu :: rest => .ok rest
  | p :: rest =>
    if p = .plus || p = .dash then do
      let (hours, rest) ← takeDigits (fault "offset" "hour") rest
      let rest ← takeSign .colon (fault "offset" "`:` (HH:MM)") rest
      let (minutes, rest) ← takeDigits (fault "offset" "minute") rest
      if hours.length ≠ 2 then throw (fault "offset" "a two-digit hour (HH)")
      if minutes.length ≠ 2 then throw (fault "offset" "a two-digit minute (MM)")
      if number hours > 23 then throw (fault "offset" "hours between 00 and 23")
      if number minutes > 59 then throw (fault "offset" "minutes between 00 and 59")
      pure rest
    else .error (fault "offset" "`Z`, +OFFSET, -OFFSET")
  | [] => .ok []

/-- Reads a date-time text; gives the message of the first part that does not fit. -/
def read (cs : List Char) : Except String Unit := do
  let ps := pieces cs
  let (lead, afterLead) ← takeDigits (general "year or hour") ps
  let (hasDate, ps) ← match afterLead with
    | .dash :: rest => do pure (true, ← date lead rest)
    | .colon :: _ => pure (false, ps)
    | _ => throw (general "`-` (YYYY-MM) or `:` (HH:MM)")
  let (hasTime, ps) ← if hasDate then
      match ps with
      | p :: rest =>
        if p = .tee || p = .space then pure (true, rest)
        else throw (fault "date-time" "`T` between date and time")
      | [] => pure (false, [])
    else pure (true, ps)
  let ps ← if hasTime then time ps else pure ps
  let ps ← if hasDate && hasTime then offset ps else pure ps
  if !ps.isEmpty then throw "invalid datetime"

/-- The error in a date-time text, if there is one. -/
def check (cs : List Char) : Option String :=
  match read cs with
  | .ok () => none
  | .error e => some e

end Datetime

end Toml

end Courier
