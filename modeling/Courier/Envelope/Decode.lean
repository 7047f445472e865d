import Courier.Envelope
import Courier.Json.Reader

/-!
# Reading envelopes

`Envelope.decode` reads the wire form back. An envelope is either an object or an array of
its five fields in order. In an object, fields may come in any order, unknown fields are
skipped, a field given twice is refused as soon as its name is read, and a missing field is
reported, first in field order, once the object is closed. Anything after the envelope other
than blanks is refused.

Faults carry the position where they were noticed (see `Courier.Json.Reader`).
-/

namespace Courier

namespace Envelope

open Json

/-- The fields of an envelope read so far. -/
structure Partial where
  id : Option String := none
  strand : Option String := none
  payload : Option String := none
  acked : Option Bool := none
  timestamp : Option Int := none

/-- Takes the `:` after a field name. -/
def colon : Read Unit := do
  blanks
  match ← peek with
  | some ':' => bump
  | some _ => failPeek .expectedColon
  | none => failPeek .eofObject

/-- Reads the value of a named field into the partial envelope. -/
def readField (p : Partial) (key : String) : Read Partial := do
  if key = "id" then
    if p.id.isSome then failBare (.duplicateField "id") else
    colon
    return { p with id := some (← readString) }
  else if key = "strand" then
    if p.strand.isSome then failBare (.duplicateField "strand") else
    colon
    return { p with strand := some (← readString) }
  else if key = "payload" then
    if p.payload.isSome then failBare (.duplicateField "payload") else
    colon
    return { p with payload := some (← readString) }
  else if key = "acked" then
    if p.acked.isSome then failBare (.duplicateField "acked") else
    colon
    return { p with acked := some (← readBool) }
  else if key = "timestamp" then
    if p.timestamp.isSome then failBare (.duplicateField "timestamp") else
    colon
    return { p with timestamp := some (← readI64) }
  else
    colon
    skipValue
    return p

/-- Reads the fields of an object (the brace taken), up to its closing brace. -/
def readFields : Nat → Partial → Bool → Read Partial
  | 0, _, _ => failHere .eofObject
  | fuel + 1, p, first => do
    blanks
    let start ← match ← peek with
      | some '\x7d' => pure none
      | some ',' =>
        if first then failPeek .keyMustBeString
        else do
          bump
          blanks
          pure (some (← peek))
      | some c =>
        if first then pure (some (some c)) else failPeek .expectedObjectCommaOrEnd
      | none => failPeek .eofObject
    match start with
    | none => pure p
    | some c =>
      match c with
      | some '"' =>
        bump
        let key ← string
        let p ← readField p key
        readFields fuel p false
      | some '\x7d' => failPeek .trailingComma
      | some _ => failPeek .keyMustBeString
      | none => failPeek .eofValue

/-- An envelope from its fields, or the first missing field in field order. -/
def Partial.complete (p : Partial) : Read Envelope :=
  match p.id, p.strand, p.payload, p.acked, p.timestamp with
  | none, _, _, _, _ => failBare (.missingField "id")
  | some _, none, _, _, _ => failBare (.missingField "strand")
  | some _, some _, none, _, _ => failBare (.missingField "payload")
  | some _, some _, some _, none, _ => failBare (.missingField "acked")
  | some _, some _, some _, some _, none => failBare (.missingField "timestamp")
  | some i, some s, some pl, some a, some t =>
    pure { id := i, strand := s, payload := pl, acked := a, timestamp := t }

/-- Moves to the next item of an array; `false` at its end. -/
def nextItem (first : Bool) : Read Bool := do
  blanks
  match ← peek with
  | some ']' => pure false
  | some ',' =>
    if first then pure true
    else
      bump
      blanks
      match ← peek with
      | some ']' => failPeek .trailingComma
      | some _ => pure true
      | none => failPeek .eofValue
  | some _ => if first then pure true else failPeek .expectedListCommaOrEnd
  | none => failPeek .eofList

/-- The expectation named when an array is too short. -/
def arrayShape : String := "struct Msg with 5 elements"

/-- Reads one item of the array form, or reports the array too short at item `i`. -/
def item (first : Bool) (i : Nat) (r : Read α) : Read α := do
  if ← nextItem first then r else failBare (.invalidLength i arrayShape)

/-- Reads the array form (the bracket taken), up to its fifth item. -/
def readItems : Read Envelope := do
  let i ← item true 0 readString
  let s ← item false 1 readString
  let p ← item false 2 readString
  let a ← item false 3 readBool
  let t ← item false 4 readI64
  pure { id := i, strand := s, payload := p, acked := a, timestamp := t }

/-- Closes an object after its fields. -/
def closeObject : Read Unit := do
  blanks
  match ← peek with
  | some '\x7d' => bump
  | some ',' => failPeek .trailingComma
  | some _ => failPeek .trailingCharacters
  | none => failPeek .eofObject

/-- Closes an array after its items. -/
def closeArray : Read Unit := do
  blanks
  match ← peek with
  | some ']' => bump
  | some ',' =>
    bump
    blanks
    match ← peek with
    | some ']' => failPeek .trailingComma
    | _ => failPeek .trailingCharacters
  | some _ => failPeek .trailingCharacters
  | none => failPeek .eofList

/-- Runs the body of a bracketed value, then its closing step even after a failure; the
body's fault wins, and a fault without a position gets the position reached. -/
def bracketed (body : Read Envelope) (close : Read Unit) : Read Envelope := do
  let result ← observe body
  let closed ← observe close
  let r ← get
  match result, closed with
  | .ok v, .ok () => pure v
  | .error e, _ => throw (e.place r)
  | .ok _, .error e => throw (e.place r)

/-- Reads one envelope value. -/
def readEnvelope : Read Envelope := do
  blanks
  match ← peek with
  | none => failPeek .eofValue
  | some '[' =>
    bump
    bracketed readItems closeArray
  | some '\x7b' =>
    bump
    bracketed (do let p ← readFields (← budget) {} true; p.complete) closeObject
  | some _ => refuse "struct Msg"

/-- Reads an envelope from its wire form. -/
def decode (text : String) : Except ReadError Envelope :=
  (((do let m ← readEnvelope; finish; pure m) : Read Envelope).run.run (Reader.start text)).1

end Envelope

end Courier
