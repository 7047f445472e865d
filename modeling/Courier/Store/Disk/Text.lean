import Courier.Store.Disk
import Courier.Envelope.Decode

/-!
# The text form of a disk store

A disk store's records are kept between runs as lines of text:

* `strand <durable> <ordered> <name>` for each strand, the flags written `0` or `1`;
* `envelope <wire form>` for each envelope.

In a name, `%`, tab, carriage return and line feed are written `%25`, `%09`, `%0D`, `%0A`,
so that a record is one line. `Records.ofText` reads back what `Records.toText` writes and
skips lines it does not understand.
-/

namespace Courier

namespace DiskStore.Records

/-- A name with the characters that would break a line written as `%` codes. -/
def escapeName (s : String) : String :=
  String.join (s.toList.map fun c =>
    if c = '%' then "%25" else if c = '\t' then "%09" else if c = '\r' then "%0D"
    else if c = '\n' then "%0A" else String.ofList [c])

/-- Reads the `%` codes of `escapeName` back. -/
def unescapeName : List Char → List Char
  | '%' :: '2' :: '5' :: rest => '%' :: unescapeName rest
  | '%' :: '0' :: '9' :: rest => '\t' :: unescapeName rest
  | '%' :: '0' :: 'D' :: rest => '\r' :: unescapeName rest
  | '%' :: '0' :: 'A' :: rest => '\n' :: unescapeName rest
  | c :: rest => c :: unescapeName rest
  | [] => []

/-- A flag as `0` or `1`. -/
def flag (b : Bool) : String := if b then "1" else "0"

/-- The text of some records. -/
def toText (r : DiskStore.Records) : String :=
  let strands := r.configs.toList.map fun (name, c) =>
    "strand " ++ flag c.durable ++ " " ++ flag c.ordered ++ " " ++ escapeName name ++ "\n"
  let envelopes := r.envelopes.values.map fun m => "envelope " ++ m.encode ++ "\n"
  String.join (strands ++ envelopes)

/-- Takes one line into some records. -/
def addLine (r : DiskStore.Records) (line : String) : DiskStore.Records :=
  match line.toList with
  | 's' :: 't' :: 'r' :: 'a' :: 'n' :: 'd' :: ' ' :: d :: ' ' :: o :: ' ' :: name =>
    let name := String.ofList (unescapeName name)
    { r with configs := r.configs.insert name { durable := d = '1', ordered := o = '1' } }
  | 'e' :: 'n' :: 'v' :: 'e' :: 'l' :: 'o' :: 'p' :: 'e' :: ' ' :: wire =>
    match Envelope.decode (String.ofList wire) with
    | .ok m => { r with envelopes := r.envelopes.insert (recordKey m.strand m.id) m }
    | .error _ => r
  | _ => r

/-- Reads records from their text. -/
def ofText (s : String) : DiskStore.Records :=
  (s.splitOn "\n").foldl addLine {}

end DiskStore.Records

end Courier
