import Courier.Cli.Run
import Courier.Store.Disk.Text
import Courier.Ulid

/-!
# The program

The outer layer of the command-line program: it reads the command line, the configuration
file and the environment variable `SKEIN_DATA_DIR`, loads the durable store from
`<data directory>/records.txt`, runs the command (`Courier.Cli.execute`), writes the store
back and prints the outcome. Everything it decides is decided by the library.

New envelope ids take their time from the process clock, kept above the time of every id
already in the store so that ids keep growing.
-/

namespace Courier

namespace Program

/-- The words of an operating-system error, as the program reports it. -/
def reason (e : IO.Error) : String :=
  match e with
  | .noFileOrDirectory .. => "No such file or directory (os error 2)"
  | .inappropriateType _ 21 _ => "Is a directory (os error 21)"
  | .permissionDenied .. => "Permission denied (os error 13)"
  | e => toString e

/-- Reads a text file, or tells why it cannot be read. -/
def readText (path : String) : IO (Except String String) := do
  try
    return .ok (← IO.FS.readFile path)
  catch e =>
    return .error (reason e)

/-- The file of a data directory that holds its records. -/
def recordsFile (dir : String) : String := dir ++ "/records.txt"

/-- Loads the records of a data directory; none yet is an empty store. -/
def loadRecords (dir : String) : IO DiskStore.Records := do
  match ← readText (recordsFile dir) with
  | .ok text => return DiskStore.Records.ofText text
  | .error _ => return {}

/-- Writes the records of a data directory. -/
def saveRecords (dir : String) (r : DiskStore.Records) : IO Unit := do
  IO.FS.createDirAll dir
  IO.FS.writeFile (recordsFile dir) r.toText

/-- The first millisecond at which new ids sort after those of a store. -/
def firstMillis (r : DiskStore.Records) (now : Nat) : Nat :=
  r.envelopes.values.foldl (fun m e => max m (((Ulid.millisOf? e.id).map (· + 1)).getD 0)) now

/-- Prints an outcome and gives its status. -/
def finish (o : Cli.Outcome) : IO UInt32 := do
  IO.print o.stdout
  IO.eprint o.stderr
  return o.status.toUInt32

end Program

end Courier

/-- Runs the command line. -/
def main (args : List String) : IO UInt32 := do
  match Courier.Cli.Args.parse args with
  | .finish o => Courier.Program.finish o
  | .run inv =>
    let file ← match inv.config with
      | some path => Courier.Program.readText path
      | none => pure (.ok "")
    let env ← IO.getEnv "SKEIN_DATA_DIR"
    match Courier.Cli.loadConfig inv file env with
    | .error f => Courier.Program.finish (Courier.Cli.Outcome.failed "" f)
    | .ok c =>
      let records ← Courier.Program.loadRecords c.dataDir
      let start := Courier.Program.firstMillis records (← IO.monoMsNow)
      let entropy ← IO.rand 0 1000000
      let stamps (n : Nat) : Courier.Stamp :=
        { id := (Courier.Ulid.mk (start + n) (entropy + n)).encode, timestamp := (start + n) / 1000 }
      let (o, stored) := Courier.Cli.execute c inv.command records stamps
      match stored with
      | some r => Courier.Program.saveRecords c.dataDir r
      | none => pure ()
      Courier.Program.finish o
