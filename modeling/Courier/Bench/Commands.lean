import Courier.Bench.Request
import Courier.Bench.Encode
import Courier.Cli.Run
import Courier.Ulid

/-!
# Runs of the command-line program

A request holds several runs of the program that share one working directory, written
`<TMP>`. Each run may first put envelopes straight into the disk store at `<TMP>/data`
(*seeding*), may write a configuration file `<TMP>/skein.toml` and pass it with `--config`,
and sees the data directory `<TMP>/data` in its environment unless told otherwise. What the
runs write to disk stores stays for the runs after them.

A run's answer is its exit status and its two output texts, with every envelope id (a word
of 26 digits of Crockford's base 32) written `<ULID>`; seeding errors, if any, are listed by
kind.
-/

namespace Courier

namespace Bench

/-- The working directory of the runs. -/
def workDir : String := "<TMP>"

/-- The data directory the environment names. -/
def envDataDir : String := workDir ++ "/data"

/-- The configuration file a run may be given. -/
def configFile : String := workDir ++ "/skein.toml"

/-- What the runs of a request share: text files and disk stores by path, and the number of
runs so far. -/
structure Workspace where
  /-- Text files by path. -/
  files : Keyed String := {}
  /-- The records of disk stores by directory. -/
  stores : Keyed DiskStore.Records := {}
  /-- Runs so far. -/
  runs : Nat := 0
  deriving Inhabited

namespace Workspace

/-- A path as seen from the working directory, in one spelling per directory: a relative
path starts there, empty parts and `.` are dropped, and `..` takes back the part before it. -/
def resolve (p : String) : String :=
  let full := if p.startsWith "/" || p.startsWith workDir then p else workDir ++ "/" ++ p
  let parts := (full.splitOn "/").foldl (fun acc part =>
    if part = "" || part = "." then acc
    else if part = ".." then acc.dropLast
    else acc ++ [part]) []
  (if p.startsWith "/" then "/" else "") ++ "/".intercalate parts

/-- Reads a text file: its text, or why it cannot be read. -/
def read (w : Workspace) (p : String) : Except String String :=
  let p := resolve p
  match w.files.get? p with
  | some text => .ok text
  | none =>
    if p = workDir || w.stores.contains p then .error "Is a directory (os error 21)"
    else .error "No such file or directory (os error 2)"

/-- The stamps of a run: ids whose time part grows from run to run. -/
def stamps (w : Workspace) (n : Nat) : Stamp :=
  let millis := 1767225600000 + w.runs * 60000 + n
  { id := (Ulid.mk millis n).encode, timestamp := millis / 1000 }

end Workspace

/-- Whether a character belongs to a word. -/
def isWordChar (c : Char) : Bool := c.isAlphanum || c = '_' || c.toNat ≥ 128

/-- Whether a character is an upper-case digit of Crockford's base 32. -/
def isIdDigit (c : Char) : Bool := Ulid.alphabet.contains c

/-- A word as it is shown: `<ULID>` when it is exactly 26 base-32 digits. -/
def maskWord (word : List Char) : List Char :=
  if word.length = 26 && word.all isIdDigit then "<ULID>".toList else word

/-- The characters of a text with its words masked; `word` is the word being read, last
character first. -/
def maskChars (word : List Char) : List Char → List Char
  | [] => maskWord word.reverse
  | c :: rest =>
    if isWordChar c then maskChars (c :: word) rest
    else maskWord word.reverse ++ c :: maskChars [] rest

/-- Writes every word of exactly 26 base-32 digits as `<ULID>`. -/
def maskIds (s : String) : String := String.ofList (maskChars [] s.toList)

/-- Puts one seed entry into the disk store; gives the kinds of the errors met. -/
def seedOne (j : Json) (st : DiskStore) : Fallible (DiskStore × List String) := do
  let strand ← stringOr j "strand" ""
  let durable ← boolOr j "durable" false
  let ordered ← boolOr j "ordered" false
  let msgs ← match present j "msgs" with
    | none => pure []
    | some v => match v.items? with
      | some xs => pure xs
      | none => throw "msgs must be a list"
  let (st, errors) := match st.create strand { durable, ordered } with
    | .ok st => (st, [])
    | .error e => (st, [e.kind.name])
  msgs.foldlM (fun (acc : DiskStore × List String) m => do
    let id ← stringOr m "id" ""
    let payload ← stringOr m "payload" ""
    let timestamp ← i64Or m "timestamp" 0
    match acc.1.save (Envelope.make id strand payload timestamp) with
    | .ok st => pure (st, acc.2)
    | .error e => pure (acc.1, acc.2 ++ [e.kind.name])) (st, errors)

/-- The words of a run's `args`. -/
def runArgs (j : Json) : Fallible (List String) :=
  match present j "args" with
  | none => .ok []
  | some v => match v.items? with
    | some xs => xs.mapM fun x => match x.string? with
      | some s => .ok s
      | none => .error "args must be strings"
    | none => .error "args must be a list"

/-- Carries out one run in a workspace. -/
def runOnce (w : Workspace) (j : Json) : Fallible (Json × Workspace) := do
  -- seeding
  let seeds ← match present j "seed" with
    | none => pure []
    | some v => match v.items? with
      | some xs => pure xs
      | none => throw "seed must be a list"
  let (w, seedErrors) ← if seeds.isEmpty then pure (w, []) else do
    let st : DiskStore := { records := (w.stores.get? envDataDir).getD {} }
    let (st, errors) ← seeds.foldlM (fun (acc : DiskStore × List String) s => do
      let (st, es) ← seedOne s acc.1
      pure (st, acc.2 ++ es)) (st, [])
    pure ({ w with stores := w.stores.insert envDataDir st.records }, errors)
  -- the configuration file and the command line
  let config ← optString j "config"
  let words ← runArgs j
  let (w, words) := match config with
    | some text => ({ w with files := w.files.insert configFile text }, ["--config", configFile] ++ words)
    | none => (w, words)
  let dataEnv ← boolOr j "data_env" true
  let dataDir := if dataEnv then some envDataDir else none
  let (outcome, w) := match Cli.Args.parse words with
    | .finish o => (o, w)
    | .run inv =>
      let file := match inv.config with
        | some p => w.read p
        | none => .ok ""
      match Cli.loadConfig inv file dataDir with
      | .error f => (Cli.Outcome.failed "" f, w)
      | .ok c =>
        let dir := Workspace.resolve c.dataDir
        let records := (w.stores.get? dir).getD {}
        match Cli.execute c inv.command records w.stamps with
        | (o, some r) => (o, { w with stores := w.stores.insert dir r })
        | (o, none) => (o, w)
  let answer := obj ([("status", .nat outcome.status), ("stdout", .str (maskIds outcome.stdout)),
    ("stderr", .str (maskIds outcome.stderr))] ++
    (if seedErrors.isEmpty then [] else [("seed_errors", .arr (seedErrors.map .str))]))
  pure (answer, { w with runs := w.runs + 1 })

/-- Carries out the runs of a request in order. -/
def commandRuns (j : Json) : Fallible Json := do
  let runs ← match j.field? "runs" with
    | some (.arr xs) => pure xs
    | _ => throw "runs must be a list"
  let (answers, _) ← runs.foldlM (fun (acc : List Json × Workspace) r => do
    let (a, w) ← runOnce acc.2 r
    pure (acc.1 ++ [a], w)) ([], {})
  pure (obj [("runs", .arr answers)])

end Bench

end Courier
