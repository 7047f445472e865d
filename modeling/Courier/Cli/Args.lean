import Courier.Cli.Report

/-!
# The command line

`skein [--config <CONFIG>] <COMMAND>`, where the command is

* `demo [--durable] [--count <COUNT>] [--strand <STRAND>]`: send, receive and acknowledge
  a batch of messages (three on the strand `demo` unless told otherwise);
* `recover`: redeliver everything the durable store still holds;
* `inspect`: list durable strands and their unacknowledged messages;
* `remove-strand <NAME>`: delete a durable strand and its messages;
* `help [COMMAND]`: print the help of the program or of a command.

`--config` may stand before or after the command. `-h`/`--help` prints the help of the
command it follows, `-V`/`--version` (before the command) the version.

`Args.parse` reads the words left to right, the way the usual argument parser does:

* a word that names a command (before any command) starts that command, even where a
  value was awaited;
* an option that takes a value takes the next word unless it looks like an option itself
  (it starts with `-` and is not `-`) or comes after `--`, or writes it after `=`;
* an option is recorded, and its value checked, only when the next known option, the
  positional name or the end of the words comes: a missing value, a second use of the
  option or a value that does not read is reported then, and not at all when an unknown
  word is met first;
* `--count` must be a whole number of at most 64 bits (an optional `+` allowed), and
  `--config` a path that is not empty;
* an unknown option or an extra word is an error, as is a missing `<NAME>`; unknown words
  get a tip when one of the known names is close (Jaro similarity above 0.7);
* the usage line of an error names what was recorded so far, or is the full line.

Help and version go to standard output with status 0. Errors go to standard error with
status 2, as `error: <message>`, tips, the usage line, and a pointer to `--help`. When no
option and no command was given at all, the help goes to standard error with status 2.
-/

namespace Courier

namespace Cli

/-- What a run is asked to do. -/
inductive Command where
  /-- Send, receive and acknowledge `count` messages on `strand`. -/
  | demo (durable : Bool) (count : Nat) (strand : String)
  /-- Redeliver the durable store's messages. -/
  | recover
  /-- List the durable store. -/
  | inspect
  /-- Delete a durable strand. -/
  | removeStrand (name : String)
  deriving DecidableEq, Repr, Inhabited

/-- A command with the configuration file it names, if any. -/
structure Invocation where
  /-- The path of the configuration file. -/
  config : Option String := none
  /-- The command. -/
  command : Command
  deriving DecidableEq, Repr, Inhabited

/-- What the command line asks for: a run, or an answer that ends the program at once (help,
version, or an error of use). -/
inductive Request where
  | run (inv : Invocation)
  | finish (o : Outcome)
  deriving DecidableEq, Repr, Inhabited

namespace Args

/-- The program's name. -/
def program : String := "skein"

/-- The program's version line. -/
def versionText : String := program ++ " 0.1.0\n"

/-- The levels of the command line: the program and its commands. -/
inductive Level where
  | root
  | demo
  | recover
  | inspect
  | removeStrand
  | help
  deriving DecidableEq, Repr, Inhabited

/-- The options. -/
inductive Opt where
  | config
  | durable
  | count
  | strand
  | help
  | version
  deriving DecidableEq, Repr, Inhabited

namespace Opt

/-- The long name, without dashes. -/
def long : Opt → String
  | .config => "config"
  | .durable => "durable"
  | .count => "count"
  | .strand => "strand"
  | .help => "help"
  | .version => "version"

/-- The short name, if any. -/
def short : Opt → Option Char
  | .help => some 'h'
  | .version => some 'V'
  | _ => none

/-- The name of the value it takes, if it takes one. -/
def value : Opt → Option String
  | .config => some "CONFIG"
  | .count => some "COUNT"
  | .strand => some "STRAND"
  | _ => none

/-- How it is shown in messages and usage lines: `--count <COUNT>`. -/
def shown (o : Opt) : String :=
  "--" ++ o.long ++ match o.value with
    | some v => " <" ++ v ++ ">"
    | none => ""

/-- Its line in a help text: the left column and the description. -/
def helpLine (o : Opt) : String × String :=
  let left := (match o.short with
    | some c => "-" ++ String.ofList [c] ++ ", "
    | none => "    ") ++ o.shown
  let right := match o with
    | .config => "TOML configuration file"
    | .durable => "Persist the demo strand in the durable store"
    | .count => "[default: 3]"
    | .strand => "[default: demo]"
    | .help => "Print help"
    | .version => "Print version"
  (left, right)

end Opt

namespace Level

/-- The commands of the program, in the order of its help. -/
def commands : List Level := [.demo, .recover, .inspect, .removeStrand, .help]

/-- The name of a command. -/
def name : Level → String
  | .root => program
  | .demo => "demo"
  | .recover => "recover"
  | .inspect => "inspect"
  | .removeStrand => "remove-strand"
  | .help => "help"

/-- The one-line description. -/
def about : Level → String
  | .root => "Lightweight message broker"
  | .demo => "Send, receive and acknowledge a batch of messages"
  | .recover => "Redeliver everything the durable store still holds"
  | .inspect => "List durable strands and their unacknowledged messages"
  | .removeStrand => "Delete a durable strand and its messages"
  | .help => "Print this message or the help of the given subcommand(s)"

/-- The command named by a word. -/
def ofName (s : String) : Option Level := commands.find? (·.name = s)

/-- The options of a level, in the order of its help. -/
def opts : Level → List Opt
  | .root => [.config, .help, .version]
  | .demo => [.config, .durable, .count, .strand, .help]
  | .recover | .inspect | .removeStrand => [.config, .help]
  | .help => []

/-- The words a level's usage line starts with. -/
def path : Level → String
  | .root => program
  | l => program ++ " " ++ l.name

/-- The full usage line. -/
def usage : Level → String
  | .root => program ++ " [OPTIONS] <COMMAND>"
  | .removeStrand => path .removeStrand ++ " [OPTIONS] <NAME>"
  | .help => path .help ++ " [COMMAND]..."
  | l => l.path ++ " [OPTIONS]"

/-- The usage line naming the options given so far and what is required. -/
def requiredUsage (l : Level) (used : List Opt) : String :=
  l.path ++ String.join (used.map (" " ++ ·.shown)) ++
    (if l = .removeStrand then " <NAME>" else "") ++
    (if l = .root then " <COMMAND>" else "")

/-- The usage line of an error after some options (and, if `named`, the positional name):
the full line when nothing was given. -/
def usageWith (l : Level) (used : List Opt) (named : Bool) : String :=
  if used.isEmpty && !named then l.usage else l.requiredUsage used

/-- Whether a level takes a positional word. -/
def hasPositionals : Level → Bool
  | .removeStrand | .help => true
  | _ => false

end Level

/-- `n` spaces. -/
def spaces (n : Nat) : String := String.ofList (List.replicate n ' ')

/-- Two columns: each left text padded to the widest, then two spaces and the right text. -/
def columns (rows : List (String × String)) : String :=
  let width := (rows.map (·.1.length)).foldl max 0
  "\n".intercalate (rows.map fun (l, r) => "  " ++ l ++ spaces (width - l.length) ++ "  " ++ r)

/-- The help text of a level. -/
def helpText (l : Level) : String :=
  let commands :=
    if l = .root then
      "Commands:\n" ++ columns (Level.commands.map fun c => (c.name, c.about)) ++ "\n\n"
    else ""
  let arguments := match l with
    | .removeStrand => "Arguments:\n" ++ columns [("<NAME>", "")] ++ "\n\n"
    | .help => "Arguments:\n" ++ columns [("[COMMAND]...", "Print help for the subcommand(s)")] ++ "\n"
    | _ => ""
  let options :=
    if l.opts.isEmpty then "" else "Options:\n" ++ columns (l.opts.map Opt.helpLine) ++ "\n"
  l.about ++ "\n\nUsage: " ++ l.usage ++ "\n\n" ++ commands ++ arguments ++ options

/-- An error of use: the message, tips, and the usage line if it is shown. -/
structure UsageError where
  /-- What is wrong. -/
  message : String
  /-- Tips, each shown on its own line. -/
  tips : List String := []
  /-- The usage line, if shown. -/
  usage : Option String := none
  /-- Whether the text ends by pointing to '--help'; the help command has no such flag. -/
  pointsToHelp : Bool := true
  deriving DecidableEq, Repr, Inhabited

/-- The text of an error of use. -/
def UsageError.render (e : UsageError) : String :=
  let tips := if e.tips.isEmpty then "" else "\n" ++ String.join (e.tips.map ("\n  tip: " ++ ·))
  let usage := match e.usage with
    | some u => "\n\nUsage: " ++ u
    | none => ""
  let pointer := if e.pointsToHelp then "\n\nFor more information, try '--help'.\n" else "\n"
  "error: " ++ e.message ++ tips ++ usage ++ pointer

/-- The Jaro similarity of two words, as a fraction `(num, den)`. -/
def jaro (a b : List Char) : Nat × Nat :=
  if a.isEmpty && b.isEmpty then (1, 1)
  else if a.isEmpty || b.isEmpty then (0, 1)
  else
    let range := max a.length b.length / 2 - 1
    -- mark, for each character of `a`, the first unmarked equal character of `b` in range
    let step (st : List Bool × List (Option Nat)) (ic : Nat × Char) :=
      let (bFlags, aMatches) := st
      let (i, c) := ic
      let lo := i - range
      let hi := min b.length (i + range + 1)
      match (List.range hi).find? fun j => lo ≤ j && !bFlags.getD j true && b.getD j ' ' = c with
      | some j => (bFlags.set j true, aMatches ++ [some j])
      | none => (bFlags, aMatches ++ [none])
    let (bFlags, aMatches) :=
      (a.zipIdx.map (fun (c, i) => (i, c))).foldl step (List.replicate b.length false, [])
    let m := (aMatches.filter Option.isSome).length
    if m = 0 then (0, 1)
    else
      let aSeq := (a.zip aMatches).filterMap fun (c, j) => j.map fun _ => c
      let bSeq := (b.zip bFlags).filterMap fun (c, f) => if f then some c else none
      let t := ((aSeq.zip bSeq).filter fun (x, y) => x ≠ y).length / 2
      -- (m/|a| + m/|b| + (m - t)/m) / 3
      let la := a.length
      let lb := b.length
      (m * lb * m + m * la * m + (m - t) * la * lb, 3 * la * lb * m)

/-- The known names close to a word (similarity above 0.7), least close first. -/
def similar (word : String) (names : List String) : List String :=
  let scored := names.filterMap fun n =>
    let (p, q) := jaro word.toList n.toList
    if 10 * p > 7 * q then some (n, p, q) else none
  let sorted := scored.mergeSort fun (_, p1, q1) (_, p2, q2) => p1 * q2 ≤ p2 * q1
  sorted.map (·.1)

/-- What has been read at one level. -/
structure Seen where
  /-- The configuration path. -/
  config : Option String := none
  /-- `--durable` was given. -/
  durable : Bool := false
  /-- The value of `--count`. -/
  count : Option Nat := none
  /-- The value of `--strand`. -/
  strand : Option String := none
  /-- The positional name. -/
  name : Option String := none
  /-- Options recorded, in the order they were first recorded. -/
  used : List Opt := []
  deriving Inhabited

/-- The usage line of an error at a level after what was read there. -/
def Seen.usage (seen : Seen) (l : Level) : String := l.usageWith seen.used seen.name.isSome

/-- An option read but not yet recorded: the option, and its value once the next word gave
it. An option's value is checked only when the option is recorded, which happens when the
next option, positional word or the end of the words comes. -/
abbrev Pending := Option (Opt × Option String)

/-- How the reading of one level ends. -/
inductive Ending where
  /-- Show the help of a level. -/
  | help (l : Level)
  /-- Show the version. -/
  | version
  /-- An error of use. -/
  | failed (e : UsageError)
  /-- The words ran out. -/
  | done (seen : Seen) (pending : Pending)
  /-- A command starts with the words after it. -/
  | enter (command : Level) (rest : List String) (seen : Seen) (pending : Pending)
  /-- `help` with the words after it. -/
  | helpFor (words : List String)
  deriving Inhabited

/-- The error for an option that got no value. -/
def emptyValue (o : Opt) : UsageError :=
  { message := "a value is required for '" ++ o.shown ++ "' but none was supplied" }

/-- The error for an option given a second time. -/
def givenTwice (l : Level) (o : Opt) : UsageError :=
  { message := "the argument '" ++ o.shown ++ "' cannot be used multiple times", usage := some l.usage }

/-- Reads a count the way an unsigned 64-bit number is read from text. -/
def readCount (s : String) : Except String Nat :=
  let cs := if s.toList.head? = some '+' then s.toList.tail else s.toList
  if s.isEmpty then .error "cannot parse integer from empty string"
  else if cs.isEmpty || !cs.all Char.isDigit then .error "invalid digit found in string"
  else
    let n := cs.foldl (fun a c => a * 10 + (c.toNat - '0'.toNat)) 0
    if n ≥ Nat.pow 2 64 then .error "number too large to fit in target type" else .ok n

/-- Whether a word looks like an option. -/
def looksLikeOption (w : String) : Bool := w.startsWith "-" && w ≠ "-"

/-- Records the value of an option that takes one; a path must not be empty. -/
def assign (seen : Seen) (o : Opt) (v : String) : Except UsageError Seen :=
  match o with
  | .config => if v.isEmpty then .error (emptyValue o) else .ok { seen with config := some v }
  | .strand => .ok { seen with strand := some v }
  | .count =>
    match readCount v with
    | .ok n => .ok { seen with count := some n }
    | .error why => .error { message := "invalid value '" ++ v ++ "' for '" ++ o.shown ++ "': " ++ why }
  | _ => .ok seen

/-- Records a pending option: an option without a value, an option given twice or a value
that does not read is an error. -/
def settle (l : Level) (seen : Seen) : Pending → Except UsageError Seen
  | none => .ok seen
  | some (o, none) => .error (emptyValue o)
  | some (o, some v) =>
    if seen.used.contains o then .error (givenTwice l o)
    else assign { seen with used := seen.used ++ [o] } o v

/-- What stays recorded when a pending option is settled on the way to another error, whose
report it may only change through the usage line: an option given twice is dropped, one whose
value does not read counts as given. -/
def settleQuietly (seen : Seen) : Pending → Seen
  | some (o, some v) =>
    if seen.used.contains o then { seen with used := seen.used.erase o }
    else
      let seen := { seen with used := seen.used ++ [o] }
      match assign seen o v with
      | .ok s => s
      | .error _ => seen
  | _ => seen

/-- The error for an unknown long option, with a tip for a close name. -/
def unknownLong (l : Level) (seen : Seen) (word : String) (rest : List String) : UsageError :=
  let name := (word.drop 2).toString
  let here := (similar name (l.opts.map Opt.long)).getLast?
  match here with
  | some n =>
    let used := match l.opts.find? (·.long = n) with
      | some o => if seen.used.contains o then seen.used else seen.used ++ [o]
      | none => seen.used
    { message := "unexpected argument '" ++ word ++ "' found"
      tips := ["a similar argument exists: '--" ++ n ++ "'"]
      usage := some (l.usageWith used seen.name.isSome) }
  | none =>
    let elsewhere :=
      if l = .root then
        (Level.commands.filterMap fun c =>
          match (similar name (c.opts.map Opt.long)).getLast?, rest.idxOf? c.name with
          | some n, some pos => some (pos, c.name ++ " --" ++ n)
          | _, _ => none).head?
      else none
    let tips := (match elsewhere with
      | some (_, s) => ["'" ++ s ++ "' exists"]
      | none => []) ++
      (if elsewhere.isNone && l.hasPositionals then
        ["to pass '" ++ word ++ "' as a value, use '-- " ++ word ++ "'"] else [])
    { message := "unexpected argument '" ++ word ++ "' found", tips, usage := some (seen.usage l) }

/-- The error for a word where no word is taken. At the program's level the word is taken
for a command: one that names a command after `--` gets a tip to drop the `--`, others are
unknown commands, with a tip for close names. -/
def unexpectedWord (l : Level) (word : String) (trailing : Bool) : UsageError :=
  if l = .root then
    if trailing && (Level.ofName word).isSome then
      { message := "unexpected argument '" ++ word ++ "' found"
        tips := ["subcommand '" ++ word ++ "' exists; to use it, remove the '--' before it"]
        usage := some l.usage }
    else
      let close := similar word (Level.commands.map Level.name)
      { message := "unrecognized subcommand '" ++ word ++ "'"
        tips := match close with
          | [] => []
          | [n] => ["a similar subcommand exists: '" ++ n ++ "'"]
          | ns => ["some similar subcommands exist: " ++ ", ".intercalate (ns.map fun n => "'" ++ n ++ "'")]
        usage := some l.usage }
  else { message := "unexpected argument '" ++ word ++ "' found", usage := some l.usage }

/-- Continues after settling the pending option, or fails with its error. -/
def settled (l : Level) (seen : Seen) (pending : Pending) (k : Seen → Ending) : Ending :=
  match settle l seen pending with
  | .ok seen => k seen
  | .error e => .failed e

/-- Reads the words of one level; `trailing` is set after `--`, and `pending` is the option
read last, not yet recorded. -/
def readLevel (l : Level) : List String → Seen → Pending → Bool → Ending
  | [], seen, pending, _ => .done seen pending
  | w :: rest, seen, pending, trailing =>
    let command := if l = .root && !trailing then Level.ofName w else none
    match command with
    | some .help => .helpFor rest
    | some c => .enter c rest seen pending
    | none =>
      if !trailing && w = "--" then readLevel l rest seen pending true
      else if !trailing && w.startsWith "--" then
        let body := (w.drop 2).toString
        let (name, attached) := match body.splitOn "=" with
          | n :: v :: more => (n, some ("=".intercalate (v :: more)))
          | _ => (body, none)
        match l.opts.find? (·.long = name) with
        | none => .failed (unknownLong l (settleQuietly seen pending) ("--" ++ name) rest)
        | some o =>
          match o.value, attached with
          | some _, some v =>
            match settle l seen pending with
            | .error e => .failed e
            | .ok seen =>
              match settle l seen (some (o, some v)) with
              | .ok seen => readLevel l rest seen none trailing
              | .error e => .failed e
          | some _, none =>
            match settle l seen pending with
            | .ok seen => readLevel l rest seen (some (o, none)) trailing
            | .error e => .failed e
          | none, some v =>
            let used := if seen.used.contains o then seen.used else seen.used ++ [o]
            .failed { message := "unexpected value '" ++ v ++ "' for '" ++ o.shown ++
                        "' found; no more were expected"
                      usage := some (l.usageWith used seen.name.isSome) }
          | none, none =>
            match settle l seen pending with
            | .error e => .failed e
            | .ok seen =>
              if o = .help then .help l
              else if o = .version then .version
              else if seen.used.contains o then .failed (givenTwice l o)
              else readLevel l rest { seen with durable := true, used := seen.used ++ [o] } none trailing
      else if !trailing && looksLikeOption w then
        let c := (w.toList.drop 1).headD '-'
        match l.opts.find? (·.short = some c) with
        | some o =>
          match settle l seen pending with
          | .error e => .failed e
          | .ok _ => if o = .help then .help l else .version
        | none =>
          .failed { message := "unexpected argument '-" ++ String.ofList [c] ++ "' found"
                    tips := if l.hasPositionals then
                      ["to pass '-" ++ String.ofList [c] ++ "' as a value, use '-- -" ++
                        String.ofList [c] ++ "'"] else []
                    usage := some l.usage }
      else
        match pending with
        | some (o, none) =>
          if trailing then
            if l = .removeStrand && seen.name.isNone then .failed (emptyValue o)
            else .failed (unexpectedWord l w trailing)
          else readLevel l rest seen (some (o, some w)) trailing
        | _ =>
          if l = .removeStrand && seen.name.isNone then
            match settle l seen pending with
            | .ok seen => readLevel l rest { seen with name := some w } none trailing
            | .error e => .failed e
          else .failed (unexpectedWord l w trailing)

/-- An error of use as the program's answer. -/
def failWith (e : UsageError) : Request := .finish { status := 2, stderr := e.render }

/-- A help text as the program's answer. -/
def showHelp (l : Level) : Request := .finish { status := 0, stdout := helpText l }

/-- The answer to `help` followed by some words. -/
def helpWords : List String → Request
  | [] => showHelp .root
  | w :: rest =>
    match Level.ofName w with
    | none => failWith { message := "unrecognized subcommand '" ++ w ++ "'", usage := some Level.root.usage }
    | some c =>
      match rest with
      | [] => showHelp c
      | x :: _ =>
        failWith { message := "unrecognized subcommand '" ++ x ++ "'", usage := some c.usage
                   pointsToHelp := c ≠ .help }

/-- The command a level and what was read at it stand for. -/
def commandOf (l : Level) (seen : Seen) : Command :=
  match l with
  | .demo => .demo seen.durable (seen.count.getD 3) (seen.strand.getD "demo")
  | .recover => .recover
  | .inspect => .inspect
  | _ => .removeStrand (seen.name.getD "")

/-- The help of the program on standard error: the answer when no command and no option
was given. -/
def helpInstead : Request := .finish { status := 2, stderr := helpText .root }

/-- Reads the words after the program's name. -/
def parse (args : List String) : Request :=
  match readLevel .root args {} none false with
  | .help l => showHelp l
  | .version => .finish { status := 0, stdout := versionText }
  | .failed e => failWith e
  | .helpFor words => helpWords words
  | .done rootSeen rootPending =>
    match settle .root rootSeen rootPending with
    | .error e => failWith e
    | .ok rootSeen =>
      if rootSeen.used.isEmpty then helpInstead
      else
        failWith { message := "'" ++ program ++ "' requires a subcommand but one was not provided\n  [subcommands: " ++
                     ", ".intercalate (Level.commands.map Level.name) ++ "]"
                   usage := some Level.root.usage }
  | .enter c rest rootSeen rootPending =>
    match readLevel c rest {} none false with
    | .help l => showHelp l
    | .version => showHelp c
    | .failed e => failWith e
    | .helpFor _ => showHelp c
    | .enter .. => showHelp c
    | .done seen pending =>
      match settle c seen pending with
      | .error e => failWith e
      | .ok seen =>
        if c = .removeStrand && seen.name.isNone then
          failWith { message := "the following required arguments were not provided:\n  <NAME>"
                     usage := some (c.requiredUsage seen.used) }
        else
          match settle .root rootSeen rootPending with
          | .error e => failWith e
          | .ok rootSeen =>
            let config := match seen.config with
              | some path => some path
              | none => rootSeen.config
            .run { config, command := commandOf c seen }

end Args

end Cli

end Courier
