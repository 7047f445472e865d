import Courier.Config
import Courier.Error
import Courier.Abort

/-!
# What a command prints when it ends

A command ends with an exit status and the texts it wrote to its two output streams. When it
fails, its error is a *chain*: what the command was doing, then each cause, outermost first.
`Failure.render` writes a chain the way the program reports it on standard error:

```text
Error: <what>

Caused by:
    <the one cause>
```

A run can also be cut short by the runtime (`Stop.aborted`): the process then ends with the
runtime's status and report, keeping what it printed before.

With two or more causes each is numbered, right-aligned in five columns (`    0: `), and the
lines of a cause after its first are indented to match (seven spaces; four without numbers).
-/

namespace Courier

namespace Cli

/-- The end of a run: exit status and the two output texts. -/
structure Outcome where
  /-- The exit status. -/
  status : Nat
  /-- What went to standard output. -/
  stdout : String := ""
  /-- What went to standard error. -/
  stderr : String := ""
  deriving DecidableEq, Repr, Inhabited

/-- A failure: what was being done and the chain of causes, outermost first. -/
structure Failure where
  /-- The outermost message. -/
  message : String
  /-- The causes, outermost first. -/
  causes : List String := []
  deriving DecidableEq, Repr, Inhabited

namespace Failure

/-- A failure wrapped in what was being done when it happened. -/
def context (what : String) (f : Failure) : Failure :=
  { message := what, causes := f.message :: f.causes }

/-- A broker error as a failure. -/
def ofBroker (e : BrokerError) : Failure := { message := e.message, causes := e.causes }

/-- A transport error as a failure. -/
def ofTransport (e : TransportError) : Failure :=
  { message := e.message, causes := e.source?.toList }

/-- A configuration error as a failure. -/
def ofConfig (e : ConfigError) : Failure := { message := e.message, causes := e.cause?.toList }

/-- A text with every line after the first indented. -/
def indentLines (indent : String) (s : String) : String :=
  String.intercalate ("\n" ++ indent) (s.splitOn "\n")

/-- A number right-aligned in five columns. -/
def number (n : Nat) : String :=
  let s := toString n
  String.ofList (List.replicate (5 - s.length) ' ') ++ s

/-- The report of a failure on standard error. -/
def render (f : Failure) : String :=
  let causes := match f.causes with
    | [] => ""
    | [c] => "\n\nCaused by:\n    " ++ indentLines "    " c
    | cs => "\n\nCaused by:" ++ String.join (cs.zipIdx.map fun (c, i) =>
        "\n" ++ number i ++ ": " ++ indentLines "       " c)
  "Error: " ++ f.message ++ causes ++ "\n"

end Failure

/-- The outcome of a run that failed after writing `stdout`. -/
def Outcome.failed (stdout : String) (f : Failure) : Outcome :=
  { status := 1, stdout, stderr := f.render }

/-- How a run stops before its end: it fails and reports why, or the runtime aborts the
process. -/
inductive Stop where
  | failed (f : Failure)
  | aborted (a : Abort)
  deriving Inhabited

/-- The outcome of a run that stopped after writing `stdout`. -/
def Outcome.stopped (stdout : String) : Stop → Outcome
  | .failed f => Outcome.failed stdout f
  | .aborted a => { status := Abort.status, stdout, stderr := a.report }

end Cli

end Courier
