/-!
# Aborts

A few requests to the runtime end the whole process instead of failing: the runtime makes a
bounded buffer of at most `Abort.maxSlots` slots, and a request for more stops the process on
the spot. Nothing after the request runs; what the process wrote before it stays written.
The process then exits with status `Abort.status` and writes the runtime's report of the abort
on standard error (`Abort.report`).

The transports ask for their buffers late: the channel transport for a strand's buffer on the
first send to the strand, a WebSocket endpoint for a strand's inbox on each attach, each of as
many slots as the transport's capacity. Capacities are taken as at least one, so a buffer of
no slots is never asked for.
-/

namespace Courier

/-- Why the runtime stopped the process: its message, and the place in the runtime that
stopped it. -/
structure Abort where
  /-- The message of the abort. -/
  message : String
  /-- Where in the runtime the abort was raised. -/
  location : String
  deriving DecidableEq, Repr, Inhabited

namespace Abort

/-- The most slots a bounded buffer of the runtime can have: the largest machine word shifted
right by three bits. -/
def maxSlots : Nat := Nat.shiftRight (Nat.pow 2 64 - 1) 3

/-- The abort of a request for a bounded buffer of more than `maxSlots` slots. -/
def tooManySlots : Abort :=
  { message := "a semaphore may not have more than MAX_PERMITS permits (" ++ toString maxSlots ++ ")"
    location := "/usr/local/cargo/registry/src/index.crates.io-1949cf8c6b5b557f/tokio-1.54.1/" ++
      "src/sync/batch_semaphore.rs:148:9" }

/-- The abort that a request for a bounded buffer of `slots` slots raises, if it raises one. -/
def ofSlots (slots : Nat) : Option Abort :=
  if maxSlots < slots then some tooManySlots else none

/-- The exit status of a process that aborted. -/
def status : Nat := 101

/-- What an aborted process writes on standard error: which thread stopped, where, why, and
how to ask for a backtrace. -/
def report (a : Abort) : String :=
  "\nthread \x27main\x27 (12) panicked at " ++ a.location ++ ":\n" ++ a.message ++
    "\nnote: run with \x60RUST_BACKTRACE=1\x60 environment variable to display a backtrace\n"

end Abort

end Courier
