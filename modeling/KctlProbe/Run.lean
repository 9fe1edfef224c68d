import KctlProbe.Command.Get
import KctlProbe.Host
import KctlProbe.Log

/-!
# Running a command

A run starts the process of a command once, waits for it, and gives back exactly what the operating
system reports. An exit with another code than 0 is a result, and so is death by a signal; a run
fails only if there is nothing to start or the operating system refuses to start it.
-/

namespace KctlProbe

/-- What an operation on a host came to: its result, the events on the way, and the host's state
after it. -/
structure Trace (σ α : Type) where
  result : Except Failure α
  log : List Event
  host : σ

/-- What a process wrote, as text. -/
structure Captured where
  stdout : String
  stderr : String
  deriving DecidableEq, Repr

/-- The outcome of one run. -/
structure Outcome where
  /-- The argument vector that the process was started with, the program first. -/
  argv : List Bytes
  exit : Exit
  /-- What the process wrote, unless it was discarded. -/
  output : Option Captured
  deriving DecidableEq, Repr

namespace Outcome

/-- Whether the process exited with code 0. -/
def success (o : Outcome) : Bool := o.exit.success

/-- The exit code, if the process was not killed. -/
def code? (o : Outcome) : Option UInt8 := o.exit.code?

/-- The captured standard output. -/
def stdout? (o : Outcome) : Option String := o.output.map Captured.stdout

/-- The captured standard error. -/
def stderr? (o : Outcome) : Option String := o.output.map Captured.stderr

end Outcome

variable {σ : Type}

/-- Starts the process of an argument vector and waits until it ends. -/
def execute (host : Host σ) (argv : List Bytes) (capture : Bool) (state : σ) : Trace σ Outcome :=
  match argv with
  | [] => { result := .error .invalidArgument, log := [], host := state }
  | program :: args =>
    let start := Event.spawning argv capture
    match host.spawn program args capture state with
    | (.error e, state) => { result := .error (.spawn e), log := [start], host := state }
    | (.ok child, state) =>
      let output :=
        if capture then some ⟨Utf8.lossy child.stdout, Utf8.lossy child.stderr⟩ else none
      { result := .ok { argv, exit := child.exit, output }
        log := [start, .exited child.exit]
        host := state }

/-- Runs a command with the given positional arguments. -/
def run {α : Type} [Command α] (host : Host σ) (command : α) (positional : List String)
    (capture : Bool) (state : σ) : Trace σ Outcome :=
  execute host (Command.argv command positional) capture state

/-- Gets a key once, with a format given by name, and captures what the tool wrote. -/
def testGet (host : Host σ) (settings : Settings) (key format : String) (state : σ) :
    Trace σ Outcome :=
  match Get.prepare settings format with
  | .error f => { result := .error f, log := [], host := state }
  | .ok command => run host command [key] true state

end KctlProbe
