import KctlProbe.Exit
import KctlProbe.Json.Source

/-!
# Hosts

The operating system as a value: what it does with a request to start a process, with a file to be
opened, and what its clock shows. Everything that depends on the operating system takes a host, so
its laws hold for whatever the processes do.
-/

namespace KctlProbe

/-- A process that has ended, and what it wrote if that was kept. -/
structure Child where
  exit : Exit
  stdout : Bytes
  stderr : Bytes
  deriving DecidableEq, Repr

/-- An operating system with states of type `σ`. -/
structure Host (σ : Type) where
  /-- Starts `program` with arguments `args` and waits until it ends. What the process writes is kept
  if `capture` holds and discarded otherwise. Any error that the operating system gives on the way
  is the answer instead, also one from waiting or from reading what the process writes. -/
  spawn : (program : Bytes) → (args : List Bytes) → (capture : Bool) → σ → Except OsError Child × σ
  /-- Opens the file at a path for reading. -/
  openFile : (path : Bytes) → σ → Except OsError Json.Source
  /-- The nanoseconds since some moment in the past. -/
  clock : σ → Nat

/-- The host behind the calls that start a process. A zero byte would end a program's name or an
argument too early, so a start with one is refused before the host is asked. -/
def Host.guarded {σ : Type} (host : Host σ) : Host σ where
  spawn program args capture state :=
    if (program :: args).any (0 ∈ ·) then (.error .invalidInput, state)
    else host.spawn program args capture state
  openFile := host.openFile
  clock := host.clock

end KctlProbe
