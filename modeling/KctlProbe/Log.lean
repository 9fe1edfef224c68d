import KctlProbe.Text.Quoted
import KctlProbe.SubCommand
import KctlProbe.Exit

/-!
# The log

What happens is recorded as events. An event has a level and a line of text: the level, the part of
the program that the event comes from, a message, and fields with their values.
-/

namespace KctlProbe

/-- How important an event is. -/
inductive Level where
  | trace
  | debug
  | info
  deriving DecidableEq, Repr

namespace Level

/-- The place of a level among the others, the least important first. -/
def rank : Level → Nat
  | .trace => 0
  | .debug => 1
  | .info => 2

/-- How a level stands in front of a line. -/
def label : Level → String
  | .trace => "TRACE"
  | .debug => "DEBUG"
  | .info => "INFO"

end Level

/-- Something that happened. -/
inductive Event where
  /-- A process is about to be started. -/
  | spawning (argv : List Bytes) (capture : Bool)
  /-- A process has ended. -/
  | exited (exit : Exit)
  /-- Repeated runs of a command were timed. -/
  | timed (subCommand : SubCommand) (iterations failures : UInt32) (averageMicros : UInt64)
  /-- The settings of a session are known. -/
  | configured (program : Bytes) (host : String) (port : UInt16)
  deriving DecidableEq, Repr

namespace Event

/-- The level of an event. -/
def level : Event → Level
  | .spawning _ _ => .debug
  | .exited _ => .trace
  | .timed _ _ _ _ => .info
  | .configured _ _ _ => .info

/-- The part of the program that an event comes from. -/
def target : Event → String
  | .spawning _ _ => "ktest::command::exec"
  | .exited _ => "ktest::command::exec"
  | .timed _ _ _ _ => "ktest::timing"
  | .configured _ _ _ => "ktest_timed"

/-- A field and its value. -/
def field (name value : String) : String :=
  " " ++ name ++ "=" ++ value

/-- The message of an event and its fields. -/
def text (hidden : Char → Bool) : Event → String
  | .spawning argv capture =>
    "spawning kctl" ++ field "args" (Text.quoteVector hidden argv) ++
      field "capture" (if capture then "true" else "false")
  | .exited exit => "kctl exited" ++ field "status" exit.text
  | .timed subCommand iterations failures averageMicros =>
    "timing finished" ++ field "sub_command" subCommand.name ++
      field "iterations" (Text.decimal iterations.toNat) ++
      field "failures" (Text.decimal failures.toNat) ++
      field "average_us" (Text.decimal averageMicros.toNat)
  | .configured program host port =>
    "kctl configured" ++ field "program" (Utf8.lossy program) ++ field "host" host ++
      field "port" (Text.decimal port.toNat)

/-- The line of an event, without what is put in front of it, such as the time. -/
def line (hidden : Char → Bool) (e : Event) : String :=
  e.level.label ++ " " ++ e.target ++ ": " ++ e.text hidden

end Event

/-- The events that are at least as important as `least`. -/
def atLeast (least : Level) (log : List Event) : List Event :=
  log.filter fun e => least.rank ≤ e.level.rank

end KctlProbe
