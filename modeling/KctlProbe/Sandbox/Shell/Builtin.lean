import KctlProbe.Sandbox.Shell.Builtin.Control
import KctlProbe.Sandbox.Shell.Builtin.Job
import KctlProbe.Sandbox.Shell.Builtin.Lookup
import KctlProbe.Sandbox.Shell.Builtin.Output
import KctlProbe.Sandbox.Shell.Builtin.Place
import KctlProbe.Sandbox.Shell.Builtin.Variable
import KctlProbe.Sandbox.Shell.Condition

/-!
# The commands of a shell itself

The commands that a shell does without starting a program.
-/

namespace KctlProbe.Sandbox

/-- Tests a condition that a bracket closes. -/
def bracketBuiltin (args : List Octets) : Action Nat := do
  if args.getLast? ≠ some [']'] then fail "missing ]"
  return if ← condition args.dropLast then 0 else 1

/-- Does what a command of the shell does, and gives its status. -/
def runBuiltin (run : Runner) (manner : Manner) (name : String) (args : List Octets) :
    Action Nat := do
  match name with
  | "." => dotBuiltin run args
  | "[" => bracketBuiltin args
  | "alias" => aliasBuiltin args
  | "bg" | "fg" => continueBuiltin args
  | "break" => loopBuiltin .leave args
  | "cd" | "chdir" => cdBuiltin args
  | "command" => commandBuiltin args
  | "continue" => loopBuiltin .again args
  | "echo" => echoBuiltin args
  | "eval" => evalBuiltin run manner args
  | "exec" => execBuiltin run args
  | "exit" => exitBuiltin args
  | "export" => declareBuiltin "export" true false args
  | "false" => return 1
  | "getopts" => getoptsBuiltin args
  | "hash" => hashBuiltin args
  | "jobs" => jobsBuiltin run args
  | "kill" => killBuiltin args
  | "local" => localBuiltin args
  | "printf" => printfBuiltin args
  | "pwd" => pwdBuiltin args
  | "read" => readBuiltin args
  | "readonly" => declareBuiltin "readonly" false true args
  | "return" => returnBuiltin args
  | "set" => setBuiltin args
  | "shift" => shiftBuiltin args
  | "test" => return if ← condition args then 0 else 1
  | "times" => timesBuiltin
  | "trap" => trapBuiltin args
  | "type" => typeBuiltin args
  | "ulimit" => ulimitBuiltin args
  | "umask" => umaskBuiltin args
  | "unalias" => unaliasBuiltin args
  | "unset" => unsetBuiltin args
  | "wait" => waitBuiltin run args
  | _ => return 0

end KctlProbe.Sandbox
