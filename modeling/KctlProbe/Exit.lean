import KctlProbe.Text.Decimal

/-!
# How processes end

A process ends with an exit code or is killed by a signal.
-/

namespace KctlProbe

/-- How a process ended. -/
inductive Exit where
  | code (n : UInt8)
  | signal (n : Nat)
  deriving DecidableEq, Repr

/-- The names of the signals, from signal 1 on. -/
def signalNames : List String :=
  ["SIGHUP", "SIGINT", "SIGQUIT", "SIGILL", "SIGTRAP", "SIGABRT", "SIGBUS", "SIGFPE", "SIGKILL",
    "SIGUSR1", "SIGSEGV", "SIGUSR2", "SIGPIPE", "SIGALRM", "SIGTERM", "SIGSTKFLT", "SIGCHLD",
    "SIGCONT", "SIGSTOP", "SIGTSTP", "SIGTTIN", "SIGTTOU", "SIGURG", "SIGXCPU", "SIGXFSZ",
    "SIGVTALRM", "SIGPROF", "SIGWINCH", "SIGIO", "SIGPWR", "SIGSYS"]

namespace Exit

/-- Whether a process ended as a successful one does. -/
def success : Exit → Bool
  | .code n => n == 0
  | .signal _ => false

/-- The exit code, if the process was not killed. -/
def code? : Exit → Option UInt8
  | .code n => some n
  | .signal _ => none

/-- How a process ended, in words. -/
def text : Exit → String
  | .code n => "exit status: " ++ Text.decimal n.toNat
  | .signal n =>
    let number := "signal: " ++ Text.decimal n
    match n with
    | 0 => number
    | k + 1 =>
      match signalNames[k]? with
      | some name => number ++ " (" ++ name ++ ")"
      | none => number

end Exit

end KctlProbe
