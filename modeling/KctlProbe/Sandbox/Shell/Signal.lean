import KctlProbe.Sandbox.Shell.Complaint

/-!
# Signals

What a signal does to a process of a sandbox: it may have a trap for it, survive it, or be killed.
-/

namespace KctlProbe.Sandbox

/-- The numbers of signals that a process survives. -/
def harmlessSignals : List Nat := [0, 17, 18, 23, 28]

/-- The number of signals, with the one that stands for the end of a shell. -/
def signalCount : Nat := 65

/-- The name by which a shell knows a signal. -/
def signalName (n : Nat) : String :=
  if n = 0 then "EXIT"
  else if n = 29 then "IO"
  else if n = 16 ∨ n = 32 ∨ n = 33 then shown (Octets.ofNat n)
  else if n < 32 then ((signalNames[n - 1]?).getD "").drop 3 |>.toString
  else if n = 34 then "RTMIN"
  else if n < 50 then "RTMIN+" ++ shown (Octets.ofNat (n - 34))
  else if n < 64 then "RTMAX-" ++ shown (Octets.ofNat (64 - n))
  else "RTMAX"

/-- The number of a signal given by its number or its name in letters of any case. -/
def signalNumber? (least : Nat) (text : Octets) : Option Nat :=
  match Octets.toNat? text with
  | some n => if least ≤ n ∧ n < signalCount then some n else none
  | none =>
    let name := text.map Char.toUpper
    (List.range signalCount).find? fun n => least ≤ n && (signalName n).toList = name

/-- What a shell says about a process that a signal has killed. -/
def signalWords (n : Nat) : String :=
  match n with
  | 1 => "Hangup"
  | 3 => "Quit"
  | 4 => "Illegal instruction"
  | 5 => "Trace/breakpoint trap"
  | 6 => "Aborted"
  | 7 => "Bus error"
  | 8 => "Floating point exception"
  | 9 => "Killed"
  | 10 => "User defined signal 1"
  | 11 => "Segmentation fault"
  | 12 => "User defined signal 2"
  | 14 => "Alarm clock"
  | 15 => "Terminated"
  | 16 => "Stack fault"
  | 24 => "CPU time limit exceeded"
  | 25 => "File size limit exceeded"
  | 26 => "Virtual timer expired"
  | 27 => "Profiling timer expired"
  | 29 => "I/O possible"
  | 30 => "Power failure"
  | 31 => "Bad system call"
  | n => if 34 ≤ n then "Real-time signal " ++ shown (Octets.ofNat (n - 34)) else ""

/-- Lets a signal come to the shell. If it has a trap for it, that is done before the next
command. -/
def receive (signal : Nat) : Action Unit := do
  let m ← get
  if signal = 9 then throw (.killed 9)
  match m.shell.traps.lookup signal with
  | some [] => pure ()
  | some _ => modifyShell fun s => { s with caught := s.caught ++ [signal] }
  | none =>
    unless signal ∈ harmlessSignals ∨ signal ∈ m.process.ignored do throw (.killed signal)

/-- Lets the signals come that came to the process while it was waiting. -/
def receiveAll : Action Unit := do
  let m ← get
  unless m.signals.isEmpty do
    let own := m.signals.filter (·.1 = m.process.number)
    set { m with signals := m.signals.filter (·.1 ≠ m.process.number) }
    for (_, signal) in own do
      receive signal

/-- Says how a process ended that was waited for, if a signal has killed it and that is worth
saying. -/
def announce (e : Exit) : Action Unit := do
  match e with
  | .signal n =>
    unless n = 2 ∨ n = 13 ∨ signalWords n = "" do say 2 (signalWords n ++ "\n")
  | .code _ => pure ()

end KctlProbe.Sandbox
