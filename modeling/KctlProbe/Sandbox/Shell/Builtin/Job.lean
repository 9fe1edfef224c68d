import KctlProbe.Sandbox.Shell.Builtin.Arguments
import KctlProbe.Sandbox.Shell.Starting

/-!
# Commands of a shell for processes

The commands that send signals, wait for commands in the background, and list them. Such commands
are numbered in the order in which they were started.
-/

namespace KctlProbe.Sandbox

/-- A command in the background that an argument names by a percent sign and its number. -/
def jobOf (text : Octets) : Action Nat := do
  let jobs := (← getShell).jobs
  let number := text.drop 1
  let found :=
    if number = [] ∨ number = ['%'] ∨ number = ['+'] then jobs.getLast?
    else if number = ['-'] then jobs.reverse[1]?
    else
      match Octets.toNat? number with
      | some n => if n = 0 then none else jobs[n - 1]?
      | none => none
  match found with
  | some n => return n
  | none => fail ("No such job: " ++ shown text)

/-- Sends a signal to a process, or says why that is not possible. -/
def signalProcess (target : Int) (signal : Nat) : Action (Option Errno) := do
  let m ← get
  match target with
  | .negSucc _ => return some .noProcess
  | .ofNat n =>
    if n = m.process.number then
      receive signal
      return none
    else if n ∈ m.waiting then
      unless signal = 0 do set { m with signals := m.signals ++ [(n, signal)] }
      return none
    else
      match m.sleepers.find? (·.process.number = n) with
      | some s =>
        signalSleeper s signal
        return none
      | none =>
        if n ∈ m.shell.jobs && (m.finished.lookup n).isSome then return none
        else if n = 1 then return some .notPermitted
        else return some .noProcess

/-- How `kill` is to be used. -/
def killUsage : String :=
  "Usage: kill [-s sigspec | -signum | -sigspec] [pid | job]... or\nkill -l [exitstatus]"

/-- Lists the names of signals, or the one that ended a process with a status. -/
def listSignals (args : List Octets) : Action Nat := do
  match args with
  | [] =>
    holdText "0\n"
    for n in (List.range signalCount).drop 1 do
      holdText (signalName n ++ "\n")
    return 0
  | text :: _ =>
    let n ← countOf text
    let n := if 128 < n then n - 128 else n
    if n = 0 ∨ signalCount ≤ n then
      fail ("invalid signal number or exit status: " ++ shown text)
    holdText (signalName n ++ "\n")
    return 0

/-- Sends a signal to each of some processes. -/
def killAll (signal : Nat) : Nat → List Octets → Action Nat
  | status, [] => return status
  | status, text :: rest => do
    let target : Int ← match text with
      | '%' :: _ => do pure (-((← jobOf text) : Int))
      | '-' :: digits => do pure (-((← countOf digits) : Int))
      | digits => do pure ((← countOf digits) : Int)
    match ← signalProcess target signal with
    | none => killAll signal status rest
    | some e =>
      warn (e.words ++ "\n")
      killAll signal 1 rest

/-- Sends a signal to processes. -/
def killBuiltin (args : List Octets) : Action Nat := do
  let given := match args with
    | ('-' :: name) :: _ => signalNumber? 1 name
    | _ => none
  let zero := match args with
    | ('-' :: name) :: _ => Octets.toNat? name = some 0
    | _ => false
  if zero || given.isSome then
    let targets := args.drop 1
    if targets.isEmpty then fail killUsage
    killAll (given.getD 0) 0 targets
  else
    let (letters, targets) ← options [('l', false), ('s', true)] args
    if letters.any (·.1 = 'l') then listSignals targets
    else
      let signal ← match letters.getLast? with
        | none => pure 15
        | some (_, name) =>
          match signalNumber? 1 name, Octets.toNat? name with
          | some n, _ => pure n
          | none, some 0 => pure 0
          | _, _ => fail ("invalid signal number or name: " ++ shown name)
      if targets.isEmpty then fail killUsage
      killAll signal 0 targets

/-- Waits for all commands in the background. -/
def awaitAll (run : Runner) : List Nat → Action Unit
  | [] => pure ()
  | number :: rest => do
    let _ ← await run number
    awaitAll run rest

/-- Waits for some commands in the background, and gives the status of the last one that there is. -/
def awaitEach (run : Runner) : Nat → List Octets → Action Nat
  | status, [] => return status
  | status, text :: rest => do
    let number ← match text with
      | '%' :: _ => jobOf text
      | digits => countOf digits
    let first := (← get).sleepers.any (·.process.number = number)
    if number ∈ (← getShell).jobs then
      match ← await run number with
      | some e =>
        if first then announce e
        awaitEach run (statusOf e) rest
      | none => awaitEach run status rest
    else awaitEach run status rest

/-- Waits for commands in the background. -/
def waitBuiltin (run : Runner) (args : List Octets) : Action Nat := do
  match ← noOptions args with
  | [] =>
    awaitAll run (← getShell).jobs
    return 0
  | args => awaitEach run 127 args

/-- How a command in the background is doing. -/
def jobState (number : Nat) : Action (String × Bool) := do
  match (← get).finished.lookup number with
  | none => return ("Running", false)
  | some (.code n) =>
    return (if n = 0 then "Done" else "Done(" ++ shown (Octets.ofNat n.toNat) ++ ")", true)
  | some (.signal n) => return (signalWords n, true)

/-- Lists the commands in the background. Those that have ended are listed once. -/
def jobsBuiltin (run : Runner) (args : List Octets) : Action Nat := do
  let (letters, _) ← options [('l', false), ('p', false)] args
  settle run
  let jobs := (← getShell).jobs
  let entries := (jobs.filter (· ≠ 0)).reverse
  for (number, i) in jobs.zipIdx.reverse do
    if number ≠ 0 then
      let (state, _) ← jobState number
      let mark := if entries[0]? = some number then "+" else if entries[1]? = some number then "-" else " "
      let start := "[" ++ shown (Octets.ofNat (i + 1)) ++ "] " ++ mark ++ " " ++
        (if letters.any (·.1 = 'l') then shown (Octets.ofNat number) ++ " " else "") ++ state
      if letters.any (·.1 = 'p') then holdText (shown (Octets.ofNat number) ++ "\n")
      else holdText (start ++ String.ofList (List.replicate (33 - start.length) ' ') ++ "\n")
  let m ← get
  let ended := fun (n : Nat) => (m.finished.lookup n).isSome
  modifyShell fun s =>
    { s with jobs := ((s.jobs.map fun n => if ended n then 0 else n).reverse.dropWhile (· = 0)).reverse }
  return 0

/-- Goes on with a command, which needs a terminal. -/
def continueBuiltin (args : List Octets) : Action Nat := do
  let args ← noOptions args
  if (← getShell).jobs.isEmpty && args.isEmpty then fail "No current job"
  let text := args.headD "(null)".toList
  if !args.isEmpty then let _ ← jobOf text
  fail ("job " ++ shown text ++ " not created under job control")

end KctlProbe.Sandbox
