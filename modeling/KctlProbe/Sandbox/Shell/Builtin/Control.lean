import KctlProbe.Sandbox.Shell.Builtin.Arguments
import KctlProbe.Sandbox.Shell.Starting

/-!
# Commands of a shell that decide what is done next

The commands that leave loops, functions, scripts and the shell, that run scripts and programs in
its place, and that say what is done when a signal comes.
-/

namespace KctlProbe.Sandbox

/-- Ends the shell. -/
def exitBuiltin (args : List Octets) : Action Nat := do
  match args with
  | [] => pure ()
  | text :: _ =>
    let n ← countOf text
    modifyShell fun s => { s with finalStatus := some n }
  throw (.ended true)

/-- Leaves a function or a script that was read from a file. -/
def returnBuiltin (args : List Octets) : Action Nat := do
  match args with
  | [] =>
    modifyShell fun s => { s with skip := .back false }
    return (← getShell).status
  | text :: _ =>
    let n ← countOf text
    modifyShell fun s => { s with skip := .back true }
    return n

/-- Leaves loops, or goes on with the next round of one. -/
def loopBuiltin (skip : Nat → Skip) (args : List Octets) : Action Nat := do
  let n ← match args with
    | [] => pure 1
    | text :: _ => do
      let n ← countOf text
      if n = 0 then fail ("Illegal number: " ++ shown text) else pure n
  let levels := min n (← getShell).loops
  if 0 < levels then modifyShell fun s => { s with skip := skip levels }
  return 0

/-- Runs a script that is given by the arguments. -/
def evalBuiltin (run : Runner) (manner : Manner) (args : List Octets) : Action Nat := do
  if args.isEmpty then return 0
  runText run { tested := manner.tested } (Octets.join [' '] args)

/-- The first path at which a file to be read is. -/
def fileIn : List Octets → Action (Option Octets)
  | [] => return none
  | path :: rest => do
    match ← find path with
    | .ok i => if ((← getFiles).node i).isFile then return some path else fileIn rest
    | .error _ => fileIn rest

/-- Runs a script that is in a file. -/
def dotBuiltin (run : Runner) (args : List Octets) : Action Nat := do
  match ← noOptions args with
  | [] => return 0
  | name :: _ =>
    let path ← if '/' ∈ name then pure name else
      match ← fileIn (← programPaths name) with
      | some path => pure path
      | none => fail (shown name ++ ": not found")
    match ← openToRead path with
    | .error e => fail ("cannot open " ++ shown path ++ ": " ++ wordsToOpen e)
    | .ok i =>
      modifyShell fun s => { s with title := some path }
      runFile run i

/-- Runs a program in the place of the shell. Without one, redirections stay as they are. -/
def execBuiltin (run : Runner) (args : List Octets) : Action Nat := do
  match args with
  | [] => return 0
  | name :: args =>
    replaceShell run (← programPaths name) name args
    return 0

/-- Sets what is done when a signal comes, or lets it do again what it does without a trap. -/
def setTrap (signal : Nat) (action : Option Octets) : Action Unit := do
  let old := (← getShell).traps.lookup signal
  let others := (← getShell).traps.filter (·.1 ≠ signal)
  modifyShell fun s =>
    { s with traps := match action with
        | some a => (signal, a) :: others
        | none => others }
  unless signal = 0 do
    modifyProcess fun p =>
      let kept := signal ∈ p.ignored && old ≠ some []
      let ignored := p.ignored.filter (· ≠ signal)
      { p with ignored := if kept || action = some [] then signal :: ignored else ignored }

/-- Sets or shows what is done when signals come. -/
def trapBuiltin (args : List Octets) : Action Nat := do
  match ← noOptions args with
  | [] =>
    let traps := (← getShell).traps.mergeSort fun a b => a.1 ≤ b.1
    for (signal, action) in traps do
      holdText ("trap -- " ++ shown (singleQuoted action) ++ " " ++ signalName signal ++ "\n")
    return 0
  | first :: rest =>
    let isReset := rest.isEmpty || (Octets.toNat? first).any (· < signalCount)
    let action := if isReset || first = ['-'] then none else some first
    let rec go : List Octets → Action Nat
      | [] => return 0
      | text :: others => do
        match signalNumber? 0 text with
        | none =>
          say 2 ("trap: " ++ shown text ++ ": bad trap\n")
          return 1
        | some signal =>
          setTrap signal action
          go others
    go (if isReset then first :: rest else rest)

end KctlProbe.Sandbox
