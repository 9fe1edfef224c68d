import KctlProbe.Sandbox.Shell.Running

/-!
# Starting programs from a shell

A command that the shell does not do itself is a program, which is looked for where `PATH` says. It
runs in a process of its own, or takes the place of a shell that ends with it.
-/

namespace KctlProbe.Sandbox

open Script

/-- The commands that the shell does itself, and whether a failure of them ends it. -/
def builtins : List (String × Bool) :=
  [(".", true), (":", true), ("[", false), ("alias", false), ("bg", false), ("break", true),
    ("cd", false), ("chdir", false), ("command", false), ("continue", true), ("echo", false),
    ("eval", true), ("exec", true), ("exit", true), ("export", true), ("false", false),
    ("fg", false), ("getopts", false), ("hash", false), ("jobs", false), ("kill", false),
    ("local", true), ("printf", false), ("pwd", false), ("read", false), ("readonly", true),
    ("return", true), ("set", true), ("shift", true), ("test", false), ("times", true),
    ("trap", true), ("true", false), ("type", false), ("ulimit", false), ("umask", false),
    ("unalias", false), ("unset", true), ("wait", false)]

/-- What a name stands for in a command. -/
inductive Meaning where
  | function (line : Nat) (body : Command)
  | builtin (name : String) (special : Bool)
  | program

/-- What a name stands for. -/
def meaningOf (name : Octets) : Action Meaning := do
  let s ← getShell
  match builtins.find? (·.1.toList = name) with
  | some (builtin, true) => return .builtin builtin true
  | known =>
    match s.functions.lookup name with
    | some (line, body) => return .function line body
    | none =>
      match known with
      | some (builtin, special) => return .builtin builtin special
      | none => return .program

/-- The paths at which a program can be. -/
def programPaths (name : Octets) : Action (List Octets) := do
  if '/' ∈ name then return [name]
  let path := (← valueOf? "PATH".toList).getD []
  return (path.split ':').map fun directory => Files.inDirectory directory name

/-- The first path at which a program is, or why there is none. -/
def findProgram (files : Files) (here : Nat) : Errno → List Octets → Except Errno Octets
  | e, [] => .error e
  | e, path :: rest =>
    match files.find here path true with
    | .error .noEntry | .error .notDirectory => findProgram files here e rest
    | .error e => findProgram files here e rest
    | .ok i =>
      let n := files.node i
      if n.isFile && n.allows 1 then .ok path
      else findProgram files here (if n.isFile then .denied else e) rest

/-- The path of the program with a name. -/
def pathOfProgram (name : Octets) : Action (Except Errno Octets) := do
  if '/' ∈ name then return .ok name
  let m ← get
  return findProgram m.world.files m.process.directory .noEntry (← programPaths name)

/-- What one of some paths starts. What the system cannot start otherwise is a script for the
shell. -/
def launchProgram (files : Files) (here : Nat) (name : Octets) (args : List Octets) :
    Errno → List Octets → Except Errno Launch
  | e, [] => .error e
  | e, path :: rest =>
    match files.launchAt here path name args with
    | .ok l => .ok l
    | .error .noExecutable => .ok ⟨"sh", "/bin/sh".toList, path :: args⟩
    | .error .noEntry | .error .notDirectory => launchProgram files here name args e rest
    | .error e => launchProgram files here name args e rest

/-- The exit status of a shell that cannot start a program. -/
def startStatus (e : Errno) : Nat :=
  match e with
  | .linkLoop | .nameTooLong | .noEntry | .notDirectory => 127
  | _ => 126

/-- Starts a program, which can be at some paths, in the place of the shell, or says why that is not
possible. -/
def startInPlace (run : Runner) (paths : List Octets) (name : Octets) (args : List Octets) :
    Action (Option Exit) := do
  let env ← environment
  modifyProcess fun p => { p with environment := env }
  let m ← get
  match launchProgram m.world.files m.process.directory name args .noEntry paths with
  | .ok launch => return some (← run.program launch)
  | .error e =>
    setStatus (startStatus e)
    warn (shown name ++ ": " ++ wordsToStart e)
    return none

/-- Takes the place of the shell. -/
def replaceShell (run : Runner) (paths : List Octets) (name : Octets) (args : List Octets) :
    Action Unit := do
  match ← startInPlace run paths name args with
  | some e => throw (.replaced e)
  | none => throw (.ended false)

/-- Whether the shell has something to do for signals or at its end. -/
def hasTraps : Action Bool :=
  return (← getShell).traps.any fun t => !t.2.isEmpty

/-- Runs a program and waits until it ends. -/
def runProgram (run : Runner) (manner : Manner) (paths : List Octets) (name : Octets)
    (args : List Octets) : Action Nat := do
  if manner.ending && !(← hasTraps) then
    replaceShell run paths name args
    return 0
  else
    let e ← inChild do
      match ← startInPlace run paths name args with
      | some e => return e
      | none => return .code (UInt8.ofNat (← getShell).status)
    announce e
    return statusOf e

/-- Sets the clock. -/
def setClock (time : Nat) : Action Unit :=
  modify fun m => { m with world := { m.world with clock := time } }

/-- Runs a command that was started in the background until it ends. The clock then shows when that
was. -/
def runSleeper (run : Runner) (s : Sleeper) : Action Exit := do
  let before ← get
  set { before with
    world := { before.world with clock := s.started }
    process := s.process
    shell := s.shell
    sleepers := before.sleepers.filter (·.process.number ≠ s.process.number)
    waiting := [] }
  let back := modify fun (m : Machine) =>
    { m with process := before.process, shell := before.shell, waiting := before.waiting }
  let e ← tryCatch (untilEnd run do
      applyOpenings (captureOutput run) s.openings
      let _ ← run.command s.body { ending := true }) fun stop => do
    back
    throw stop
  back
  modify fun m => { m with finished := m.finished ++ [(s.process.number, e)] }
  return e

/-- Runs the sleepers that have ended by now, one after the other. Those that have not are left as
they are. -/
def settleAll (run : Runner) : List Sleeper → Action Unit
  | [] => pure ()
  | s :: rest => do
    let before ← get
    let ended ← tryCatch (do
      let _ ← runSleeper run s
      return decide ((← now) ≤ before.world.clock)) fun _ => return false
    if ended then setClock before.world.clock else set before
    settleAll run rest

/-- Runs the sleepers that have ended since that was last seen. -/
def settle (run : Runner) : Action Unit := do
  let m ← get
  unless m.sleepers.isEmpty || m.settled = m.world.clock do
    set { m with settled := m.world.clock }
    settleAll run m.sleepers

/-- Waits until a process ends that was started in the background. -/
def await (run : Runner) (number : Nat) : Action (Option Exit) := do
  let m ← get
  match m.sleepers.find? (·.process.number = number) with
  | some s =>
    let e ← runSleeper run s
    setClock (max m.world.clock (← now))
    return some e
  | none => return m.finished.lookup number

/-- Starts a command in the background. -/
def startSleeper (body : Command) (openings : List Opening) : Action Unit := do
  let m ← get
  let number := m.lastNumber + 1
  let null ← newStream (.device .null)
  let process := { m.process with
    number
    parent := m.process.number
    ignored := 2 :: 3 :: m.process.ignored
    descriptors := (0, null) :: m.process.descriptors.filter (·.1 ≠ 0) }
  let sleeper : Sleeper :=
    { process, shell := m.shell.forked body, body, openings, started := m.world.clock }
  modify fun m => { m with
    lastNumber := number
    sleepers := m.sleepers ++ [sleeper]
    shell := { m.shell with background := some number, jobs := m.shell.jobs ++ [number] } }

/-- Sends a signal to a process that was started in the background. One that did not do anything yet
is killed; others go on until the signal comes. -/
def signalSleeper (s : Sleeper) (signal : Nat) : Action Unit := do
  let m ← get
  unless signal ∈ harmlessSignals ∨ signal ∈ s.process.ignored do
    if s.started = m.world.clock then
      let others := m.sleepers.filter (·.process.number ≠ s.process.number)
      set { m with
        sleepers := others, finished := m.finished ++ [(s.process.number, Exit.signal signal)] }
    else
      let alarm : Alarm := { time := m.world.clock, process := s.process.number, signal }
      set { m with alarms := alarm :: m.alarms }

end KctlProbe.Sandbox
