import KctlProbe.Sandbox.Real
import KctlProbe.Sandbox.Shell.Starting
import KctlProbe.Sandbox.Tool.Reading

/-!
# Tools that start programs

These tools change something about their process, such as its environment or the time that it may
take, and then start a program in it.
-/

namespace KctlProbe.Sandbox.Tool

/-- The place where programs are looked for. -/
def searchPath : Action Octets :=
  return ((← getProcess).environment.lookup "PATH".toList).getD "/bin:/usr/bin".toList

/-- What the first of some paths that can be started starts. What the system cannot start otherwise
is a script for the shell. -/
def launchFrom (files : Files) (here : Nat) (name : Octets) (args : List Octets) :
    Errno → List Octets → Except Errno Launch
  | e, [] => .error e
  | e, path :: rest =>
    match files.launchAt here path name args with
    | .error .noEntry | .error .notDirectory => launchFrom files here name args e rest
    | .error .denied => launchFrom files here name args .denied rest
    | .error .noExecutable => .ok ⟨"sh", "/bin/sh".toList, path :: args⟩
    | other => other

/-- What a command starts. -/
def launchOf (name : Octets) (args : List Octets) : Action (Except Errno Launch) := do
  let m ← get
  let directories := (← searchPath).split ':'
  let paths := if '/' ∈ name then [name]
    else directories.map fun directory => Files.inDirectory directory name
  if name.isEmpty then return .error .noEntry
  return launchFrom m.world.files m.process.directory name args .noEntry paths

/-- The status of a tool that cannot start a program. -/
def failedStatus (e : Errno) : Nat :=
  if e = .noEntry then 127 else 126

/-- Starts a program in the place of the tool. If that is not possible, something is said. -/
def become {α : Type} (run : Runner) (command : List Octets) (words : String → String) : Tool α := do
  let name := command.headD []
  match ← act (launchOf name (command.drop 1)) with
  | .ok l => act do
    let e ← run.program l
    throw (.replaced e)
  | .error e => refuse (failedStatus e) (words (textInQuotes name) ++ ": " ++ e.words)

/-- What says that a command could not be run. -/
def notRun (name : String) : String :=
  "failed to run command " ++ name

/-- A name and a value, if a text is a name, an equals sign and a value. -/
def assignment? (text : Octets) : Option (Octets × Octets) :=
  let name := text.takeWhile (· ≠ '=')
  if name.length = text.length then none else some (name, text.drop (name.length + 1))

/-- Gives a variable of the environment a value. -/
def exportAs (name value : Octets) : Tool Unit :=
  act (modifyProcess fun p => { p with environment := bind name value p.environment })

/-- Writes variables of the environment. -/
def putEnvironment (ending : Char) : Tool Unit := do
  put ((← act getProcess).environment.flatMap fun (name, value) =>
    name ++ '=' :: value ++ [ending])

/-- Gives variables their values, and gives the words behind them. -/
def assignAll : List Octets → Tool (List Octets)
  | [] => return []
  | text :: rest =>
    match assignment? text with
    | some (name, value) => do
      exportAs name value
      assignAll rest
    | none => return text :: rest

/-- Changes the environment and starts a program, or writes the environment. -/
def envTool (run : Runner) (args : List Octets) : Tool Nat := do
  let g ← OptionRules.read { status := 125, ordered := true, forms := [
    plain "i" "ignore-environment", plain "0" "null", taking "u" "unset", taking "C" "chdir",
    taking "S" "split-string", plain "v" "debug"] } args
  let words := match g.text? "S" with
    | some text => (text.split ' ').filter (!·.isEmpty) ++ g.operands
    | none => g.operands
  let dashed := words.head? = some ['-']
  if g.has "i" || dashed then act (modifyProcess fun p => { p with environment := [] })
  for (key, text) in g.options do
    if key = "u" then
      let name := text.getD []
      if name.isEmpty || '=' ∈ name then
        refuse 125 ("cannot unset " ++ textInQuotes name ++ ": " ++ Errno.invalid.words)
      act (modifyProcess fun p =>
        { p with environment := p.environment.filter (·.1 ≠ name) })
  let command ← assignAll (if dashed then words.drop 1 else words)
  if command.isEmpty then
    if (g.has "C") then misused 125 "must specify command with --chdir (-C)"
    putEnvironment (if g.has "0" then '\x00' else '\n')
    return 0
  else
    if g.has "0" then misused 125 "cannot specify --null (-0) with command"
    match g.text? "C" with
    | none => pure ()
    | some path =>
      match ← act (find path) with
      | .ok i =>
        if ((← act getFiles).node i).isDirectory then
          act (modifyProcess fun p => { p with directory := i })
        else refuse 125 ("cannot change directory to " ++ nameInQuotes path ++ ": " ++
          Errno.notDirectory.words)
      | .error e =>
        refuse 125 ("cannot change directory to " ++ nameInQuotes path ++ ": " ++ e.words)
    let name := command.headD []
    match ← act (launchOf name (command.drop 1)) with
    | .error .noEntry =>
      warn (textInQuotes name ++ ": " ++ Errno.noEntry.words)
      if ' ' ∈ name then warn "use -[v]S to pass options in shebang lines"
      return 127
    | _ => become run command id

/-- Writes variables of the environment. -/
def printenvTool (args : List Octets) : Tool Nat := do
  let g ← OptionRules.read { status := 2, ordered := true, forms := [plain "0" "null"] } args
  let ending := if g.has "0" then '\x00' else '\n'
  if g.operands.isEmpty then
    putEnvironment ending
    return 0
  else
    forEach (fun name => do
      match (← act getProcess).environment.lookup name with
      | some value =>
        put (value ++ [ending])
        return 0
      | none => return 1) 0 g.operands

/-- Starts a program with another priority, or writes the priority. -/
def niceTool (run : Runner) (args : List Octets) : Tool Nat := do
  let isNumber := fun (a : Octets) =>
    match a with
    | '-' :: '-' :: c :: _ => c.isDigit
    | '-' :: '+' :: c :: _ => c.isDigit
    | '-' :: c :: _ => c.isDigit
    | _ => false
  let rest := if args.head?.any isNumber then args.drop 1 else args
  let g ← OptionRules.read { status := 125, ordered := true, forms := [taking "n" "adjustment"] } rest
  match g.text? "n" with
  | some text =>
    if (integer? 10 text).isNone then refuse 125 ("invalid adjustment " ++ textInQuotes text)
  | none => pure ()
  if g.operands.isEmpty then
    if g.has "n" then misused 125 "a command must be given with an adjustment"
    putText "0\n"
    return 0
  else become run g.operands id

/-- Starts a program that the end of a terminal does not end. -/
def nohupTool (run : Runner) (args : List Octets) : Tool Nat := do
  let g ← OptionRules.read { status := 125, ordered := true, forms := [] } args
  if g.operands.isEmpty then misused 125 "missing operand"
  act (modifyProcess fun p => { p with ignored := 1 :: p.ignored })
  become run g.operands notRun

/-- Starts a program in a session of its own. -/
def setsidTool (run : Runner) (args : List Octets) : Tool Nat := do
  let g ← OptionRules.read { ordered := true, forms := [plain "c" "ctty", plain "f" "fork",
    plain "w" "wait"] } args
  match g.operands with
  | [] => misused 1 "no command specified"
  | name :: rest =>
    match ← act (launchOf name rest) with
    | .ok l => act do
      let e ← run.program l
      throw (.replaced e)
    | .error e =>
      refuse (failedStatus e) ("failed to execute " ++ shown name ++ ": " ++ e.words)

/-- Starts a program with other buffers. -/
def stdbufTool (run : Runner) (args : List Octets) : Tool Nat := do
  let g ← OptionRules.read { status := 125, ordered := true, forms := [taking "i" "input",
    taking "o" "output", taking "e" "error"] } args
  if g.operands.isEmpty then misused 125 "missing operand"
  if g.options.isEmpty then misused 125 "you must specify a buffering mode option"
  become run g.operands notRun

/-! ## Time -/

/-- The nanoseconds that a text gives as a number of seconds, or of what a letter stands for. -/
def duration? (text : Octets) : Option Nat :=
  match Real.read? 64 text with
  | some (.finite false size, rest) =>
    let unit := match rest with
      | [] | ['s'] => some 1
      | ['m'] => some 60
      | ['h'] => some 3600
      | ['d'] => some 86400
      | _ => none
    unit.map fun u => (size.num * u * 1000000000 + size.den - 1) / size.den
  | some (.infinite false, []) => some 1000000000000000000000000
  | _ => none

/-- Waits. -/
def sleepTool (args : List Octets) : Tool Nat := do
  let g ← OptionRules.read { ordered := true, forms := [] } args
  if g.operands.isEmpty then misused 1 "missing operand"
  let durations := g.operands.map duration?
  for (text, d) in g.operands.zip durations do
    if d.isNone then warn ("invalid time interval " ++ textInQuotes text)
  if durations.any (·.isNone) then pointToHelp 1
  act (pass (durations.foldl (fun n d => n + d.getD 0) 0))
  return 0

/-- Starts a program that is ended after some time. -/
def timeoutTool (run : Runner) (args : List Octets) : Tool Nat := do
  let g ← OptionRules.read { status := 125, ordered := true, forms := [taking "k" "kill-after",
    taking "s" "signal", plain "v" "verbose", plain "" "foreground", plain "" "preserve-status"] } args
  let signal ← match g.text? "s" with
    | none => pure 15
    | some name =>
      let short := if "SIG".toList.isPrefixOf (name.map Char.toUpper) then name.drop 3 else name
      match signalNumber? 0 short with
      | some n => pure n
      | none => misused 125 (textInQuotes name ++ ": invalid signal")
  match g.operands with
  | time :: name :: rest =>
    match duration? time with
    | none => misused 125 ("invalid time interval " ++ textInQuotes time)
    | some length =>
      match ← act (launchOf name rest) with
      | .error e =>
        refuse (failedStatus e) (notRun (textInQuotes name) ++ ": " ++ e.words)
      | .ok l =>
        let stop := (← act now) + length
        let child := (← act get).lastNumber + 1
        let e ← act (inChild do
          if length ≠ 0 then
            let alarm : Alarm := { time := stop, process := child, signal, group := true }
            modify fun m => { m with alarms := alarm :: m.alarms }
          run.program l)
        let late := length ≠ 0 && !((← act get).alarms.any (·.process = child))
        act (modify fun m => { m with alarms := m.alarms.filter (·.process ≠ child) })
        if late && g.has "v" then
          warn ("sending signal " ++ signalName signal ++ " to command " ++ nameInQuotes name)
        if late && signal = 9 then act (throw (.replaced (.signal 9)))
        if late && !g.has "preserve-status" then return 124
        match e with
        | .code n => return n.toNat
        | .signal n => if late then return 128 + n else act (throw (.replaced (.signal n)))
  | _ => pointToHelp 125

end KctlProbe.Sandbox.Tool
