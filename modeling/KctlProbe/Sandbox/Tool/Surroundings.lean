import KctlProbe.Sandbox.Shell.Builtin.Job
import KctlProbe.Sandbox.Tool.Starting

/-!
# Tools that ask the system

The tools that say where a process is, who its user is and what the system is, and that send signals.
The user of a sandbox has a number and no name.
-/

namespace KctlProbe.Sandbox.Tool

/-- The number of the user of a sandbox. -/
def userNumber : String := "12345"

/-- Complains about operands where none belong. -/
def noOperands (status : Nat) (g : Given) : Tool Unit := do
  match g.operands with
  | [] => pure ()
  | operand :: _ => misused status ("extra operand " ++ textInQuotes operand)

/-- Writes the path of the working directory. -/
def pwdTool (args : List Octets) : Tool Nat := do
  let g ← OptionRules.read { forms := [plain "L" "logical", plain "P" "physical"] } args
  unless g.operands.isEmpty do warn "ignoring non-option arguments"
  let process ← act getProcess
  let physical := (← act getFiles).pathOf process.directory
  let path ← if g.last? ["L", "P"] = some "L" then
      match process.environment.lookup "PWD".toList with
      | some ('/' :: given) => do
        match ← act (find ('/' :: given)) with
        | .ok i => pure (if i = process.directory then '/' :: given else physical)
        | .error _ => pure physical
      | _ => pure physical
    else pure physical
  put (path ++ ['\n'])
  return 0

/-- Writes the numbers of the user and of the groups. -/
def idTool (args : List Octets) : Tool Nat := do
  let g ← OptionRules.read { forms := [plain "u" "user", plain "g" "group", plain "G" "groups",
    plain "n" "name", plain "r" "real", plain "z" "zero", plain "a" "", plain "Z" "context"] } args
  if g.has "Z" then refuse 1 "--context (-Z) works only on an SELinux-enabled kernel"
  match g.operands with
  | name :: _ =>
    if name = "root".toList then
      let text := if g.has "n" then "root" else "0"
      putText (if g.has "u" || g.has "g" || g.has "G" then text ++ "\n"
        else "uid=0(root) gid=0(root) groups=0(root)\n")
      return 0
    else
      warn (textInQuotes name ++ ": no such user")
      return 1
  | [] =>
    match g.last? ["u", "g", "G"] with
    | some key =>
      if g.has "n" then
        warn ("cannot find name for " ++ (if key = "u" then "user" else "group") ++ " ID " ++ userNumber)
      putText (userNumber ++ "\n")
      return if g.has "n" then 1 else 0
    | none =>
      if g.has "n" || g.has "r" then refuse 1 "printing only names or real IDs requires -u, -g, or -G"
      putText ("uid=" ++ userNumber ++ " gid=" ++ userNumber ++ " groups=" ++ userNumber ++ "\n")
      return 0

/-- Would write the name of the user. -/
def whoamiTool (args : List Octets) : Tool Nat := do
  let g ← OptionRules.read { forms := [] } args
  noOperands 1 g
  refuse 1 ("cannot find name for user ID " ++ userNumber)

/-- Would write the names of the groups. -/
def groupsTool (args : List Octets) : Tool Nat := do
  let g ← OptionRules.read { forms := [] } args
  match g.operands with
  | name :: _ => refuse 1 (textInQuotes name ++ ": no such user")
  | [] =>
    warn ("cannot find name for group ID " ++ userNumber)
    putText (userNumber ++ "\n")
    return 1

/-- Would write the name under which the user logged in. -/
def lognameTool (args : List Octets) : Tool Nat := do
  let g ← OptionRules.read { forms := [] } args
  noOperands 1 g
  refuse 1 "no login name"

/-- Says which terminal the input is, which is none. -/
def ttyTool (args : List Octets) : Tool Nat := do
  let g ← OptionRules.read { status := 2, forms := [plain "s" "silent", plain "s" "quiet"] } args
  noOperands 2 g
  unless g.has "s" do putText "not a tty\n"
  return 1

/-- Writes what the system is. -/
def unameTool (args : List Octets) : Tool Nat := do
  let g ← OptionRules.read { forms := [plain "s" "kernel-name", plain "m" "machine",
    plain "o" "operating-system", plain "p" "processor", plain "i" "hardware-platform"] } args
  noOperands 1 g
  let parts := [("s", "Linux"), ("m", "x86_64"), ("p", "x86_64"), ("i", "x86_64"),
    ("o", "GNU/Linux")].filter fun (key, _) => g.has key || (key == "s" && g.options.isEmpty)
  putText (" ".intercalate (parts.map (·.2)) ++ "\n")
  return 0

/-- Writes the kind of processor. -/
def archTool (args : List Octets) : Tool Nat := do
  let g ← OptionRules.read { forms := [] } args
  noOperands 1 g
  putText "x86_64\n"
  return 0

/-- Waits until everything is stored, which it is. -/
def syncTool (args : List Octets) : Tool Nat := do
  let g ← OptionRules.read { forms := [plain "d" "data", plain "f" "file-system"] } args
  forEach (fun path => do
    match ← act (openToRead path) with
    | .ok _ => return 0
    | .error e =>
      warn ("error opening " ++ nameInQuotes path ++ ": " ++ e.words)
      return 1) 0 g.operands

/-- Writes the paths of programs. -/
def whichTool (args : List Octets) : Tool Nat := do
  let g ← OptionRules.read { status := 2, ordered := true, forms := [plain "a" "", plain "s" ""] } args
  let m ← act get
  let directories := (← act searchPath).split ':'
  let isProgram := fun (path : Octets) =>
    match m.world.files.find m.process.directory path true with
    | .ok i =>
      let n := m.world.files.node i
      n.isFile && n.allows 1
    | .error _ => false
  if g.operands.isEmpty then return 1
  forEach (fun name => do
    let paths := if '/' ∈ name then [name]
      else directories.map fun d => (if d.isEmpty then ['.'] else d) ++ '/' :: name
    let found := paths.filter isProgram
    unless g.has "s" do
      put ((if g.has "a" then found else found.take 1).flatMap fun path => path ++ ['\n'])
    return if found.isEmpty then 1 else 0) 0 g.operands

/-- Makes a file with a new name. -/
def mktempTool (args : List Octets) : Tool Nat := do
  let g ← OptionRules.read { forms := [plain "d" "directory", plain "u" "dry-run", plain "q" "quiet",
    taking "p" "tmpdir", taking "" "suffix", plain "t" ""] } args
  let template := g.operands.headD "tmp.XXXXXXXXXX".toList
  match g.operands with
  | _ :: _ :: _ => misused 1 "too many templates"
  | _ => pure ()
  let suffix := (g.text? "suffix").getD []
  let crosses := (template.reverse.takeWhile (· = 'X')).length
  if crosses < 3 then refuse 1 ("too few X's in template " ++ textInQuotes template)
  let inTemporary := g.operands.isEmpty || g.has "t" || g.has "p"
  let process ← act getProcess
  let directory := match g.text? "p" with
    | some path => path
    | none => (process.environment.lookup "TMPDIR".toList).getD "/tmp".toList
  let stem := template.take (template.length - crosses)
  let front := if inTemporary then directory ++ '/' :: stem else stem
  iterate (fun (n : Nat) => do
    let digits := Octets.ofNat n
    let path := front ++ List.replicate (crosses - digits.length) 'a' ++
      digits.drop (digits.length - crosses) ++ suffix
    let made ← if g.has "u" then pure (.ok ())
      else if g.has "d" then act (makeDirectory path 0o700)
      else do
        let how : Opener := { writes := true, creates := true, exclusive := true, mode := 0o600 }
        match ← act (openFileAt path how) with
        | .ok _ => pure (.ok ())
        | .error e => pure (.error e)
    match made with
    | .ok () =>
      put (path ++ ['\n'])
      return .inr 0
    | .error .alreadyExists => return .inl (n + 1)
    | .error e =>
      unless g.has "q" do
        warn ("failed to create " ++ (if g.has "d" then "directory" else "file") ++
          " via template " ++ textInQuotes (front ++ List.replicate crosses 'X' ++ suffix) ++ ": " ++
          e.words)
      return .inr 1) 1000000 (← act get).lastNumber

/-! ## Signals -/

/-- How `kill` is used. -/
def killToolUsage : String :=
  "\nUsage:\n kill [options] <pid> [...]\n\nOptions:\n" ++
  " <pid> [...]            send signal to every <pid> listed\n" ++
  " -<signal>, -s, --signal <signal>\n" ++
  "                        specify the <signal> to be sent\n" ++
  " -q, --queue <value>    integer value to be sent with the signal\n" ++
  " -l, --list=[<signal>]  list all signal names, or convert one to a name\n" ++
  " -L, --table            list all signal names in a nice table\n\n" ++
  " -h, --help     display this help and exit\n" ++
  " -V, --version  output version information and exit\n\n" ++
  "For more details see kill(1).\n"

/-- The signal that a text names, perhaps with `SIG` in front. -/
def signalOf? (text : Octets) : Option Nat :=
  let short := if "SIG".toList.isPrefixOf (text.map Char.toUpper) then text.drop 3 else text
  if short = ['0'] then some 0 else signalNumber? 1 short

/-- Sends a signal to processes. -/
def killTool (args : List Octets) : Tool Nat := do
  let send := fun (signal : Nat) (targets : List Octets) => do
    if targets.isEmpty then
      say killToolUsage
      quit 1
    forEach (fun text => do
      match Octets.toInt? text with
      | none =>
        warn ("failed to parse argument: '" ++ shown text ++ "'")
        return 1
      | some target =>
        match ← act (signalProcess target signal) with
        | none => return 0
        | some e =>
          warn ("(" ++ shown text ++ "): " ++ e.words)
          return 1) 0 targets
  match args with
  | [] =>
    say killToolUsage
    return 1
  | ['-', 'h'] :: _ =>
    putText killToolUsage
    return 0
  | ['-', 'l'] :: name :: _ =>
    match Octets.toNat? name with
    | some n => putText (signalName n ++ "\n")
    | none => putText (shown (Octets.ofNat ((signalOf? name).getD 0)) ++ "\n")
    return 0
  | ['-', 'l'] :: [] =>
    putText ("HUP INT QUIT ILL TRAP ABRT BUS FPE KILL USR1 SEGV USR2 PIPE ALRM TERM STKFLT\n" ++
      "CHLD CONT STOP TSTP TTIN TTOU URG XCPU XFSZ VTALRM PROF WINCH POLL PWR SYS\n")
    return 0
  | ['-', 's'] :: name :: targets =>
    match signalOf? name with
    | some signal => send signal targets
    | none =>
      forEach (fun text => do
        warn ("(" ++ shown text ++ "): " ++ Errno.invalid.words)
        return 1) 0 targets
  | ['-', '-'] :: targets => send 15 targets
  | ('-' :: name) :: targets =>
    match signalOf? name with
    | some signal => send signal targets
    | none =>
      warn ("invalid argument " ++ shown name)
      say killToolUsage
      return 1
  | targets => send 15 targets

end KctlProbe.Sandbox.Tool
