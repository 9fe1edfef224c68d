import KctlProbe.Sandbox.Shell.Evaluation

/-!
# The shell

The shell as a program: it reads its options, takes over the variables of its environment, and runs
a script that is given as a text or a file or that it reads.
-/

namespace KctlProbe.Sandbox

open Script

/-- What the arguments of a shell say. -/
structure ShellArguments where
  /-- Whether the script is the first argument that is left. -/
  isText : Bool := false
  rest : List Octets

/-- Reads the options that letters name, and those of the shell as a program. -/
def shellLetters (isSet : Bool) (a : ShellArguments) : Octets → Action ShellArguments
  | [] => return a
  | c :: cs => do
    if c = 'c' then shellLetters isSet { a with isText := true } cs
    else if c = 'l' then shellLetters isSet a cs
    else
      let rest ← setLetters isSet [c] a.rest
      shellLetters isSet { a with rest } cs

/-- Reads the options at the start of the arguments of a shell. -/
def shellOptions : Nat → ShellArguments → Action ShellArguments
  | 0, a => return a
  | fuel + 1, a => do
    match a.rest with
    | ['-'] :: rest => return { a with rest }
    | ['-', '-'] :: rest => return { a with rest }
    | ('-' :: letters) :: rest => shellOptions fuel (← shellLetters true { a with rest } letters)
    | ('+' :: letters) :: rest => shellOptions fuel (← shellLetters false { a with rest } letters)
    | _ => return a

/-- The variables that a shell has before it looks at its environment. -/
def firstBindings (process : Process) : List (Octets × Variable) :=
  [("IFS", " \t\n".toList), ("OPTIND", ['1']), ("PATH", usualPath),
    ("PPID", Octets.ofNat process.parent), ("PS1", "$ ".toList), ("PS2", "> ".toList),
    ("PS4", "+ ".toList)].map fun (name, value) => (name.toList, { value := some value })

/-- A shell that has just been started under a name. -/
def newShell (process : Process) (name : Octets) : Shell :=
  let first := firstBindings process
  let kept : List Octets := ["IFS".toList, "OPTIND".toList, "PPID".toList]
  let bindings := process.environment.foldl (fun bs (name, value) =>
    if isName name && !kept.contains name then
      bind name ({ value := some value, exported := true } : Variable) bs
    else bs) first
  { name, bindings, number := process.number }

/-- Finds out how the shell came to its working directory, as its environment says or not. -/
def findPlace : Action Unit := do
  let process ← getProcess
  let given := (← valueOf? "PWD".toList).getD []
  let known ← match given with
    | '/' :: _ => do
      match ← find given with
      | .ok i => pure (decide (i = process.directory))
      | .error _ => pure false
    | _ => pure false
  let files ← getFiles
  let place := if known then given else files.pathOf process.directory
  modifyShell fun s => { s with place }
  setVariable "PWD".toList (some place) true false

/-- Gives the shell a name and positional parameters. -/
def nameShell (args : List Octets) : Action Unit :=
  modifyShell fun s =>
    match args with
    | name :: parameters => { s with name, parameters }
    | [] => s

/-- Runs the script that the arguments give. -/
def runShell (run : Runner) (args : List Octets) : Action Unit := do
  findPlace
  let a ← shellOptions (args.length + 1) { rest := args }
  let reads := 's' ∈ (← getShell).options
  let fromInput := do
    match ← streamOf? 0 with
    | some i =>
      let _ ← runFile run i
    | none => pure ()
  if a.isText then
    match a.rest with
    | [] => fail "-c requires an argument"
    | text :: rest =>
      nameShell rest
      let _ ← runText run { ending := !reads } text
      if reads then fromInput
  else if reads || a.rest.isEmpty then
    setOption 's' true
    modifyShell fun s => { s with parameters := a.rest }
    fromInput
  else
    let path := a.rest.headD []
    match ← openToRead path with
    | .error e => fail ("cannot open " ++ shown path ++ ": " ++ wordsToOpen e)
    | .ok i =>
      nameShell a.rest
      let _ ← runFile run i

/-- The shell as a program. -/
def shellTool (run : Runner) (l : Launch) : Action Exit := do
  modify fun m => { m with shell := newShell m.process l.name }
  untilEnd run (runShell run l.arguments)

end KctlProbe.Sandbox
