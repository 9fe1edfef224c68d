import KctlProbe.Sandbox.Shell.Builtin.Arguments
import KctlProbe.Sandbox.Shell.Starting
import KctlProbe.Sandbox.Script.Reader

/-!
# Commands of a shell about commands

The commands that tell what a name stands for, and where programs were found.
-/

namespace KctlProbe.Sandbox

/-- Tells what a name stands for, in a sentence if `verbose` holds. -/
def describeName (path : Option Octets) (verbose : Bool) (name : Octets) : Action Nat := do
  let tell := fun (sentence brief : String) =>
    holdText ((if verbose then shown name ++ sentence else brief) ++ "\n")
  let text := shown name
  if text ∈ Script.reservedWords then
    tell " is a shell keyword" text
    return 0
  match (← getShell).aliases.lookup name with
  | some value =>
    tell (" is an alias for " ++ shown value)
      ("alias " ++ text ++ "=" ++ shown (singleQuoted value))
    return 0
  | none =>
    match ← meaningOf name with
    | .function _ _ =>
      tell " is a shell function" text
      return 0
    | .builtin _ special =>
      tell (if special then " is a special shell builtin" else " is a shell builtin") text
      return 0
    | .program =>
      let known := (← getShell).found.lookup name
      let paths ← match path with
        | some p => pure ((p.split ':').map fun directory => Files.inDirectory directory name)
        | none => programPaths name
      let m ← get
      let place ← if '/' ∈ name then do pure ((← find name).map fun _ => name)
        else pure (findProgram m.world.files m.process.directory .noEntry paths)
      match place with
      | .ok path =>
        tell ((if known.isSome then " is a tracked alias for " else " is ") ++ shown path)
          (shown path)
        return 0
      | .error _ =>
        if verbose then holdText (text ++ ": not found\n")
        return 127

/-- Tells what names stand for. -/
def typeBuiltin (args : List Octets) : Action Nat := do
  let statuses ← (← noOptions args).mapM (describeName none true)
  return statuses.foldl (· ||| ·) 0

/-- Tells what a name stands for, as the options say. -/
def commandBuiltin (args : List Octets) : Action Nat := do
  let (letters, args) ← options [('p', false), ('v', false), ('V', false)] args
  let has := fun c => letters.any (·.1 = c)
  match args with
  | name :: _ =>
    if has 'v' || has 'V' then
      describeName (if has 'p' then some usualPath else none) (has 'V') name
    else return 0
  | [] => return 0

/-- Looks for a program, and remembers where it was. -/
def remember (name : Octets) : Action Nat := do
  match ← meaningOf name with
  | .program =>
    match ← pathOfProgram name with
    | .ok path =>
      unless '/' ∈ name do
        modifyShell fun s => { s with found := bind name path s.found }
      return 0
    | .error e =>
      warn (shown name ++ ": " ++ wordsToStart e)
      return 1
  | _ => return 0

/-- Shows where programs were found, or looks for some. -/
def hashBuiltin (args : List Octets) : Action Nat := do
  let (letters, names) ← options [('r', false)] args
  if !letters.isEmpty then
    modifyShell fun s => { s with found := [] }
    return 0
  else if names.isEmpty then
    for (_, path) in inTableOrder (← getShell).found do
      hold (path ++ ['\n'])
    return 0
  else
    let statuses ← names.mapM remember
    return statuses.foldl max 0

/-- Shows or sets a limit. None of them is reached here. -/
def ulimitBuiltin (args : List Octets) : Action Nat := do
  let letters := "HSatfdscmlpnvwr".toList.map fun c => (c, false)
  let (_, args) ← options letters args
  match args with
  | [] => holdText "unlimited\n"
  | [text] =>
    if text ≠ "unlimited".toList && (Octets.toNat? text).isNone then fail "bad number"
  | _ => fail "too many arguments"
  return 0

/-- Shows for how long the shell and its programs have used the processor. -/
def timesBuiltin : Action Nat := do
  holdText "0m0.000000s 0m0.000000s\n0m0.000000s 0m0.000000s\n"
  return 0

end KctlProbe.Sandbox
