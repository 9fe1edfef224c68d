import KctlProbe.Sandbox.Shell.Builtin.Arguments
import KctlProbe.Sandbox.Permissions

/-!
# Commands of a shell for where and how it works

The commands for its working directory and for the permissions of the files that it makes. A shell
remembers by which names it came to its directory, so the way back through a link leads to where the
link is.
-/

namespace KctlProbe.Sandbox

/-- Whether the options of `cd` and `pwd` ask for the way without links. -/
def isPhysical (letters : List (Char × Octets)) : Bool :=
  (letters.getLast?.map (·.1)) = some 'P'

/-- The path that is meant by a path from another one, with its dots followed. -/
def pathFrom (place path : Octets) : Octets :=
  let absolute := path.head? = some '/'
  let start : List Octets := if absolute then [] else (place.split '/').reverse
  let names := (path.split '/').foldl (fun (names : List Octets) name =>
    if name = ['.', '.'] then names.drop 1
    else if name = [] ∨ name = ['.'] then names
    else name :: names) (start.filter (!·.isEmpty))
  let doubled := if absolute then path.takeWhile (· = '/') = ['/', '/'] else
    place.takeWhile (· = '/') = ['/', '/']
  (if doubled then ['/', '/'] else ['/']) ++ Octets.join ['/'] names.reverse

/-- Gives an exported variable a value. -/
def assignExported (name : String) (value : Octets) : Action Unit :=
  setVariable name.toList (some value) true false

/-- Makes a directory the working directory, and says whether that was possible. -/
def enterDirectory (path : Octets) (physical : Bool) : Action Bool := do
  let place := (← getShell).place
  let target := if physical then path else pathFrom place path
  match ← find target with
  | .error _ => return false
  | .ok i =>
    let files ← getFiles
    let n := files.node i
    if n.isDirectory && n.allows 1 then
      modifyProcess fun p => { p with directory := i }
      assignExported "OLDPWD" place
      let place := if physical then files.pathOf i else target
      modifyShell fun s => { s with place }
      assignExported "PWD" place
      return true
    else return false

/-- Whether a path starts with a name for the directory itself or the one around it. -/
def startsWithDots (path : Octets) : Bool :=
  match path.split '/' with
  | first :: _ => first = ['.'] || first = ['.', '.']
  | [] => false

/-- Whether a path leads to a directory. -/
def leadsToDirectory (path : Octets) : Action Bool := do
  match ← find path with
  | .ok i => return ((← getFiles).node i).isDirectory
  | .error _ => return false

/-- The first path of a directory that another path leads to from some directories, and whether it
is to be shown. -/
def directoryIn (path : Octets) : List Octets → Action (Option (Octets × Bool))
  | [] => return none
  | directory :: rest => do
    let full := if directory.isEmpty then path else directory ++ '/' :: path
    if ← leadsToDirectory full then return some (full, !directory.isEmpty)
    else directoryIn path rest

/-- Changes the working directory. -/
def cdBuiltin (args : List Octets) : Action Nat := do
  let (letters, args) ← options [('L', false), ('P', false)] args
  let (path, shows) ← match args with
    | [] => do pure ((← valueOf? "HOME".toList).getD [], false)
    | ['-'] :: _ => do pure ((← valueOf? "OLDPWD".toList).getD [], true)
    | path :: _ => pure (path, false)
  let path' := if path.isEmpty then ['.'] else path
  let found ←
    if path.head? = some '/' ∨ startsWithDots path then pure none
    else directoryIn path' (((← valueOf? "CDPATH".toList).getD []).split ':')
  let (target, alsoShows) := found.getD (path', false)
  if !(← enterDirectory target (isPhysical letters)) then fail ("can't cd to " ++ shown path)
  if shows || alsoShows then hold ((← getShell).place ++ ['\n'])
  return 0

/-- Writes the working directory. -/
def pwdBuiltin (args : List Octets) : Action Nat := do
  let (letters, _) ← options [('L', false), ('P', false)] args
  if isPhysical letters then hold ((← getFiles).pathOf (← getProcess).directory ++ ['\n'])
  else hold ((← getShell).place ++ ['\n'])
  return 0

/-- Shows or sets the permissions that new files do not get. -/
def umaskBuiltin (args : List Octets) : Action Nat := do
  let (letters, args) ← options [('S', false)] args
  let mask := (← getProcess).mask
  match args with
  | [] =>
    if letters.isEmpty then
      let digits := Nat.toDigits 8 mask
      hold (List.replicate (4 - digits.length) '0' ++ digits ++ ['\n'])
    else
      let granted := permissionLetters (0o777 ^^^ mask)
      let three := fun n => shown (((granted.drop n).take 3).filter (· ≠ '-'))
      holdText ("u=" ++ three 0 ++ ",g=" ++ three 3 ++ ",o=" ++ three 6 ++ "\n")
  | text :: _ =>
    let set := fun mask => modifyProcess fun p => { p with mask := mask &&& 0o777 }
    if (text.head?.map Char.isDigit) = some true then
      match Octets.ofOctal? text with
      | some n => set n
      | none => fail ("Illegal number: " ++ shown text)
    else unless text.isEmpty do
      match PermissionChange.clauses (text.length + 1) text with
      | some changes =>
        set (0o777 ^^^ (PermissionChange.applyAll mask false changes (0o777 ^^^ mask) &&& 0o777))
      | none => fail ("Illegal mode: " ++ shown text)
  return 0

end KctlProbe.Sandbox
