import KctlProbe.Sandbox.Files

/-!
# Starting programs

What the system does when a program is to be started: the program is found, its file must be
executable, and a script is handed to the interpreter that its first line names. In the end one of
the system's own tools runs, or the system refuses.
-/

namespace KctlProbe.Sandbox

/-- A tool and what it is started with. -/
structure Launch where
  tool : String
  /-- The name that the tool is given for itself. -/
  name : Octets
  arguments : List Octets
  deriving DecidableEq, Repr

/-- The greatest length of an argument, with the byte that ends it. -/
def argumentLimit : Nat := 131072

/-- The greatest length of all arguments together, each with the byte that ends it and the place
where its address is kept. -/
def argumentsLimit : Nat := 2097152

/-- Whether a program's name and arguments are too long to be started. -/
def tooLong (tokens : List Octets) : Bool :=
  tokens.any (fun a => argumentLimit < a.length + 1) ||
    argumentsLimit < tokens.foldl (fun n a => n + a.length + 9) 0

/-- The interpreter that the first line of a script names, and the argument for it. -/
def interpreter? (data : Octets) : Option (Octets × Option Octets) :=
  match data with
  | '#' :: '!' :: rest =>
    let blank := fun (c : Char) => c == ' ' || c == '\t'
    let line := ((rest.takeWhile (· ≠ '\n')).dropWhile blank).reverse.dropWhile blank |>.reverse
    let path := line.takeWhile fun c => !blank c
    let argument := (line.dropWhile fun c => !blank c).dropWhile blank
    some (path, if argument.isEmpty then none else some argument)
  | _ => none

/-- The directories in which a program is looked for, if nothing else is said. -/
def usualPath : Octets :=
  "/usr/local/sbin:/usr/local/bin:/usr/sbin:/usr/bin:/sbin:/bin".toList

namespace Files

/-- What the file at a path starts, with scripts for interpreters in at most `depth` steps. -/
def launchFile (files : Files) (here : Nat) :
    Nat → Octets → Octets → List Octets → Except Errno Launch
  | 0, _, _, _ => .error .linkLoop
  | depth + 1, path, name, arguments => do
    let n := files.node (← files.find here path true)
    if !n.isFile || !n.allows 1 then .error .denied
    else if tooLong (name :: arguments) then .error .tooManyArguments
    else
      match n.content with
      | .tool tool => .ok ⟨tool, name, arguments⟩
      | .data bytes =>
        match interpreter? (bytesAt bytes 0 256) with
        | none => .error .noExecutable
        | some ([], _) => .error .noExecutable
        | some (interpreter, argument) =>
          launchFile files here depth interpreter interpreter
            (argument.toList ++ path :: arguments)
      | _ => .error .denied

/-- The depth to which scripts can be interpreters of scripts. -/
def interpreterDepth : Nat := 6

/-- What the file at a path starts under a name. -/
def launchAt (files : Files) (here : Nat) (path name : Octets) (arguments : List Octets) :
    Except Errno Launch :=
  if '\x00' ∈ path ∨ arguments.any ('\x00' ∈ ·) then .error .invalid
  else files.launchFile here interpreterDepth path name arguments

/-- A name in a directory of a search path. An empty directory is the working directory. -/
def inDirectory (directory name : Octets) : Octets :=
  if directory.isEmpty then name else directory ++ '/' :: name

/-- What the first of some paths that can be started starts. -/
def launchFirst (files : Files) (here : Nat) (name : Octets) (arguments : List Octets) :
    Errno → List Octets → Except Errno Launch
  | e, [] => .error e
  | e, path :: rest =>
    match files.launchAt here path name arguments with
    | .error .noEntry | .error .notDirectory => launchFirst files here name arguments e rest
    | .error .denied => launchFirst files here name arguments .denied rest
    | other => other

/-- What a program and its arguments start. A name with a slash is a path, and others are looked
for. -/
def launch (files : Files) (here : Nat) (name : Octets) (arguments : List Octets) :
    Except Errno Launch :=
  if '\x00' ∈ name then .error .invalid
  else if '/' ∈ name then files.launchAt here name name arguments
  else if name.isEmpty then .error .noEntry
  else
    files.launchFirst here name arguments .noEntry
      ((usualPath.split ':').map fun directory => inDirectory directory name)

end Files

end KctlProbe.Sandbox
