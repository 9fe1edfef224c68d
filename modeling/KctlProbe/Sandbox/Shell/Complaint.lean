import KctlProbe.Sandbox.Machine

/-!
# Complaints of a shell

A shell says who complains: its name, the line of the script, and the command of its own that is
done. What such a command writes is held until it is done, while complaints are written at once.
-/

namespace KctlProbe.Sandbox

/-- A complaint with what stands before it. -/
def complaint (text : String) : Action String := do
  let s ← getShell
  let title := match s.title with
    | some t => shown t ++ ": "
    | none => ""
  return shown s.name ++ ": " ++ shown (Octets.ofNat s.line) ++ ": " ++ title ++ text ++ "\n"

/-- Complains. -/
def warn (text : String) : Action Unit := do
  say 2 (← complaint text)

/-- Sets the exit status of the shell. -/
def setStatus (status : Nat) : Action Unit :=
  modifyShell fun s => { s with status }

/-- Complains and gives up. -/
def fail {α : Type} (text : String) : Action α := do
  setStatus 2
  warn text
  throw .failed

/-- Writes something as soon as the command of the shell itself is done. -/
def hold (data : Octets) : Action Unit :=
  modifyShell fun s => { s with held := data :: s.held }

/-- Writes a text as soon as the command of the shell itself is done. -/
def holdText (text : String) : Action Unit :=
  hold text.toList

/-- Writes what is held, and says whether that succeeded. -/
def releaseHeld : Action Bool := do
  let held := (← getShell).held
  if held.isEmpty then return true
  modifyShell fun s => { s with held := [] }
  match ← write? 1 held.reverse.flatten with
  | .ok () => return true
  | .error _ => return false

/-- The number that an argument gives, which must be decimal. -/
def decimalOf (text : Octets) : Action Int :=
  match integer? 10 text with
  | some n => return n
  | none => fail ("Illegal number: " ++ shown text)

/-- The number that an argument gives, which must be a small one. -/
def countOf (text : Octets) : Action Nat := do
  let n ← decimalOf text
  if n < 0 ∨ 2147483647 < n then fail ("Illegal number: " ++ shown text) else return n.toNat

/-- The words for an error when a file is opened to be read. -/
def wordsToOpen (e : Errno) : String :=
  if e = .noEntry ∨ e = .notDirectory then "No such file" else e.words

/-- The words for an error when a file is made. -/
def wordsToCreate (e : Errno) : String :=
  if e = .noEntry ∨ e = .notDirectory then "Directory nonexistent" else e.words

/-- The words for an error when a program is started. -/
def wordsToStart (e : Errno) : String :=
  if e = .noEntry ∨ e = .notDirectory then "not found" else e.words

end KctlProbe.Sandbox
