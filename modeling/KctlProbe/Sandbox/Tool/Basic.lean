import KctlProbe.Sandbox.Machine
import KctlProbe.Sandbox.Tool.Naming

/-!
# Tools

A tool is a program of the system. It knows the name by which it was started, reads and writes
through its descriptors, complains on the second one, and ends with a status, which it can do at any
point.
-/

namespace KctlProbe.Sandbox

/-- A step of a tool, which knows its own name and can end with a status. -/
abbrev Tool := ReaderT Octets (ExceptT Nat Action)

namespace Tool

/-- Does something with the machine. -/
def act {α : Type} (a : Action α) : Tool α :=
  fun _ => ExceptT.lift a

/-- The name by which the tool was started. -/
def name : Tool String :=
  return shown (← read)

/-- Ends the tool. -/
def quit {α : Type} (status : Nat) : Tool α :=
  throw status

/-- Writes something on the second descriptor. -/
def say (text : String) : Tool Unit :=
  act (KctlProbe.Sandbox.say 2 text)

/-- Complains. -/
def warn (text : String) : Tool Unit := do
  say ((← name) ++ ": " ++ text ++ "\n")

/-- Complains and ends. -/
def refuse {α : Type} (status : Nat) (text : String) : Tool α := do
  warn text
  quit status

/-- Says where help is, and ends. -/
def pointToHelp {α : Type} (status : Nat) : Tool α := do
  say ("Try '" ++ (← name) ++ " --help' for more information.\n")
  quit status

/-- Complains about how the tool is used, and ends. -/
def misused {α : Type} (status : Nat) (text : String) : Tool α := do
  warn text
  pointToHelp status

/-- Writes output. -/
def put (data : Octets) : Tool Unit := do
  unless data.isEmpty do
    match ← act (write? 1 data) with
    | .ok () => pure ()
    | .error e => refuse 1 ("write error: " ++ e.words)

/-- Writes a text. -/
def putText (text : String) : Tool Unit :=
  put text.toList

/-- Runs a tool under a name until it ends, and gives its status. -/
def status (tool : Tool Nat) (name : Octets) : Action Nat := do
  match ← ((tool.run name).run : Action (Except Nat Nat)) with
  | .ok n => return n
  | .error n => return n

/-- Does something for each of some values. The status is the greatest one. -/
def forEach {α : Type} (body : α → Tool Nat) : Nat → List α → Tool Nat
  | status, [] => return status
  | status, a :: rest => do
    let n ← body a
    forEach body (max status n) rest

/-- Takes steps until one of them gives a result, at most `n` of them. -/
def iterate {α β : Type} (step : α → Tool (α ⊕ β)) : Nat → α → Tool β
  | 0, _ => fun _ => ExceptT.lift (throw .exhausted)
  | n + 1, a => do
    match ← step a with
    | .inl a => iterate step n a
    | .inr b => return b

end Tool

end KctlProbe.Sandbox
