import KctlProbe.Sandbox.Tool.Options

/-!
# What tools read

An operand is the path of a file, or a dash for the input. A tool that was cut off from its input
writes what it can and then waits.
-/

namespace KctlProbe.Sandbox.Tool

/-- Waits for what does not come. -/
def starve {α : Type} : Tool α :=
  act (throw .starved)

/-- The stream of an operand. -/
def openOperand (path : Octets) : Tool (Except Errno Nat) := do
  if path = ['-'] then
    match ← act (streamOf? 0) with
    | some i => return .ok i
    | none => return .error .badDescriptor
  else act (openToRead path)

/-- Everything in an operand, and whether more would have come. -/
def drainOperand (path : Octets) : Tool (Except Errno (Octets × Bool)) := do
  match ← openOperand path with
  | .ok i => act (drainStream i)
  | .error e => return .error e

/-- Operands, or a dash if there are none. -/
def orInput (operands : List Octets) : List Octets :=
  if operands.isEmpty then [['-']] else operands

/-- What was read of some operands: pieces, the last one first, whether more would have come, and a
status. -/
structure Gathered where
  pieces : List Octets := []
  cut : Bool := false
  status : Nat := 0

/-- The pieces in one. -/
def Gathered.text (g : Gathered) : Octets :=
  g.pieces.reverse.flatten

/-- Reads operands up to one that would not end. -/
def gatherFrom (complain : Octets → Errno → Tool Unit) : Gathered → List Octets → Tool Gathered
  | g, [] => return g
  | g, path :: rest => do
    match ← drainOperand path with
    | .ok (text, cut) =>
      let g := { g with pieces := text :: g.pieces }
      if cut then return { g with cut := true } else gatherFrom complain g rest
    | .error e =>
      complain path e
      gatherFrom complain { g with status := 1 } rest

/-- A complaint that names a file. -/
def warnOf (path : Octets) (e : Errno) : Tool Unit :=
  warn (nameText path ++ ": " ++ e.words)

/-- A text without the newline at its end. -/
def chomp (line : Octets) : Octets :=
  if line.getLast? = some '\n' then line.dropLast else line

/-- The lines of a text, each without what ends it. -/
def linesOf (ending : Char) (text : Octets) : List Octets :=
  let parts := text.split ending
  if parts.getLast? = some [] then parts.dropLast else parts

/-- Lines as a text. -/
def textOfLines (ending : Char) (lines : List Octets) : Octets :=
  lines.flatMap fun l => l ++ [ending]

/-- Writes what a text becomes, and waits if more of it would have come. -/
def finish (g : Gathered) (output : Octets) : Tool Nat := do
  put output
  if g.cut then starve
  return g.status

end KctlProbe.Sandbox.Tool
