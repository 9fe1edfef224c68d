import KctlProbe.Text.Decimal

/-!
# Writing JSON

The compact written form: no blanks, members in the order given, and a string in which only what
JSON does not allow to stand as it is has an escape.
-/

namespace KctlProbe.Json

/-- A member of an object: its name and its value in written form. -/
abbrev Member := String × List Char

/-- How a character stands inside a written string. -/
def escapeChar (c : Char) : List Char :=
  if c = '"' then ['\\', '"']
  else if c = '\\' then ['\\', '\\']
  else if c = '\x08' then ['\\', 'b']
  else if c = '\x0C' then ['\\', 'f']
  else if c = '\n' then ['\\', 'n']
  else if c = '\r' then ['\\', 'r']
  else if c = '\t' then ['\\', 't']
  else if c.toNat < 0x20 then ['\\', 'u'] ++ Text.padded 16 4 c.toNat
  else [c]

/-- A string in written form. -/
def writeString (s : String) : List Char :=
  '"' :: s.toList.flatMap escapeChar ++ ['"']

/-- A whole number in written form. -/
def writeInteger (n : Int) : List Char :=
  (Text.signedDecimal n).toList

/-- A truth value in written form. -/
def writeBoolean (b : Bool) : List Char :=
  if b then ['t', 'r', 'u', 'e'] else ['f', 'a', 'l', 's', 'e']

/-- A value that may be missing, in written form. -/
def writeNullable {α : Type} (write : α → List Char) : Option α → List Char
  | some x => write x
  | none => ['n', 'u', 'l', 'l']

/-- A member in written form. -/
def writeMember (m : Member) : List Char :=
  writeString m.1 ++ ':' :: m.2

/-- An object in written form. -/
def writeObject (members : List Member) : List Char :=
  '\x7b' :: List.intercalate [','] (members.map writeMember) ++ ['\x7d']

end KctlProbe.Json
