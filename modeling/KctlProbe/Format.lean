import KctlProbe.Failure

/-!
# Print formats

How the tool prints keys and values. Raw strings, its default, are the absence of a format.
-/

namespace KctlProbe

/-- A way to print keys and values. -/
inductive PrintFormat where
  /-- ASCII with escape sequences. -/
  | chars
  /-- A dump in hexadecimal and ASCII. -/
  | hex
  deriving DecidableEq, Repr

namespace PrintFormat

/-- Every print format, in the order in which names are looked up. -/
def all : List PrintFormat := [.chars, .hex]

/-- The name that users give a format. -/
def name : PrintFormat → String
  | .chars => "chars"
  | .hex => "hex"

/-- The option that selects a format. -/
def flag : PrintFormat → String
  | .chars => "-A"
  | .hex => "-X"

/-- The option for a format or none: the empty text when no option is needed. -/
def flagFor : Option PrintFormat → String
  | some f => f.flag
  | none => ""

/-- The format with the given name. -/
def ofName? (s : String) : Option PrintFormat :=
  all.find? (·.name == s)

/-- The format with the given name, or the failure that there is none. -/
def parse (s : String) : Except Failure PrintFormat :=
  match ofName? s with
  | some f => .ok f
  | none => .error .unknownFormat

end PrintFormat

end KctlProbe
