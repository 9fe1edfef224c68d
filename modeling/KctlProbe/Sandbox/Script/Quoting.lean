import KctlProbe.Sandbox.Script.Reader

/-!
# What the characters of a word mean

Inside quotes, inside a calculation and outside of both, a character means different things. While a
word is read, a `Level` says where the reader stands, and levels are stacked where substitutions are
nested.
-/

namespace KctlProbe.Sandbox.Script

/-- Where a character of a word stands. -/
inductive Place where
  | open
  | double
  | single
  | calculation
  deriving DecidableEq, Repr

/-- A level of nesting in a word. -/
structure Level where
  place : Place
  /-- Whether backslashes work as they do in double quotes. -/
  doubled : Bool := false
  /-- Whether quotes are open inside a substitution that is itself quoted. -/
  inner : Bool := false
  /-- The substitutions that are open. -/
  depth : Nat := 0
  /-- Those of them that were opened inside double quotes. -/
  doubledDepth : Nat := 0
  /-- Whether the level was made for a substitution, and ends with it. -/
  own : Bool := false
  /-- The brackets that are open in a calculation. -/
  brackets : Nat := 0

/-- A word that is being read. -/
structure Draft where
  /-- The marks so far, the last one first. -/
  marks : Word := []
  /-- How often something was quoted. -/
  quotes : Nat := 0
  level : Level
  outer : List Level := []

namespace Draft

/-- The draft with one more mark. -/
def add (d : Draft) (m : Mark) : Draft := { d with marks := m :: d.marks }

/-- The draft with more characters. -/
def addChars (d : Draft) (cs : Octets) : Draft :=
  { d with marks := cs.foldl (fun ms c => .char c :: ms) d.marks }

/-- The draft at a level inside the current one. -/
def enter (d : Draft) (l : Level) : Draft := { d with level := l, outer := d.level :: d.outer }

/-- The draft at the level around the current one. -/
def leave (d : Draft) : Draft :=
  match d.outer with
  | l :: ls => { d with level := l, outer := ls }
  | [] => d

end Draft

/-- Whether a character has a meaning of its own for patterns, tildes or assignments, so that it is
marked where it is quoted. -/
def isMarked (c : Char) : Bool :=
  c ∈ ['!', '*', '?', '[', ']', '=', '~', ':', '/', '-', '^', '\\']

/-- Whether a character can be passed over without a look at its meaning. -/
def isOrdinary (place : Place) (c : Char) : Bool :=
  match place with
  | .open =>
    !(c ∈ ['\n', '\\', '\'', '"', '`', '$', '\x7d', '<', '>', '(', ')', ';', '&', '|', ' ', '\t'])
  | .double => !(c ∈ ['\n', '\\', '"', '`', '$', '\x7d']) && !isMarked c
  | .single => !(c ∈ ['\n', '\'']) && !isMarked c
  | .calculation => !(c ∈ ['\n', '\\', '`', '$', '\x7d', '(', ')', '"'])

/-- Whether a character names a parameter of the shell itself. -/
def isSpecial (c : Char) : Bool :=
  c.isDigit || c ∈ ['!', '#', '$', '*', '-', '?', '@']

/-- The form that a character starts in braces after the name of a parameter. -/
def formOf? (orNull : Bool) : Option Char → Option Form
  | some '-' => some (.otherwise orNull)
  | some '+' => some (.instead orNull)
  | some '?' => some (.require orNull)
  | some '=' => some (.assign orNull)
  | _ => none

end KctlProbe.Sandbox.Script
