import KctlProbe.Sandbox.Octets

/-!
# Scripts

The commands that a script consists of. A word is a list of marks: its characters, with the quoted
ones told apart, and the substitutions that are made when the word is used. A substitution opens
with one mark and closes with another, and what stands between them is a word again.
-/

namespace KctlProbe.Sandbox.Script

/-- What becomes of the value of a parameter. Where a form can go by whether there is a value,
`orNull` says that an empty value counts as none. -/
inductive Form where
  | value
  | length
  /-- The word if there is no value. -/
  | otherwise (orNull : Bool)
  /-- The word if there is a value. -/
  | instead (orNull : Bool)
  /-- An error if there is no value. -/
  | require (orNull : Bool)
  /-- The word if there is no value, and from then on it is the value. -/
  | assign (orNull : Bool)
  /-- The value without the start that the word matches. -/
  | trimStart (longest : Bool)
  /-- The value without the end that the word matches. -/
  | trimEnd (longest : Bool)
  /-- Something that no form is written like. -/
  | bad (orNull : Bool)
  deriving DecidableEq, Repr

/-- Whether an empty value counts as none. -/
def Form.orNull : Form → Bool
  | .otherwise n | .instead n | .require n | .assign n | .bad n => n
  | _ => false

/-- What a redirection does to a descriptor. -/
inductive Redirect where
  | read
  | write
  /-- It writes, even where existing files are protected. -/
  | overwrite
  | append
  | readWrite
  /-- It is the same as another descriptor, or closed. -/
  | duplicate
  /-- It reads the document with a number, in which substitutions are made or not. -/
  | document (number : Nat) (expanded : Bool)
  deriving DecidableEq, Repr

mutual

/-- A mark of a word. -/
inductive Mark where
  | char (c : Char)
  | escaped (c : Char)
  /-- A quote that opens or closes. -/
  | quote
  | parameter (name : Octets) (form : Form)
  | endParameter
  | calculation
  | endCalculation
  /-- What a script writes. -/
  | output (script : Option Command)

/-- A command of a script. Commands that can complain know their line. -/
inductive Command where
  | simple (line : Nat) (assignments words : List (List Mark))
    (redirections : List (Nat × Redirect × List Mark))
  /-- Commands of which each reads what the one before writes. -/
  | pipeline (parts : List Command) (inBackground : Bool)
  /-- A command in a shell of its own, for which nobody waits if it runs in the background. -/
  | subshell (line : Nat) (body : Command) (redirections : List (Nat × Redirect × List Mark))
    (inBackground : Bool)
  | redirected (line : Nat) (body : Command) (redirections : List (Nat × Redirect × List Mark))
  | negated (body : Command)
  /-- The second command only if the first succeeds. -/
  | andThen (first second : Command)
  /-- The second command only if the first fails. -/
  | orElse (first second : Command)
  | sequence (first second : Command)
  | choice (condition body : Command) (otherwise : Option Command)
  /-- The body as long as the condition holds, or does not hold. -/
  | loop (whileHolds : Bool) (condition body : Command)
  | forEach (line : Nat) (name : Octets) (words : List (List Mark)) (body : Command)
  /-- The body of the first pattern that a word matches. -/
  | select (line : Nat) (word : List Mark) (cases : List (List (List Mark) × Option Command))
  | define (line : Nat) (name : Octets) (body : Command)

end

instance : Inhabited Command := ⟨.simple 0 [] [] []⟩

/-- A word of a script. -/
abbrev Word := List Mark

/-- A redirection of a descriptor to what a word gives. -/
abbrev Redirection := Nat × Redirect × Word

/-- The characters of a word as they are written there, without its quotes. -/
def plainText (w : Word) : Octets :=
  w.filterMap fun
    | .char c => some c
    | .escaped c => some c
    | _ => none

/-- The text of a word in which nothing is quoted or substituted. -/
def bareText? (w : Word) : Option Octets :=
  w.mapM fun
    | .char c => some c
    | _ => none

/-- Whether a character can start the name of a variable. -/
def startsName (c : Char) : Bool :=
  c.isAlpha || c == '_'

/-- Whether a character can stand in the name of a variable. -/
def inName (c : Char) : Bool :=
  c.isAlphanum || c == '_'

/-- Whether a text is the name of a variable. -/
def isName : Octets → Bool
  | [] => false
  | c :: cs => startsName c && cs.all inName

/-- Whether a word assigns a value: a name and an equals sign, neither of them quoted. -/
def isAssignment (w : Word) : Bool :=
  let name := w.takeWhile fun
    | .char c => inName c
    | _ => false
  match name, w.drop name.length with
  | .char c :: _, .char '=' :: _ => startsName c
  | _, _ => false

end KctlProbe.Sandbox.Script
