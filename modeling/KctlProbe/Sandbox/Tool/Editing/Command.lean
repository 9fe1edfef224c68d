import KctlProbe.Sandbox.Regex.Basic

/-!
# Commands of the stream editor

The stream editor reads lines one after the other into its pattern space and does some commands with
each. A command can be restricted to some lines by addresses, and it is written as one letter.
-/

namespace KctlProbe.Sandbox

/-- Which lines a command is for. -/
inductive EditAddress where
  | line (n : Nat)
  /-- A line and every one that many lines behind it. -/
  | every (first step : Nat)
  | last
  /-- The lines in which an expression is found; if there is none, the one that was used last. -/
  | found (r : Option Regex)
  /-- That many lines behind the first one. -/
  | after (n : Nat)
  /-- The next line whose number is a multiple. -/
  | multiple (n : Nat)

/-- How the letters of a replacement are written. -/
inductive LetterCase where
  | asIs
  | upper
  | lower
  deriving DecidableEq, Repr

/-- A part of what takes the place of a match. -/
inductive ReplacementPart where
  | text (cs : Octets)
  /-- What a group stands for, or the whole match as number zero. -/
  | group (n : Nat)
  /-- The case of the letters that follow. -/
  | letters (c : LetterCase)
  /-- The case of the next letter. -/
  | letter (c : LetterCase)
  deriving Repr

/-- What is replaced, by what and how often. -/
structure Substitution where
  pattern : Option Regex
  replacement : List ReplacementPart
  /-- The number of the match that is replaced first, and whether those behind it are. -/
  number : Nat := 1
  all : Bool := false
  prints : Bool := false
  file : Option Octets := none

/-- What a command does. -/
inductive EditAction where
  /-- The commands up to the place of the closing brace. -/
  | block (stop : Nat)
  | endBlock
  | label (name : Octets)
  | nothing
  | append (text : Octets)
  | insert (text : Octets)
  | change (text : Octets)
  | jump (label : Octets)
  /-- A jump if something has been replaced since the last line was read, or if nothing has. -/
  | jumpIf (replaced : Bool) (label : Octets)
  | delete
  | deleteFirst
  | fileName
  | getHeld (appends : Bool)
  | hold (appends : Bool)
  | show (width : Option Nat)
  | next
  | nextAppended
  | print
  | printFirst
  | quit (prints : Bool) (status : Nat)
  | readFile (path : Octets)
  | readLine (path : Octets)
  | replace (s : Substitution)
  | write (path : Octets)
  | writeFirst (path : Octets)
  | exchange
  | translate (table : List (Char × Char))
  | clear
  | number

/-- A command with more lines in its text. -/
def EditAction.extended (a : EditAction) (more : Octets) : EditAction :=
  match a with
  | .append text => .append (text ++ more)
  | .insert text => .insert (text ++ more)
  | .change text => .change (text ++ more)
  | a => a

/-- A command with its addresses. -/
structure EditCommand where
  first : Option EditAddress := none
  second : Option EditAddress := none
  /-- Whether it is for the other lines. -/
  negated : Bool := false
  action : EditAction

/-- The file that a command writes to. -/
def EditCommand.output? (c : EditCommand) : Option Octets :=
  match c.action with
  | .write path => some path
  | .writeFirst path => some path
  | .replace s => s.file
  | _ => none

/-- The label that a command jumps to. -/
def EditCommand.goal? (c : EditCommand) : Option Octets :=
  match c.action with
  | .jump l => some l
  | .jumpIf _ l => some l
  | _ => none

end KctlProbe.Sandbox
