import KctlProbe.Sandbox.Script.Tree

/-!
# Where a script is read

A reader stands at a place of a text. In front of the text there may be the texts of aliases that
are read in place of a word. The reader knows its line and the last token, which can be read again,
and the here documents that start at the next line.
-/

namespace KctlProbe.Sandbox.Script

/-- A token of a script. -/
inductive Token where
  | endOfFile
  | newline
  | semicolon
  | background
  | andIf
  | orIf
  | pipe
  | opening
  | closing
  | endCase
  | redirection
  | word
  | reserved (text : String)
  deriving DecidableEq, Repr

/-- How a token is called in a complaint. -/
def Token.describe : Token → String
  | .endOfFile => "end of file"
  | .newline => "newline"
  | .semicolon => "\";\""
  | .background => "\"&\""
  | .andIf => "\"&&\""
  | .orIf => "\"||\""
  | .pipe => "\"|\""
  | .opening => "\"(\""
  | .closing => "\")\""
  | .endCase => "\";;\""
  | .redirection => "redirection"
  | .word => "word"
  | .reserved text => "\"" ++ text ++ "\""

/-- The reserved words. -/
def reservedWords : List String :=
  ["!", "case", "do", "done", "elif", "else", "esac", "fi", "for", "if", "in", "then", "until",
    "while", "\x7b", "\x7d"]

/-- Whether a list of commands can end before a token. -/
def Token.endsList : Token → Bool
  | .endOfFile | .closing | .endCase => true
  | .reserved text => text ∈ ["do", "done", "elif", "else", "esac", "fi", "then", "\x7d"]
  | _ => false

/-- A text that is read, and the alias that it stands for, if it does. -/
structure Input where
  text : Octets
  name : Option Octets := none
  /-- Whether the alias ends with a blank, so that the word after it can be an alias too. -/
  goesOn : Bool := false

/-- What the next token can be. -/
structure Checks where
  /-- Newlines before it are passed over. -/
  newlines : Bool := false
  /-- It can be a reserved word. -/
  reserved : Bool := false
  aliases : Bool := false
  /-- It ends a here document. -/
  endMark : Bool := false
  deriving DecidableEq

/-- A here document that starts at the next line. -/
structure Awaited where
  number : Nat
  endMark : Octets
  expanded : Bool
  /-- Whether the tabs at the start of its lines do not belong to it. -/
  stripped : Bool

/-- A place in a script. -/
structure Reader where
  inputs : List Input
  line : Nat := 1
  aliases : List (Octets × Octets) := []
  token : Token := .newline
  /-- The last word, and whether something in it was quoted. -/
  word : Word := []
  quoted : Bool := false
  /-- The last redirection: its descriptor, what it does, and for a document its number. -/
  redirect : Nat × Redirect := (0, .read)
  stripped : Bool := false
  /-- Whether the last token is to be read again. -/
  again : Bool := false
  checks : Checks := {}
  awaited : List Awaited := []
  documents : List (Nat × Word) := []
  nextDocument : Nat := 0

/-- Why a text is no script, and the line where that is seen. -/
structure Refusal where
  line : Nat
  message : String

/-- A step of reading. -/
abbrev Reading := StateT Reader (Except Refusal)

namespace Reader

/-- The next character, and the place after it. An alias that is read to its end is left. -/
def next (r : Reader) : List Input → Option Char × Reader
  | [] => (none, { r with inputs := [] })
  | i :: rest =>
    match i.text with
    | c :: cs => (some c, { r with inputs := { i with text := cs } :: rest })
    | [] =>
      if rest.isEmpty then (none, { r with inputs := [i] })
      else
        next (if i.goesOn then { r with checks := { r.checks with aliases := true } } else r) rest

/-- The place before a character that was read. -/
def unread (r : Reader) (c : Option Char) : Reader :=
  match c, r.inputs with
  | some c, i :: rest => { r with inputs := { i with text := c :: i.text } :: rest }
  | some c, [] => { r with inputs := [{ text := [c] }] }
  | none, _ => r

/-- Everything that is still to be read. -/
def rest (r : Reader) : Octets :=
  r.inputs.flatMap Input.text

end Reader

/-- Refuses the text at the current line. -/
def refuse {α : Type} (message : String) : Reading α := do
  throw ⟨(← get).line, message⟩

/-- Reads a character. -/
def readChar : Reading (Option Char) := do
  let r ← get
  let (c, r) := r.next r.inputs
  set r
  return c

/-- Puts a character back. -/
def unreadChar (c : Option Char) : Reading Unit :=
  modify (·.unread c)

/-- Goes to the next line. -/
def nextLine : Reading Unit :=
  modify fun r => { r with line := r.line + 1 }

/-- Reads a character, without the ends of lines that a backslash takes away. -/
def readJoined : Nat → Reading (Option Char)
  | 0 => readChar
  | fuel + 1 => do
    match ← readChar with
    | some '\\' =>
      match ← readChar with
      | some '\n' => nextLine; readJoined fuel
      | c => unreadChar c; return some '\\'
    | c => return c

/-- The number of joined lines that are read in a row. -/
def joinFuel : Nat := 1000000

/-- Reads the longest run of characters with a property. Newlines cannot be among them. -/
def readRun (p : Char → Bool) : Reading Octets := do
  let r ← get
  match r.inputs with
  | i :: rest =>
    let run := i.text.takeWhile p
    set { r with inputs := { i with text := i.text.drop run.length } :: rest }
    return run
  | [] => return []

/-- Reads the longest run of characters with a property, over the joints of lines. -/
def readJoinedWhile (p : Char → Bool) : Nat → Octets → Reading Octets
  | 0, done => return done.reverse
  | fuel + 1, done => do
    match ← readJoined joinFuel with
    | some c =>
      if p c then readJoinedWhile p fuel (c :: done)
      else
        unreadChar (some c)
        return done.reverse
    | none => return done.reverse

end KctlProbe.Sandbox.Script
