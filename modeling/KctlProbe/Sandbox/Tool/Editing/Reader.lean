import KctlProbe.Sandbox.Regex.Reader
import KctlProbe.Sandbox.Tool.Editing.Command
import KctlProbe.Sandbox.Tool.Words

/-!
# Reading scripts of the stream editor

A script is read character by character, so that a complaint can say how far it was read.
-/

namespace KctlProbe.Sandbox.Tool

/-- Where a script comes from. -/
inductive EditSource where
  | expression (number : Nat)
  | file (path : Octets)

/-- How a place in a script is named: by the number of characters in an expression, or by the line in a
file. -/
def EditSource.position (source : EditSource) (place line : Nat) : String :=
  match source with
  | .expression n => "-e expression #" ++ shown (Octets.ofNat n) ++ ", char " ++ shown (Octets.ofNat place)
  | .file path => "file " ++ shown path ++ " line " ++ shown (Octets.ofNat line)

/-- How far a script has been read. -/
structure EditReading where
  text : Octets
  source : EditSource
  /-- Whether this is the first part of the script. -/
  isFirst : Bool := true
  /-- The number of characters that were read, and of the line. -/
  place : Nat := 0
  line : Nat := 1
  extended : Bool := false
  /-- The commands that were read, the last one first, and their number. -/
  commands : List EditCommand := []
  count : Nat := 0
  /-- The blocks that are open: the places of their commands, and where they start. -/
  blocks : List (Nat × EditSource × Nat) := []
  /-- Whether the text of the last command goes on in the next part of the script. -/
  pending : Bool := false
  /-- Whether commands that touch other files are forbidden. -/
  confined : Bool := false
  /-- Whether the script says that lines are not written by themselves. -/
  quiet : Bool := false

/-- A step of reading a script. -/
abbrev ReadEdit := StateT EditReading Tool

namespace ReadEdit

/-- Ends the tool because of what is wrong with its script. -/
def fail {α : Type} (text : String) : ReadEdit α := do
  let s ← get
  (refuse 1 (s.source.position s.place s.line ++ ": " ++ text) : Tool α)

/-- The next character. -/
def next : ReadEdit (Option Char) := do
  let s ← get
  match s.text with
  | [] => return none
  | c :: text =>
    set { s with text, place := s.place + 1, line := if c = '\n' then s.line + 1 else s.line }
    return some c

/-- Puts a character back. -/
def back (c : Option Char) : ReadEdit Unit := do
  match c with
  | none => pure ()
  | some c =>
    modify fun s => { s with
      text := c :: s.text, place := s.place - 1, line := if c = '\n' then s.line - 1 else s.line }

/-- Skips characters. -/
def skip (p : Char → Bool) : ReadEdit Unit := do
  let s ← get
  let front := s.text.takeWhile p
  set { s with
    text := s.text.drop front.length
    place := s.place + front.length
    line := s.line + (front.filter (· = '\n')).length }

/-- The next character that is no blank. -/
def nextSolid : ReadEdit (Option Char) := do
  skip fun c => c == ' ' || c == '\t'
  next

/-- The number that starts with a digit. -/
def number (first : Char) : ReadEdit Nat := do
  let s ← get
  let digits := s.text.takeWhile Char.isDigit
  skip Char.isDigit
  return numberOf 10 (first :: digits)

/-- The text up to the line's end. -/
def restOfLine : ReadEdit Octets := do
  let s ← get
  let line := s.text.takeWhile (· ≠ '\n')
  skip (· ≠ '\n')
  let _ ← next
  return line

/-- Checks that a command ends here. -/
def endCommand : ReadEdit Unit := do
  match ← nextSolid with
  | none | some '\n' | some ';' => pure ()
  | some c => if c = '\x7d' ∨ c = '#' then back (some c) else fail "extra characters after command"

/-- The characters of a class in a bracket expression behind its opening bracket, if it is closed. -/
def className? (cs : Octets) : Option Octets :=
  match cs with
  | k :: rest =>
    if k ∈ ['.', ':', '='] then
      let name := rest.takeWhile (· ≠ k)
      match rest.drop name.length with
      | _ :: ']' :: _ => some (k :: name ++ [k, ']'])
      | _ => none
    else none
  | [] => none

/-- The members of a bracket expression up to its end, if it ends in the line. -/
def members? : Nat → Octets → Octets → Option Octets
  | 0, _, _ => none
  | fuel + 1, done, cs =>
    match cs with
    | [] | '\n' :: _ => none
    | ']' :: _ => some (']' :: done).reverse
    | '[' :: rest =>
      match className? rest with
      | some name => members? fuel (name.reverse ++ '[' :: done) (rest.drop name.length)
      | none => members? fuel ('[' :: done) rest
    | c :: rest => members? fuel (c :: done) rest

/-- A bracket expression behind its opening bracket, if it is closed. A closing bracket that stands
first is a member. -/
def bracket? (cs : Octets) : Option Octets :=
  let caret := cs.takeWhile (· = '^') |>.take 1
  let cs := cs.drop caret.length
  let first := cs.takeWhile (· = ']') |>.take 1
  (members? (cs.length + 1) [] (cs.drop first.length)).map (caret ++ first ++ ·)

/-- The text up to a delimiter, or nothing if there is none in the line. -/
def delimited (delimiter : Char) (isRegex : Bool) : Nat → Octets → ReadEdit (Option Octets)
  | 0, _ => return none
  | fuel + 1, done => do
    match ← next with
    | none => return none
    | some '\n' =>
      back (some '\n')
      return none
    | some c =>
      if c = delimiter then return some done.reverse
      else if c = '\\' then
        match ← next with
        | none => return none
        | some d =>
          if d = 'n' && isRegex then delimited delimiter isRegex fuel ('\n' :: done)
          else if d = '\n' || (d = delimiter && !(!isRegex && d = '&')) then
            delimited delimiter isRegex fuel (d :: done)
          else delimited delimiter isRegex fuel (d :: '\\' :: done)
      else
        let s ← get
        match if isRegex && c = '[' then bracket? s.text else none with
        | some members =>
          set { s with text := s.text.drop members.length, place := s.place + members.length }
          delimited delimiter isRegex fuel (members.reverse ++ c :: done)
        | none => delimited delimiter isRegex fuel (c :: done)

/-- The text up to a delimiter. -/
def upTo? (delimiter : Option Char) (isRegex : Bool) : ReadEdit (Option Octets) := do
  match delimiter with
  | none | some '\n' | some '\\' => return none
  | some c => delimited c isRegex ((← get).text.length + 1) []

/-- The character that an escape of a control character or of a number stands for, behind its
backslash, and the rest. -/
def escapedChar? (cs : Octets) : Option (Char × Octets) :=
  match cs with
  | 'a' :: rest => some ('\x07', rest)
  | 'f' :: rest => some ('\x0C', rest)
  | 'r' :: rest => some ('\r', rest)
  | 't' :: rest => some ('\t', rest)
  | 'v' :: rest => some ('\x0B', rest)
  | 'c' :: c :: rest => some (Char.ofNat (c.toUpper.toNat ^^^ 64), rest)
  | 'd' :: rest => digitsEscape 10 3 rest
  | 'o' :: rest => digitsEscape 8 3 rest
  | 'x' :: rest => digitsEscape 16 2 rest
  | _ => none

/-- A regular expression with its escapes of characters replaced. -/
def unescapeRegex : Nat → Octets → Octets → Octets
  | 0, done, _ => done.reverse
  | _, done, [] => done.reverse
  | fuel + 1, done, '\\' :: cs =>
    match escapedChar? cs with
    | some (c, rest) =>
      let special := c ∈ "*.[]^$\\+?|()\x7b\x7d/".toList
      unescapeRegex fuel (if special then c :: '\\' :: done else c :: done) rest
    | none =>
      match cs with
      | c :: rest => unescapeRegex fuel (c :: '\\' :: done) rest
      | [] => ('\\' :: done).reverse
  | fuel + 1, done, c :: cs => unescapeRegex fuel (c :: done) cs

/-- The regular expression that a text is, if it is not empty, and the number of its groups. -/
def regex (text : Octets) (folded : Bool) : ReadEdit (Option Regex × Nat) := do
  if text.isEmpty then return (none, 9)
  let d : Dialect := { extended := (← get).extended, folded }
  match d.read (unescapeRegex (text.length + 1) [] text) with
  | .ok (r, groups, _) => return (some r, groups)
  | .error e => fail e.words

/-- The flags behind the expression of an address: whether letters are folded. -/
def addressFlags : Nat → Bool → ReadEdit Bool
  | 0, folded => return folded
  | fuel + 1, folded => do
    match ← nextSolid with
    | some 'I' => addressFlags fuel true
    | some 'M' => addressFlags fuel folded
    | c =>
      back c
      return folded

/-- The address that starts with a character, if there is one. -/
def address? (c : Option Char) : ReadEdit (Option EditAddress) := do
  match c with
  | none => return none
  | some c =>
    if c = '/' ∨ c = '\\' then
      let delimiter ← if c = '\\' then next else pure (some c)
      match ← upTo? delimiter true with
      | none => fail "unterminated address regex"
      | some text =>
        let folded ← addressFlags ((← get).text.length + 1) false
        let (r, _) ← regex text folded
        return some (.found r)
    else if c.isDigit then
      let n ← number c
      match ← nextSolid with
      | some '~' =>
        match ← nextSolid with
        | some d =>
          if d.isDigit then
            let step ← number d
            return some (if step = 0 then .line n else .every n step)
          else
            back (some d)
            return some (.line n)
        | none => return some (.line n)
      | d =>
        back d
        return some (.line n)
    else if c = '+' ∨ c = '~' then
      let n ← match ← nextSolid with
        | some d => if d.isDigit then number d else do
          back (some d)
          pure 0
        | none => pure 0
      return some (if c = '+' then .after n else .multiple n)
    else if c = '$' then return some .last
    else return none

/-- Complains about a command that touches other files, if such commands are forbidden. -/
def confine : ReadEdit Unit := do
  if (← get).confined then fail "e/r/w commands disabled in sandbox mode"

/-- A label. -/
def label : ReadEdit Octets := do
  skip fun c => c == ' ' || c == '\t'
  let s ← get
  let name := s.text.takeWhile fun c => !isSpace c && c != ';'
  skip fun c => !isSpace c && c != ';'
  return name

/-- The path behind a command. -/
def path : ReadEdit Octets := do
  skip fun c => c == ' ' || c == '\t'
  match ← restOfLine with
  | [] => fail "missing filename in r/R/w/W commands"
  | p => return p

/-- The text of a command up to the end of a line that no backslash stands before. If the script ends
behind a backslash, the text goes on in the next part of the script. -/
def textLines : Nat → Octets → ReadEdit Octets
  | 0, done => return done.reverse
  | fuel + 1, done => do
    match ← next with
    | none | some '\n' => return ('\n' :: done).reverse
    | some '\\' =>
      let s ← get
      match escapedChar? s.text with
      | some (c, rest) =>
        set { s with text := rest, place := s.place + (s.text.length - rest.length) }
        textLines fuel (c :: done)
      | none =>
        match ← next with
        | none =>
          modify fun s => { s with pending := true }
          return ('\n' :: done).reverse
        | some c => textLines fuel (c :: done)
    | some c => textLines fuel (c :: done)

/-- The text of a command that adds lines. -/
def text : ReadEdit Octets := do
  let fuel := (← get).text.length + 1
  match ← nextSolid with
  | none => fail "expected \\ after `a', `c' or `i'"
  | some '\\' =>
    let s ← get
    let blanks := s.text.takeWhile fun c => c == ' ' || c == '\t'
    match s.text.drop blanks.length with
    | '\n' :: _ =>
      skip fun c => c == ' ' || c == '\t'
      let _ ← next
      textLines fuel []
    | [] =>
      modify fun s => { s with pending := true }
      return []
    | _ => textLines fuel []
  | c =>
    back c
    textLines fuel []

/-- The parts of a replacement, those before in reverse. -/
def replacementParts : Nat → List ReplacementPart → Octets → List ReplacementPart
  | 0, done, _ => done.reverse
  | _, done, [] => done.reverse
  | fuel + 1, done, c :: cs =>
    let add := fun (p : ReplacementPart) (rest : Octets) => replacementParts fuel (p :: done) rest
    if c = '&' then add (.group 0) cs
    else if c ≠ '\\' then
      let plain := (c :: cs).takeWhile fun c => c ≠ '&' && c ≠ '\\'
      add (.text plain) ((c :: cs).drop plain.length)
    else
      match escapedChar? cs with
      | some (d, rest) => add (.text [d]) rest
      | none =>
        match cs with
        | [] => add (.text ['\\']) []
        | 'n' :: rest => add (.text ['\n']) rest
        | 'U' :: rest => add (.letters .upper) rest
        | 'L' :: rest => add (.letters .lower) rest
        | 'E' :: rest => add (.letters .asIs) rest
        | 'u' :: rest => add (.letter .upper) rest
        | 'l' :: rest => add (.letter .lower) rest
        | d :: rest =>
          if d.isDigit then add (.group (d.toNat - '0'.toNat)) rest else add (.text [d]) rest

/-- The flags behind a replacement. -/
def substitutionFlags : Nat → Substitution → Bool → Bool → ReadEdit (Substitution × Bool)
  | 0, s, folded, _ => return (s, folded)
  | fuel + 1, s, folded, numbered => do
    match ← nextSolid with
    | none | some '\n' | some ';' => return (s, folded)
    | some c =>
      if c = 'i' ∨ c = 'I' then substitutionFlags fuel s true numbered
      else if c = 'm' ∨ c = 'M' then substitutionFlags fuel s folded numbered
      else if c = 'p' then
        if s.prints then fail "multiple `p' options to `s' command"
        substitutionFlags fuel { s with prints := true } folded numbered
      else if c = 'g' then
        if s.all then fail "multiple `g' options to `s' command"
        substitutionFlags fuel { s with all := true } folded numbered
      else if c = 'w' then
        confine
        return ({ s with file := some (← path) }, folded)
      else if c.isDigit then
        if numbered then fail "multiple number options to `s' command"
        let n ← number c
        if n = 0 then fail "number option to `s' command may not be zero"
        substitutionFlags fuel { s with number := n } folded true
      else if c = '\x7d' ∨ c = '#' then
        back (some c)
        return (s, folded)
      else fail "unknown option to `s'"

/-- A substitution. -/
def substitution : ReadEdit Substitution := do
  let delimiter ← next
  match ← upTo? delimiter true with
  | none => fail "unterminated `s' command"
  | some pattern =>
    match ← upTo? delimiter false with
    | none => fail "unterminated `s' command"
    | some replacement =>
      let parts := replacementParts (replacement.length + 1) [] replacement
      let fuel := (← get).text.length + 1
      let (s, folded) ← substitutionFlags fuel { pattern := none, replacement := parts } false false
      let (r, groups) ← regex pattern folded
      for p in parts do
        match p with
        | .group n =>
          if groups < n then
            fail ("invalid reference \\" ++ shown (Octets.ofNat n) ++ " on `s' command's RHS")
        | _ => pure ()
      return { s with pattern := r }

/-- The characters of one side of a translation. -/
def translated : Nat → Octets → Octets → Octets
  | 0, done, _ => done.reverse
  | _, done, [] => done.reverse
  | fuel + 1, done, '\\' :: cs =>
    match escapedChar? cs with
    | some (c, rest) => translated fuel (c :: done) rest
    | none =>
      match cs with
      | '\\' :: rest => translated fuel ('\\' :: done) rest
      | 'n' :: rest => translated fuel ('\n' :: done) rest
      | c :: rest => translated fuel (c :: '\\' :: done) rest
      | [] => ('\\' :: done).reverse
  | fuel + 1, done, c :: cs => translated fuel (c :: done) cs

/-- A translation. -/
def translation : ReadEdit (List (Char × Char)) := do
  let delimiter ← next
  match ← upTo? delimiter false with
  | none => fail "unterminated `y' command"
  | some a =>
    match ← upTo? delimiter false with
    | none => fail "unterminated `y' command"
    | some b =>
      let a := translated (a.length + 1) [] a
      let b := translated (b.length + 1) [] b
      if a.length ≠ b.length then fail "strings for `y' command are different lengths"
      endCommand
      return a.zip b

/-- The number behind a command, if there is one. -/
def number? : ReadEdit (Option Nat) := do
  match ← nextSolid with
  | some c =>
    if c.isDigit then return some (← number c)
    else
      back (some c)
      return none
  | none => return none

/-- What the command does that a character starts. -/
def action (c : Option Char) (first second : Option EditAddress) : ReadEdit EditAction := do
  let simple := fun (a : EditAction) => do
    endCommand
    return a
  match c with
  | none => fail "missing command"
  | some c =>
    match c with
    | '\x7b' =>
      modify fun s => { s with blocks := (s.count, s.source, s.line) :: s.blocks }
      return .block 0
    | '\x7d' =>
      match (← get).blocks with
      | [] => fail "unexpected `\x7d'"
      | (start, _) :: rest =>
        if first.isSome then fail "\x7d doesn't want any addresses"
        endCommand
        modify fun s => { s with
          blocks := rest
          commands := s.commands.modify (s.count - 1 - start) fun e => { e with action := .block s.count } }
        return .endBlock
    | ':' =>
      if first.isSome then fail ": doesn't want any addresses"
      match ← label with
      | [] => fail "\":\" lacks a label"
      | name => return .label name
    | 'a' => return .append (← text)
    | 'i' => return .insert (← text)
    | 'c' => return .change (← text)
    | 'b' => return .jump (← label)
    | 't' => return .jumpIf true (← label)
    | 'T' => return .jumpIf false (← label)
    | 'd' => simple .delete
    | 'D' => simple .deleteFirst
    | 'F' => simple .fileName
    | 'g' => simple (.getHeld false)
    | 'G' => simple (.getHeld true)
    | 'h' => simple (.hold false)
    | 'H' => simple (.hold true)
    | 'l' =>
      let width ← number?
      simple (.show width)
    | 'n' => simple .next
    | 'N' => simple .nextAppended
    | 'p' => simple .print
    | 'P' => simple .printFirst
    | 'q' | 'Q' =>
      if second.isSome then fail "command only uses one address"
      let status ← number?
      simple (.quit (c == 'q') ((status.getD 0) % 256))
    | 'r' =>
      confine
      return .readFile (← path)
    | 'R' =>
      confine
      return .readLine (← path)
    | 's' => return .replace (← substitution)
    | 'v' =>
      let _ ← label
      return .nothing
    | 'w' =>
      confine
      return .write (← path)
    | 'W' =>
      confine
      return .writeFirst (← path)
    | 'x' => simple .exchange
    | 'y' => return .translate (← translation)
    | 'z' => simple .clear
    | '=' => simple .number
    | c => fail ("unknown command: `" ++ String.ofList [c] ++ "'")

/-- Reads the rest of a text that was not at its end in the part of the script before. -/
def resume : ReadEdit Unit := do
  if (← get).pending then
    modify fun s => { s with pending := false }
    let more ← textLines ((← get).text.length + 1) []
    modify fun s => { s with
      commands := match s.commands with
        | c :: rest => { c with action := c.action.extended more } :: rest
        | [] => [] }

/-- Reads commands up to the end of a script. -/
def commands : Nat → ReadEdit Unit
  | 0 => pure ()
  | fuel + 1 => do
    skip fun c => c == ';' || isSpace c
    match ← next with
    | none => pure ()
    | some c =>
      let first ← address? (some c)
      let (second, c) ← match first with
        | none => pure (none, some c)
        | some (.after _) | some (.multiple _) =>
          fail "invalid usage of +N or ~N as first address"
        | some a => do
          let c ← nextSolid
          let (second, c) ← if c = some ',' then do
              match ← address? (← nextSolid) with
              | none => fail "unexpected `,'"
              | some b => pure (some b, ← nextSolid)
            else pure (none, c)
          match a, second with
          | .line 0, some (.found _) => pure ()
          | .line 0, _ => fail "invalid usage of line address 0"
          | _, _ => pure ()
          pure (second, c)
      let (negated, c) ← if c = some '!' then do
          match ← nextSolid with
          | some '!' => fail "multiple `!'s"
          | c => pure (true, c)
        else pure (false, c)
      if c = some '#' then
        if first.isSome then fail "comments don't accept any addresses"
        let s ← get
        if s.place = 1 && s.isFirst && s.text.head? = some 'n' then set { s with quiet := true }
        let _ ← restOfLine
      else
        let a ← action c first second
        modify fun s => { s with
          commands := { first, second, negated, action := a } :: s.commands, count := s.count + 1 }
      commands fuel

end ReadEdit

end KctlProbe.Sandbox.Tool
