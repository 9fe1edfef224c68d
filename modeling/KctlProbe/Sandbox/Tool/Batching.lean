import KctlProbe.Sandbox.Tool.Starting

/-!
# Commands for what is read

`xargs` reads words and starts a program with them as arguments, again and again until none is left.
-/

namespace KctlProbe.Sandbox.Tool

/-- A word that was read, and whether a line ends with it. -/
structure Item where
  text : Octets
  endsLine : Bool := false

/-- The words of a text, each of which ends with a line or one of some blanks, and the quote that
stands alone if there is one. Quotes and backslashes keep blanks together. -/
structure ItemReader where
  /-- Whether a word is a whole line. -/
  byLine : Bool
  /-- The words so far, the last one first. -/
  items : List Item := []
  /-- The characters of the word that is read, the last one first, if there is one. -/
  word : Option Octets := none
  quote : Option Char := none
  escaped : Bool := false
  /-- The quote that was not closed in its line. -/
  alone : Option Char := none
  /-- Whether the last word of the line was followed by a blank. -/
  goesOn : Bool := false

namespace ItemReader

/-- The reader after the end of a word. -/
def finishWord (r : ItemReader) (endsLine : Bool) : ItemReader :=
  match r.word with
  | some cs => { r with items := ⟨cs.reverse, endsLine⟩ :: r.items, word := none, goesOn := !endsLine }
  | none =>
    if endsLine && !r.goesOn then
      match r.items with
      | i :: rest => { r with items := { i with endsLine := true } :: rest }
      | [] => r
    else r

/-- The reader after a character. -/
def step (r : ItemReader) (c : Char) : ItemReader :=
  let add := fun (r : ItemReader) => { r with word := some (c :: r.word.getD []) }
  let isBlank := c == ' ' || c == '\t'
  if r.alone.isSome then r
  else if r.escaped then { add r with escaped := false }
  else
    match r.quote with
    | some q =>
      if c = q then { r with quote := none }
      else if c = '\n' then { r with alone := some q }
      else add r
    | none =>
      if c = '\n' then r.finishWord true
      else if isBlank && (!r.byLine || r.word.isNone) then r.finishWord false
      else if c = '\\' then { r with escaped := true }
      else if c = '\'' ∨ c = '"' then { r with quote := some c, word := some (r.word.getD []) }
      else add r

/-- The words that were read and the quote that stands alone. -/
def finish (r : ItemReader) : List Item × Option Char :=
  let alone := r.alone.or r.quote
  let r := if alone.isSome then r else r.finishWord true
  (r.items.reverse, alone)

end ItemReader

/-- How words are put into commands. -/
structure Batching where
  words : Option Nat := none
  lines : Option Nat := none
  /-- The greatest length of a command. -/
  size : Nat := 131072
  /-- The text that a word takes the place of. -/
  hole : Option Octets := none
  tells : Bool := false

/-- A text with another one in the place of a part of it. -/
def filledIn (hole word : Octets) : Nat → Octets → Octets
  | 0, text => text
  | _, [] => []
  | fuel + 1, c :: cs =>
    if !hole.isEmpty && hole.isPrefixOf (c :: cs) then
      word ++ filledIn hole word fuel ((c :: cs).drop hole.length)
    else c :: filledIn hole word fuel cs

/-- The words for the next command, those before in reverse, and those that are left. -/
def Batching.next (b : Batching) (start : Nat) :
    List Octets → Nat → Nat → List Item → List Octets × List Item
  | done, _, _, [] => (done.reverse, [])
  | done, lines, size, i :: rest =>
    let size := size + i.text.length + 1
    if !done.isEmpty && b.size < start + size then (done.reverse, i :: rest)
    else
      let done := i.text :: done
      let lines := if i.endsLine then lines + 1 else lines
      if b.words = some done.length || b.lines = some lines then (done.reverse, rest)
      else b.next start done lines size rest

/-- Runs a command of `xargs`, and gives its status, or ends. -/
def runBatch (run : Runner) (b : Batching) (command : List Octets) : Tool Nat := do
  let name := command.headD []
  if b.tells then say (" ".intercalate (command.map nameText) ++ "\n")
  match ← act (launchOf name (command.drop 1)) with
  | .error e => refuse (failedStatus e) (shown name ++ ": " ++ e.words)
  | .ok l =>
    let e ← act (inChild do
      attach 0 (← newStream (.device .null))
      run.program l)
    match e with
    | .code 0 => return 0
    | .code 255 => refuse 124 (shown name ++ ": exited with status 255; aborting")
    | .code _ => return 123
    | .signal n => refuse 125 (shown name ++ ": terminated by signal " ++ shown (Octets.ofNat n))

/-- Runs a command for words, as many of them at a time as belong together. -/
def runBatches (run : Runner) (b : Batching) (command : List Octets) :
    Nat → Nat → List Item → Tool Nat
  | 0, status, _ => return status
  | _, status, [] => return status
  | fuel + 1, status, items => do
    match b.hole, items with
    | some hole, i :: rest =>
      let filled := command.map fun text => filledIn hole i.text (text.length + 1) text
      let n ← runBatch run b filled
      runBatches run b command fuel (max status n) rest
    | _, items =>
      let start := command.foldl (fun n a => n + a.length + 1) 0
      let (words, rest) := b.next start [] 0 0 items
      let n ← runBatch run b (command ++ words)
      runBatches run b command fuel (max status n) rest

/-- The number that an option of `xargs` gives. -/
def batchNumber (key : String) (g : Given) : Tool (Option Nat) := do
  match g.text? key with
  | none => return none
  | some text =>
    match Octets.toInt? text with
    | none =>
      misused 1 ("invalid number \"" ++ shown text ++ "\" for -" ++ key ++ " option")
    | some n =>
      if n < 1 then
        misused 1 ("value " ++ shown text ++ " for -" ++ key ++ " option should be >= 1")
      return some n.toNat

/-- The separator that a text gives. -/
def separatorOf (text : Octets) : Char :=
  match text with
  | ['\\', 'n'] => '\n'
  | ['\\', 't'] => '\t'
  | ['\\', '0'] => '\x00'
  | c :: _ => c
  | [] => '\n'

/-- Starts a program with the words of the input. -/
def xargsTool (run : Runner) (args : List Octets) : Tool Nat := do
  let g ← OptionRules.read { ordered := true, forms := [plain "0" "null", taking "a" "arg-file",
    taking "d" "delimiter", taking "E" "", { letters := ['e'], word := "eof", follows := .maybe },
    taking "I" "", { letters := ['i'], word := "replace", follows := .maybe }, taking "L" "",
    { letters := ['l'], word := "max-lines", follows := .maybe }, taking "n" "max-args",
    plain "o" "open-tty", plain "p" "interactive", taking "P" "max-procs",
    plain "r" "no-run-if-empty", taking "s" "max-chars", plain "t" "verbose", plain "x" "exit"] } args
  let words ← batchNumber "n" g
  let lines ← batchNumber "L" g
  let size ← batchNumber "s" g
  let hole := match g.last? ["I", "i"] with
    | none => none
    | some key => some ((g.text? key).getD "\x7b\x7d".toList)
  let last := g.last? ["I", "i", "n", "L"]
  let hole := if last = some "I" || last = some "i" then hole else none
  let b : Batching := {
    words := if last = some "n" then words else none
    lines := if last = some "L" then lines else none
    size := size.getD 131072, hole, tells := g.has "t" }
  let source := (g.text? "a").getD ['-']
  let (text, cut) ← match ← drainOperand source with
    | .ok read => pure read
    | .error e => refuse 1 ("Cannot open input file " ++ textInQuotes source ++ ": " ++ e.words)
  let separator := if g.has "0" then some '\x00' else (g.text? "d").map separatorOf
  let (items, alone) := match separator with
    | some c => ((linesOf c text).map fun text => ({ text, endsLine := true } : Item), none)
    | none => (text.foldl ItemReader.step { byLine := hole.isSome }).finish
  let items := match g.text? "E" with
    | some stop => items.takeWhile fun (i : Item) => i.text ≠ stop
    | none => items
  let command := if g.operands.isEmpty then ["echo".toList] else g.operands
  if cut then starve
  match alone with
  | some q =>
    refuse 1 ("unmatched " ++ (if q = '\'' then "single" else "double") ++
      " quote; by default quotes are special to xargs unless you use the -0 option")
  | none =>
    if items.isEmpty then
      if (g.has "r") || hole.isSome then return 0 else runBatch run b command
    else runBatches run b command (items.length + 1) 0 items

end KctlProbe.Sandbox.Tool
