import KctlProbe.Sandbox.Regex.Reader
import KctlProbe.Sandbox.Tool.Copying
import KctlProbe.Sandbox.Tool.Width

/-!
# Searching

`grep` writes the lines of files in which one of some patterns is found, or what is found in them.
-/

namespace KctlProbe.Sandbox.Tool

/-- What is searched for, and what is written of it. -/
structure Search where
  patterns : List Regex
  wholeLines : Bool := false
  wholeWords : Bool := false
  /-- Whether lines are meant in which nothing is found. -/
  inverted : Bool := false
  counts : Bool := false
  /-- Whether the names of files are written in which something is found, or of the others. -/
  lists : Option Bool := none
  quiet : Bool := false
  silent : Bool := false
  onlyMatches : Bool := false
  numbers : Bool := false
  offsets : Bool := false
  named : Bool := false
  /-- The greatest number of lines that are written of a file. -/
  most : Option Nat := none
  before : Nat := 0
  after : Nat := 0
  /-- Whether a file with zero bytes is a text. -/
  anyText : Bool := false
  ending : Char := '\n'
  label : Octets := "(standard input)".toList
  /-- Whether what ends a name is a zero byte. -/
  zeroNames : Bool := false
  /-- Whether names are written without the working directory in front. -/
  shortNames : Bool := false

namespace Search

/-- The longest match of one of the patterns at a place that is as whole as it has to be. -/
def matchAt? (s : Search) (c : Cursor) : Option Cursor :=
  let isWhole := fun (d : Cursor) =>
    (!s.wholeLines || (c.before.isNone && d.rest.isEmpty)) &&
      (!s.wholeWords || (!c.before.any isWordChar && !d.rest.head?.any isWordChar))
  let ends := (s.patterns.flatMap fun r => r.ends c).filter isWhole
  ends.foldl (fun best d =>
    match best with
    | some b => if b.place < d.place then some d else best
    | none => some d) none

/-- The first match from a place on. -/
def matchFrom? (s : Search) : Nat → Cursor → Option (Cursor × Cursor)
  | 0, _ => none
  | fuel + 1, c =>
    match s.matchAt? c with
    | some d => some (c, d)
    | none => if s.wholeLines then none else c.next?.bind (matchFrom? s fuel)

/-- The matches in a line that are not empty, those before with the last one first. -/
def matchesFrom (s : Search) : Nat → List (Nat × Octets) → Cursor → List (Nat × Octets)
  | 0, done, _ => done.reverse
  | fuel + 1, done, c =>
    match s.matchFrom? (c.rest.length + 1) c with
    | none => done.reverse
    | some (a, b) =>
      if a.place < b.place then matchesFrom s fuel ((a.place, a.upTo b) :: done) b
      else
        match a.next? with
        | some c => matchesFrom s fuel done c
        | none => done.reverse

/-- Whether a line is one of those that are meant. -/
def selects (s : Search) (line : Octets) : Bool :=
  (s.matchFrom? (line.length + 1) (.start line)).isSome != s.inverted

/-- What stands before a line: the name of the file, the number of the line and its place, with a mark
behind each. -/
def front (s : Search) (name : Octets) (mark : Char) (number offset : Nat) : Octets :=
  (if s.named then name ++ [if s.zeroNames then '\x00' else mark] else []) ++
    (if s.numbers then Octets.ofNat number ++ [mark] else []) ++
    (if s.offsets then Octets.ofNat offset ++ [mark] else [])

/-- What is written for a line. -/
def lineText (s : Search) (name : Octets) (mark : Char) (number offset : Nat) (line : Octets) : Octets :=
  s.front name mark number offset ++ line ++ [s.ending]

/-- What is written for a line that is meant. -/
def matchText (s : Search) (name : Octets) (number offset : Nat) (line : Octets) : Octets :=
  if !s.onlyMatches then s.lineText name ':' number offset line
  else if s.inverted then []
  else
    (s.matchesFrom (2 * line.length + 2) [] (.start line)).flatMap fun (place, text) =>
      s.lineText name ':' number (offset + place) text

end Search

/-- How far a file has been searched. -/
structure Searching where
  /-- The lines before that may have to be written, the last one first. -/
  held : List (Nat × Nat × Octets) := []
  /-- The number of lines behind a match that are still written. -/
  following : Nat := 0
  /-- The number of the line that was written last, if there is one. -/
  written : Option Nat := none
  found : Nat := 0
  number : Nat := 1
  offset : Nat := 0

/-- Writes the lines of a file that are meant, and gives how far it got, what is left if it stopped
early, and whether it did. -/
def searchLines (s : Search) (name : Octets) (binary : Bool) :
    List Octets → Searching → Tool (Searching × List Octets × Bool)
  | [], g => return (g, [], false)
  | line :: rest, g => do
    let next := { g with number := g.number + 1, offset := g.offset + line.length + 1 }
    let full := s.most.any (· ≤ g.found)
    let writes := !s.counts && s.lists.isNone && !s.quiet
    if full && g.following = 0 then return (g, line :: rest, true)
    let selected := !full && s.selects line
    if selected && (s.quiet || s.lists.isSome) then return ({ next with found := g.found + 1 }, rest, true)
    else if selected && writes && binary then
      warn (shown name ++ ": binary file matches")
      return ({ next with found := g.found + 1 }, rest, true)
    else if selected && writes then
      let context := g.held.reverse.filter fun (n, _, _) => g.written.all (· < n)
      let first := (context.head?.map (·.1)).getD g.number
      let apart := (s.before ≠ 0 || s.after ≠ 0) && g.written.any (· + 1 < first) && !s.onlyMatches
      let before := if s.onlyMatches then [] else
        context.flatMap fun (n, offset, text) => s.lineText name '-' n offset text
      put ((if apart then ['-', '-', '\n'] else []) ++ before ++
        s.matchText name g.number g.offset line)
      searchLines s name binary rest
        { next with held := [], following := s.after, written := some g.number, found := g.found + 1 }
    else if selected then searchLines s name binary rest { next with found := g.found + 1 }
    else if g.following ≠ 0 && writes then
      unless s.onlyMatches do put (s.lineText name '-' g.number g.offset line)
      searchLines s name binary rest { next with following := g.following - 1, written := some g.number }
    else
      searchLines s name binary rest
        { next with held := ((g.number, g.offset, line) :: g.held).take s.before }

/-- The outcome of a search: whether something was found, and whether there was an error. -/
structure Findings where
  found : Bool := false
  failed : Bool := false

/-- Complains about a file, unless that is not wanted. -/
def Search.complain (s : Search) (f : Findings) (text : String) : Tool Findings := do
  unless s.silent do warn text
  return { f with failed := true }

/-- Searches a stream. -/
def searchStream (s : Search) (name : Octets) (stream : Nat) (f : Findings) : Tool Findings := do
  match ← act (drainStream stream) with
  | .error e => s.complain f (nameText name ++ ": " ++ e.words)
  | .ok (text, cut) =>
    let lines := linesOf s.ending text
    let partialLast := cut && text.getLast? ≠ some s.ending
    let lines := if partialLast then lines.dropLast else lines
    let binary := !s.anyText && s.ending = '\n' && '\x00' ∈ text
    let (g, rest, stopped) ← searchLines s name binary lines {}
    if cut && !stopped then starve
    if stopped && !rest.isEmpty then
      let behind := textOfLines s.ending rest
      let behind := if text.getLast? = some s.ending then behind else behind.dropLast
      match (← act get).streams[stream]? with
      | some (.file _ _ _) => act (unreadStream stream behind)
      | _ => pure ()
    let found := g.found ≠ 0
    if s.quiet then
      if found then quit 0
      return f
    if s.counts && s.lists.isNone then
      put ((if s.named then name ++ [if s.zeroNames then '\x00' else ':'] else []) ++
        Octets.ofNat g.found ++ ['\n'])
    match s.lists with
    | some wanted => if found = wanted then put (name ++ [if s.zeroNames then '\x00' else '\n'])
    | none => pure ()
    return { f with found := f.found || found }

/-- Whether a stream refers to the file that the output goes to. -/
def isOutput (i : Nat) : Tool Bool := do
  let m ← act get
  match ← act (streamOf? 1) with
  | none => return false
  | some o =>
    match m.streams[i]?, m.streams[o]? with
    | some (.file a _ _), some (.file b _ _) => return a == b && (m.world.files.node a).isFile
    | _, _ => return false

/-- What is done with directories. -/
inductive DirectoryRule where
  | read
  | skip
  | recurse
  deriving DecidableEq, Repr

/-- Searches what is at a path. -/
def searchAt (s : Search) (rule : DirectoryRule) (chosen : Octets → Bool) :
    Nat → Bool → Octets → Findings → Tool Findings
  | 0, _, _, f => return f
  | fuel + 1, top, path, f => do
    let named := if s.shortNames && !top then path.drop 2 else path
    match ← act (spotOf path top) with
    | .error e => s.complain f (nameText named ++ ": " ++ e.words)
    | .ok spot =>
      let files ← act getFiles
      match spot.node with
      | none => s.complain f (nameText named ++ ": " ++ Errno.noEntry.words)
      | some i =>
        let n := files.node i
        if n.isDirectory then
          match rule with
          | .skip => return f
          | .read => s.complain f (nameText named ++ ": " ++ Errno.isDirectory.words)
          | .recurse =>
            if !n.allows 4 then s.complain f (nameText named ++ ": " ++ Errno.denied.words)
            else
              (files.names i).foldlM (fun f name => do
                let child := if path.getLast? = some '/' then path ++ name else path ++ '/' :: name
                searchAt s rule chosen fuel false child f) f
        else if !top && !(n.isFile && chosen path) then return f
        else
          match ← act (openToRead path) with
          | .error e => s.complain f (nameText named ++ ": " ++ e.words)
          | .ok stream =>
            let writes := !s.counts && s.lists.isNone && !s.quiet && s.most ≠ some 1
            if writes && (← isOutput stream) then
              s.complain f ("input file " ++ textInQuotes named ++ " is also the output")
            else searchStream s named stream f

/-- The regular expression of a fixed text. -/
def fixedRegex (d : Dialect) (text : Octets) : Regex :=
  text.foldr (fun c r => .cat (d.char c) r) .empty

/-- How `grep` is used. -/
def searchUsage (name : String) : String :=
  "Usage: " ++ name ++ " [OPTION]... PATTERNS [FILE]...\nTry '" ++ name ++
    " --help' for more information.\n"

/-- The options of `grep`. -/
def searchForms : List OptionForm :=
  [taking "A" "after-context", taking "B" "before-context", taking "C" "context", plain "E" "extended-regexp",
    plain "F" "fixed-strings", plain "G" "basic-regexp", plain "P" "perl-regexp", plain "H" "with-filename",
    plain "h" "no-filename", plain "I" "", plain "L" "files-without-match", plain "T" "initial-tab",
    plain "U" "binary", plain "u" "unix-byte-offsets", plain "V" "version", plain "Z" "null", plain "a" "text",
    plain "b" "byte-offset", plain "c" "count", taking "d" "directories", taking "D" "devices",
    taking "e" "regexp", taking "f" "file", plain "iy" "ignore-case", plain "l" "files-with-matches",
    taking "m" "max-count", plain "n" "line-number", plain "o" "only-matching", plain "q" "quiet",
    plain "q" "silent", plain "r" "recursive", plain "R" "dereference-recursive", plain "s" "no-messages",
    plain "v" "invert-match", plain "w" "word-regexp", plain "x" "line-regexp", plain "z" "null-data",
    taking "" "include", taking "" "exclude", taking "" "exclude-dir", taking "" "label",
    plain "" "line-buffered", plain "" "no-ignore-case", { word := "color", follows := .maybe },
    { word := "colour", follows := .maybe }, taking "" "binary-files"]

/-- Searches files for the patterns that a way of writing them gives. -/
def searchTool (written : Option String) (args : List Octets) : Tool Nat := do
  let usage := searchUsage (← name)
  let context := fun (text : Octets) => do
    match Octets.toNat? text with
    | some n => return n
    | none => refuse 2 (shown text ++ ": invalid context length argument")
  let notice := fun (key : String) (text : Octets) => do
    match key with
    | "A" | "B" | "C" => let _ ← context text
    | "m" => if (Octets.toInt? text).isNone then refuse 2 "invalid max count"
    | _ => pure ()
  let g ← OptionRules.read { status := 2, usage := some usage, notice, forms := searchForms }
    (numberAsOption 'C' args)
  let amount := fun (key : String) => ((g.text? key).bind Octets.toNat?)
  let fileNotRead := fun {α : Type} (path : Octets) (e : Errno) =>
    (refuse 2 (nameText path ++ ": " ++ e.words) : Tool α)
  let given ← g.options.flatMapM fun (key, text) => do
    match key with
    | "e" => return (text.getD []).split '\n'
    | "f" =>
      let path := text.getD []
      match ← drainOperand path with
      | .error e => fileNotRead path e
      | .ok (text, cut) =>
        if cut then starve
        return linesOf '\n' text
    | _ => return []
  let hasPattern := g.has "e" || g.has "f"
  let (texts, operands) ← if hasPattern then pure (given, g.operands) else
    match g.operands with
    | [] => do
      say usage
      quit 2
    | text :: rest => pure (text.split '\n', rest)
  let way := (g.last? ["E", "F", "G", "P"]).or written
  let dialect : Dialect := {
    extended := way = some "E" || way = some "P", lenient := true, folded := g.has "i" }
  let patterns ← texts.mapM fun text => do
    if way = some "F" then return fixedRegex dialect text
    else
      match dialect.read text with
      | .error e => refuse 2 e.words
      | .ok (r, _, idle) =>
        for op in idle do warn ("warning: " ++ op ++ " at start of expression")
        return r
  let recursive := g.has "r" || g.has "R" || g.text? "d" = some "recurse".toList
  let rule : DirectoryRule := if recursive then .recurse
    else if g.text? "d" = some "skip".toList then .skip else .read
  let bare := recursive && operands.isEmpty
  let operands := if bare then [['.']] else orInput operands
  let named := match g.last? ["H", "h"] with
    | some key => key = "H"
    | none => 1 < operands.length || recursive
  let most := match (g.text? "m").bind Octets.toInt? with
    | some (.ofNat n) => some n
    | _ => none
  let lists := match g.last? ["l", "L"] with
    | some key => some (key = "l")
    | none => none
  let s : Search := {
    patterns, wholeLines := g.has "x", wholeWords := g.has "w" && !g.has "x", inverted := g.has "v"
    counts := g.has "c", lists, quiet := g.has "q", silent := g.has "s", onlyMatches := g.has "o"
    numbers := g.has "n", offsets := g.has "b", named, most
    before := ((amount "B").or (amount "C")).getD 0, after := ((amount "A").or (amount "C")).getD 0
    anyText := g.has "a" || g.text? "binary-files" = some "text".toList
    ending := if g.has "z" then '\x00' else '\n'
    label := (g.text? "label").getD "(standard input)".toList
    zeroNames := g.has "Z", shortNames := bare }
  let accepted := fun (key : String) (path : Octets) =>
    let last := (path.reverse.takeWhile (· ≠ '/')).reverse
    g.options.any fun (k, text) => k = key && Script.accepts (Script.elementsOf (text.getD [])) last
  let chosen := fun (path : Octets) =>
    (!g.has "include" || accepted "include" path) && !accepted "exclude" path
  if most = some 0 then return 1
  let f ← operands.foldlM (fun f path => do
    if path = ['-'] then
      match ← openOperand path with
      | .ok i => searchStream { s with named } s.label i f
      | .error e => s.complain f (shown s.label ++ ": " ++ e.words)
    else searchAt s rule chosen 4096 true path f) ({} : Findings)
  return if f.failed then 2 else if f.found then 0 else 1

/-- Searches files for basic regular expressions. -/
def grepTool : List Octets → Tool Nat := searchTool none

/-- Searches files for extended regular expressions. -/
def egrepTool (args : List Octets) : Tool Nat :=
  withReader (fun _ => "grep".toList) (searchTool (some "E") args)

/-- Searches files for texts. -/
def fgrepTool (args : List Octets) : Tool Nat :=
  withReader (fun _ => "grep".toList) (searchTool (some "F") args)

end KctlProbe.Sandbox.Tool
