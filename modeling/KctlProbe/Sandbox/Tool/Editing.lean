import KctlProbe.Sandbox.Tool.Editing.Reader

/-!
# The stream editor

`sed` reads lines into its pattern space, does the commands of its script with each, and writes what
they make of it.
-/

namespace KctlProbe.Sandbox.Tool

/-- What is written behind the pattern space. -/
inductive Appended where
  | text (cs : Octets)
  | file (path : Octets)

/-- What the stream editor is started with. -/
structure EditPlan where
  commands : Array EditCommand
  /-- Where the script ends. -/
  endOfScript : String
  quiet : Bool := false
  /-- Whether every file is edited on its own. -/
  separate : Bool := false
  /-- What is put behind the name of a file that is kept when it is changed, if files are changed. -/
  inPlace : Option Octets := none
  ending : Char := '\n'
  /-- The length of a line that is shown. -/
  width : Nat := 70

/-- The state of the stream editor. -/
structure Editor where
  space : Octets := []
  /-- Whether the line that was read last had its end. -/
  ended : Bool := true
  held : Octets := []
  /-- Whether the line that was put aside had its end. -/
  heldEnded : Bool := true
  line : Nat := 0
  /-- Whether something was replaced since the last line was read. -/
  replaced : Bool := false
  appended : List Appended := []
  /-- The ranges of lines that have started, by the places of their commands, each with its last line
  if that is known. -/
  ranges : List (Nat × Option Nat) := []
  /-- The expression that was used last. -/
  lastRegex : Option Regex := none
  /-- The lines of the current file that were not read yet, and whether more would have come. -/
  lines : List Octets := []
  cut : Bool := false
  /-- The current file, and those behind it. -/
  path : Octets := ['-']
  files : List Octets
  /-- The files that commands write to, and those that commands read line by line. -/
  outputs : List (Octets × Nat) := []
  sources : List (Octets × List Octets) := []
  /-- The outputs whose last line was written without its end. The empty path is the output of the
  tool. -/
  openLines : List Octets := []
  /-- What was written for the current file if it is changed, the last piece first. -/
  changed : List Octets := []
  changing : Bool := false
  status : Nat := 0

/-- A step of the stream editor. -/
abbrev Edit := StateT Editor Tool

namespace Edit

/-! ## Output -/

/-- Writes to an output. -/
def send (output : Octets) (data : Octets) : Edit Unit := do
  let s ← get
  match s.outputs.lookup output with
  | some stream =>
    let _ ← (act (writeStream stream data) : Tool _)
  | none =>
    if s.changing then set { s with changed := data :: s.changed }
    else (put data : Tool Unit)

/-- Writes a text to an output, after the end of the line before if that is missing. -/
def sendText (plan : EditPlan) (output : Octets) (data : Octets) (ends : Bool) : Edit Unit := do
  let s ← get
  let missing := if s.openLines.contains output then [plan.ending] else []
  send output (missing ++ data ++ if ends then [plan.ending] else [])
  modify fun s =>
    let others := s.openLines.filter (· ≠ output)
    { s with openLines := if ends then others else output :: others }

/-- Writes the pattern space, or a part of it, to an output. -/
def sendLine (plan : EditPlan) (output : Octets) (data : Octets) : Edit Unit := do
  sendText plan output data (← get).ended

/-- Writes a text that has its end. -/
def sendWhole (plan : EditPlan) (data : Octets) : Edit Unit := do
  let s ← get
  let missing := if s.openLines.contains [] then [plan.ending] else []
  send [] (missing ++ data)
  modify fun s => { s with openLines := s.openLines.filter (· ≠ []) }

/-- Writes what commands have put behind the pattern space. -/
def sendAppended (plan : EditPlan) : Edit Unit := do
  let queue := (← get).appended
  modify fun s => { s with appended := [] }
  for a in queue do
    match a with
    | .text data => sendWhole plan data
    | .file path =>
      match ← (drainOperand path : Tool _) with
      | .ok (data, _) => unless data.isEmpty do sendWhole plan data
      | .error _ => pure ()

/-! ## Input -/

/-- Writes what was made of the current file in its place. -/
def finishFile (plan : EditPlan) : Edit Unit := do
  let s ← get
  match plan.inPlace with
  | none => pure ()
  | some suffix =>
    if s.changing then
      let data := s.changed.reverse.flatten
      set { s with changed := [], changing := false, openLines := s.openLines.filter (· ≠ []) }
      unless suffix.isEmpty do
        match ← (drainOperand s.path : Tool _) with
        | .ok (old, _) =>
          let copy := if '*' ∈ suffix then
              let name := lastName s.path
              aroundName s.path ++ '/' :: suffix.flatMap fun c => if c = '*' then name else [c]
            else s.path ++ suffix
          match ← (act (openToWrite copy false) : Tool _) with
          | .ok i => let _ ← (act (writeStream i old) : Tool _)
          | .error _ => pure ()
        | .error _ => pure ()
      match ← (act (openToWrite s.path false) : Tool _) with
      | .ok i => let _ ← (act (writeStream i data) : Tool _)
      | .error _ => pure ()

/-- Opens the next files until one has a line, and says whether there is one. -/
def openNext (plan : EditPlan) : Nat → Edit Bool
  | 0 => return false
  | fuel + 1 => do
    let s ← get
    if !s.lines.isEmpty then return true
    if s.cut then
      sendAppended plan
      (starve : Tool Unit)
    finishFile plan
    match s.files with
    | [] => return false
    | path :: files =>
      set { (← get) with files, path, line := if plan.separate then 0 else s.line }
      let isFile ← match ← (act (find path) : Tool _) with
        | .ok i => pure ((← (act getFiles : Tool _)).node i).isFile
        | .error _ => pure true
      if plan.inPlace.isSome && !isFile then
        (warn ("couldn't edit " ++ shown path ++ ": not a regular file") : Tool Unit)
        modify fun s => { s with status := 4 }
        openNext plan fuel
      else
        match ← (openOperand path : Tool _) with
        | .error e =>
          (warn ("can't read " ++ shown path ++ ": " ++ e.words) : Tool Unit)
          modify fun s => { s with status := 2 }
          openNext plan fuel
        | .ok i =>
          match ← (act (drainStream i) : Tool _) with
          | .error e =>
            (refuse 4 ("read error on " ++ shown path ++ ": " ++ e.words) : Tool Bool)
          | .ok (text, cut) =>
            let parts := linesOf plan.ending text
            let whole := text.getLast? = some plan.ending
            let lines := (parts.zipIdx 1).map fun (l, n) =>
              if n = parts.length && !whole then l else l ++ [plan.ending]
            let lines := if cut && !whole then lines.dropLast else lines
            modify fun s => { s with lines, cut, changing := plan.inPlace.isSome }
            openNext plan fuel

/-- The files that are left, and one more. -/
def filesLeft : Edit Nat :=
  return (← get).files.length + 2

/-- Whether there is no line behind the current one. -/
def isLast (plan : EditPlan) : Edit Bool := do
  let s ← get
  if !s.lines.isEmpty then return false
  if s.cut then (starve : Tool Unit)
  if plan.separate then return true
  return !(← openNext plan (← filesLeft))

/-- Reads the next line into the pattern space, or behind it, and says whether there was one. -/
def readLine (plan : EditPlan) (appends : Bool) : Edit Bool := do
  sendAppended plan
  modify fun s => { s with replaced := false }
  if !(← openNext plan (← filesLeft)) then return false
  let s ← get
  match s.lines with
  | [] => return false
  | l :: lines =>
    let ended := l.getLast? = some plan.ending
    let text := if ended then l.dropLast else l
    set { s with
      lines, ended, line := s.line + 1
      space := if appends then s.space ++ plan.ending :: text else text }
    return true

/-! ## Commands -/

/-- The expression that is meant, which is the last one that was used if none is given. -/
def regexOf (plan : EditPlan) (r : Option Regex) : Edit Regex := do
  match r.or (← get).lastRegex with
  | some r =>
    modify fun s => { s with lastRegex := some r }
    return r
  | none => (refuse 1 (plan.endOfScript ++ ": no previous regular expression") : Tool Regex)

/-- Whether a line is at an address. -/
def isAt (plan : EditPlan) (a : EditAddress) : Edit Bool := do
  let s ← get
  match a with
  | .line n => return s.line == n
  | .every first step => return first ≤ s.line && (s.line - first) % step == 0
  | .last => isLast plan
  | .found r => return ((← regexOf plan r).search? (.start s.space)).isSome
  | .after _ | .multiple _ => return false

/-- The last line of a range that starts now, if its number is known. -/
def rangeEnd (line : Nat) (a : EditAddress) : Option Nat :=
  match a with
  | .line n => some n
  | .after n => some (line + n)
  | .multiple n => some (if n = 0 then line else (line + n - 1) / n * n)
  | _ => none

/-- Whether a command is for the current line. -/
def isSelected (plan : EditPlan) (place : Nat) (c : EditCommand) : Edit Bool := do
  match c.first, c.second with
  | none, _ => return true
  | some a, none => isAt plan a
  | some a, some b =>
    let s ← get
    let close := modify fun (s : Editor) => { s with ranges := s.ranges.filter (·.1 ≠ place) }
    match s.ranges.lookup place with
    | none =>
      if !(← isAt plan a) then return false
      let stop := rangeEnd s.line b
      unless stop.any (· ≤ s.line) do
        modify fun s => { s with ranges := (place, stop) :: s.ranges }
      return true
    | some (some stop) =>
      if stop ≤ s.line then close
      if s.line ≤ stop then return true else isAt plan a
    | some none =>
      if ← isAt plan b then close
      return true

/-- Whether the range of a command has not ended. -/
def isOpen (place : Nat) : Edit Bool :=
  return (← get).ranges.any (·.1 = place)

/-- A text with the case of its letters changed: that of the first one, and that of the others. -/
def recased (first : Option LetterCase) (others : LetterCase) (cs : Octets) : Octets :=
  let change := fun (k : LetterCase) (c : Char) =>
    match k with
    | .asIs => c
    | .upper => c.toUpper
    | .lower => c.toLower
  match first, cs with
  | some k, c :: rest => change k c :: rest.map (change others)
  | _, cs => cs.map (change others)

/-- What takes the place of a match. -/
def replacementFor (parts : List ReplacementPart) (whole : Octets) (groups : List (Nat × Octets)) :
    Octets :=
  let step := fun ((done, mode, once) : Octets × LetterCase × Option LetterCase) (p : ReplacementPart) =>
    let add := fun (cs : Octets) =>
      (done ++ recased once mode cs, mode, if cs.isEmpty then once else none)
    match p with
    | .text cs => add cs
    | .group 0 => add whole
    | .group n => add ((groups.lookup n).getD [])
    | .letters k => (done, k, none)
    | .letter k => (done, mode, some k)
  (parts.foldl step ([], .asIs, none)).1

/-- A text with matches replaced, what came before in reverse, and whether there was one. `last` is
where the match before ended. -/
def replaced (s : Substitution) (r : Regex) :
    Nat → Nat → Option Nat → Octets → Bool → Cursor → Octets × Bool
  | 0, _, _, done, found, c => (done.reverse ++ c.rest, found)
  | fuel + 1, count, last, done, found, c =>
    match r.search? c with
    | none => (done.reverse ++ c.rest, found)
    | some (a, b) =>
      let done := (c.upTo a).reverse ++ done
      let empty := a.place = b.place
      let touches := empty && last = some a.place
      let step := fun (count : Nat) (done : Octets) (found : Bool) =>
        if !empty then replaced s r fuel count (some b.place) done found { b with groups := [] }
        else
          match b.rest, b.next? with
          | d :: _, some n => replaced s r fuel count (some b.place) (d :: done) found { n with groups := [] }
          | _, _ => (done.reverse, found)
      if touches then step count done found
      else if count + 1 < s.number then step (count + 1) ((a.upTo b).reverse ++ done) found
      else
        let done := (replacementFor s.replacement (a.upTo b) b.groups).reverse ++ done
        if s.all then step (count + 1) done true else (done.reverse ++ b.rest, true)

/-- A character of a line that is shown. -/
def shownChar (c : Char) : Octets :=
  if c = '\\' then "\\\\".toList
  else if isPrintable c then [c]
  else escapedControl c

/-- A line with its special characters made visible, in parts of a length. -/
def shownLine (width : Nat) (cs : Octets) : Octets :=
  let (done, _) := (cs.map shownChar).foldl (fun ((done, column) : Octets × Nat) part =>
    if 0 < width && width - 1 < column + part.length then
      (part.reverse ++ '\n' :: '\\' :: done, part.length)
    else (part.reverse ++ done, column + part.length)) ([], 0)
  done.reverse ++ ['$', '\n']

/-- How the editor goes on after a command. -/
inductive Flow where
  | goOn (place : Nat)
  /-- The end of the script, after which the pattern space is written if `prints` holds. -/
  | finish (prints : Bool)
  /-- The script starts again without another line. -/
  | restart
  | quit (prints : Bool) (status : Nat)

/-- The place of a label. -/
def placeOf (plan : EditPlan) (name : Octets) : Nat :=
  if name.isEmpty then plan.commands.size
  else (plan.commands.findIdx? fun c =>
    match c.action with
    | .label l => l = name
    | _ => false).getD plan.commands.size

/-- The part of the pattern space before its first end of a line. -/
def firstPart (plan : EditPlan) (cs : Octets) : Octets :=
  cs.takeWhile (· ≠ plan.ending)

/-- Does what a command says. -/
def perform (plan : EditPlan) (place : Nat) (a : EditAction) (hasRange : Bool) : Edit Flow := do
  let s ← get
  let goOn := (pure (.goOn (place + 1)) : Edit Flow)
  match a with
  | .block _ | .endBlock | .label _ | .nothing => goOn
  | .append text =>
    set { s with appended := s.appended ++ [Appended.text text] }
    goOn
  | .insert text =>
    sendWhole plan text
    goOn
  | .change text =>
    unless hasRange && (← isOpen place) do sendWhole plan text
    return .finish false
  | .jump l => return .goOn (placeOf plan l)
  | .jumpIf wanted l =>
    if s.replaced then set { s with replaced := false }
    return .goOn (if s.replaced = wanted then placeOf plan l else place + 1)
  | .delete => return .finish false
  | .deleteFirst =>
    if plan.ending ∈ s.space then
      set { s with space := s.space.drop ((firstPart plan s.space).length + 1) }
      return .restart
    else return .finish false
  | .fileName =>
    sendWhole plan (s.path ++ ['\n'])
    goOn
  | .getHeld appends =>
    if appends then
      set { s with space := s.space ++ plan.ending :: s.held, ended := s.ended || s.heldEnded }
    else set { s with space := s.held, ended := s.heldEnded }
    goOn
  | .hold appends =>
    if appends then
      set { s with held := s.held ++ plan.ending :: s.space, heldEnded := s.heldEnded || s.ended }
    else set { s with held := s.space, heldEnded := s.ended }
    goOn
  | .show width =>
    sendWhole plan (shownLine (width.getD plan.width) s.space)
    goOn
  | .next =>
    if ← isLast plan then return .quit true 0
    unless plan.quiet do sendLine plan [] s.space
    if ← readLine plan false then goOn else return .quit false 0
  | .nextAppended =>
    if ← isLast plan then return .quit true 0
    if ← readLine plan true then goOn else return .quit true 0
  | .print =>
    sendLine plan [] s.space
    goOn
  | .printFirst =>
    sendText plan [] (firstPart plan s.space) true
    goOn
  | .quit prints status => return .quit prints status
  | .readFile path =>
    set { s with appended := s.appended ++ [Appended.file path] }
    goOn
  | .readLine path =>
    let lines ← match s.sources.lookup path with
      | some lines => pure lines
      | none => do
        match ← (drainOperand path : Tool _) with
        | .ok (text, _) => pure (linesOf plan.ending text)
        | .error _ => pure []
    match lines with
    | [] => set { s with sources := (path, []) :: s.sources.filter (·.1 ≠ path) }
    | l :: rest =>
      set { s with
        sources := (path, rest) :: s.sources.filter (·.1 ≠ path)
        appended := s.appended ++ [Appended.text (l ++ [plan.ending])] }
    goOn
  | .replace sub =>
    let r ← regexOf plan sub.pattern
    let (text, found) := replaced sub r (2 * s.space.length + 2) 0 none [] false (.start s.space)
    if found then
      modify fun s => { s with space := text, replaced := true }
      if sub.prints then sendLine plan [] text
      match sub.file with
      | some path => sendLine plan path text
      | none => pure ()
    goOn
  | .write path =>
    sendLine plan path s.space
    goOn
  | .writeFirst path =>
    sendText plan path (firstPart plan s.space) true
    goOn
  | .exchange =>
    set { s with space := s.held, held := s.space, ended := s.heldEnded, heldEnded := s.ended }
    goOn
  | .translate table =>
    set { s with space := s.space.map fun c => (table.lookup c).getD c }
    goOn
  | .clear =>
    set { s with space := [] }
    goOn
  | .number =>
    sendWhole plan (Octets.ofNat s.line ++ ['\n'])
    goOn

/-- Does one command if it is for the current line. -/
def step (plan : EditPlan) (place : Nat) : Edit Flow := do
  match plan.commands[place]? with
  | none => return .finish true
  | some c =>
    if (← isSelected plan place c) != c.negated then
      perform plan place c.action (c.second.isSome && !c.negated)
    else
      match c.action with
      | .block stop => return .goOn (stop + 1)
      | _ => return .goOn (place + 1)

/-- Writes what is left of a cycle. -/
def endCycle (plan : EditPlan) (prints : Bool) : Edit Unit := do
  if prints && !plan.quiet then sendLine plan [] (← get).space
  sendAppended plan

end Edit

/-- Where the stream editor goes on: with a new line, or with a command. -/
inductive EditTurn where
  | line
  | command (place : Nat)

/-- Edits until no line is left or the script says so. -/
def runEditor (plan : EditPlan) (start : Editor) : Tool Nat := do
  iterate (fun ((s, turn) : Editor × EditTurn) => do
    let leave := fun (s : Editor) (status : Option Nat) => do
      let (_, s) ← (Edit.finishFile plan).run s
      return (.inr (status.getD s.status) : (Editor × EditTurn) ⊕ Nat)
    match turn with
    | .line =>
      match ← (Edit.readLine plan false).run s with
      | (true, s) => return .inl (s, .command 0)
      | (false, s) => leave s none
    | .command place =>
      match ← (Edit.step plan place).run s with
      | (.goOn next, s) => return .inl (s, .command next)
      | (.finish prints, s) =>
        let (_, s) ← (Edit.endCycle plan prints).run s
        return .inl (s, .line)
      | (.restart, s) =>
        let (_, s) ← (Edit.sendAppended plan).run s
        return .inl (s, .command 0)
      | (.quit prints status, s) =>
        let (_, s) ← (Edit.endCycle plan prints).run s
        leave s (if status = 0 then none else some status))
    1000000000 (start, .line)

/-- The address of a page. -/
def pageAddress (page : String) : String :=
  "<https:" ++ "//" ++ page ++ ">"

/-- How the stream editor is used. -/
def editUsage (tool : String) : String :=
  "Usage: " ++ tool ++ " [OPTION]... \x7bscript-only-if-no-other-script\x7d [input-file]...\n\n" ++
  "  -n, --quiet, --silent\n" ++
  "                 suppress automatic printing of pattern space\n" ++
  "      --debug\n" ++
  "                 annotate program execution\n" ++
  "  -e script, --expression=script\n" ++
  "                 add the script to the commands to be executed\n" ++
  "  -f script-file, --file=script-file\n" ++
  "                 add the contents of script-file to the commands to be executed\n" ++
  "  --follow-symlinks\n" ++
  "                 follow symlinks when processing in place\n" ++
  "  -i[SUFFIX], --in-place[=SUFFIX]\n" ++
  "                 edit files in place (makes backup if SUFFIX supplied)\n" ++
  "  -l N, --line-length=N\n" ++
  "                 specify the desired line-wrap length for the `l' command\n" ++
  "  --posix\n" ++
  "                 disable all GNU extensions.\n" ++
  "  -E, -r, --regexp-extended\n" ++
  "                 use extended regular expressions in the script\n" ++
  "                 (for portability use POSIX -E).\n" ++
  "  -s, --separate\n" ++
  "                 consider files as separate rather than as a single,\n" ++
  "                 continuous long stream.\n" ++
  "      --sandbox\n" ++
  "                 operate in sandbox mode (disable e/r/w commands).\n" ++
  "  -u, --unbuffered\n" ++
  "                 load minimal amounts of data from the input files and flush\n" ++
  "                 the output buffers more often\n" ++
  "  -z, --null-data\n" ++
  "                 separate lines by NUL characters\n" ++
  "      --help     display this help and exit\n" ++
  "      --version  output version information and exit\n\n" ++
  "If no -e, --expression, -f, or --file option is given, then the first\n" ++
  "non-option argument is taken as the sed script to interpret.  All\n" ++
  "remaining arguments are names of input files; if no input files are\n" ++
  "specified, then the standard input is read.\n\n" ++
  "GNU sed home page: " ++ pageAddress "www.gnu.org/software/sed/" ++ ".\n" ++
  "General help using GNU software: " ++ pageAddress "www.gnu.org/gethelp/" ++ ".\n"

/-- The options of the stream editor. -/
def editForms : List OptionForm := [
  plain "n" "quiet", plain "n" "silent", taking "e" "expression", taking "f" "file",
  plain "Er" "regexp-extended", { letters := ['i'], word := "in-place", follows := .maybe },
  taking "l" "line-length", plain "s" "separate", plain "u" "unbuffered", plain "z" "null-data",
  plain "" "posix", plain "" "debug", plain "" "sandbox", plain "b" "binary", plain "" "follow-symlinks"]

/-- Reads the parts of a script, which are named by their options. -/
def readScript (start : EditReading) (parts : List (String × Option Octets)) : Tool EditReading := do
  let (s, _) ← parts.foldlM (fun ((s, n) : EditReading × Nat) (key, text) => do
    let text := text.getD []
    let (content, source, n) ← if key = "e" then pure (text, EditSource.expression (n + 1), n + 1) else
      match ← drainOperand text with
      | .ok (content, _) => pure (content, EditSource.file text, n)
      | .error e => refuse 4 ("couldn't open file " ++ shown text ++ ": " ++ e.words)
    let fuel := content.length + 1
    let ((), s) ← (do ReadEdit.resume; ReadEdit.commands fuel : ReadEdit Unit).run
      { s with text := content, source, place := 0, line := 1 }
    return ({ s with isFirst := false }, n)) (start, 0)
  match s.blocks with
  | [] => return s
  | (_, source, line) :: _ => refuse 1 (source.position 0 line ++ ": unmatched `\x7b'")

/-- Checks that every label to which a command jumps is there. -/
def checkLabels (commands : List EditCommand) : Tool Unit := do
  for c in commands do
    match c.goal? with
    | some goal =>
      let found := goal.isEmpty || commands.any fun d =>
        match d.action with
        | .label l => l = goal
        | _ => false
      unless found do refuse 4 ("can't find label for jump to `" ++ shown goal ++ "'")
    | none => pure ()

/-- Edits lines. -/
def sedTool (args : List Octets) : Tool Nat := do
  let usage := editUsage (← name)
  let g ← OptionRules.read { usage := some usage, forms := editForms } args
  let given := g.options.filter fun (key, _) => key = "e" || key = "f"
  let (parts, operands) ← if !given.isEmpty then pure (given, g.operands) else
    match g.operands with
    | [] => do
      say usage
      quit 1
    | script :: rest => pure ([("e", some script)], rest)
  let s ← readScript
    { text := [], source := .expression 0, extended := g.has "E", confined := g.has "sandbox" } parts
  let commands := s.commands.reverse
  checkLabels commands
  let plan : EditPlan := {
    commands := commands.toArray
    endOfScript := s.source.position 0 s.line
    quiet := g.has "n" || s.quiet
    separate := g.has "s" || g.has "i"
    inPlace := if g.has "i" then some ((g.text? "i").getD []) else none
    ending := if g.has "z" then '\x00' else '\n'
    width := match g.text? "l" with
      | none => 70
      | some text => numberOf 10 (text.takeWhile Char.isDigit) }
  let outputs ← (commands.filterMap EditCommand.output?).eraseDups.mapM fun path => do
    match ← act (openToWrite path false) with
    | .ok i => return (path, i)
    | .error e => refuse 4 ("couldn't open file " ++ shown path ++ ": " ++ e.words)
  let started := commands.zipIdx.filterMap fun (c, i) =>
    match c.first, c.second with
    | some (.line 0), some _ => some (i, none)
    | _, _ => none
  if plan.inPlace.isSome && operands.isEmpty then refuse 4 "no input files"
  runEditor plan { files := orInput operands, outputs, ranges := started }

end KctlProbe.Sandbox.Tool
