import KctlProbe.Sandbox.Tool.Tree

/-!
# Tools that list files

`ls` lists what is in directories, and `stat` and `du` tell what is known about files.
-/

namespace KctlProbe.Sandbox.Tool

/-- An entry of a list. -/
structure Entry where
  name : Octets
  number : Nat
  node : Node

/-- The order of a list. -/
inductive ListOrder where
  | byName
  | byTime
  | bySize
  | byEnding
  | unordered
  deriving DecidableEq, Repr

/-- The form of a list. -/
inductive ListForm where
  | lines
  | long
  | down
  | across
  | commas
  deriving DecidableEq, Repr

/-- How a list is made. -/
structure Listing where
  all : Bool := false
  /-- Whether hidden names are listed, but not those of the directory and the one around it. -/
  almost : Bool := false
  directories : Bool := false
  recursive : Bool := false
  reversed : Bool := false
  order : ListOrder := .byName
  form : ListForm := .lines
  /-- The kinds of files that are marked behind their names: `/` for directories only, `F` for all,
  `f` for all but programs. -/
  marks : Option Char := none
  numbers : Bool := false
  blocks : Bool := false
  quoted : Bool := false
  escaped : Bool := false
  owner : Bool := true
  group : Bool := true
  follows : Bool := false
  ending : Char := '\n'

/-- The letter for the kind of a node. -/
def kindLetter (n : Node) : Char :=
  match n.content with
  | .directory _ _ => 'd'
  | .link _ => 'l'
  | .device _ => 'c'
  | _ => '-'

/-- The kind and the permissions of a node in ten characters. -/
def modeText (n : Node) : Octets :=
  kindLetter n :: permissionLetters n.mode

/-- The blocks of 1024 bytes that a node takes. -/
def blocksOf (n : Node) : Nat :=
  match n.content with
  | .link _ | .device _ => 0
  | _ => (n.size + 4095) / 4096 * 4

/-- The number of names that a node has. -/
def linksOf (files : Files) (i : Nat) : Nat :=
  let n := files.node i
  if n.isDirectory then
    2 + ((files.entries i).filter fun (_, j) => (files.node j).isDirectory).length
  else
    files.nodes.foldl (fun count n =>
      match n.content with
      | .directory _ entries => count + (entries.filter (·.2 = i)).length
      | _ => count) 0

/-- The number by which the system knows the user that files belong to. -/
def ownerOf (n : Node) : Nat :=
  if n.own then 12345 else 0

/-- The user that files belong to. -/
def ownerText (n : Node) : Octets :=
  if n.own then "12345".toList else "root".toList

namespace Listing

/-- The mark behind a name. -/
def mark (l : Listing) (n : Node) : Octets :=
  match l.marks, n.content with
  | none, _ => []
  | some _, .directory _ _ => ['/']
  | some '/', _ => []
  | some _, .link _ => ['@']
  | some c, _ => if c = 'F' && n.isFile && n.mode &&& 0o111 ≠ 0 then ['*'] else []

/-- A name as it is listed. -/
def nameOf (l : Listing) (name : Octets) : Octets :=
  let escaped := name.flatMap fun c =>
    if c = '\\' then ['\\', '\\']
    else if l.quoted && c = '"' then ['\\', '"']
    else if !l.quoted && c = ' ' then ['\\', ' ']
    else if isPrintable c then [c] else escapedControl c
  if l.quoted then '"' :: escaped ++ ['"'] else if l.escaped then escaped else name

/-- Whether one entry is listed before another. -/
def before (l : Listing) (a b : Entry) : Bool :=
  let byName := !Octets.precedes b.name a.name
  let ending := fun (name : Octets) =>
    if '.' ∈ name then '.' :: (name.reverse.takeWhile (· ≠ '.')).reverse else []
  let forward := match l.order with
    | .byName | .unordered => byName
    | .byTime => b.node.time < a.node.time || (a.node.time = b.node.time && byName)
    | .bySize => b.node.size < a.node.size || (a.node.size = b.node.size && byName)
    | .byEnding =>
      let (x, y) := (ending a.name, ending b.name)
      Octets.precedes x y || (x = y && byName)
  forward

/-- Entries in order. -/
def sort (l : Listing) (entries : List Entry) : List Entry :=
  let sorted := entries.mergeSort l.before
  if l.reversed then sorted.reverse else sorted

/-- Texts filled up to the longest of them. -/
def aligned (left : Bool) (texts : List Octets) : List Octets :=
  let width := texts.foldl (fun w t => max w t.length) 0
  texts.map fun t =>
    let gap := List.replicate (width - t.length) ' '
    if left then t ++ gap else gap ++ t

/-- Blanks from one column to another, with tabs where they fit. -/
def gapFrom : Nat → Nat → Nat → Octets
  | 0, _, _ => []
  | fuel + 1, start, stop =>
    if stop ≤ start then []
    else if (start + 1) / 8 < stop / 8 then '\t' :: gapFrom fuel (start + 8 - start % 8) stop
    else ' ' :: gapFrom fuel (start + 1) stop

/-- The width of lines. -/
def lineWidth : Nat := 80

/-- Texts in columns, read down or across. -/
def columns (down : Bool) (texts : List Octets) : Octets :=
  let count := texts.length
  let cells := texts.toArray
  let place := fun (rows cols i : Nat) => if down then i / rows else i % cols
  let widths := fun (rows cols : Nat) =>
    texts.zipIdx.foldl (fun (ws : Array Nat) (t, i) =>
      let col := place rows cols i
      let gap := if col + 1 = cols then 0 else 2
      ws.set! col (max (ws.getD col 0) (t.length + gap))) (Array.replicate cols 0)
  let fits := fun (cols : Nat) =>
    let rows := (count + cols - 1) / cols
    (widths rows cols).foldl (· + ·) 0 < lineWidth
  let cols := ((List.range (min count (lineWidth / 3))).map (· + 1)).reverse.find? fits |>.getD 1
  let rows := (count + cols - 1) / cols
  let ws := widths rows cols
  (List.range rows).flatMap fun row =>
    let members := (List.range cols).filterMap fun col =>
      let i := if down then col * rows + row else row * cols + col
      if i < count then some (col, cells.getD i []) else none
    let (line, _, _) := members.foldl (fun ((line, start, at') : Octets × Nat × Nat) (col, t) =>
      (line ++ gapFrom 200 at' start ++ t, start + ws.getD col 0, start + t.length)) ([], 0, 0)
    line ++ ['\n']

/-- Texts with commas behind them, in lines. -/
def withCommas (texts : List Octets) : Octets :=
  let (line, _) := texts.foldl (fun ((line, at') : Octets × Nat) t =>
    if line.isEmpty then (t, t.length)
    else if at' + t.length + 2 < lineWidth then (line ++ ", ".toList ++ t, at' + t.length + 2)
    else (line ++ ",\n".toList ++ t, t.length)) ([], 0)
  if line.isEmpty then [] else line ++ ['\n']

/-- The lines of a long list. -/
def longLines (l : Listing) (files : Files) (entries : List Entry) : Octets :=
  let number := fun (n : Nat) => Octets.ofNat n
  let links := aligned false (entries.map fun e => number (linksOf files e.number))
  let owners := aligned true (entries.map fun e => ownerText e.node)
  let sizes := aligned false (entries.map fun e => number e.node.size)
  let rows := (entries.zip links).zip (owners.zip sizes)
  rows.flatMap fun ((e, link), (owner, size)) =>
    let target := match e.node.content with
      | .link target => " -> ".toList ++ target
      | _ => []
    modeText e.node ++ ' ' :: link ++ ' ' :: (if l.owner then owner ++ [' '] else []) ++
      (if l.group then owner ++ [' '] else []) ++ size ++ " Jan  1 00:00 ".toList ++
      l.nameOf e.name ++ (if target.isEmpty then l.mark e.node else target) ++ ['\n']

/-- A list of entries. -/
def text (l : Listing) (files : Files) (entries : List Entry) : Octets :=
  let fronted := fun (e : Entry) =>
    (if l.numbers then Octets.ofNat (e.number + 1000000) ++ [' '] else []) ++
      (if l.blocks then Octets.ofNat (blocksOf e.node) ++ [' '] else [])
  let texts := entries.map fun e => fronted e ++ l.nameOf e.name ++ l.mark e.node
  match l.form with
  | .lines => texts.flatMap (· ++ [l.ending])
  | .long => l.longLines files entries
  | .down => if texts.isEmpty then [] else columns true texts
  | .across => if texts.isEmpty then [] else columns false texts
  | .commas => withCommas texts

/-- Lists directories, each after its path if there is more to list. -/
def directoriesFrom (l : Listing) : Nat → Bool → Bool → Nat → List (Octets × Nat) → Tool Nat
  | 0, _, _, status, _ => return status
  | _, _, _, status, [] => return status
  | fuel + 1, first, titled, status, (path, i) :: rest => do
    let files ← act getFiles
    let n := files.node i
    if !n.allows 4 then
      warn ("cannot open directory " ++ nameInQuotes path ++ ": Permission denied")
      l.directoriesFrom fuel first titled 2 rest
    else
      let hidden := fun (name : Octets) => name.head? = some '.'
      let own := if l.all then [(['.'], i), (['.', '.'], files.parent i)] else []
      let names := own ++ (files.entries i).filter fun (name, _) =>
        l.all || l.almost || !hidden name
      let entries := l.sort (names.map fun (name, j) => ⟨name, j, files.node j⟩)
      let title := if titled then (if first then [] else ['\n']) ++ path ++ ":\n".toList else []
      let total := if l.form = .long || l.blocks then
          "total ".toList ++ Octets.ofNat (entries.foldl (fun n e => n + blocksOf e.node) 0) ++ ['\n']
        else []
      put (title ++ total ++ l.text files entries)
      let inner := if l.recursive then
          (entries.filter fun e => e.node.isDirectory && e.name ≠ ['.'] && e.name ≠ ['.', '.']).map
            fun e => (below path e.name, e.number)
        else []
      l.directoriesFrom fuel false titled status (inner ++ rest)

end Listing

/-- What the options of `ls` say. -/
def listingOf (g : Given) : Listing :=
  let form := match g.last? ["1", "l", "n", "g", "o", "C", "x", "m"] with
    | some "l" | some "n" | some "g" | some "o" => .long
    | some "C" => .down
    | some "x" => .across
    | some "m" => .commas
    | some "1" => if ["l", "n", "g", "o"].any g.has then .long else .lines
    | _ => .lines
  { all := g.has "a" || g.has "f"
    almost := g.has "A"
    directories := g.has "d"
    recursive := g.has "R"
    reversed := g.has "r"
    order := match g.last? ["t", "S", "X", "U", "f", "v"] with
      | some "t" => .byTime
      | some "S" => .bySize
      | some "X" => .byEnding
      | some "U" | some "f" => .unordered
      | _ => .byName
    form
    marks := match g.last? ["p", "F", "file-type"] with
      | some "p" => some '/'
      | some "F" => some 'F'
      | some _ => some 'f'
      | none => none
    numbers := g.has "i"
    blocks := g.has "s"
    quoted := g.last? ["Q", "b", "N"] = some "Q"
    escaped := g.last? ["Q", "b", "N"] = some "b"
    owner := !g.has "g"
    group := !(g.has "o" || g.has "G")
    follows := g.has "L"
    ending := if g.has "zero" then '\x00' else '\n' }

/-- Lists files and directories. -/
def lsTool (args : List Octets) : Tool Nat := do
  let g ← OptionRules.read { status := 2, forms := [plain "a" "all", plain "A" "almost-all",
    plain "b" "escape", plain "B" "ignore-backups", plain "c" "", plain "C" "", plain "d" "directory",
    plain "D" "dired", plain "f" "", { letters := ['F'], word := "classify", follows := .nothing },
    plain "" "file-type", plain "g" "", plain "G" "no-group", plain "h" "human-readable",
    plain "H" "dereference-command-line", plain "i" "inode", plain "k" "kibibytes", plain "l" "",
    plain "L" "dereference", plain "m" "", plain "n" "numeric-uid-gid", plain "N" "literal",
    plain "o" "", plain "p" "", plain "q" "hide-control-chars", plain "Q" "quote-name",
    plain "r" "reverse", plain "R" "recursive", plain "s" "size", plain "S" "", plain "t" "",
    plain "u" "", plain "U" "", plain "v" "", plain "x" "", plain "X" "", plain "Z" "context",
    plain "1" "", taking "I" "ignore", taking "T" "tabsize", taking "w" "width",
    { word := "color", follows := .maybe }, taking "" "sort", taking "" "time", taking "" "format",
    plain "" "zero", plain "" "full-time", plain "" "group-directories-first"] } args
  let l := listingOf g
  let operands := if g.operands.isEmpty then [['.']] else g.operands
  let through := !(l.form = .long && !l.follows) || l.follows
  let seen ← operands.mapM fun path => do
    let found ← match ← nodeOf path through with
      | .error .noEntry => nodeOf path false
      | found => pure found
    match found with
    | .ok (_, i, n) => return some ({ name := path, number := i, node := n } : Entry)
    | .error e =>
      warn ("cannot access " ++ nameInQuotes path ++ ": " ++ e.words)
      return none
  let status := if seen.all Option.isSome then 0 else 2
  let entries := l.sort (seen.filterMap id)
  let isListed := fun (e : Entry) => e.node.isDirectory && !l.directories
  let plainFiles := entries.filter fun e => !isListed e
  let directories := entries.filter isListed
  let files ← act getFiles
  put (l.text files plainFiles)
  let titled := 1 < operands.length || l.recursive
  l.directoriesFrom 100000 plainFiles.isEmpty titled status (directories.map fun e => (e.name, e.number))

/-- The value of a directive of `stat`. -/
def statField (files : Files) (path : Octets) (i : Nat) (n : Node) (c : Char) : Octets :=
  match c with
  | 'a' => Nat.toDigits 8 n.mode
  | 'A' => modeText n
  | 'b' => Octets.ofNat (blocksOf n * 2)
  | 'B' => "512".toList
  | 'd' => ['1']
  | 'f' =>
    let kind : Nat := match kindLetter n with
      | 'd' => 0o040000
      | 'l' => 0o120000
      | 'c' => 0o020000
      | _ => 0o100000
    Nat.toDigits 16 (kind + n.mode)
  | 'F' => (kindText n).toList
  | 'g' | 'u' => Octets.ofNat (ownerOf n)
  | 'G' | 'U' => if n.own then "UNKNOWN".toList else "root".toList
  | 'h' => Octets.ofNat (linksOf files i)
  | 'i' => Octets.ofNat (i + 1000000)
  | 'n' => path
  | 'N' => (nameInQuotes path).toList
  | 'o' => "4096".toList
  | 's' => Octets.ofNat n.size
  | 't' | 'T' => ['0']
  | 'X' | 'Y' | 'Z' => Octets.ofNat (n.time / 1000000000)
  | 'W' => ['0']
  | c => ['?', c]

/-- A format with its directives replaced. -/
def statText (field : Char → Octets) : Nat → Octets → Octets
  | 0, _ => []
  | _, [] => []
  | fuel + 1, '%' :: rest =>
    let flags := rest.takeWhile fun c => c.isDigit || c ∈ "-#+ '.".toList
    match rest.drop flags.length with
    | '%' :: rest => '%' :: statText field fuel rest
    | c :: rest =>
      let width := numberOf 10 (flags.filter Char.isDigit)
      let value := field c
      let gap := List.replicate (width - value.length) (if flags.head? = some '0' then '0' else ' ')
      (if '-' ∈ flags then value ++ gap else gap ++ value) ++ statText field fuel rest
    | [] => ['%']
  | fuel + 1, c :: rest => c :: statText field fuel rest

/-- Tells what is known about files, as a format asks for. -/
def statTool (args : List Octets) : Tool Nat := do
  let g ← OptionRules.read { forms := [plain "L" "dereference", plain "f" "file-system",
    taking "c" "format", taking "printf" "printf", plain "t" "terse", taking "" "cached"] } args
  if g.operands.isEmpty then misused 1 "missing operand"
  let files ← act getFiles
  forEach (fun path => do
    match ← nodeOf path (g.has "L") with
    | .error e =>
      warn ("cannot statx " ++ nameInQuotes path ++ ": " ++ e.words)
      return 1
    | .ok (_, i, n) =>
      match g.text? "c" with
      | some format =>
        put (statText (statField files path i n) (format.length + 1) format ++ ['\n'])
        return 0
      | none =>
        let field := fun c => shown (statField files path i n c)
        putText ("  File: " ++ field 'n' ++ "\n  Size: " ++ field 's' ++ "\n")
        return 0) 0 g.operands

end KctlProbe.Sandbox.Tool
