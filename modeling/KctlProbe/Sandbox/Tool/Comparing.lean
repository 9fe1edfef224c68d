import KctlProbe.Sandbox.Tool.Sorting

/-!
# Lines that are equal

`uniq` finds lines that are equal to the one before, `comm` lines that two files share, and `join`
pairs lines of two files that share a field. The last two need lines that are in order.
-/

namespace KctlProbe.Sandbox.Tool

/-- Lines that are equal and follow each other. -/
def runsOf (same : Octets → Octets → Bool) (lines : List Octets) : List (List Octets) :=
  ((lines.foldl (fun (runs : List (List Octets)) line =>
    match runs with
    | (first :: rest) :: others =>
      if same ((first :: rest).getLast?.getD first) line then (line :: first :: rest) :: others
      else [line] :: runs
    | _ => [line] :: runs) []).map List.reverse).reverse

/-- Writes lines without those that are equal to the one before, or others of them. -/
def uniqTool (args : List Octets) : Tool Nat := do
  let number := fun (text : Octets) (what : String) => do
    match Octets.toNat? text with
    | some n => return n
    | none => refuse 1 (shown text ++ ": invalid number of " ++ what)
  let notice := fun (key : String) (text : Octets) => do
    match key with
    | "f" => let _ ← number text "fields to skip"
    | "s" => let _ ← number text "bytes to skip"
    | "w" => let _ ← number text "bytes to compare"
    | _ => pure ()
  let g ← OptionRules.read { notice, forms := [plain "c" "count", plain "d" "repeated", plain "D" "",
    { word := "all-repeated", follows := .maybe }, taking "f" "skip-fields",
    { word := "group", follows := .maybe }, plain "i" "ignore-case", taking "s" "skip-chars",
    plain "u" "unique", taking "w" "check-chars", plain "z" "zero-terminated"] } args
  let count := fun (key : String) => ((g.text? key).bind Octets.toNat?).getD 0
  match g.operands with
  | _ :: _ :: extra :: _ => misused 1 ("extra operand " ++ textInQuotes extra)
  | _ => pure ()
  let all := g.has "D" || g.has "all-repeated"
  if g.has "c" && all then
    misused 1 "printing all duplicated lines and repeat counts is meaningless"
  if g.has "group" && (g.has "c" || g.has "d" || all || g.has "u") then
    misused 1 "--group is mutually exclusive with -c/-d/-D/-u"
  let ending := if g.has "z" then '\x00' else '\n'
  let skipField := fun (cs : Octets) =>
    (cs.dropWhile isBlankOrNewline).dropWhile (!isBlankOrNewline ·)
  let part := fun (line : Octets) =>
    let cs := ((List.range (count "f")).foldl (fun cs _ => skipField cs) line).drop (count "s")
    let cs := if g.has "w" then cs.take (count "w") else cs
    if g.has "i" then cs.map Char.toUpper else cs
  let path := g.operands.headD ['-']
  let stream ← match ← openOperand path with
    | .ok i => pure i
    | .error e => refuse 1 (nameText path ++ ": " ++ e.words)
  let target ← match g.operands[1]? with
    | none => pure none
    | some out =>
      if out = ['-'] then pure none
      else
        match ← act (openToWrite out false) with
        | .ok i => pure (some i)
        | .error e => refuse 1 (nameText out ++ ": " ++ e.words)
  let (text, cut) ← match ← act (drainStream stream) with
    | .ok read => pure read
    | .error e => refuse 1 ("error reading " ++ nameInQuotes path ++ ": " ++ e.words)
  let runs := runsOf (fun a b => part a = part b) (linesOf ending text)
  let runs := if cut then runs.dropLast else runs
  let selectedRuns := runs.filter fun run =>
    if all then 1 < run.length
    else !(g.has "d" && run.length = 1) && !(g.has "u" && 1 < run.length)
  let method := if g.has "group" then (g.text? "group").getD "separate".toList
    else (g.text? "all-repeated").getD "none".toList
  let written := fun (run : List Octets) =>
    if all || g.has "group" then textOfLines ending run
    else
      let line := run.headD [] ++ [ending]
      if g.has "c" then
        let digits := Octets.ofNat run.length
        List.replicate (7 - digits.length) ' ' ++ digits ++ ' ' :: line
      else line
  let texts := selectedRuns.map written
  let output :=
    if method = "separate".toList then Octets.join [ending] texts
    else if method = "prepend".toList then texts.flatMap fun t => ending :: t
    else if method = "append".toList then texts.flatMap fun t => t ++ [ending]
    else if method = "both".toList then
      (if texts.isEmpty then [] else ending :: texts.flatMap fun t => t ++ [ending])
    else texts.flatten
  match target with
  | none => put output
  | some i =>
    let _ ← act (writeStream i output)
  if cut then starve
  return 0

/-- The texts of two files, of which one may be the input. -/
def twoFiles (operands : List Octets) : Tool (Octets × Octets) := do
  match operands with
  | [] => misused 1 "missing operand"
  | [a] => misused 1 ("missing operand after " ++ textInQuotes a)
  | _ :: _ :: extra :: _ => misused 1 ("extra operand " ++ textInQuotes extra)
  | [a, b] =>
    let read := fun (path : Octets) => do
      match ← drainOperand path with
      | .ok (text, cut) =>
        if cut then starve
        return text
      | .error e => refuse 1 (nameText path ++ ": " ++ e.words)
    let x ← read a
    let y ← read b
    return (x, y)

/-- A file whose lines are passed one by one. -/
structure Passing where
  /-- The lines from the current one on. -/
  rest : List Octets
  /-- The line before the current one. -/
  last : Option Octets := none
  /-- Whether it was complained that the lines are not in order. -/
  accused : Bool := false

namespace Passing

/-- The file with its next line as the current one. -/
def next (p : Passing) : Passing :=
  { p with rest := p.rest.drop 1, last := p.rest.head? }

/-- Whether passing the current line shows that lines are not in order. At the end, the line before is
looked at once more. -/
def isFault (p : Passing) : Bool :=
  match p.last, p.rest with
  | _, a :: b :: _ => compareOctets a b == .gt
  | some a, [b] => compareOctets a b == .gt
  | _, _ => false

/-- Passes the current line of a file with a number. If `checks` holds, the order of lines matters,
and if `strict` holds, nothing more is done if they are not in order. -/
def pass (number : String) (checks strict : Bool) (p : Passing) : Tool Passing := do
  let fault := checks && p.isFault && !p.accused
  if fault then
    warn ("file " ++ number ++ " is not in sorted order")
    if strict then quit 1
  return { p.next with accused := p.accused || fault }

end Passing

/-- How `comm` writes lines. -/
structure Columns where
  hides : List Bool
  mark : Octets
  ending : Char
  /-- Whether the order of lines matters, and whether it does from the start. -/
  checks : Bool
  strict : Bool

/-- Writes a line in a column. -/
def Columns.write (c : Columns) (column : Nat) (line : Octets) : Tool Unit := do
  unless c.hides[column]?.getD false do
    let marks := (c.hides.take column).flatMap fun hidden => if hidden then [] else c.mark
    put (marks ++ line ++ [c.ending])

/-- Passes the lines of two files, those that both share together, and gives the files and how many
lines there were in each column. -/
def passColumns (c : Columns) :
    Nat → Bool → List Nat → Passing → Passing → Tool (List Nat × Bool)
  | 0, _, counts, _, _ => return (counts, false)
  | fuel + 1, alone, counts, p, q => do
    let ending := p.accused || q.accused
    match p.rest, q.rest with
    | [], [] => return (counts, ending)
    | xs, ys =>
      let order := match xs, ys with
        | x :: _, y :: _ => compareOctets x y
        | [], _ => .gt
        | _, _ => .lt
      let column := match order with
        | .lt => 0
        | .gt => 1
        | .eq => 2
      c.write column ((if order == .gt then ys else xs).headD [])
      let alone := alone || order != .eq
      let checks := c.checks && (c.strict || alone)
      let p ← if order != .gt then p.pass "1" checks c.strict else pure p
      let q ← if order != .lt then q.pass "2" checks c.strict else pure q
      passColumns c fuel alone (counts.modify column (· + 1)) p q

/-- Writes the lines of two files in columns: those in the first, in the second, and in both. -/
def commTool (args : List Octets) : Tool Nat := do
  let g ← OptionRules.read { forms := [plain "1" "", plain "2" "", plain "3" "",
    plain "" "check-order", plain "" "nocheck-order", taking "" "output-delimiter",
    plain "" "total", plain "z" "zero-terminated"] } args
  let ending := if g.has "z" then '\x00' else '\n'
  let (a, b) ← twoFiles g.operands
  let mark := (g.text? "output-delimiter").getD ['\t']
  let c : Columns := {
    hides := [g.has "1", g.has "2", g.has "3"], mark, ending
    checks := !g.has "nocheck-order", strict := g.has "check-order" }
  let xs := linesOf ending a
  let ys := linesOf ending b
  let (counts, accused) ← passColumns c (xs.length + ys.length + 1) false [0, 0, 0] { rest := xs }
    { rest := ys }
  if g.has "total" then
    put (Octets.join mark (counts.map Octets.ofNat ++ ["total".toList]) ++ [ending])
  if accused then refuse 1 "input is not in sorted order"
  return 0

/-! ## Joining -/

/-- How lines are joined. -/
structure Joining where
  /-- The fields by which lines are joined, counted from zero. -/
  fields : Nat × Nat := (0, 0)
  separator : Option Char := none
  /-- Whether the lines of the first and of the second file are written that have no partner. -/
  alone : Bool × Bool := (false, false)
  /-- Whether pairs are written. -/
  pairs : Bool := true
  filler : Octets := []
  /-- The fields that are written: a file, or zero for the shared one, and a field. -/
  output : Option (List (Nat × Nat)) := none
  folds : Bool := false

namespace Joining

/-- The fields of a line. -/
def split (j : Joining) (line : Octets) : List Octets :=
  match j.separator with
  | some c => line.split c
  | none => (Octets.split ' ' (line.map fun c => if c = '\t' then ' ' else c)).filter (!·.isEmpty)

/-- The field of a line by which it is joined. -/
def key (j : Joining) (second : Bool) (fields : List Octets) : Octets :=
  (fields[if second then j.fields.2 else j.fields.1]?).getD []

/-- How two keys are ordered. -/
def compareFields (j : Joining) (a b : Octets) : Ordering :=
  if j.folds then compareOctets (a.map Char.toUpper) (b.map Char.toUpper) else compareOctets a b

/-- A written line for a pair of lines, of which one may not be there. -/
def written (j : Joining) (x y : Option (List Octets)) : Octets :=
  let separator := [j.separator.getD ' ']
  let shared := match x, y with
    | some x, _ => j.key false x
    | none, some y => j.key true y
    | none, none => []
  let filled := fun (a : Octets) => if a.isEmpty then j.filler else a
  let fields := match j.output with
    | some specs => specs.map fun (file, n) =>
        filled (match file with
          | 0 => shared
          | 1 => ((x.getD [])[n]?).getD []
          | _ => ((y.getD [])[n]?).getD [])
    | none =>
      let others := fun (n : Nat) (fields : Option (List Octets)) =>
        ((fields.getD []).eraseIdx n).map filled
      filled shared :: (others j.fields.1 x ++ others j.fields.2 y)
  Octets.join separator fields ++ ['\n']

/-- The lines at the start that have the same key as the first one, and the others. -/
def sameKey (j : Joining) (second : Bool) (lines : List (List Octets)) :
    List (List Octets) × List (List Octets) :=
  match lines with
  | [] => ([], [])
  | first :: _ =>
    lines.span fun fields => j.compareFields (j.key second first) (j.key second fields) == .eq

/-- The joined lines of two files, those before in reverse. -/
def joined (j : Joining) :
    Nat → List Octets → List (List Octets) → List (List Octets) → List Octets
  | 0, done, _, _ => done.reverse
  | _, done, [], [] => done.reverse
  | fuel + 1, done, x :: xs, [] =>
    joined j fuel (if j.alone.1 then j.written (some x) none :: done else done) xs []
  | fuel + 1, done, [], y :: ys =>
    joined j fuel (if j.alone.2 then j.written none (some y) :: done else done) [] ys
  | fuel + 1, done, x :: xs, y :: ys =>
    match j.compareFields (j.key false x) (j.key true y) with
    | .lt =>
      joined j fuel (if j.alone.1 then j.written (some x) none :: done else done) xs (y :: ys)
    | .gt =>
      joined j fuel (if j.alone.2 then j.written none (some y) :: done else done) (x :: xs) ys
    | .eq =>
      let (first, xs) := j.sameKey false (x :: xs)
      let (second, ys) := j.sameKey true (y :: ys)
      let pairs := first.flatMap fun x => second.map fun y => j.written (some x) (some y)
      joined j fuel (if j.pairs then pairs.reverse ++ done else done) xs ys

/-- The first line of a file that is not in order, and its number. -/
def disorder? (j : Joining) (second : Bool) : Nat → List Octets → Option (Nat × Octets)
  | n, a :: b :: rest =>
    if j.compareFields (j.key second (j.split a)) (j.key second (j.split b)) == .gt then
      some (n + 1, b)
    else disorder? j second (n + 1) (b :: rest)
  | _, _ => none

end Joining

/-- The number of a field. -/
def fieldNumber (text : Octets) : Tool Nat := do
  match Octets.toNat? text with
  | some (n + 1) => return n
  | _ => refuse 1 ("invalid field number: " ++ textInQuotes text)

/-- The fields that a list gives. -/
def outputFields (text : Octets) : Tool (List (Nat × Nat)) := do
  let parts := (Octets.split ',' (text.map fun c => if c = ' ' ∨ c = '\t' then ',' else c)).filter
    (!·.isEmpty)
  parts.mapM fun part => do
    match part with
    | ['0'] => return (0, 0)
    | f :: '.' :: rest =>
      if f = '1' ∨ f = '2' then return (f.toNat - '0'.toNat, ← fieldNumber rest)
      else refuse 1 ("invalid file number in field spec: " ++ textInQuotes part)
    | part =>
      if part.head? = some '0' then refuse 1 ("invalid field specifier: " ++ textInQuotes part)
      else refuse 1 ("invalid file number in field spec: " ++ textInQuotes part)

/-- Joins the lines of two files that share a field. -/
def joinTool (args : List Octets) : Tool Nat := do
  let notice := fun (key : String) (text : Octets) => do
    match key with
    | "1" | "2" | "j" => let _ ← fieldNumber text
    | "a" | "v" =>
      unless text = ['1'] ∨ text = ['2'] do refuse 1 ("invalid field number: " ++ textInQuotes text)
    | "t" => if 1 < text.length then refuse 1 ("multi-character tab " ++ textInQuotes text)
    | "o" => unless text = "auto".toList do let _ ← outputFields text
    | _ => pure ()
  let g ← OptionRules.read { notice, forms := [taking "a" "", taking "e" "", plain "i" "ignore-case",
    taking "j" "", taking "o" "", taking "t" "", taking "v" "", taking "1" "", taking "2" "",
    plain "" "check-order", plain "" "nocheck-order", plain "" "header", plain "z" "zero-terminated"] }
    args
  let given := fun (key : String) (file : Char) =>
    g.options.any fun (k, text) => k = key && text = some [file]
  let field := fun (key : String) => do
    match (g.text? key).or (g.text? "j") with
    | some text => fieldNumber text
    | none => pure 0
  let output ← match g.text? "o" with
    | none => pure none
    | some text => if text = "auto".toList then pure none else some <$> outputFields text
  let j : Joining := {
    fields := (← field "1", ← field "2")
    separator := (g.text? "t").bind (·.head?)
    alone := (given "a" '1' || given "v" '1', given "a" '2' || given "v" '2')
    pairs := !g.has "v", filler := (g.text? "e").getD [], output, folds := g.has "i" }
  let (a, b) ← twoFiles g.operands
  let xs := linesOf '\n' a
  let ys := linesOf '\n' b
  let (heads, xs, ys) := if g.has "header" then (true, xs, ys) else (false, xs, ys)
  let title := if heads then
      match xs, ys with
      | x :: _, y :: _ => [j.written (some (j.split x)) (some (j.split y))]
      | _, _ => []
    else []
  let xs := if heads then xs.drop 1 else xs
  let ys := if heads then ys.drop 1 else ys
  let lines := j.joined (xs.length + ys.length + 1) [] (xs.map j.split) (ys.map j.split)
  let faults := if g.has "nocheck-order" then []
    else [(g.operands[0]?.getD [], j.disorder? false 1 xs), (g.operands[1]?.getD [], j.disorder? true 1 ys)]
  for (path, fault) in faults do
    match fault with
    | some (n, line) =>
      warn (shown path ++ ":" ++ shown (Octets.ofNat n) ++ ": is not sorted: " ++ shown line)
    | none => pure ()
  put (title ++ lines).flatten
  if faults.any (·.2.isSome) then refuse 1 "input is not in sorted order"
  return 0

end KctlProbe.Sandbox.Tool
