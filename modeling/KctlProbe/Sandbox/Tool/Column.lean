import KctlProbe.Sandbox.Tool.Reading

/-!
# Columns of lines

`cut` selects columns of lines, and `paste` puts lines side by side.
-/

namespace KctlProbe.Sandbox.Tool

/-- The last position that there is. -/
def lastPosition : Nat := greatestCount

/-- How far a list of ranges has been read. -/
structure RangeReader where
  ranges : List (Nat × Nat) := []
  /-- The first position, if it was given, and the one that is read. -/
  left : Option Nat := none
  dashed : Bool := false
  digits : Octets := []

/-- The ranges that a list gives. `fields` says what is counted, for complaints. -/
def rangesOf (fields : Bool) (text : Octets) : Tool (List (Nat × Nat)) := do
  let fail := fun (onFields onBytes : String) =>
    (misused 1 (if fields then onFields else onBytes) : Tool RangeReader)
  let fromOne : Tool RangeReader := fail "fields are numbered from 1" "byte/character positions are numbered from 1"
  let number := fun (digits : Octets) => do
    let n := numberOf 10 digits
    if lastPosition < n then
      let quoted := textInQuotes digits
      let _ ← fail ("field number " ++ quoted ++ " is too large")
        ("byte/character offset " ++ quoted ++ " is too large")
    return n
  let finish := fun (r : RangeReader) => do
    let range ← if r.dashed then
        if r.left.isNone && r.digits.isEmpty then misused 1 "invalid range with no endpoint: -"
        let start := r.left.getD 1
        let stop ← if r.digits.isEmpty then pure lastPosition else number r.digits
        if stop < start then misused 1 "invalid decreasing range"
        pure (start, stop)
      else
        let n ← number r.digits
        if n = 0 then let _ ← fromOne
        pure (n, n)
    return ({ ranges := range :: r.ranges } : RangeReader)
  let rec go : RangeReader → Octets → Tool RangeReader
    | r, [] => finish r
    | r, c :: cs => do
      if c = '-' then
        if r.dashed then
          let _ ← fail "invalid field range" "invalid byte or character range"
        if r.digits.isEmpty then go { r with dashed := true } cs
        else
          let n ← number r.digits
          if n = 0 then let _ ← fromOne
          go { r with dashed := true, left := some n, digits := [] } cs
      else if c = ',' ∨ c = ' ' ∨ c = '\t' then
        go (← finish r) cs
      else if c.isDigit then go { r with digits := r.digits ++ [c] } cs
      else
        let quoted := textInQuotes (c :: cs)
        fail ("invalid field value " ++ quoted) ("invalid byte/character position " ++ quoted)
  let r ← go {} text
  return r.ranges.mergeSort fun a b => a.1 ≤ b.1

/-- Ranges in order, with those in one that overlap. -/
def mergedRanges : List (Nat × Nat) → List (Nat × Nat)
  | [] => []
  | r :: rest => (rest.foldl (fun (done, last) r =>
      if r.1 ≤ last.2 then (done, (last.1, max last.2 r.2)) else (last :: done, r))
      (([], r) : List (Nat × Nat) × (Nat × Nat))) |> fun (done, last) => (last :: done).reverse

/-- The ranges between some ranges. -/
def rangesBetween (ranges : List (Nat × Nat)) : List (Nat × Nat) :=
  let (done, next) := (mergedRanges ranges).foldl (fun (done, next) r =>
    (if next < r.1 then (next, r.1 - 1) :: done else done, r.2 + 1)) (([], 1) : List (Nat × Nat) × Nat)
  ((if next ≤ lastPosition then (next, lastPosition) :: done else done)).reverse

/-- The elements of a list that are in ranges, those of each range on their own. -/
def selected {α : Type} (ranges : List (Nat × Nat)) (xs : List α) : List (List α) :=
  ranges.filterMap fun (a, b) =>
    let part := (xs.drop (a - 1)).take (b + 1 - a)
    if part.isEmpty then none else some part

/-- Selects columns. -/
def cutTool (args : List Octets) : Tool Nat := do
  let g ← OptionRules.read { forms := [taking "b" "bytes", taking "c" "characters",
    taking "d" "delimiter", taking "f" "fields", plain "n" "", plain "s" "only-delimited",
    plain "z" "zero-terminated", plain "" "complement", taking "" "output-delimiter"] } args
  let lists := g.options.filter fun (key, _) => key = "b" || key = "c" || key = "f"
  let fields := g.has "f"
  match g.text? "d" with
  | some (_ :: _ :: _) => misused 1 "the delimiter must be a single character"
  | _ => pure ()
  if 1 < lists.length then misused 1 "only one list may be specified"
  let list ← match lists with
    | (_, text) :: _ => pure (text.getD [])
    | [] => misused 1 "you must specify a list of bytes, characters, or fields"
  if g.has "d" && !fields then
    misused 1 "an input delimiter may be specified only when operating on fields"
  if g.has "s" && !fields then
    misused 1 "suppressing non-delimited lines makes sense\n\tonly when operating on fields"
  let ranges := mergedRanges (← rangesOf fields list)
  let ranges := if g.has "complement" then rangesBetween ranges else ranges
  let ending := if g.has "z" then '\x00' else '\n'
  let delimiter := match g.text? "d" with
    | some (c :: _) => c
    | some [] => '\x00'
    | none => '\t'
  let between := g.text? "output-delimiter"
  let line := fun (text : Octets) =>
    if !fields then some (Octets.join (between.getD []) (selected ranges text))
    else
      let parts := text.split delimiter
      match parts with
      | [_] => if g.has "s" then none else some text
      | parts => some (Octets.join (between.getD [delimiter]) (selected ranges parts).flatten)
  let read ← gatherFrom warnOf {} (orInput g.operands)
  finish read (read.pieces.reverse.flatMap fun text =>
    textOfLines ending ((linesOf ending text).filterMap line))

/-! ## Side by side -/

/-- The delimiters that a list gives, each of which may be nothing. -/
def delimitersOf (list : Octets) : Tool (List Octets) := do
  let rec go : List Octets → Octets → Option (List Octets)
    | done, [] => some done.reverse
    | _, ['\\'] => none
    | done, '\\' :: c :: cs =>
      let d := match c with
        | '0' => []
        | 'b' => ['\x08']
        | 'f' => ['\x0C']
        | 'n' => ['\n']
        | 'r' => ['\r']
        | 't' => ['\t']
        | 'v' => ['\x0B']
        | c => [c]
      go (d :: done) cs
    | done, c :: cs => go ([c] :: done) cs
  match go [] list with
  | some [] => return [[]]
  | some delimiters => return delimiters
  | none => refuse 1 ("delimiter list ends with an unescaped backslash: " ++ shown list)

/-- Lines with delimiters between them, from the one with a number on. -/
def delimited (delimiters : List Octets) : Nat → List Octets → Octets
  | _, [] => []
  | _, [line] => line
  | n, line :: rest =>
    line ++ (delimiters[n % delimiters.length]?.getD []) ++ delimited delimiters (n + 1) rest

/-- The lines of files, one from each at a time, until none has a line left. -/
def rowsOf : Nat → List (Nat × List Octets) → List Nat → List (List Octets) → List (List Octets)
  | 0, _, _, done => done.reverse
  | fuel + 1, files, order, done =>
    let (row, files, some?) := order.foldl (fun ((row, files, found) : List Octets × _ × Bool) i =>
      match files.lookup i with
      | some (line :: rest) =>
        (line :: row, (i, rest) :: files.filter (·.1 ≠ i), true)
      | _ => ([] :: row, files, found)) (([], files, false) : List Octets × List (Nat × List Octets) × Bool)
    if some? then rowsOf fuel files order (row.reverse :: done) else done.reverse

/-- Puts the lines of files side by side, or those of each file. -/
def pasteTool (args : List Octets) : Tool Nat := do
  let g ← OptionRules.read { forms := [taking "d" "delimiters", plain "s" "serial",
    plain "z" "zero-terminated"] } args
  let delimiters ← delimitersOf ((g.text? "d").getD ['\t'])
  let ending := if g.has "z" then '\x00' else '\n'
  let operands := orInput g.operands
  if g.has "s" then
    forEach (fun path => do
      match ← drainOperand path with
      | .error e =>
        warnOf path e
        return 1
      | .ok (text, cut) =>
        if cut then starve
        put (delimited delimiters 0 (linesOf ending text) ++ [ending])
        return 0) 0 operands
  else
    let streams ← operands.mapM fun path => do
      match ← openOperand path with
      | .ok i => return i
      | .error e => refuse 1 (nameText path ++ ": " ++ e.words)
    let files ← (operands.zip streams).mapM fun (path, i) => do
      match ← act (drainStream i) with
      | .ok (text, cut) => return (i, linesOf ending text, cut)
      | .error e => refuse 1 (nameText path ++ ": " ++ e.words)
    -- A file that is named twice gives its lines in turn.
    let lines := (files.foldl (fun (done : List (Nat × List Octets)) (i, ls, _) =>
      if (done.lookup i).isSome then done else (i, ls) :: done) [])
    let most := lines.foldl (fun n (_, ls) => n + ls.length) 1
    let rows := rowsOf (most + 1) lines streams []
    let cut := files.any fun (_, _, cut) => cut
    put ((if cut then rows.dropLast else rows).flatMap fun row => delimited delimiters 0 row ++ [ending])
    if cut then starve
    return 0

end KctlProbe.Sandbox.Tool
