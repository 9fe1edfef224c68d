import KctlProbe.Sandbox.Real
import KctlProbe.Sandbox.Tool.Reading

/-!
# Sorting

`sort` puts lines in order. Lines are compared by keys, which are parts of them, and each key has its
own way of being compared. Lines with equal keys are compared as a whole.
-/

namespace KctlProbe.Sandbox.Tool

/-- How a key is compared: the letters of the options that say so. -/
abbrev KeyOptions := List Char

/-- A place in a line: a field and a character in it, both counted from zero. -/
structure KeyPlace where
  field : Nat
  char : Nat := 0

/-- A part of lines by which they are compared. -/
structure SortKey where
  start : KeyPlace := { field := 0 }
  /-- The last character, or the end of the line. -/
  stop : Option KeyPlace := none
  options : KeyOptions := []
  /-- Whether blanks are skipped before the first and the last character is counted. -/
  skipsStart : Bool := false
  skipsStop : Bool := false

/-- How lines are sorted. -/
structure Sorting where
  keys : List SortKey := []
  options : KeyOptions := []
  separator : Option Char := none
  stable : Bool := false
  unique : Bool := false

/-- Whether a character separates fields if nothing else is said. -/
def isBlankOrNewline (c : Char) : Bool :=
  c == ' ' || c == '\t' || c == '\n'

/-- A line from the field with a number on. -/
def fromField (separator : Option Char) : Nat → Octets → Octets
  | 0, cs => cs
  | n + 1, cs =>
    match separator with
    | some c => fromField separator n ((cs.dropWhile (· ≠ c)).drop 1)
    | none => fromField separator n ((cs.dropWhile isBlankOrNewline).dropWhile (!isBlankOrNewline ·))

/-- The number of characters before the end of a key. -/
def SortKey.limit (k : SortKey) (separator : Option Char) (line : Octets) : Nat :=
  match k.stop with
  | none => line.length
  | some p =>
    if p.char = 0 then
      let behind := match separator with
        | some c => (fromField separator p.field line).dropWhile (· ≠ c)
        | none => fromField none (p.field + 1) line
      line.length - behind.length
    else
      let rest := fromField separator p.field line
      let rest := if k.skipsStop then rest.dropWhile isBlankOrNewline else rest
      line.length - (rest.length - p.char)

/-- The part of a line that a key names. -/
def SortKey.part (k : SortKey) (separator : Option Char) (line : Octets) : Octets :=
  let rest := fromField separator k.start.field line
  let rest := if k.skipsStart then rest.dropWhile isBlankOrNewline else rest
  let rest := rest.drop k.start.char
  let start := line.length - rest.length
  rest.take (k.limit separator line - start)

/-- How two texts are ordered byte by byte. -/
def compareOctets (a b : Octets) : Ordering :=
  if Octets.precedes a b then .lt else if a = b then .eq else .gt

/-- The number at the start of a text: whether it is negative, its digits before the point without
zeros in front, and those behind without zeros at the end. -/
def numberParts (cs : Octets) : Bool × Octets × Octets :=
  let cs := cs.dropWhile isBlankOrNewline
  let (negative, cs) := if cs.head? = some '-' then (true, cs.drop 1) else (false, cs)
  let whole := cs.takeWhile Char.isDigit
  let part := match cs.drop whole.length with
    | '.' :: rest => rest.takeWhile Char.isDigit
    | _ => []
  let whole := whole.dropWhile (· = '0')
  let part := (part.reverse.dropWhile (· = '0')).reverse
  (negative && !(whole.isEmpty && part.isEmpty), whole, part)

/-- How two numbers are ordered. -/
def compareNumbers (a b : Octets) : Ordering :=
  let (m, p, x) := numberParts a
  let (n, q, y) := numberParts b
  let sizes := (compare p.length q.length).then ((compareOctets p q).then (compareOctets x y))
  match m, n with
  | false, false => sizes
  | true, true => sizes.swap
  | true, false => .lt
  | false, true => .gt

/-- The power that stands behind a number. -/
def unitOf (cs : Octets) : Nat :=
  let rest := (cs.dropWhile isBlankOrNewline).dropWhile fun c => c.isDigit || c == '-' || c == '.'
  match rest with
  | 'k' :: _ => 1
  | c :: _ => (("KMGTPEZYRQ".toList.zipIdx 1).lookup c).getD 0
  | [] => 0

/-- The order of magnitude of a number with a power behind it, negative for a negative number and zero
for zero. -/
def signedUnit (cs : Octets) : Int :=
  let (negative, whole, part) := numberParts cs
  let size : Int := (unitOf cs + 1 : Nat)
  if whole.isEmpty && part.isEmpty then 0 else if negative then -size else size

/-- How two numbers with powers behind them are ordered. -/
def compareSizes (a b : Octets) : Ordering :=
  (compare (signedUnit a) (signedUnit b)).then (compareNumbers a b)

/-- How two numbers with exponents are ordered. What is no number comes first. -/
def compareReals (a b : Octets) : Ordering :=
  let rank := fun (r : Option (Real × Octets)) =>
    match r with
    | none => 0
    | some (.notNumber, _) => 1
    | some (.infinite true, _) => 2
    | some (.finite _ _, _) => 3
    | some (.infinite false, _) => 4
  let x := Real.read? 64 a
  let y := Real.read? 64 b
  match x, y with
  | some (.finite m p, _), some (.finite n q, _) =>
    let value := fun (negative : Bool) (size other : Fraction) =>
      let v : Int := (size.num * other.den : Nat)
      if negative then -v else v
    compare (value m p q) (value n q p)
  | x, y => compare (rank x) (rank y)

/-- The names of the months. -/
def monthNames : List String :=
  ["JAN", "FEB", "MAR", "APR", "MAY", "JUN", "JUL", "AUG", "SEP", "OCT", "NOV", "DEC"]

/-- The number of a month by its first letters, or zero. -/
def monthOf (cs : Octets) : Nat :=
  let name := ((cs.dropWhile isBlankOrNewline).take 3).map Char.toUpper
  match (monthNames.zipIdx 1).find? fun (m, _) => m.toList = name with
  | some (_, n) => n
  | none => 0

/-- How two texts are ordered in which numbers count as numbers. -/
def compareVersions : Nat → Octets → Octets → Ordering
  | 0, _, _ => .eq
  | _, [], [] => .eq
  | fuel + 1, a, b =>
    let rank := fun (cs : Octets) =>
      match cs with
      | [] => 1
      | c :: _ =>
        if c.isDigit then 1
        else if c = '~' then 0
        else if c.isAlpha then c.toNat
        else c.toNat + 256
    let isText := fun (cs : Octets) => cs.head?.any fun c => !c.isDigit
    if isText a || isText b then
      match compare (rank a) (rank b) with
      | .eq => compareVersions fuel (a.drop 1) (b.drop 1)
      | order => order
    else
      let m := a.takeWhile Char.isDigit
      let n := b.takeWhile Char.isDigit
      match compare (numberOf 10 m) (numberOf 10 n) with
      | .eq => compareVersions fuel (a.drop m.length) (b.drop n.length)
      | order => order

/-- How two keys are ordered. -/
def compareKeys (options : KeyOptions) (a b : Octets) : Ordering :=
  let kept := fun (cs : Octets) =>
    let cs := if 'd' ∈ options then cs.filter fun c => c.isAlphanum || c == ' ' || c == '\t'
      else if 'i' ∈ options then cs.filter fun c => ' ' ≤ c && c ≤ '~'
      else cs
    if 'f' ∈ options then cs.map Char.toUpper else cs
  let order :=
    if 'n' ∈ options then compareNumbers a b
    else if 'g' ∈ options then compareReals a b
    else if 'h' ∈ options then compareSizes a b
    else if 'M' ∈ options then compare (monthOf a) (monthOf b)
    else if 'V' ∈ options then
      let (a, b) := (kept a, kept b)
      compareVersions (a.length + b.length + 2) a b
    else compareOctets (kept a) (kept b)
  if 'r' ∈ options then order.swap else order

namespace Sorting

/-- How the keys of two lines are ordered. -/
def compareByKeys (s : Sorting) (a b : Octets) : Ordering :=
  s.keys.foldl (fun order k =>
    order.then (compareKeys k.options (k.part s.separator a) (k.part s.separator b))) .eq

/-- How two lines are ordered. -/
def compareLines (s : Sorting) (a b : Octets) : Ordering :=
  let whole := fun (_ : Unit) =>
    if 'r' ∈ s.options then (compareOctets a b).swap else compareOctets a b
  if s.keys.isEmpty then whole ()
  else
    match s.compareByKeys a b with
    | .eq => if s.stable || s.unique then .eq else whole ()
    | order => order

/-- Lines in order without those that are equal to the one before. -/
def withoutEqual (s : Sorting) (lines : List Octets) : List Octets :=
  (lines.foldl (fun (done : List Octets) line =>
    match done with
    | last :: _ => if s.compareLines last line == .eq then done else line :: done
    | [] => [line]) []).reverse

end Sorting

/-! ## Options -/

/-- The letters of options that say how keys are compared. -/
def keyLetters : List Char := "bdfghiMnRrV".toList

/-- A number at the start of a place, which counts as the greatest one if it is too large. -/
def placeNumber (wrong : String) (cs : Octets) : Tool (Nat × Octets) := do
  let digits := cs.takeWhile Char.isDigit
  if digits.isEmpty then
    refuse 2 (wrong ++ ": invalid count at start of " ++ textInQuotes cs)
  return (min (numberOf 10 digits) everything, cs.drop digits.length)

/-- The key that a text gives. -/
def sortKeyOf (text : Octets) : Tool SortKey := do
  let invalid := fun (what : String) =>
    (refuse 2 (what ++ ": invalid field specification " ++ textInQuotes text) : Tool Unit)
  let (field, rest) ← placeNumber "invalid number at field start" text
  if field = 0 then invalid "field number is zero"
  let (char, rest) ← match rest with
    | '.' :: rest => do
      let (char, rest) ← placeNumber "invalid number after '.'" rest
      if char = 0 then invalid "character offset is zero"
      pure (char - 1, rest)
    | rest => pure (0, rest)
  let front := rest.takeWhile (· ∈ keyLetters)
  let rest := rest.drop front.length
  match rest with
  | [] =>
    return { start := ⟨field - 1, char⟩, options := front.filter (· ≠ 'b'), skipsStart := 'b' ∈ front }
  | ',' :: rest =>
    let (last, rest) ← placeNumber "invalid number after ','" rest
    if last = 0 then invalid "field number is zero"
    let (lastChar, rest) ← match rest with
      | '.' :: rest => placeNumber "invalid number after '.'" rest
      | rest => pure (0, rest)
    let back := rest.takeWhile (· ∈ keyLetters)
    unless (rest.drop back.length).isEmpty do invalid "stray character in field spec"
    return {
      start := ⟨field - 1, char⟩, stop := some ⟨last - 1, lastChar⟩
      options := (front ++ back).filter (· ≠ 'b'), skipsStart := 'b' ∈ front, skipsStop := 'b' ∈ back }
  | _ =>
    invalid "stray character in field spec"
    return {}

/-- Complains if options of a key do not go together. -/
def checkKey (options : KeyOptions) : Tool Unit := do
  let count := fun (p : Bool) => if p then 1 else 0
  let has := fun (c : Char) => decide (c ∈ options)
  let kinds := count (has 'n') + count (has 'g') + count (has 'h') + count (has 'M') +
    count (has 'V' || has 'R' || has 'd' || has 'i')
  if 1 < kinds then
    let letters := keyLetters.filter fun c => c ≠ 'b' && c ≠ 'r' && has c
    refuse 2 ("options '-" ++ String.ofList letters ++ "' are incompatible")

/-- The letter of a way of sorting that a word names. -/
def sortWord? (word : Octets) : Option Char :=
  [("numeric", 'n'), ("general-numeric", 'g'), ("human-numeric", 'h'), ("month", 'M'), ("random", 'R'),
    ("version", 'V')].find? (fun (name, _) => word.isPrefixOf name.toList) |>.map (·.2)

/-- The number of the first line that is not in order, and the line. -/
def firstDisorder (s : Sorting) : Nat → List Octets → Option (Nat × Octets)
  | n, a :: b :: rest =>
    let order := s.compareLines a b
    if order == .gt || (s.unique && order == .eq) then some (n + 1, b)
    else firstDisorder s (n + 1) (b :: rest)
  | _, _ => none

/-- Sorts lines. -/
def sortTool (args : List Octets) : Tool Nat := do
  let notice := fun (key : String) (text : Octets) => do
    if key = "k" then
      let _ ← sortKeyOf text
    else if key = "t" then
      match text with
      | [] => refuse 2 "empty tab"
      | [_] => pure ()
      | text => unless text = "\\0".toList do refuse 2 ("multi-character tab " ++ textInQuotes text)
  let g ← OptionRules.read { status := 2, notice, forms := [plain "b" "ignore-leading-blanks",
    plain "c" "", plain "C" "", { word := "check", follows := .maybe }, plain "d" "dictionary-order",
    plain "f" "ignore-case", plain "g" "general-numeric-sort", plain "h" "human-numeric-sort",
    plain "i" "ignore-nonprinting", taking "k" "key", plain "M" "month-sort", plain "m" "merge",
    plain "n" "numeric-sort", taking "o" "output", plain "R" "random-sort", plain "r" "reverse",
    taking "S" "buffer-size", plain "s" "stable", taking "t" "field-separator",
    taking "T" "temporary-directory", plain "u" "unique", plain "V" "version-sort",
    plain "z" "zero-terminated", taking "" "parallel", taking "" "sort", taking "" "batch-size",
    taking "" "compress-program", taking "" "files0-from", taking "" "random-source",
    plain "" "debug"] } args
  let letters := g.options.filterMap fun (key, text) =>
    match key.toList with
    | [c] => if c ∈ keyLetters then some c else none
    | _ => if key = "sort" then sortWord? (text.getD []) else none
  let options := letters.filter (· ≠ 'b')
  let skips := decide ('b' ∈ letters)
  let given ← (g.options.filter (·.1 = "k")).mapM fun (_, text) => sortKeyOf (text.getD [])
  let inherit := fun (k : SortKey) =>
    if k.options.isEmpty && !k.skipsStart && !k.skipsStop then
      { k with options, skipsStart := skips, skipsStop := skips }
    else k
  let whole := options.any (· ≠ 'r') || skips
  let keys := if given.isEmpty then
      (if whole then [{ options, skipsStart := skips, skipsStop := skips }] else [])
    else given.map inherit
  for k in keys do checkKey k.options
  let s : Sorting := {
    keys, options, stable := g.has "s", unique := g.has "u"
    separator := (g.text? "t").map fun text => if text = "\\0".toList then '\x00' else text.headD '\t' }
  let ending := if g.has "z" then '\x00' else '\n'
  let checks := if g.has "C" then some false
    else if g.has "c" then some true
    else if g.has "check" then some ((g.text? "check").getD [] |>.isEmpty)
    else none
  let operands := orInput g.operands
  if checks.isSome then
    match operands with
    | _ :: extra :: _ => refuse 2 ("extra operand " ++ textInQuotes extra ++ " not allowed with -c")
    | _ => pure ()
  let streams ← operands.mapM fun path => do
    match ← openOperand path with
    | .ok i => return i
    | .error e => refuse 2 ("cannot read: " ++ nameText path ++ ": " ++ e.words)
  let files ← (operands.zip streams).mapM fun (path, i) => do
    match ← act (drainStream i) with
    | .ok (text, cut) =>
      if cut then starve
      return linesOf ending text
    | .error e => refuse 2 ("read failed: " ++ nameText path ++ ": " ++ e.words)
  match checks with
  | some tells =>
    match firstDisorder s 1 files.flatten with
    | none => return 0
    | some (n, line) =>
      if tells then
        warn (shown (operands.headD []) ++ ":" ++ shown (Octets.ofNat n) ++ ": disorder: " ++ shown line)
      return 1
  | none =>
    let le := fun (a b : Octets) => s.compareLines a b != .gt
    let lines := if g.has "m" then files.foldl (fun done ls => List.merge done ls le) []
      else files.flatten.mergeSort le
    let output := textOfLines ending (if s.unique then s.withoutEqual lines else lines)
    match g.text? "o" with
    | none =>
      put output
      return 0
    | some path =>
      match ← act (openToWrite path false) with
      | .error e => refuse 2 ("open failed: " ++ nameText path ++ ": " ++ e.words)
      | .ok i =>
        match ← act (writeStream i output) with
        | .ok () => return 0
        | .error e => refuse 2 ("write failed: " ++ nameText path ++ ": " ++ e.words)

end KctlProbe.Sandbox.Tool
