import KctlProbe.Sandbox.Tool.Reading

/-!
# Widths of lines

`fold` breaks lines that are too wide, `expand` replaces tabs by blanks, and `unexpand` blanks by
tabs.
-/

namespace KctlProbe.Sandbox.Tool

/-- An argument of one dash and digits as an option with a letter, as it was written once. -/
def numberAsOption (letter : Char) (args : List Octets) : List Octets :=
  args.map fun a =>
    match a with
    | '-' :: c :: cs => if c.isDigit && cs.all (fun d => d.isDigit || d == ',') then
        '-' :: letter :: c :: cs else a
    | a => a

/-- The column behind a character. -/
def columnAfter (bytes : Bool) (column : Nat) (c : Char) : Nat :=
  if bytes then column + 1
  else
    match c with
    | '\x08' => column - 1
    | '\r' => 0
    | '\t' => column + 8 - column % 8
    | _ => column + 1

/-- The column behind a text. -/
def columnAfterAll (bytes : Bool) (text : Octets) : Nat :=
  text.foldl (columnAfter bytes) 0

/-- A line in parts that are not too wide, the characters of the part that is built in reverse. -/
def foldLine (bytes spaces : Bool) (width : Nat) : Nat → List Octets → Octets → Nat → Octets →
    List Octets
  | 0, done, part, _, _ => (part.reverse :: done).reverse
  | _, done, part, _, [] => (part.reverse :: done).reverse
  | fuel + 1, done, part, column, c :: cs =>
    let next := columnAfter bytes column c
    if next ≤ width then foldLine bytes spaces width fuel done (c :: part) next cs
    else
      let behind := part.takeWhile fun d => d ≠ ' ' && d ≠ '\t'
      if spaces && behind.length < part.length then
        let front := part.drop behind.length
        foldLine bytes spaces width fuel (front.reverse :: done) behind
          (columnAfterAll bytes behind.reverse) (c :: cs)
      else if part.isEmpty then foldLine bytes spaces width fuel done [c] next cs
      else foldLine bytes spaces width fuel (part.reverse :: done) [] 0 (c :: cs)

/-- Breaks lines that are too wide. -/
def foldTool (args : List Octets) : Tool Nat := do
  let g ← OptionRules.read { forms := [plain "b" "bytes", plain "s" "spaces", taking "w" "width"] }
    (numberAsOption 'w' args)
  let width ← match g.text? "w" with
    | none => pure 80
    | some text =>
      match Octets.toNat? text with
      | none => refuse 1 ("invalid number of columns: " ++ textInQuotes text)
      | some n =>
        if n = 0 ∨ greatestCount < n then
          refuse 1 ("invalid number of columns: " ++ textInQuotes text ++ ": " ++
            Errno.outOfRange.words)
        else pure n
  let read ← gatherFrom warnOf {} (orInput g.operands)
  let line := fun (text : Octets) =>
    let ended := text.getLast? = some '\n'
    let body := chomp text
    let parts := foldLine (g.has "b") (g.has "s") width (3 * body.length + 3) [] [] 0 body
    Octets.join ['\n'] parts ++ (if ended then ['\n'] else [])
  finish read (read.pieces.reverse.flatMap fun text => (Octets.lines text).flatMap line)

/-! ## Tabs -/

/-- The places of tabs. -/
structure TabStops where
  places : List Nat := []
  /-- The distance of those behind the listed ones, and whether it is counted from the last of
  them. -/
  step : Option Nat := none
  relative : Bool := false

/-- The next tab stop behind a column, if there is one. -/
def TabStops.next? (t : TabStops) (column : Nat) : Option Nat :=
  match t.places.find? (column < ·) with
  | some place => some place
  | none =>
    t.step.map fun step =>
      let start := if t.relative then t.places.getLast?.getD 0 else 0
      column + step - (column - start) % step

/-- The tab stops that a list gives. -/
def tabStopsOf (list : Octets) : Tool TabStops := do
  let parts := Octets.split ',' (list.map fun c => if c = ' ' ∨ c = '\t' then ',' else c)
  let rec go : TabStops → List Octets → Tool TabStops
    | t, [] => return t
    | t, [] :: rest => go t rest
    | t, part :: rest => do
      let (mark, digits) := match part with
        | '/' :: digits => (some '/', digits)
        | '+' :: digits => (some '+', digits)
        | digits => (none, digits)
      match Octets.toNat? digits with
      | none =>
        refuse 1 ("tab size contains invalid character(s): " ++
          textInQuotes (digits.dropWhile Char.isDigit))
      | some n =>
        match mark with
        | some m =>
          if n = 0 then go t rest
          else go { t with step := some n, relative := m == '+' } rest
        | none =>
          if n = 0 then refuse 1 "tab size cannot be 0"
          if t.places.getLast?.any (n ≤ ·) then refuse 1 "tab sizes must be ascending"
          go { t with places := t.places ++ [n] } rest
  let t ← go {} parts
  match t.places, t.step with
  | [], none => return { step := some 8 }
  | [n], none => return { step := some n }
  | _, _ => return t

/-- The tab stops that options give, the last option in the end. -/
def tabStopsGiven (g : Given) : Tool TabStops := do
  let lists := (g.options.filter (·.1 = "t")).filterMap (·.2)
  tabStopsOf (Octets.join [','] lists)

/-- A line with blanks for its tabs. -/
def expandLine (t : TabStops) (initial : Bool) (line : Octets) : Octets :=
  let (done, _, _) := line.foldl (fun ((done, column, active) : Octets × Nat × Bool) c =>
    let active := active && (!initial || c == ' ' || c == '\t' || done.all (fun d => d == ' ' || d == '\t'))
    if c = '\t' && active then
      let stop := (t.next? column).getD (column + 1)
      (List.replicate (stop - column) ' ' ++ done, stop, active)
    else
      let column := if c = '\x08' then column - 1 else column + 1
      let active := active && (!initial || c == ' ')
      (c :: done, column, active)) ([], 0, true)
  done.reverse

/-- Replaces tabs by blanks. -/
def expandTool (args : List Octets) : Tool Nat := do
  let g ← OptionRules.read { forms := [plain "i" "initial", taking "t" "tabs"] }
    (numberAsOption 't' args)
  let t ← tabStopsGiven g
  let read ← gatherFrom warnOf {} (orInput g.operands)
  finish read ((Octets.lines read.text).flatMap (expandLine t (g.has "i")))

/-- Blanks from a column to another one, as tabs where that is shorter. -/
def blanksAsTabs (t : TabStops) : Nat → Octets → Nat → Nat → Octets
  | 0, done, _, _ => done
  | fuel + 1, done, column, goal =>
    match t.next? column with
    | some stop =>
      if stop ≤ goal && (1 < stop - column || stop < goal) then
        blanksAsTabs t fuel (done ++ ['\t']) stop goal
      else done ++ List.replicate (goal - column) ' '
    | none => done ++ List.replicate (goal - column) ' '

/-- How far a line has been written with tabs for its blanks. -/
structure Unexpanding where
  /-- What was written, in reverse. -/
  done : Octets := []
  column : Nat := 0
  /-- The column before the blanks that came last, and whether there is a tab among them. -/
  start : Nat := 0
  tabbed : Bool := false
  /-- Whether blanks are still replaced. -/
  active : Bool := true

/-- A line with tabs for its blanks. -/
def unexpandLine (t : TabStops) (all : Bool) (line : Octets) : Octets :=
  let flush := fun (u : Unexpanding) =>
    let blanks := if u.start = u.column then []
      else if u.active then blanksAsTabs t (u.column + 1) [] u.start u.column
      else List.replicate (u.column - u.start) ' '
    { u with done := blanks.reverse ++ u.done, start := u.column }
  let u := line.foldl (fun (u : Unexpanding) c =>
    if !u.active then { u with done := c :: u.done }
    else if c = ' ' then { u with column := u.column + 1 }
    else if c = '\t' then
      { u with column := (t.next? u.column).getD (u.column + 1) }
    else
      let u := flush u
      let column := if c = '\x08' then u.column - 1 else u.column + 1
      { u with done := c :: u.done, column, start := column, active := all }) {}
  (flush u).done.reverse

/-- Replaces blanks by tabs. -/
def unexpandTool (args : List Octets) : Tool Nat := do
  let g ← OptionRules.read { forms := [plain "a" "all", plain "" "first-only", taking "t" "tabs"] }
    (numberAsOption 't' args)
  let t ← tabStopsGiven g
  let all := (g.has "a" || g.has "t") && !g.has "first-only"
  let read ← gatherFrom warnOf {} (orInput g.operands)
  finish read ((Octets.lines read.text).flatMap (unexpandLine t all))

end KctlProbe.Sandbox.Tool
