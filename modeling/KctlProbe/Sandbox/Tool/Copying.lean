import KctlProbe.Sandbox.Tool.Reading

/-!
# Tools that copy

The tools that write their input or files as they are, or with marks that make characters visible.
-/

namespace KctlProbe.Sandbox.Tool

/-- How text is made visible. -/
structure Visible where
  /-- Whether lines are numbered, and whether the empty ones are not. -/
  numbers : Bool := false
  onlyFilled : Bool := false
  /-- Whether empty lines are written once where they follow each other. -/
  squeezes : Bool := false
  ends : Bool := false
  tabs : Bool := false
  controls : Bool := false

/-- A character that is not a newline, made visible. -/
def Visible.mark (v : Visible) (c : Char) : Octets :=
  if c = '\t' then (if v.tabs then "^I".toList else [c])
  else if !v.controls then [c]
  else
    let n := c.toNat
    let low := fun (n : Nat) =>
      if n < 32 then ['^', Char.ofNat (n + 64)] else if n = 127 then "^?".toList else [Char.ofNat n]
    if n < 128 then low n else "M-".toList ++ low (n - 128)

/-- Where a text that is made visible has got to. -/
structure VisibleState where
  line : Nat := 1
  /-- The empty lines that came last. -/
  empties : Nat := 0
  atStart : Bool := true

/-- A number in front of a line. -/
def lineNumber (n width : Nat) : Octets :=
  let digits := Octets.ofNat n
  List.replicate (width - digits.length) ' ' ++ digits ++ ['\t']

/-- The lines of a text, made visible. -/
def Visible.show (v : Visible) (start : VisibleState) (text : Octets) : Octets × VisibleState :=
  let (pieces, s) := (Octets.lines text).foldl (fun ((done, s) : List Octets × VisibleState) line =>
    let ended := line.getLast? = some '\n'
    let body := if ended then line.dropLast else line
    let empty := body.isEmpty && s.atStart
    let next := { s with atStart := ended, empties := if empty then s.empties + 1 else 0 }
    if empty && v.squeezes && 1 ≤ s.empties then (done, next)
    else
      let numbered := v.numbers && s.atStart && !(empty && v.onlyFilled)
      let start := if numbered then lineNumber s.line 6 else []
      let carriage := v.ends && !v.controls && ended && body.getLast? = some '\r'
      let shownBody :=
        if carriage then body.dropLast.flatMap v.mark ++ "^M".toList else body.flatMap v.mark
      let stop := if ended then (if v.ends then ['$', '\n'] else ['\n']) else []
      ((start ++ shownBody ++ stop) :: done, { next with line := if numbered then s.line + 1 else s.line }))
    ([], start)
  (pieces.reverse.flatten, s)

/-- Whether a stream reads a file that the output goes to, from a place that the output has passed. -/
def readsOutput (i : Nat) : Tool Bool := do
  let m ← act get
  match ← act (streamOf? 1) with
  | none => return false
  | some o =>
    match m.streams[i]?, m.streams[o]? with
    | some (.file a start _), some (.file b place access) =>
      if a ≠ b then return false
      let place := if access.atEnd then (m.world.files.node b).size else place
      return decide (start < place) && (m.world.files.node a).isFile
    | _, _ => return false

/-- Copies files to the output. -/
def catTool (args : List Octets) : Tool Nat := do
  let g ← OptionRules.read { forms := [plain "A" "show-all", plain "b" "number-nonblank",
    plain "e" "", plain "E" "show-ends", plain "n" "number", plain "s" "squeeze-blank", plain "t" "",
    plain "T" "show-tabs", plain "u" "", plain "v" "show-nonprinting"] } args
  let has := fun keys => keys.any g.has
  let v : Visible := {
    numbers := has ["b", "n"], onlyFilled := has ["b"], squeezes := has ["s"]
    ends := has ["A", "e", "E"], tabs := has ["A", "t", "T"], controls := has ["A", "e", "t", "v"] }
  let changes := v.numbers || v.squeezes || v.ends || v.tabs || v.controls
  let rec go : VisibleState → Nat → List Octets → Tool Nat
    | _, status, [] => return status
    | s, status, path :: rest => do
      match ← openOperand path with
      | .error e =>
        warnOf path e
        go s 1 rest
      | .ok i =>
        if ← readsOutput i then
          warn (nameText path ++ ": input file is output file")
          go s 1 rest
        else
          match ← act (drainStream i) with
          | .error e =>
            warnOf path e
            go s 1 rest
          | .ok (text, cut) =>
            let (output, s) := if changes then v.show s text else (text, s)
            put output
            if cut then starve
            go s status rest
  go {} 0 (orInput g.operands)

/-- Writes the lines of files, the last one first. -/
def tacTool (args : List Octets) : Tool Nat := do
  let g ← OptionRules.read { forms := [plain "b" "before", plain "r" "regex", taking "s" "separator"] }
    args
  forEach (fun path => do
    match ← openOperand path with
    | .error e =>
      warn ("failed to open " ++ nameInQuotes path ++ " for reading: " ++ e.words)
      return 1
    | .ok i =>
      match ← act (drainStream i) with
      | .error e =>
        warn (nameText path ++ ": read error: " ++ e.words)
        return 1
      | .ok (text, cut) =>
        if cut then starve
        put (Octets.lines text).reverse.flatten
        return 0) 0 (orInput g.operands)

/-- Writes each line of files backwards. -/
def revTool (args : List Octets) : Tool Nat := do
  let g ← OptionRules.read { forms := [] } args
  forEach (fun path => do
    match ← openOperand path with
    | .error e =>
      warn ("cannot open " ++ shown path ++ ": " ++ e.words)
      return 1
    | .ok i =>
      match ← act (drainStream i) with
      | .error e =>
        warnOf path e
        return 1
      | .ok (text, cut) =>
        put ((Octets.lines text).flatMap fun line =>
          if line.getLast? = some '\n' then line.dropLast.reverse ++ ['\n'] else line.reverse)
        if cut then starve
        return 0) 0 (orInput g.operands)

/-- The outputs of `tee`: the files that could be opened, and a status. -/
def openOutputs (atEnd : Bool) : List Octets → Tool (List (Octets × Nat) × Nat)
  | [] => return ([], 0)
  | path :: rest => do
    match ← act (openToWrite path atEnd) with
    | .ok i =>
      let (others, status) ← openOutputs atEnd rest
      return ((path, i) :: others, status)
    | .error e =>
      warnOf path e
      let (others, _) ← openOutputs atEnd rest
      return (others, 1)

/-- Copies the input to the output and to files. -/
def teeTool (args : List Octets) : Tool Nat := do
  let g ← OptionRules.read { forms := [plain "a" "append", plain "i" "ignore-interrupts", plain "p" "",
    { word := "output-error", follows := .maybe }] } args
  let (files, status) ← openOutputs (g.has "a") g.operands
  match ← drainOperand ['-'] with
  | .error e => refuse 1 ("read error: " ++ e.words)
  | .ok (text, cut) =>
    let statuses ← files.mapM fun (path, i) => do
      match ← act (writeStream i text) with
      | .ok () => return 0
      | .error e =>
        warnOf path e
        return 1
    let written ← if text.isEmpty then pure (.ok ()) else act (write? 1 text)
    let outcome ← match written with
      | .ok () => pure 0
      | .error e => do
        warn ("'standard output': " ++ e.words)
        pure 1
    if cut then starve
    return (statuses.foldl max (max status outcome))

end KctlProbe.Sandbox.Tool
