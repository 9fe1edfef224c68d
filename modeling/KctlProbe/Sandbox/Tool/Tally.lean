import KctlProbe.Sandbox.Tool.Reading

/-!
# Counts and checks

The tools that count what is in files, or compute numbers by which files can be told apart.
-/

namespace KctlProbe.Sandbox.Tool

/-- What is counted in a file. -/
structure Counts where
  lines : Nat := 0
  words : Nat := 0
  bytes : Nat := 0
  /-- The width of the widest line. -/
  width : Nat := 0

namespace Counts

/-- The counts of two files together. -/
def add (a b : Counts) : Counts :=
  ⟨a.lines + b.lines, a.words + b.words, a.bytes + b.bytes, max a.width b.width⟩

/-- Whether a character can be in a word that it is alone in. -/
def step : Counts × Bool × Nat → Char → Counts × Bool × Nat
  | (n, inWord, column), c =>
    let n := { n with bytes := n.bytes + 1 }
    let ended := { n with width := max n.width column }
    if c = '\n' then ({ ended with lines := n.lines + 1 }, false, 0)
    else if c = '\r' ∨ c = '\x0C' then (ended, false, 0)
    else if c = '\t' then (n, false, (column / 8 + 1) * 8)
    else if c = ' ' then (n, false, column + 1)
    else if c = '\x0B' then (n, false, column)
    else
      ({ n with words := if inWord then n.words else n.words + 1 }, true,
        if isPrintable c then column + 1 else column)

/-- The counts of a text. -/
def ofText (text : Octets) : Counts :=
  let (n, _, column) := text.foldl step ({}, false, 0)
  { n with width := max n.width column }

end Counts

/-- Counts lines, words and bytes. -/
def wcTool (args : List Octets) : Tool Nat := do
  let g ← OptionRules.read { forms := [plain "c" "bytes", plain "m" "chars", plain "l" "lines",
    plain "w" "words", plain "L" "max-line-length", taking "" "files0-from", taking "" "total"] } args
  let asked := ["l", "w", "m", "c", "L"].filter g.has
  let asked := if asked.isEmpty then ["l", "w", "c"] else asked
  let total := (g.text? "total").map shown |>.getD "auto"
  let paths := orInput g.operands
  let read ← paths.mapM fun path => do
    match ← openOperand path with
    | .error e => return (path, none, (.error e : Except Errno (Octets × Bool)))
    | .ok i =>
      let size := match (← act get).streams[i]? with
        | some (.file node _ _) => some node
        | _ => none
      let files ← act getFiles
      let regular := (size.map files.node).filter (·.isFile)
      return (path, some (regular.map (·.size)), ← act (drainStream i))
  let single := paths.length = 1 && asked.length = 1
  let first := (read.head?.map fun r => r.2.1.isSome).getD false
  let sizes := read.filterMap (·.2.1)
  let sum := sizes.foldl (fun n s => n + s.getD 0) 0
  let width :=
    if single || !first then 1
    else max (Octets.ofNat sum).length (if sizes.all Option.isSome then 1 else 7)
  let line := fun (n : Counts) (name : Octets) =>
    let fields := asked.map fun key =>
      let digits := Octets.ofNat (match key with
        | "l" => n.lines
        | "w" => n.words
        | "L" => n.width
        | _ => n.bytes)
      List.replicate (width - digits.length) ' ' ++ digits
    Octets.join [' '] fields ++ (if name.isEmpty then [] else ' ' :: name) ++ ['\n']
  let rec go : Counts → Nat → List (Octets × Option (Option Nat) × Except Errno (Octets × Bool)) →
      Tool (Counts × Nat)
    | sum, status, [] => return (sum, status)
    | sum, status, (path, opened, text) :: rest => do
      let name := if g.operands.isEmpty then [] else path
      match text with
      | .ok (text, cut) =>
        if cut then starve
        let n := Counts.ofText text
        if total ≠ "only" then put (line n name)
        go (sum.add n) status rest
      | .error e =>
        warnOf path e
        if opened.isSome && total ≠ "only" then put (line {} name)
        go sum 1 rest
  let (sum, status) ← go {} 0 read
  if (total = "auto" && 1 < paths.length) || total = "always" then put (line sum "total".toList)
  if total = "only" then put (line sum [])
  return status

/-- One step of a check by division: the next byte goes into the remainder. -/
def remainderStep (crc : UInt32) (c : UInt8) : UInt32 :=
  let start := crc ^^^ (c.toUInt32 <<< 24)
  (List.range 8).foldl (fun (n : UInt32) _ =>
    if n &&& 0x80000000 = 0 then n <<< 1 else (n <<< 1) ^^^ 0x04C11DB7) start

/-- The bytes of a number, the lowest one first, without zeros behind them. -/
def lowBytes : Nat → Nat → List UInt8
  | 0, _ => []
  | fuel + 1, n => if n = 0 then [] else UInt8.ofNat n :: lowBytes fuel (n / 256)

/-- The check of a text and its length. -/
def checkOf (text : Octets) : Nat :=
  let crc := text.foldl (fun crc c => remainderStep crc (UInt8.ofNat c.toNat)) 0
  let crc := (lowBytes 9 text.length).foldl remainderStep crc
  (crc ^^^ 0xFFFFFFFF).toNat

/-- Writes a check and the size of each file. -/
def cksumTool (args : List Octets) : Tool Nat := do
  let g ← OptionRules.read { forms := [taking "a" "algorithm"] } args
  forEach (fun path => do
    match ← drainOperand path with
    | .error e =>
      warnOf path e
      return 1
    | .ok (text, cut) =>
      if cut then starve
      put (Octets.ofNat (checkOf text) ++ ' ' :: Octets.ofNat text.length ++
        (if g.operands.isEmpty then [] else ' ' :: path) ++ ['\n'])
      return 0) 0 (orInput g.operands)

/-- Writes a sum that is turned as bytes come in, and the number of blocks. -/
def sumTool (args : List Octets) : Tool Nat := do
  let g ← OptionRules.read { forms := [plain "r" "", plain "s" "sysv"] } args
  let padded := fun (zero : Char) (width n : Nat) =>
    let digits := Octets.ofNat n
    List.replicate (width - digits.length) zero ++ digits
  forEach (fun path => do
    match ← drainOperand path with
    | .error e =>
      warnOf path e
      return 1
    | .ok (text, cut) =>
      if cut then starve
      let line :=
        if g.last? ["r", "s"] = some "s" then
          let s := text.foldl (fun n c => n + c.toNat) 0
          let r := s % 65536 + s % 4294967296 / 65536
          Octets.ofNat (r % 65536 + r / 65536) ++ ' ' :: Octets.ofNat ((text.length + 511) / 512)
        else
          let s := text.foldl (fun n c => (n / 2 + n % 2 * 32768 + c.toNat) % 65536) 0
          padded '0' 5 s ++ ' ' :: padded ' ' 5 ((text.length + 1023) / 1024)
      put (line ++ (if g.operands.isEmpty then [] else ' ' :: path) ++ ['\n'])
      return 0) 0 (orInput g.operands)

end KctlProbe.Sandbox.Tool
