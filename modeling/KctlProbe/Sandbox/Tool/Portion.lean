import KctlProbe.Sandbox.Tool.Reading

/-!
# The starts and ends of files

`head` and `tail` write a number of lines or bytes from one end of files, or all but that many.
-/

namespace KctlProbe.Sandbox.Tool

/-- What is selected of a file. -/
structure Portion where
  bytes : Bool := false
  amount : Nat := 10
  /-- Whether the number counts from the other end: what is left out there. -/
  opposite : Bool := false
  /-- What ends a line. -/
  ending : Char := '\n'
  /-- Whether names stand in front, if that was asked for. -/
  headers : Option Bool := none

/-- The lines of a text, each with what ends it. -/
def piecesOf (ending : Char) (text : Octets) : List Octets :=
  if ending = '\n' then Octets.lines text
  else
    let parts := text.split ending
    let last := parts.getLast?.getD []
    parts.dropLast.map (· ++ [ending]) ++ (if last.isEmpty then [] else [last])

/-- The first bytes of a text up to the end of line `n`, and how many lines are missing. -/
def firstLines (ending : Char) : Nat → Octets → Octets → Octets × Nat
  | 0, done, _ => (done.reverse, 0)
  | n, done, [] => (done.reverse, n)
  | n + 1, done, c :: cs =>
    firstLines ending (if c = ending then n else n + 1) (c :: done) cs

/-- The number of bytes that are read at a time. -/
def blockSize : Nat := 8192

/-- Writes the first lines of a stream. What was read too much of a file is read again. -/
def copyLines (stream : Nat) (ending : Char) (n : Nat) : Tool (Except Errno Unit) :=
  iterate (fun (n : Nat) => do
    if n = 0 then return .inr (.ok ())
    match ← act (readStream stream blockSize) with
    | .error e => return .inr (.error e)
    | .ok ([], more) =>
      if more then starve
      return .inr (.ok ())
    | .ok (block, _) =>
      let (start, missing) := firstLines ending n [] block
      if missing = 0 then
        match (← act get).streams[stream]? with
        | some (.file _ _ _) => act (unreadStream stream (block.drop start.length))
        | _ => pure ()
      put start
      return .inl missing) 1000000000 n

/-- Writes the first bytes of a stream. -/
def copyBytes (stream : Nat) (n : Nat) : Tool (Except Errno Unit) :=
  iterate (fun (n : Nat) => do
    if n = 0 then return .inr (.ok ())
    match ← act (readStream stream (min n 65536)) with
    | .error e => return .inr (.error e)
    | .ok ([], more) =>
      if more then starve
      return .inr (.ok ())
    | .ok (block, _) =>
      put block
      return .inl (n - block.length)) 1000000000 n

/-- Writes a stream without its end. -/
def copyWithoutEnd (stream : Nat) (p : Portion) : Tool (Except Errno Unit) := do
  match ← act (drainStream stream) with
  | .error e => return .error e
  | .ok (text, cut) =>
    if p.bytes then put (text.take (text.length - p.amount))
    else
      let pieces := piecesOf p.ending text
      put (pieces.take (pieces.length - p.amount)).flatten
    if cut then starve
    return .ok ()

/-- Writes the start of a stream. -/
def copyStart (p : Portion) (stream : Nat) : Tool (Except Errno Unit) :=
  if p.opposite then copyWithoutEnd stream p
  else if p.bytes then copyBytes stream p.amount
  else copyLines stream p.ending p.amount

/-- The last elements of a list. -/
def lastOf {α : Type} (n : Nat) (xs : List α) : List α :=
  xs.drop (xs.length - n)

/-- Writes the end of a stream. -/
def copyEnd (p : Portion) (stream : Nat) : Tool (Except Errno Unit) := do
  match ← act (drainStream stream) with
  | .error e => return .error e
  | .ok (text, cut) =>
    if p.opposite then
      if p.bytes then put (text.drop (p.amount - 1))
      else put ((piecesOf p.ending text).drop (p.amount - 1)).flatten
      if cut then starve
    else
      if cut then starve
      if p.bytes then put (lastOf p.amount text)
      else put (lastOf p.amount (piecesOf p.ending text)).flatten
    return .ok ()

/-- Writes portions of files, each after its name if there are several. -/
def copyPortions (p : Portion) (copy : Nat → Tool (Except Errno Unit)) (files : List Octets) :
    Tool Nat := do
  let headers := p.headers.getD (1 < files.length)
  let rec go : Bool → Nat → List Octets → Tool Nat
    | _, status, [] => return status
    | first, status, path :: rest => do
      let title := if path = ['-'] then "standard input".toList else path
      match ← openOperand path with
      | .error e =>
        warn ("cannot open " ++ nameInQuotes title ++ " for reading: " ++ e.words)
        go first 1 rest
      | .ok stream =>
        if headers then
          put ((if first then [] else ['\n']) ++ "==> ".toList ++ title ++ " <==\n".toList)
        match ← copy stream with
        | .ok () => go false status rest
        | .error e =>
          warn ("error reading " ++ nameInQuotes title ++ ": " ++ e.words)
          go false 1 rest
  go true 0 files

/-- What a number of lines or bytes is called. -/
def Portion.what (p : Portion) : String :=
  if p.bytes then "number of bytes" else "number of lines"

/-- Options that are meant by a number and letters in the first argument. -/
def Portion.short? (p : Portion) (digits letters : Octets) : Option (Portion × Octets) :=
  letters.foldl (fun p c => p.bind fun ((p, factor) : Portion × Octets) =>
    match c with
    | 'c' => some ({ p with bytes := true }, [])
    | 'b' | 'k' | 'm' => some ({ p with bytes := true }, [c])
    | 'l' => some ({ p with bytes := false }, factor)
    | 'q' => some ({ p with headers := some false }, factor)
    | 'v' => some ({ p with headers := some true }, factor)
    | 'z' => some ({ p with ending := '\x00' }, factor)
    | _ => none) (some (p, [])) |>.map fun (p, factor) => (p, digits ++ factor)

/-- The options that `head` and `tail` share. -/
def portionForms : List OptionForm :=
  [taking "c" "bytes", taking "n" "lines", plain "q" "quiet", plain "q" "silent",
    plain "v" "verbose", plain "z" "zero-terminated"]

/-- Does what options say about names and the ends of lines. -/
def Portion.withFlags (p : Portion) (g : Given) : Portion :=
  { p with
    ending := if g.has "z" then '\x00' else p.ending
    headers := match g.last? ["q", "v"] with
      | some k => some (k = "v")
      | none => p.headers }

/-- Writes the starts of files. -/
def headTool (args : List Octets) : Tool Nat := do
  let (p, args) ← match args with
    | ('-' :: d :: cs) :: rest =>
      if !d.isDigit then pure ({}, args)
      else
        let digits := (d :: cs).takeWhile Char.isDigit
        let letters := (d :: cs).drop digits.length
        match Portion.short? {} digits letters with
        | some (p, text) => do
          let amount ← amount 1 p.what text
          pure ({ p with amount }, rest)
        | none =>
          let wrong := (letters.find? fun c => !(c ∈ "cbkmlqvz".toList)).getD ' '
          misused 1 ("invalid trailing option -- " ++ String.ofList [wrong])
    | args => pure ({}, args)
  let g ← OptionRules.read { forms := portionForms } args
  let p ← g.options.foldlM (fun (p : Portion) (key, text) => do
    if key = "c" ∨ key = "n" then
      let text := text.getD []
      let p := { p with bytes := key == "c", opposite := text.head? == some '-' }
      let n ← amount 1 p.what (if p.opposite then text.drop 1 else text)
      return { p with amount := n }
    else return p) p
  let p := p.withFlags g
  copyPortions p (copyStart p) (orInput g.operands)

/-- Writes the ends of files. -/
def tailTool (args : List Octets) : Tool Nat := do
  let short := match args with
    | (sign :: cs) :: rest =>
      let digits := cs.takeWhile Char.isDigit
      let letters := cs.drop digits.length
      let fits := rest.length ≤ 1 || rest.head? = some ['-', '-']
      let starts := sign = '+' || (sign = '-' && !digits.isEmpty)
      let kind := letters.filter (· ≠ 'f')
      if fits && starts && kind.length ≤ 1 && kind.all (· ∈ ['b', 'c', 'l']) then
        some (sign == '+', (if digits.isEmpty then "10".toList else digits) ++
          (if kind = ['b'] then kind else []), kind, rest)
      else none
    | _ => none
  let (p, args) ← match short with
    | some (opposite, text, kind, rest) => do
      let p : Portion := { opposite, bytes := kind == ['c'] || kind == ['b'] }
      let n ← amount 1 p.what text
      pure ({ p with amount := n }, rest)
    | none => pure ({}, args)
  let g ← OptionRules.read { forms := portionForms ++ [{ letters := ['f'], word := "follow", follows := .nothing },
    plain "F" "", plain "" "retry", taking "s" "sleep-interval", taking "" "pid"] } args
  let p ← g.options.foldlM (fun (p : Portion) (key, text) => do
    if key = "c" ∨ key = "n" then
      let text := text.getD []
      let p := { p with bytes := key == "c", opposite := text.head? == some '+' }
      let n ← amount 1 p.what (if text.head? = some '-' then text.drop 1 else text)
      return { p with amount := n }
    else return p) p
  let p := p.withFlags g
  copyPortions p (copyEnd p) (orInput g.operands)

end KctlProbe.Sandbox.Tool
