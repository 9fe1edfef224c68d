import KctlProbe.Sandbox.Tool.Reading

/-!
# Dumps

`od` writes bytes as numbers or characters, a block of them in each line behind the place where it
starts. A block can be written in several ways, each in a line of its own.
-/

namespace KctlProbe.Sandbox.Tool

/-- What bytes are written as. -/
inductive DumpKind where
  | named
  | char
  | signed
  | octal
  | natural
  | hex
  deriving DecidableEq, Repr

/-- A way of writing bytes. -/
structure DumpForm where
  kind : DumpKind
  /-- The number of bytes that are written as one value. -/
  size : Nat
  /-- Whether the characters follow. -/
  traced : Bool := false

/-- The names of control characters. -/
def controlNames : List String :=
  ["nul", "soh", "stx", "etx", "eot", "enq", "ack", "bel", "bs", "ht", "nl", "vt", "ff", "cr", "so", "si",
    "dle", "dc1", "dc2", "dc3", "dc4", "nak", "syn", "etb", "can", "em", "sub", "esc", "fs", "gs", "rs",
    "us", "sp"]

namespace DumpForm

/-- The greatest number of characters of a value. -/
def width (f : DumpForm) : Nat :=
  match f.kind, f.size with
  | .named, _ | .char, _ => 3
  | .signed, 1 => 4
  | .signed, 2 => 6
  | .signed, 4 => 11
  | .signed, _ => 20
  | .octal, 1 => 3
  | .octal, 2 => 6
  | .octal, 4 => 11
  | .octal, _ => 22
  | .natural, 1 => 3
  | .natural, 2 => 5
  | .natural, 4 => 10
  | .natural, _ => 20
  | .hex, n => 2 * n

/-- The bytes of a value as a number, the lowest one first. -/
def number (bytes : Octets) : Nat :=
  bytes.foldr (fun c n => n * 256 + c.toNat) 0

/-- A value. -/
def text (f : DumpForm) (bytes : Octets) : Octets :=
  let n := number bytes
  let filled := fun (digits : Octets) => List.replicate (f.width - digits.length) '0' ++ digits
  match f.kind with
  | .named =>
    let n := n % 128
    match controlNames[n]? with
    | some name => name.toList
    | none => if n = 127 then "del".toList else [Char.ofNat n]
  | .char =>
    let c := Char.ofNat n
    if c = '\x00' then "\\0".toList
    else
      match "\x07\x08\x0C\n\r\t\x0B".toList.zip "abfnrtv".toList |>.lookup c with
      | some l => ['\\', l]
      | none =>
        if ' ' ≤ c && c ≤ '~' then [c]
        else
          let digits := Nat.toDigits 8 n
          List.replicate (3 - digits.length) '0' ++ digits
  | .signed =>
    let bits := f.size * 8
    let half := 1 <<< (bits - 1)
    Octets.ofInt (if n < half then (n : Int) else (n : Int) - ((half * 2 : Nat) : Int))
  | .octal => filled (Nat.toDigits 8 n)
  | .natural => Octets.ofNat n
  | .hex => filled (Nat.toDigits 16 n)

/-- Values with blanks before each of them, in a line of so many characters. -/
def values (f : DumpForm) (blockSize lineWidth : Nat) (block : Octets) : Octets :=
  let fields := blockSize / f.size
  let pad := lineWidth - (f.width + 1) * fields
  let missing := (blockSize - block.length) / f.size
  let texts := (List.range (fields - missing)).map fun k =>
    let i := fields - k
    let here := pad * i / fields - pad * (i - 1) / fields + f.width
    let bytes := (block.drop (k * f.size)).take f.size
    let t := f.text (bytes ++ List.replicate (f.size - bytes.length) '\x00')
    ' ' :: List.replicate (here - t.length) ' ' ++ t
  texts.flatten

end DumpForm

/-- How bytes are dumped. -/
structure Dump where
  forms : List DumpForm
  blockSize : Nat
  /-- The base of the places, and how many digits they have. -/
  base : Nat := 8
  digits : Nat := 7
  placed : Bool := true
  /-- Whether blocks are written that are equal to the one before. -/
  all : Bool := false

namespace Dump

/-- The number of characters that a block takes at most. -/
def lineWidth (d : Dump) : Nat :=
  d.forms.foldl (fun n f => max n ((f.width + 1) * (d.blockSize / f.size))) 0

/-- A place. -/
def place (d : Dump) (n : Nat) : Octets :=
  if !d.placed then []
  else
    let digits := Nat.toDigits d.base n
    List.replicate (d.digits - digits.length) '0' ++ digits

/-- The lines of a block. -/
def block (d : Dump) (start : Nat) (bytes : Octets) : Octets :=
  (d.forms.zipIdx.map fun (f, i) =>
    let front := if i = 0 then d.place start
      else if d.placed then List.replicate d.digits ' ' else []
    let values := f.values d.blockSize d.lineWidth bytes
    let trace := if !f.traced then []
      else List.replicate (d.lineWidth - values.length) ' ' ++ "  >".toList ++
        bytes.map (fun c => if ' ' ≤ c && c ≤ '~' then c else '.') ++ ['<']
    front ++ values ++ trace ++ ['\n']).flatten

/-- The lines of bytes, those before with the last one first. -/
def lines (d : Dump) :
    Nat → List Octets → Nat → Option Octets → Bool → Octets → List Octets × Nat
  | 0, done, start, _, _, _ => (done, start)
  | fuel + 1, done, start, last, starred, bytes =>
    match bytes with
    | [] => (done, start)
    | bytes =>
      let part := bytes.take d.blockSize
      let rest := bytes.drop d.blockSize
      let next := start + part.length
      if !d.all && last = some part && part.length = d.blockSize then
        lines d fuel (if starred then done else ['*', '\n'] :: done) next last true rest
      else lines d fuel (d.block start part :: done) next (some part) false rest

end Dump

/-- The forms that a type gives. -/
def dumpForms (all : Octets) : Nat → Octets → Tool (List DumpForm)
  | 0, _ => return []
  | _, [] => return []
  | fuel + 1, c :: cs => do
    let traced := fun (rest : Octets) =>
      if rest.head? = some 'z' then (true, rest.drop 1) else (false, rest)
    let plainForm := fun (kind : DumpKind) => do
      let (traced, rest) := traced cs
      return { kind, size := 1, traced : DumpForm } :: (← dumpForms all fuel rest)
    let kind? := match c with
      | 'd' => some DumpKind.signed
      | 'o' => some .octal
      | 'u' => some .natural
      | 'x' => some .hex
      | _ => none
    match c, kind? with
    | 'a', _ => plainForm .named
    | 'c', _ => plainForm .char
    | _, some kind =>
      let digits := cs.takeWhile Char.isDigit
      let (size, rest) := match cs with
        | 'C' :: rest => (1, rest)
        | 'S' :: rest => (2, rest)
        | 'I' :: rest => (4, rest)
        | 'L' :: rest => (8, rest)
        | cs => if digits.isEmpty then (4, cs) else (numberOf 10 digits, cs.drop digits.length)
      if size ∉ [1, 2, 4, 8] then
        warn ("invalid type string " ++ textInQuotes all ++ ";\nthis system doesn't provide a " ++
          shown (Octets.ofNat size) ++ "-byte integral type")
        quit 1
      let (traced, rest) := traced rest
      return { kind, size, traced : DumpForm } :: (← dumpForms all fuel rest)
    | c, none =>
      refuse 1 ("invalid character '" ++ String.ofList [c] ++ "' in type string " ++ textInQuotes all)

/-- The type that a letter of an option stands for. -/
def dumpTypeOf? (key : String) : Option String :=
  [("a", "a"), ("b", "o1"), ("c", "c"), ("d", "u2"), ("D", "u4"), ("h", "x2"), ("H", "x4"), ("i", "dI"),
    ("I", "dL"), ("l", "dL"), ("o", "o2"), ("O", "o4"), ("s", "d2"), ("x", "x2"), ("X", "x4")].lookup key

/-- Dumps bytes. -/
def odTool (args : List Octets) : Tool Nat := do
  let amount := fun (letter : Char) (text : Octets) => do
    let n := numeral 0 text
    match n.found, scaled? n.value.toNat n.rest with
    | true, some size => return size
    | _, _ => refuse 1 ("invalid -" ++ String.ofList [letter] ++ " argument " ++ textInQuotes text)
  let notice := fun (key : String) (text : Octets) => do
    match key with
    | "t" => let _ ← dumpForms text (text.length + 1) text
    | "A" =>
      match text with
      | c :: _ =>
        unless c ∈ "doxn".toList do
          refuse 1 ("invalid output address radix '" ++ String.ofList [c] ++
            "'; it must be one character from [doxn]")
      | [] => refuse 1 "invalid output address radix ''; it must be one character from [doxn]"
    | "j" => let _ ← amount 'j' text
    | "N" => let _ ← amount 'N' text
    | _ => pure ()
  let simple := "abcdDhHiIloOsxX".toList.map fun c => ({ letters := [c] } : OptionForm)
  let g ← OptionRules.read { notice, forms := simple ++ [taking "A" "address-radix",
    taking "j" "skip-bytes", taking "N" "read-bytes", taking "t" "format", plain "v" "output-duplicates",
    { letters := ['w'], word := "width", follows := .maybe }] } args
  let forms ← g.options.flatMapM fun (key, text) => do
    match key, dumpTypeOf? key with
    | "t", _ =>
      let text := text.getD []
      dumpForms text (text.length + 1) text
    | _, some type => dumpForms type.toList 4 type.toList
    | _, none => return []
  let forms := if forms.isEmpty then [{ kind := .octal, size := 2 }] else forms
  let unit := forms.foldl (fun n f => max n f.size) 1
  let blockSize ← if !g.has "w" then pure (16 / unit * unit)
    else do
      let n ← match g.text? "w" with
        | some text => amount 'w' text
        | none => pure 32
      if n = 0 then act (throw (.killed 6))
      else if n % unit = 0 then pure n
      else do
        warn ("warning: invalid width " ++ shown (Octets.ofNat n) ++ "; using " ++
          shown (Octets.ofNat unit) ++ " instead")
        pure unit
  let radix := ((g.text? "A").bind (·.head?)).getD 'o'
  let (base, digits) := match radix with
    | 'd' => (10, 7)
    | 'x' => (16, 6)
    | _ => (8, 7)
  let d : Dump := { forms, blockSize, base, digits, placed := radix != 'n', all := g.has "v" }
  let skip ← match g.text? "j" with
    | some text => amount 'j' text
    | none => pure 0
  let limit ← match g.text? "N" with
    | some text => some <$> amount 'N' text
    | none => pure none
  let read ← gatherFrom warnOf {} (orInput g.operands)
  if read.pieces.isEmpty then return read.status
  let text := read.text
  if text.length < skip then
    if read.cut then starve
    refuse 1 "cannot skip past end of combined input"
  let text := text.drop skip
  let (text, cut) := match limit with
    | some n => (text.take n, read.cut && text.length < n)
    | none => (text, read.cut)
  let (lines, stop) := d.lines (text.length + 1) [] skip none false text
  put (if cut then lines.drop 1 else lines).reverse.flatten
  if cut then starve
  if d.placed then put (d.place stop ++ ['\n'])
  return read.status

end KctlProbe.Sandbox.Tool
