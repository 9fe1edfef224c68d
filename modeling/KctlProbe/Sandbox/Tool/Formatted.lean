import KctlProbe.Sandbox.Printing
import KctlProbe.Sandbox.Tool.Words

/-!
# Tools for formatted output

`printf` writes its arguments as a format says, and `seq` the numbers of a sequence. Both count with
64 significant bits where numbers have decimals.
-/

namespace KctlProbe.Sandbox.Tool

/-- The arguments of a format that were not used yet, and a status. -/
structure Filling where
  arguments : List Octets
  status : Nat := 0

/-- A step of filling in a format. -/
abbrev Fill := StateT Filling Tool

namespace Fill

/-- The next argument, or nothing. -/
def next : Fill Octets := do
  let s ← get
  set { s with arguments := s.arguments.drop 1 }
  return s.arguments.headD []

/-- Complains about an argument, and goes on. -/
def complain (text : String) : Fill Unit := do
  (warn text : Tool Unit)
  modify fun s => { s with status := 1 }

/-- The number of the character that an argument stands for behind a quote, if it does. -/
def character? (text : Octets) : Fill (Option Nat) := do
  match text with
  | q :: c :: rest =>
    if q = '\'' ∨ q = '"' then
      unless rest.isEmpty do
        (warn ("warning: " ++ shown rest ++
          ": character(s) following character constant have been ignored") : Tool Unit)
      return some c.toNat
    else return none
  | _ => return none

/-- Complains unless all of an argument is a number. -/
def checkNumber (text rest : Octets) (overflow : Bool) : Fill Unit := do
  if overflow then complain (textInQuotes text ++ ": " ++ Errno.outOfRange.words)
  else if !rest.isEmpty then
    complain (textInQuotes text ++ ": " ++
      (if rest = text then "expected a numeric value" else "value not completely converted"))

/-- The whole number that an argument is, as it is read by `read`. -/
def whole (read : Octets → Numeral) (text : Octets) : Fill Int := do
  match ← character? text with
  | some n => return n
  | none =>
    let n := read text
    checkNumber text n.rest n.overflow
    return n.value

/-- The number with decimals that an argument is. -/
def real (text : Octets) : Fill Real := do
  match ← character? text with
  | some n => return .ofInt n
  | none =>
    match Real.read? 64 text with
    | some (x, rest) =>
      checkNumber text rest false
      return x
    | none =>
      checkNumber text text false
      return .ofInt 0

/-- Writes something. -/
def write (data : Octets) : Fill Unit :=
  (put data : Tool Unit)

/-- Ends the tool because of what a format says. -/
def fail {α : Type} (text : String) : Fill α :=
  (refuse 1 text : Tool α)

/-- The hexadecimal digits of an escape, and what is behind them. -/
def hexDigits (least most : Nat) (cs : Octets) : Fill (Octets × Octets) := do
  let digits := (cs.take most).takeWhile (isDigitOf 16)
  if digits.length < least then fail "missing hexadecimal number in escape"
  return (digits, cs.drop digits.length)

/-- Writes what an escape stands for, behind its backslash, and gives the rest. -/
def writeEscape (zeroFirst : Bool) (cs : Octets) : Fill Octets := do
  match cs with
  | [] =>
    write ['\\']
    return []
  | 'x' :: rest =>
    let (digits, rest) ← hexDigits 1 2 rest
    write [Char.ofNat (numberOf 16 digits)]
    return rest
  | 'c' :: _ => (quit (← get).status : Tool Octets)
  | 'u' :: rest =>
    let (digits, rest) ← hexDigits 4 4 rest
    writeUnicode 'u' 4 digits
    return rest
  | 'U' :: rest =>
    let (digits, rest) ← hexDigits 8 8 rest
    writeUnicode 'U' 8 digits
    return rest
  | c :: rest =>
    if isDigitOf 8 c then
      let digits := (if zeroFirst && c == '0' then rest else cs).take 3 |>.takeWhile (isDigitOf 8)
      let used := digits.length + (if zeroFirst && c == '0' then 1 else 0)
      write [Char.ofNat (numberOf 8 digits % 256)]
      return cs.drop used
    else
      match "\"\\abefnrtv".toList.zip "\"\\\x07\x08\x1B\x0C\n\r\t\x0B".toList |>.lookup c with
      | some d =>
        write [d]
        return rest
      | none =>
        write ['\\', c]
        return rest
where
  /-- Writes a character by its number, or its number if it has more than one byte. -/
  writeUnicode (letter : Char) (width : Nat) (digits : Octets) : Fill Unit := do
    let n := numberOf 16 digits
    if n < 128 then write [Char.ofNat n]
    else
      let digits := Nat.toDigits 16 n
      let (letter, width) := if letter = 'U' && n < 65536 then ('u', 4) else (letter, width)
      write ('\\' :: letter :: List.replicate (width - digits.length) '0' ++
        digits.map Char.toUpper)

/-- Writes a text with its escapes replaced. -/
def writeEscaped : Nat → Octets → Fill Unit
  | 0, _ => pure ()
  | fuel + 1, cs => do
    let plain := cs.takeWhile (· ≠ '\\')
    write plain
    match cs.drop plain.length with
    | [] => pure ()
    | _ :: rest => writeEscaped fuel (← writeEscape true rest)

/-- A number that stands in a format, or the next argument for a star, and the rest. -/
def measure (what : String) (cs : Octets) : Fill (Int × Octets) := do
  match cs with
  | '*' :: rest =>
    if (← get).arguments.isEmpty then return (0, rest)
    let text ← next
    let n ← whole (numeral 0) text
    if n < -2147483648 ∨ 2147483647 < n then
      fail ("invalid " ++ what ++ ": " ++ textInQuotes text)
    return (n, rest)
  | cs =>
    let digits := cs.takeWhile Char.isDigit
    return (numberOf 10 digits, cs.drop digits.length)

/-- The conversions that some flags allow. -/
def conversions (given : Octets) : Octets :=
  "aAcdeEfFgGiosuxX".toList.filter fun c =>
    !(('\'' ∈ given || 'I' ∈ given) && c ∈ "aAceEosxX".toList) &&
    !('#' ∈ given && c ∈ "cdisu".toList) &&
    !('0' ∈ given && c ∈ "cs".toList) &&
    !('.' ∈ given && c == 'c')

/-- Writes an argument as a directive says. -/
def convert (l : Layout) (c : Char) : Fill Unit := do
  let text ← next
  if c = 's' then write (l.text text)
  else if c = 'c' then write (l.pad [text.headD '\x00'])
  else if c = 'd' ∨ c = 'i' then write (l.integer (← whole (numeral 0) text))
  else if c ∈ ['o', 'u', 'x', 'X'] then
    write (l.natural c (← whole (wordNumeral 0) text).toNat)
  else write (l.real c (← real text))

/-- Uses the directive behind a percent sign, and gives the rest. -/
def directive (cs : Octets) : Fill Octets := do
  match cs with
  | '%' :: rest =>
    write ['%']
    return rest
  | 'b' :: rest =>
    let text ← next
    writeEscaped (text.length + 1) text
    return rest
  | 'q' :: rest =>
    unless (← get).arguments.isEmpty do write (nameText (← next)).toList
    return rest
  | cs =>
    let given := cs.takeWhile (· ∈ "-+ #0'I".toList)
    let (l, _) := flags {} (given.filter fun c => c ≠ '\'' && c ≠ 'I')
    let (width, rest) ← measure "field width" (cs.drop given.length)
    let l := l.withWidth width
    let (l, given, rest) ← match rest with
      | '.' :: rest => do
        let (n, rest) ← measure "precision" rest
        pure (l.withPrecision n, '.' :: given, rest)
      | rest => pure (l, given, rest)
    let rest := rest.dropWhile (· ∈ "lLhjtz".toList)
    match rest with
    | c :: behind =>
      if c ∈ conversions given then
        convert l c
        return behind
      else
        fail ("%" ++ shown (cs.take (cs.length - behind.length)) ++
          ": invalid conversion specification")
    | [] => fail ("%" ++ shown cs ++ ": invalid conversion specification")

/-- Uses a format once. -/
def once : Nat → Octets → Fill Unit
  | 0, _ => pure ()
  | fuel + 1, cs => do
    let plain := cs.takeWhile fun c => c ≠ '%' && c ≠ '\\'
    write plain
    match cs.drop plain.length with
    | [] => pure ()
    | c :: rest =>
      let rest ← if c = '%' then directive rest else writeEscape false rest
      once fuel rest

/-- Uses a format until all arguments are used, or none is. -/
def repeatedly (format : Octets) : Nat → Fill Unit
  | 0 => pure ()
  | fuel + 1 => do
    let before := (← get).arguments.length
    once (format.length + 1) format
    match (← get).arguments with
    | [] => pure ()
    | a :: rest =>
      if rest.length + 1 = before then
        (warn ("warning: ignoring excess arguments, starting with " ++ textInQuotes a) : Tool Unit)
      else repeatedly format fuel

end Fill

/-- Writes arguments as a format says. -/
def printfTool (args : List Octets) : Tool Nat := do
  let args := if args.head? = some ['-', '-'] then args.drop 1 else args
  match args with
  | [] => misused 1 "missing operand"
  | format :: arguments =>
    let (_, s) ← (Fill.repeatedly format (arguments.length + 1)).run { arguments }
    return s.status

/-! ## Sequences -/

/-- A decimal number: a whole number of units, of which there are ten to the power of `places` in
one. -/
structure Decimal where
  units : Int
  places : Nat
  /-- The number of characters that it takes. -/
  width : Nat
  endless : Bool := false

/-- The decimal number that a text is. -/
def Decimal.read? (text : Octets) : Option Decimal :=
  let text := text.dropWhile fun c => isSpace c || c == '+'
  let (negative, body) := match text with
    | '-' :: body => (true, body)
    | body => (false, body)
  let whole := body.takeWhile Char.isDigit
  let rest := body.drop whole.length
  let (part, dotted, rest) := match rest with
    | '.' :: rest =>
      let part := rest.takeWhile Char.isDigit
      (part, true, rest.drop part.length)
    | rest => ([], false, rest)
  let (exponent, behind) := Real.exponentAt rest
  let lower := body.map Char.toLower
  if lower = "inf".toList || lower = "infinity".toList then
    some { units := if negative then -1 else 1, places := 0, width := text.length, endless := true }
  else if whole.isEmpty && part.isEmpty || !behind.isEmpty then none
  else
    let digits := numberOf 10 (whole ++ part)
    let places := (part.length : Int) - exponent
    let size := if places < 0 then digits * Real.tenTo places.natAbs else digits
    let width := if dotted && part.isEmpty then text.length - 1
      else if dotted && whole.isEmpty then text.length + 1 else text.length
    some { units := if negative then -size else size, places := places.toNat, width }

/-- The number of units of a decimal number if there are more of them in one. -/
def Decimal.scaled (d : Decimal) (places : Nat) : Int :=
  d.units * Real.tenTo (places - d.places)

/-- A number of units as a decimal number. -/
def decimalText (units : Int) (places shownPlaces : Nat) : Octets :=
  let size := units.natAbs / Real.tenTo (places - shownPlaces)
  let digits := Real.fixedDigits ⟨size, Real.tenTo shownPlaces⟩ shownPlaces false
  if units < 0 then '-' :: digits else digits

/-- What stands before the directive of a format for numbers, how that lays them out, with which
letter, and what stands behind it. -/
def numberFormat (format : Octets) : Tool (Octets × Layout × Char × Octets) := do
  let quoted := textInQuotes format
  let rec plainPart : Octets → Octets → Octets × Octets
    | done, '%' :: '%' :: rest => plainPart ('%' :: done) rest
    | done, '%' :: rest => (done.reverse, '%' :: rest)
    | done, c :: rest => plainPart (c :: done) rest
    | done, [] => (done.reverse, [])
  let (before, rest) := plainPart [] format
  match rest with
  | [] => refuse 1 ("format " ++ quoted ++ " has no % directive")
  | _ :: rest =>
    let given := rest.takeWhile (· ∈ "-+#0 '".toList)
    let (l, _) := flags {} (given.filter (· ≠ '\''))
    let rest := rest.drop given.length
    let width := rest.takeWhile Char.isDigit
    let rest := rest.drop width.length
    let l := { l with width := numberOf 10 width }
    let (l, rest) := match rest with
      | '.' :: rest =>
        let digits := rest.takeWhile Char.isDigit
        ({ l with precision := some (numberOf 10 digits) }, rest.drop digits.length)
      | rest => (l, rest)
    let rest := if rest.head? = some 'L' then rest.drop 1 else rest
    match rest with
    | [] => refuse 1 ("format " ++ quoted ++ " ends in %")
    | c :: rest =>
      if c ∉ "efgaEFGA".toList then
        refuse 1 ("format " ++ quoted ++ " has unknown %" ++ String.ofList [c] ++ " directive")
      let (after, behind) := plainPart [] rest
      if !behind.isEmpty then refuse 1 ("format " ++ quoted ++ " has too many % directives")
      return (before, l, c, after)

/-- Whether an argument of `seq` is a negative number. -/
def isNegative (a : Octets) : Bool :=
  match a with
  | '-' :: c :: _ => c.isDigit || c == '.'
  | _ => false

/-- Writes the numbers of a sequence. -/
def seqTool (args : List Octets) : Tool Nat := do
  let rules : OptionRules := { ordered := true, forms := [plain "w" "equal-width",
    taking "f" "format", taking "s" "separator"] }
  let front := args.takeWhile (!isNegative ·)
  let g ← rules.read front
  let operands := g.operands ++ args.drop front.length
  let number := fun (text : Octets) => do
    match Decimal.read? text with
    | some d => return d
    | none => misused 1 ("invalid floating point argument: " ++ textInQuotes text)
  if 3 < operands.length then misused 1 ("extra operand " ++ textInQuotes (operands[3]?.getD []))
  if (g.has "f") && g.has "w" then
    misused 1 "format string may not be specified when printing equal width strings"
  let format ← match g.text? "f" with
    | some text => some <$> numberFormat text
    | none => pure none
  let one : Decimal := { units := 1, places := 0, width := 1 }
  let (first, step, last) ← match operands with
    | [] => misused 1 "missing operand"
    | [c] => pure (one, one, ← number c)
    | [a, c] =>
      let a ← number a
      pure (a, one, ← number c)
    | a :: b :: c :: _ =>
      let a ← number a
      let step ← number b
      if step.units = 0 then misused 1 ("invalid Zero increment value: " ++ textInQuotes b)
      pure (a, step, ← number c)
  let places := max first.places (max step.places last.places)
  let shownPlaces := max first.places step.places
  let width :=
    let w := first.width + (shownPlaces - first.places) +
      (if first.places = 0 && shownPlaces ≠ 0 then 1 else 0)
    let v := last.width + shownPlaces - last.places -
      (if last.places ≠ 0 && shownPlaces = 0 then 1 else 0) +
      (if last.places = 0 && shownPlaces ≠ 0 then 1 else 0)
    max w v
  let write := fun (x : Int) =>
    match format with
    | some (before, l, c, after) =>
      before ++ l.real c (.finite (x < 0) (Fraction.binary 64 ⟨x.natAbs, Real.tenTo places⟩)) ++ after
    | none =>
      let text := decimalText x places shownPlaces
      if !g.has "w" then text
      else
        let zeros := List.replicate (width - text.length) '0'
        match text with
        | '-' :: digits => '-' :: zeros ++ digits
        | digits => zeros ++ digits
  let separator := (g.text? "s").getD ['\n']
  let start := first.scaled places
  let increment := step.scaled places
  let stop := last.scaled places
  let beyond := fun (x : Int) =>
    if last.endless then decide (last.units < 0 ∧ 0 < increment ∨ 0 < last.units ∧ increment < 0)
    else if increment < 0 then decide (x < stop) else decide (stop < x)
  if beyond start then return 0
  -- Numbers are written many at a time.
  let rec block : Nat → List Octets → Int → List Octets × Int × Bool
    | 0, done, x => (done, x, false)
    | n + 1, done, x =>
      let next := x + increment
      if beyond next then (['\n'] :: write x :: done, next, true)
      else block n (separator :: write x :: done) next
  iterate (fun (x : Int) => do
    let (pieces, x, finished) := block 1000 [] x
    put pieces.reverse.flatten
    return if finished then .inr 0 else .inl x) 1000000000 start

end KctlProbe.Sandbox.Tool
