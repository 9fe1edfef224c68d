import KctlProbe.Sandbox.Shell.Builtin.Arguments
import KctlProbe.Sandbox.Printing

/-!
# Output commands of a shell

`echo` and `printf`. What they write is held until they are done, while their complaints are written
at once.
-/

namespace KctlProbe.Sandbox

/-- Writes arguments with their escapes replaced. An escape can end the output. -/
def echoBuiltin (args : List Octets) : Action Nat := do
  let (newline, args) := match args with
    | ['-', 'n'] :: rest => (false, rest)
    | args => (true, args)
  let rec go : List Octets → Octets × Bool
    | [] => ([], false)
    | [a] => unescapeAll a
    | a :: rest =>
      match unescapeAll a with
      | (text, true) => (text, true)
      | (text, false) =>
        let (others, stopped) := go rest
        (text ++ ' ' :: others, stopped)
  let (text, stopped) := go args
  hold (if newline && !stopped then text ++ ['\n'] else text)
  return 0

/-- How far a format has been used. -/
structure Printing where
  arguments : List Octets
  status : Nat := 0
  /-- Whether an escape has ended all output. -/
  stopped : Bool := false

/-- A step of using a format. -/
abbrev Printf := StateT Printing Action

namespace Printf

/-- The next argument, if one is left. -/
def next : Printf (Option Octets) := do
  let p ← get
  set { p with arguments := p.arguments.drop 1 }
  return p.arguments.head?

/-- Complains about an argument that is no number. -/
def complainNumber (text : Octets) (why : String) : Printf Unit := do
  (warn (shown text ++ ": " ++ why) : Action Unit)
  modify fun p => { p with status := 1 }

/-- Complains about what is left of an argument behind its number. -/
def checkRest (text rest : Octets) (overflow : Bool) : Printf Unit := do
  if !rest.isEmpty then
    complainNumber text (if rest = text then "expected numeric value" else
      "not completely converted")
  else if overflow then complainNumber text Errno.outOfRange.words

/-- The number that the next argument gives, as it is read by `read`. -/
def integer (read : Octets → Numeral) : Printf Int := do
  match ← next with
  | none => return 0
  | some text =>
    match text with
    | '\'' :: rest => return ((rest.head?.map (·.toNat)).getD 0 : Nat)
    | '"' :: rest => return ((rest.head?.map (·.toNat)).getD 0 : Nat)
    | text =>
      let n := read text
      checkRest text n.rest n.overflow
      return n.value

/-- The number with decimals that the next argument gives. -/
def real : Printf Real := do
  match ← next with
  | none => return .ofInt 0
  | some text =>
    match text with
    | '\'' :: rest => return .ofInt ((rest.head?.map (·.toNat)).getD 0 : Nat)
    | '"' :: rest => return .ofInt ((rest.head?.map (·.toNat)).getD 0 : Nat)
    | text =>
      match Real.read? 53 text with
      | some (x, rest) =>
        checkRest text rest false
        return x
      | none =>
        checkRest text text false
        return .ofInt 0

/-- Uses a directive with conversion `c`. -/
def convert (l : Layout) (c : Char) : Printf Unit := do
  let write := fun (cs : Octets) => (hold cs : Action Unit)
  if c = 's' then write (l.text ((← next).getD []))
  else if c = 'c' then
    let text := (← next).getD []
    write (l.pad [text.headD '\x00'])
  else if c = 'b' then
    let (text, stopped) := unescapeAll ((← next).getD [])
    write (l.text text)
    modify fun p => { p with stopped }
  else if c = 'd' ∨ c = 'i' then write (l.integer (← integer (numeral 0)))
  else if c ∈ ['o', 'u', 'x', 'X'] then
    write (l.natural c (← integer (wordNumeral 0)).toNat)
  else write (l.real c (← real))

/-- The width or precision at the start of a text, or the next argument for a star, and the rest. -/
def measure (cs : Octets) : Printf (Int × Octets) := do
  match cs with
  | '*' :: rest => return (← integer (numeral 0), rest)
  | cs =>
    let digits := cs.takeWhile Char.isDigit
    return (numberOf 10 digits, cs.drop digits.length)

/-- Uses a format once, and adds what is between its directives to what was before, in reverse. -/
def once : Nat → Octets → Octets → Printf Unit
  | 0, _, _ => pure ()
  | _, done, [] => (hold done.reverse : Action Unit)
  | fuel + 1, done, c :: cs => do
    if c = '\\' then
      let (d, rest) := escape cs
      once fuel (d :: done) rest
    else if c ≠ '%' then once fuel (c :: done) cs
    else if cs.head? = some '%' then once fuel ('%' :: done) (cs.drop 1)
    else
      (hold done.reverse : Action Unit)
      let (l, rest) := flags {} cs
      let (width, rest) ← measure rest
      let l := l.withWidth width
      let (l, rest) ← match rest with
        | '.' :: rest => do
          let (n, rest) ← measure rest
          pure (l.withPrecision n, rest)
        | rest => pure (l, rest)
      match rest with
      | [] => fail "missing format character"
      | d :: rest =>
        if d ∈ "sbcdiouxXeEfFgGaA".toList then
          convert l d
          unless (← get).stopped do once fuel [] rest
        else
          fail (shown ((c :: cs).take ((c :: cs).length - rest.length)) ++ ": invalid directive")

/-- Uses a format until no arguments are left. -/
def repeatedly (format : Octets) : Nat → Printf Unit
  | 0 => pure ()
  | fuel + 1 => do
    let before := (← get).arguments.length
    once (format.length + 1) [] format
    let p ← get
    unless p.stopped || p.arguments.isEmpty || p.arguments.length = before do
      repeatedly format fuel

end Printf

/-- Writes arguments as a format says. -/
def printfBuiltin (args : List Octets) : Action Nat := do
  match ← noOptions args with
  | [] => fail "usage: printf format [arg ...]"
  | format :: arguments =>
    let (_, p) ← (Printf.repeatedly format (arguments.length + 1)).run { arguments }
    return p.status

end KctlProbe.Sandbox
