import KctlProbe.Sandbox.Tool.Reading
import KctlProbe.Sandbox.Printing

/-!
# Tools for words

The tools whose output depends on their arguments alone.
-/

namespace KctlProbe.Sandbox.Tool

/-- The byte that an escape of hexadecimal or octal digits stands for, and what is behind it. -/
def digitsEscape (base most : Nat) (cs : Octets) : Option (Char × Octets) :=
  let digits := (cs.take most).takeWhile (isDigitOf base)
  if digits.isEmpty then none
  else some (Char.ofNat (numberOf base digits % 256), cs.drop digits.length)

/-- The escapes of a text replaced, what came before in reverse, and whether one ends all output. -/
def unescapeWords : Nat → Octets → Octets → Octets × Bool
  | 0, done, _ => (done.reverse, false)
  | _, done, [] => (done.reverse, false)
  | fuel + 1, done, c :: cs =>
    let add := fun (d : Char) (rest : Octets) => unescapeWords fuel (d :: done) rest
    if c ≠ '\\' then add c cs
    else
      match cs with
      | 'c' :: _ => (done.reverse, true)
      | 'e' :: rest => add '\x1B' rest
      | 'x' :: rest =>
        match digitsEscape 16 2 rest with
        | some (d, rest) => add d rest
        | none => add '\\' cs
      | '0' :: rest =>
        match digitsEscape 8 3 rest with
        | some (d, rest) => add d rest
        | none => add '\x00' rest
      | d :: rest =>
        if '1' ≤ d && d ≤ '7' then
          match digitsEscape 8 3 cs with
          | some (d, rest) => add d rest
          | none => add '\\' cs
        else
          match "abfnrtv\\".toList.zip "\x07\x08\x0C\n\r\t\x0B\\".toList |>.lookup d with
          | some e => add e rest
          | none => add '\\' cs
      | [] => add '\\' []

/-- Writes its arguments. -/
def echoTool (args : List Octets) : Tool Nat := do
  let isOption := fun (a : Octets) =>
    match a with
    | '-' :: c :: cs => (c :: cs).all (· ∈ ['n', 'e', 'E'])
    | _ => false
  let letters := (args.takeWhile isOption).flatMap (·.drop 1)
  let text := Octets.join [' '] (args.dropWhile isOption)
  let escapes := (letters.filter (· ≠ 'n')).getLast? == some 'e'
  let (text, stopped) := if escapes then unescapeWords (text.length + 1) [] text else (text, false)
  put (if 'n' ∈ letters || stopped then text else text ++ ['\n'])
  return 0

/-- The number of times that `yes` writes at once. -/
def yesLines : Nat := 512

/-- Writes a line again and again. -/
def yesTool (args : List Octets) : Tool Nat := do
  let g ← OptionRules.read { forms := [] } args
  let line := Octets.join [' '] (if g.operands.isEmpty then [['y']] else g.operands) ++ ['\n']
  let block := (List.replicate yesLines line).flatten
  iterate (fun (_ : Unit) => do
    put block
    return .inl ()) 1000000000 ()

/-- The last name of a path. -/
def lastName (path : Octets) : Octets :=
  let path := withoutSlashes path
  if path = ['/'] then path else (path.reverse.takeWhile (· ≠ '/')).reverse

/-- The path in front of the last name of a path. -/
def aroundName (path : Octets) : Octets :=
  let path := withoutSlashes path
  let front := path.take (path.length - (path.reverse.takeWhile (· ≠ '/')).length)
  if front.isEmpty then ['.']
  else withoutSlashes front

/-- A text without an ending, unless that is all of it. -/
def withoutEnding (ending text : Octets) : Octets :=
  if ending.length < text.length && ending.isSuffixOf text then
    text.take (text.length - ending.length)
  else text

/-- Writes the last names of paths. -/
def basenameTool (args : List Octets) : Tool Nat := do
  let g ← OptionRules.read { ordered := true, forms := [plain "a" "multiple", taking "s" "suffix",
    plain "z" "zero"] } args
  let ending := if g.has "z" then '\x00' else '\n'
  let many := g.has "a" || g.has "s"
  match g.operands with
  | [] => misused 1 "missing operand"
  | path :: rest =>
    if !many && 1 < rest.length then
      misused 1 ("extra operand " ++ textInQuotes (rest[1]?.getD []))
    let suffix := if many then (g.text? "s").getD [] else rest.headD []
    let paths := if many then g.operands else [path]
    for path in paths do
      put (withoutEnding suffix (lastName path) ++ [ending])
    return 0

/-- Writes the paths in front of the last names of paths. -/
def dirnameTool (args : List Octets) : Tool Nat := do
  let g ← OptionRules.read { ordered := true, forms := [plain "z" "zero"] } args
  let ending := if g.has "z" then '\x00' else '\n'
  if g.operands.isEmpty then misused 1 "missing operand"
  for path in g.operands do
    put (aroundName path ++ [ending])
  return 0

end KctlProbe.Sandbox.Tool
