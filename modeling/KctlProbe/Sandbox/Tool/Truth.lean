import KctlProbe.Sandbox.Tool.Reading
import KctlProbe.Sandbox.Shell.Condition

/-!
# Tools that answer with their status

`true`, `false` and `test` as programs. As a program, `test` compares whole numbers of any length, takes
a missing file for older than every other one, and it says more exactly than the shell what is wrong
with a condition.
-/

namespace KctlProbe.Sandbox.Tool

/-- Succeeds. -/
def trueTool (_ : List Octets) : Tool Nat :=
  return 0

/-- Fails. -/
def falseTool (_ : List Octets) : Tool Nat :=
  return 1

/-- The operators of `test` between two operands. -/
def comparisons : List String :=
  "==" :: binaryOperators.filter fun op => op ≠ "<" && op ≠ ">"

/-- The operator between operands that a word is. -/
def comparison? (w : Octets) : Option String :=
  comparisons.find? (·.toList = w)

/-- The whole number that a word is. -/
def wholeNumber (w : Octets) : Tool Int := do
  let (negative, digits) := signOf w
  let number := digits.takeWhile Char.isDigit
  let rest := digits.drop number.length
  if number.isEmpty || !rest.all (fun c => c == ' ' || c == '\t') then
    refuse 2 ("invalid integer " ++ textInQuotes w)
  let n : Int := numberOf 10 number
  return if negative then -n else n

/-- Whether an operator holds between two words. -/
def compares (op : String) (a b : Octets) : Tool Bool := do
  let numbers := fun (p : Int → Int → Bool) => do
    let m ← wholeNumber a
    let n ← wholeNumber b
    return p m n
  match op with
  | "==" => return a == b
  | "-eq" => numbers fun m n => m == n
  | "-ne" => numbers fun m n => m != n
  | "-lt" => numbers fun m n => m < n
  | "-le" => numbers fun m n => m ≤ n
  | "-gt" => numbers fun m n => n < m
  | "-ge" => numbers fun m n => n ≤ m
  | "-nt" => act (isNewer true a b)
  | "-ot" => act (isNewer true b a)
  | op => act (holdsBetween op a b)

/-- The operators of `test` before an operand. -/
def questionLetters : List Char :=
  "rwxefdcbpugkstznhOGLSN".toList

/-- A condition at the start of some words: its truth, and the words behind it. -/
abbrev Judged := Bool × List Octets

/-- What is wrong if a condition ends too early. -/
def tooShort {α : Type} (all : List Octets) : Tool α :=
  refuse 2 ("missing argument after " ++ textInQuotes (all.getLast?.getD []))

/-- A condition that is an operator and an operand. -/
def question (all : List Octets) (ws : List Octets) : Tool Judged := do
  match ws with
  | ['-', c] :: rest =>
    if c ∉ questionLetters then
      refuse 2 (textInQuotes ['-', c] ++ ": unary operator expected")
    match rest with
    | [] => tooShort all
    | a :: rest =>
      if c = 't' then
        let _ ← wholeNumber a
        return (false, rest)
      return (← act (holdsFor c a), rest)
  | _ => tooShort all

/-- A condition that is a word. -/
def filled (all : List Octets) (ws : List Octets) : Tool Judged :=
  match ws with
  | a :: rest => return (!a.isEmpty, rest)
  | [] => tooShort all

/-- Whether a word has the form of an operator before an operand. -/
def isQuestion (w : Octets) : Bool :=
  match w with
  | ['-', _] => true
  | _ => false

/-- A condition of two words. -/
def twoWords (all : List Octets) (ws : List Octets) : Tool Judged := do
  match ws with
  | ['!'] :: rest =>
    let (a, rest) ← filled all rest
    return (!a, rest)
  | w :: _ => if isQuestion w then question all ws else tooShort all
  | [] => tooShort all

/-- The truth of a comparison at the start of some words, if there is one. -/
def compared? (ws : List Octets) : Option (Tool Judged) :=
  match ws with
  | a :: op :: b :: rest =>
    (comparison? op).map fun op => do
      let holds ← compares op a b
      return (holds, rest)
  | _ => none

mutual

/-- A condition of three words. -/
def threeWords (all : List Octets) : Nat → List Octets → Tool Judged
  | 0, _ => tooShort all
  | fuel + 1, ws => do
    match compared? ws, ws with
    | some judged, _ => judged
    | none, ['!'] :: rest =>
      let (a, rest) ← twoWords all rest
      return (!a, rest)
    | none, first :: second :: third :: rest =>
      if first = ['('] && third = [')'] then return (!second.isEmpty, rest)
      else if second = ['-', 'a'] || second = ['-', 'o'] then someHold all fuel ws
      else refuse 2 (textInQuotes second ++ ": binary operator expected")
    | none, _ => tooShort all

/-- A condition of so many words. -/
def conditionOf (all : List Octets) : Nat → Nat → List Octets → Tool Judged
  | 0, _, _ => tooShort all
  | fuel + 1, n, ws => do
    match n, ws with
    | 1, _ => filled all ws
    | 2, _ => twoWords all ws
    | 3, _ => threeWords all fuel ws
    | 4, ['!'] :: rest =>
      let (a, rest) ← threeWords all fuel rest
      return (!a, rest)
    | 4, ['('] :: first :: second :: [')'] :: rest =>
      let (a, _) ← twoWords all [first, second]
      return (a, rest)
    | _, _ => someHold all fuel ws

/-- Conditions of which one must hold. -/
def someHold (all : List Octets) : Nat → List Octets → Tool Judged
  | 0, _ => tooShort all
  | fuel + 1, ws => do
    let (a, rest) ← allHold all fuel ws
    match rest with
    | ['-', 'o'] :: rest =>
      let (b, rest) ← someHold all fuel rest
      return (a || b, rest)
    | rest => return (a, rest)

/-- Conditions that must all hold. -/
def allHold (all : List Octets) : Nat → List Octets → Tool Judged
  | 0, _ => tooShort all
  | fuel + 1, ws => do
    let (a, rest) ← oneHolds all fuel ws
    match rest with
    | ['-', 'a'] :: rest =>
      let (b, rest) ← allHold all fuel rest
      return (a && b, rest)
    | rest => return (a, rest)

/-- A condition that stands in no other. -/
def oneHolds (all : List Octets) : Nat → List Octets → Tool Judged
  | 0, _ => tooShort all
  | fuel + 1, ws => do
    match ws with
    | [] => tooShort all
    | ['!'] :: rest =>
      let (a, rest) ← oneHolds all fuel rest
      return (!a, rest)
    | ['('] :: rest =>
      let before := (rest.drop 1).takeWhile (· ≠ [')'])
      let n := before.length + 1
      let n := if n < 5 then n else rest.length
      if rest.isEmpty then tooShort all
      let (a, rest) ← conditionOf all fuel n rest
      match rest with
      | [] => refuse 2 "')' expected"
      | [')'] :: rest => return (a, rest)
      | w :: _ => refuse 2 ("')' expected, found " ++ textInQuotes w)
    | w :: rest =>
      match compared? ws with
      | some judged => judged
      | none => if isQuestion w then question all ws else return (!w.isEmpty, rest)

end

/-- Judges a condition. -/
def judge (ws : List Octets) : Tool Nat := do
  if ws.isEmpty then return 1
  let (holds, rest) ← conditionOf ws (8 * ws.length + 16) ws.length ws
  match rest with
  | w :: _ => refuse 2 ("extra argument " ++ textInQuotes w)
  | [] => return if holds then 0 else 1

/-- Judges a condition. -/
def testTool (args : List Octets) : Tool Nat :=
  judge args

/-- Judges a condition in brackets. -/
def bracketTool (args : List Octets) : Tool Nat := do
  if args.getLast? = some [']'] then judge args.dropLast
  else refuse 2 "missing ']'"

end KctlProbe.Sandbox.Tool
