import KctlProbe.Sandbox.Shell.Complaint

/-!
# Conditions

The expressions of `test`: properties of files and texts, comparisons, and their combinations. A
word is an operator only where that makes sense, so the same word can be an operand elsewhere.
-/

namespace KctlProbe.Sandbox

/-- What a word of a condition can be. -/
inductive TestWord where
  | unary (letter : Char)
  | binary (text : String)
  | not
  | and
  | or
  | opening
  | closing
  | operand
  | nothing
  deriving DecidableEq, Repr

/-- The operators before an operand. -/
def unaryLetters : List Char :=
  "rwxefdcbpugkstznhOGLS".toList

/-- The operators between two operands. -/
def binaryOperators : List String :=
  ["=", "!=", "<", ">", "-eq", "-ne", "-ge", "-gt", "-le", "-lt", "-nt", "-ot", "-ef"]

/-- The operator that a word is, if it is one. -/
def operatorOf? (w : Octets) : Option TestWord :=
  match w with
  | ['!'] => some .not
  | ['('] => some .opening
  | [')'] => some .closing
  | ['-', 'a'] => some .and
  | ['-', 'o'] => some .or
  | w =>
    match binaryOperators.find? (·.toList = w) with
    | some text => some (.binary text)
    | none =>
      match w with
      | ['-', c] => if c ∈ unaryLetters then some (.unary c) else none
      | _ => none

/-- Whether a word is an operator between two operands. -/
def isBinary (w : Octets) : Bool :=
  match operatorOf? w with
  | some (.binary _) => true
  | _ => false

/-- What the first of some words is. -/
def firstWord (ws : List Octets) : TestWord :=
  match ws with
  | [] => .nothing
  | w :: rest =>
    match operatorOf? w with
    | none => .operand
    | some (.unary c) =>
      let isOperand := match rest with
        | [] => true
        | [_] => false
        | next :: _ => isBinary next
      if isOperand then .operand else .unary c
    | some .opening => if rest.isEmpty then .operand else .opening
    | some op => op

/-- The node at a path, if there is one. -/
def nodeAt? (path : Octets) (through : Bool) : Action (Option (Nat × Node)) := do
  match ← spotOf path through with
  | .ok s =>
    let files ← getFiles
    return s.node.map fun i => (i, files.node i)
  | .error _ => return none

/-- Whether an operator holds for the operand behind it. -/
def holdsFor (letter : Char) (a : Octets) : Action Bool := do
  let file := fun (p : Node → Bool) => do return ((← nodeAt? a true).map (·.2)).any p
  let device := fun (n : Node) => match n.content with
    | .device _ => true
    | _ => false
  match letter with
  | 'z' => return a.isEmpty
  | 'n' => return !a.isEmpty
  | 't' =>
    let _ ← decimalOf a
    return false
  | 'e' => file fun _ => true
  | 'r' => file (·.allows 4)
  | 'w' => file (·.allows 2)
  | 'x' => file (·.allows 1)
  | 'f' => file (·.isFile)
  | 'd' => file (·.isDirectory)
  | 'c' => file device
  | 's' => file (0 < ·.size)
  | 'u' => file fun n => (n.mode >>> 11) % 2 = 1
  | 'g' => file fun n => (n.mode >>> 10) % 2 = 1
  | 'k' => file fun n => (n.mode >>> 9) % 2 = 1
  | 'O' => file (·.own)
  | 'G' => file (·.own)
  | 'h' | 'L' =>
    return ((← nodeAt? a false).map (·.2)).any fun n =>
      match n.content with
      | .link _ => true
      | _ => false
  | _ => return false

/-- Whether a file was changed after another one. If only the other one is missing, the answer is
`beforeAll`. -/
def isNewer (beforeAll : Bool) (a b : Octets) : Action Bool := do
  let x ← nodeAt? a true
  let y ← nodeAt? b true
  match x, y with
  | some x, some y => return y.2.time < x.2.time
  | some _, none => return beforeAll
  | none, _ => return false

/-- Whether an operator holds between two operands. -/
def holdsBetween (op : String) (a b : Octets) : Action Bool := do
  let numbers := fun (p : Int → Int → Bool) => do return p (← decimalOf a) (← decimalOf b)
  match op with
  | "=" => return a == b
  | "!=" => return a != b
  | "<" => return Octets.precedes a b
  | ">" => return Octets.precedes b a
  | "-eq" => numbers fun m n => m == n
  | "-ne" => numbers fun m n => m != n
  | "-lt" => numbers fun m n => m < n
  | "-le" => numbers fun m n => m ≤ n
  | "-gt" => numbers fun m n => n < m
  | "-ge" => numbers fun m n => n ≤ m
  | "-nt" => isNewer false a b
  | "-ot" => isNewer false b a
  | _ =>
    let x ← nodeAt? a true
    let y ← nodeAt? b true
    match x, y with
    | some x, some y => return x.1 == y.1
    | _, _ => return false

mutual

/-- The truth of conditions of which one must hold, and the words from the last one used on. -/
def anyOf : Nat → TestWord → List Octets → Action (Bool × List Octets)
  | 0, _, _ => fail "too many arguments"
  | fuel + 1, first, ws => do
    let (a, ws) ← allOf fuel first ws
    match firstWord (ws.drop 1) with
    | .or =>
      let (b, ws) ← anyOf fuel (firstWord (ws.drop 2)) (ws.drop 2)
      return (a || b, ws)
    | _ => return (a, ws)

/-- The truth of conditions that must all hold, and the words from the last one used on. -/
def allOf : Nat → TestWord → List Octets → Action (Bool × List Octets)
  | 0, _, _ => fail "too many arguments"
  | fuel + 1, first, ws => do
    let (a, ws) ← negation fuel first ws
    match firstWord (ws.drop 1) with
    | .and =>
      let (b, ws) ← allOf fuel (firstWord (ws.drop 2)) (ws.drop 2)
      return (a && b, ws)
    | _ => return (a, ws)

/-- The truth of a condition that may be negated, and the words from the last one used on. -/
def negation : Nat → TestWord → List Octets → Action (Bool × List Octets)
  | 0, _, _ => fail "too many arguments"
  | fuel + 1, first, ws => do
    if first ≠ .not then primary fuel first ws
    else
      let next := firstWord (ws.drop 1)
      let (a, ws) ← negation fuel next (if next = .nothing then ws else ws.drop 1)
      return (!a, ws)

/-- The truth of a simple condition, and the words from the last one used on. -/
def primary : Nat → TestWord → List Octets → Action (Bool × List Octets)
  | 0, _, _ => fail "too many arguments"
  | fuel + 1, first, ws => do
    match first with
    | .nothing => return (false, ws)
    | .opening =>
      let ws := ws.drop 1
      match firstWord ws with
      | .closing => return (false, ws)
      | next =>
        let (a, ws) ← anyOf fuel next ws
        let ws := ws.drop 1
        if firstWord ws ≠ .closing then fail "closing paren expected"
        return (a, ws)
    | .unary letter =>
      match ws.drop 1 with
      | [] => fail ("-" ++ String.ofList [letter] ++ ": argument expected")
      | a :: rest => return (← holdsFor letter a, a :: rest)
    | _ =>
      match ws with
      | a :: op :: rest =>
        match firstWord (op :: rest) with
        | .binary text =>
          match rest with
          | [] => fail (text ++ ": argument expected")
          | b :: rest => return (← holdsBetween text a b, b :: rest)
        | _ => return (!a.isEmpty, ws)
      | a :: _ => return (!a.isEmpty, ws)
      | [] => return (false, ws)

end

/-- The truth of a condition whose first word is known. -/
def wholeCondition (first : TestWord) (ws : List Octets) : Action Bool := do
  let (a, rest) ← anyOf (8 * ws.length + 16) first ws
  match rest with
  | w :: _ :: _ => fail (if w.isEmpty then "unexpected operator" else
      shown w ++ ": unexpected operator")
  | _ => return a

/-- The truth of a condition, the opposite of it if `negated` holds. Conditions of three and four
words are read in one way only. -/
def conditionFrom : Nat → Bool → List Octets → Action Bool
  | 0, negated, ws => do return (← wholeCondition (firstWord ws) ws) != negated
  | fuel + 1, negated, ws => do
    let whole := fun (first : TestWord) (ws : List Octets) => do
      return (← wholeCondition first ws) != negated
    let special := do
      match ws with
      | ['('] :: rest =>
        if rest.getLast? = some [')'] then whole (firstWord rest.dropLast) rest.dropLast
        else whole (firstWord ws) ws
      | ['!'] :: rest => conditionFrom fuel true rest
      | _ => whole (firstWord ws) ws
    match ws with
    | [] => return negated
    | [_, op, _] => if isBinary op then whole .operand ws else special
    | [_, _, _, _] => special
    | _ => whole (firstWord ws) ws

/-- The truth of a condition. -/
def condition (ws : List Octets) : Action Bool :=
  conditionFrom 4 false ws

end KctlProbe.Sandbox
