import KctlProbe.Sandbox.Numeral
import KctlProbe.Sandbox.Regex.Basic
import KctlProbe.Sandbox.Script.Pattern

/-!
# Reading regular expressions

There are two ways of writing regular expressions. In the basic one, most operators stand behind a
backslash; in the extended one, a backslash takes an operator its meaning.
-/

namespace KctlProbe.Sandbox

/-- What is wrong with a regular expression. -/
inductive RegexFault where
  | invalid
  | bracket
  | parenthesis
  | strayParenthesis
  | brace
  | braceContent
  | trailingBackslash
  | backReference
  | className
  | collation
  | rangeEnd
  | nothingBefore
  | tooBig
  deriving DecidableEq, Repr

namespace RegexFault

/-- The words for what is wrong. -/
def words : RegexFault → String
  | invalid => "Invalid regular expression"
  | bracket => "Unmatched [, [^, [:, [., or [="
  | parenthesis => "Unmatched ( or \\("
  | strayParenthesis => "Unmatched ) or \\)"
  | brace => "Unmatched \\\x7b"
  | braceContent => "Invalid content of \\\x7b\\\x7d"
  | trailingBackslash => "Trailing backslash"
  | backReference => "Invalid back reference"
  | className => "Invalid character class name"
  | collation => "Invalid collation character"
  | rangeEnd => "Invalid range end"
  | nothingBefore => "Invalid preceding regular expression"
  | tooBig => "Regular expression too big"

end RegexFault

/-- How regular expressions are written. -/
structure Dialect where
  extended : Bool := false
  /-- Whether operators stand for themselves where they make no sense. -/
  lenient : Bool := false
  /-- Whether a range may be empty. -/
  emptyRanges : Bool := false
  /-- Whether small and capital letters are the same. -/
  folded : Bool := false

/-- What is left of an expression, and what was learned about the part before. -/
structure RegexReading where
  rest : Octets
  /-- The groups that were opened, and those that were closed. -/
  opened : Nat := 0
  closed : List Nat := []
  /-- The parentheses that are open. -/
  depth : Nat := 0
  /-- Operators that stand where they make no sense. -/
  idle : List String := []

/-- A step of reading a regular expression. -/
abbrev ReadRegex := StateT RegexReading (Except RegexFault)

namespace Dialect

/-- A set of characters, with both cases of letters if they are the same. -/
def charSet (d : Dialect) (inside : Bool) (ranges : List (Char × Char)) : Regex :=
  if !d.folded then .one inside ranges
  else
    let shift := fun (low high new : Char) (r : Char × Char) =>
      let a := if r.1 < low then low else r.1
      let b := if high < r.2 then high else r.2
      let move := fun (c : Char) => Char.ofNat (c.toNat - low.toNat + new.toNat)
      if a ≤ b then some (move a, move b) else none
    .one inside (ranges ++ ranges.filterMap (shift 'a' 'z' 'A') ++
      ranges.filterMap (shift 'A' 'Z' 'a'))

/-- A character. -/
def char (d : Dialect) (c : Char) : Regex :=
  d.charSet true [(c, c)]

/-! ## Sets -/

/-- The text of an element of a set between two marks, and what is behind it. -/
def markedElement (mark : Char) : Octets → Octets → Except RegexFault (Octets × Octets)
  | done, c :: ']' :: rest =>
    if c = mark then .ok (done.reverse, rest) else markedElement mark (c :: done) (']' :: rest)
  | done, c :: rest => markedElement mark (c :: done) rest
  | _, [] => .error .bracket

/-- A character of a set, which can stand between marks, and what is behind it. -/
def setChar : Octets → Except RegexFault (Char × Octets)
  | '[' :: '.' :: rest => do
    match ← markedElement '.' [] rest with
    | ([c], rest) => return (c, rest)
    | _ => .error .collation
  | '[' :: '=' :: rest => do
    match ← markedElement '=' [] rest with
    | ([c], rest) => return (c, rest)
    | _ => .error .collation
  | c :: rest => .ok (c, rest)
  | [] => .error .bracket

/-- The ranges of a set up to its closing bracket, and what is behind it. -/
def setRanges (d : Dialect) :
    Nat → Bool → List (Char × Char) → Octets → Except RegexFault (List (Char × Char) × Octets)
  | 0, _, _, _ => .error .bracket
  | _, false, done, ']' :: rest => .ok (done, rest)
  | fuel + 1, _, done, '[' :: ':' :: rest => do
    let (name, rest) ← markedElement ':' [] rest
    let name := if d.folded && (name = "upper".toList || name = "lower".toList) then
      "alpha".toList else name
    match Script.classRanges? (shown name) with
    | some ranges => setRanges d fuel false (ranges ++ done) rest
    | none => .error .className
  | fuel + 1, _, done, cs => do
    let (a, rest) ← setChar cs
    match rest with
    | '-' :: b :: behind =>
      if b = ']' then setRanges d fuel false ((a, a) :: done) rest
      else
        let (b, rest) ← setChar (b :: behind)
        if b < a then
          if d.emptyRanges then setRanges d fuel false done rest else .error .rangeEnd
        else setRanges d fuel false ((a, b) :: done) rest
    | rest => setRanges d fuel false ((a, a) :: done) rest

/-- A set behind its opening bracket. -/
def readSet (d : Dialect) : ReadRegex Regex := do
  let s ← get
  let (inside, body) := match s.rest with
    | '^' :: rest => (false, rest)
    | rest => (true, rest)
  if body.isEmpty then throw .invalid
  let (ranges, rest) ← (d.setRanges (body.length + 1) true [] body : Except _ _)
  set { s with rest }
  return d.charSet inside ranges

/-! ## Repetitions -/

/-- How often something is repeated: at least and at most. -/
structure Repetition where
  least : Nat
  most : Option Nat

/-- The greatest number of repetitions. -/
def repetitionLimit : Nat := 32767

/-- The numbers in braces, and what is behind them. The closing brace stands behind a backslash
unless the expression is extended. -/
def braces (d : Dialect) (cs : Octets) : Except RegexFault (Repetition × Octets) := do
  let number := fun (cs : Octets) =>
    let digits := cs.takeWhile Char.isDigit
    (if digits.isEmpty then none else some (numberOf 10 digits), cs.drop digits.length)
  let (least, rest) := number cs
  let (most, rest, ranged) := match rest with
    | ',' :: rest =>
      let (most, rest) := number rest
      (most, rest, true)
    | rest => (least, rest, false)
  let behind ← match rest with
    | [] => throw .brace
    | '\x7d' :: rest => if d.extended then pure rest else throw .braceContent
    | '\\' :: '\x7d' :: rest => if d.extended then throw .braceContent else pure rest
    | _ => throw .braceContent
  if least.isNone && !ranged then throw .braceContent
  let least := least.getD 0
  if most.any (· < least) then throw .braceContent
  if repetitionLimit < least || most.any (repetitionLimit < ·) then throw .tooBig
  return (⟨least, most⟩, behind)

/-- An expression, repeated. -/
def repeated (a : Regex) (r : Repetition) : Regex :=
  match r.least, r.most with
  | 0, none => .many a
  | n, none => .cat (a.times n) (.many a)
  | n, some m => .cat (a.times n) (a.atMost (m - n))

/-- The operator that repeats what is before it, at the start of a text, and what is behind it. -/
def repetition? (d : Dialect) (cs : Octets) : Except RegexFault (Option (Repetition × Octets)) := do
  let inBraces := fun (rest : Octets) =>
    match d.braces rest with
    | .ok found => .ok (some found)
    | .error e =>
      if d.extended && d.lenient && (e = .brace || e = .braceContent) then
        -- Numbers that are wrong are an error also where other braces stand for themselves.
        let body := rest.takeWhile (· ≠ '\x7d')
        if rest.length ≠ body.length && body ≠ [] && body ≠ [','] &&
            body.all (fun c => c.isDigit || c == ',') && (body.filter (· = ',')).length ≤ 1 then
          .error e
        else .ok none
      else .error e
  match d.extended, cs with
  | _, '*' :: rest => return some (⟨0, none⟩, rest)
  | true, '+' :: rest => return some (⟨1, none⟩, rest)
  | true, '?' :: rest => return some (⟨0, some 1⟩, rest)
  | true, '\x7b' :: rest => inBraces rest
  | false, '\\' :: '+' :: rest => return some (⟨1, none⟩, rest)
  | false, '\\' :: '?' :: rest => return some (⟨0, some 1⟩, rest)
  | false, '\\' :: '\x7b' :: rest => inBraces rest
  | _, _ => return none

/-- An expression with the operators behind it. -/
def readRepetitions (d : Dialect) : Nat → Regex → ReadRegex Regex
  | 0, a => return a
  | fuel + 1, a => do
    let s ← get
    match ← (d.repetition? s.rest : Except _ _) with
    | none => return a
    | some (r, rest) =>
      set { s with rest }
      readRepetitions d fuel (repeated a r)

/-! ## Expressions -/

/-- The operator at the start of a text that a parenthesis or a bar is, and what is behind it. -/
def operator? (d : Dialect) (cs : Octets) : Option (Char × Octets) :=
  match d.extended, cs with
  | true, c :: rest => if c ∈ ['(', ')', '|'] then some (c, rest) else none
  | false, '\\' :: c :: rest => if c ∈ ['(', ')', '|'] then some (c, rest) else none
  | _, _ => none

/-- What a letter behind a backslash stands for. -/
def escaped (d : Dialect) (c : Char) : ReadRegex Regex := do
  let words := [('A', 'Z'), ('a', 'z'), ('0', '9'), ('_', '_')]
  let blanks := [(' ', ' '), ('\t', '\r')]
  match c with
  | 'w' => return .one true words
  | 'W' => return .one false words
  | 's' => return .one true blanks
  | 'S' => return .one false blanks
  | 'b' => return .edge (.word true)
  | 'B' => return .edge (.word false)
  | '<' => return .edge .wordStart
  | '>' => return .edge .wordEnd
  | '`' => return .edge .lineStart
  | '\'' => return .edge .lineEnd
  | c =>
    if '1' ≤ c && c ≤ '9' then
      let n := c.toNat - '0'.toNat
      if n ∈ (← get).closed then return .again n else throw .backReference
    else return d.char c

/-- Notes an operator that stands where it makes no sense. -/
def noteIdle (name : String) : ReadRegex Unit :=
  modify fun s => { s with idle := s.idle ++ [name] }

/-- Whether a dollar sign in front of a text is an anchor. -/
def endsHere (d : Dialect) (rest : Octets) : Bool :=
  d.extended || rest.isEmpty || (d.operator? rest).any fun (c, _) => c == ')' || c == '|'

mutual

/-- Alternatives up to the end or to a parenthesis that closes them. -/
def readEither (d : Dialect) : Nat → ReadRegex Regex
  | 0 => throw .tooBig
  | fuel + 1 => do
    let a ← readSequence d fuel true .empty
    let s ← get
    match d.operator? s.rest with
    | some ('|', rest) =>
      set { s with rest }
      return .either a (← readEither d fuel)
    | _ => return a

/-- What follows each other, behind what was read before. `first` says that there was nothing or only
an anchor. -/
def readSequence (d : Dialect) : Nat → Bool → Regex → ReadRegex Regex
  | 0, _, _ => throw .tooBig
  | fuel + 1, first, before => do
    let s ← get
    if s.rest.isEmpty then return before
    match d.operator? s.rest with
    | some ('|', _) => return before
    | some (')', rest) =>
      if s.depth ≠ 0 then return before
      else if d.extended && d.lenient then
        set { s with rest }
        let a ← d.readRepetitions fuel (d.char ')')
        readSequence d fuel false (.cat before a)
      else throw .strayParenthesis
    | some (_, rest) =>
      let number := s.opened + 1
      set { s with rest, opened := number, depth := s.depth + 1 }
      let a ← readEither d fuel
      let s ← get
      match d.operator? s.rest with
      | some (')', rest) =>
        set { s with rest, depth := s.depth - 1, closed := number :: s.closed }
        let a ← d.readRepetitions fuel (.group number a)
        readSequence d fuel false (.cat before a)
      | _ => throw .parenthesis
    | none =>
      let goOn := fun (rest : Octets) (a : Regex) => do
        set { (← get) with rest }
        let a ← d.readRepetitions fuel a
        readSequence d fuel false (.cat before a)
      match s.rest with
      | '^' :: rest =>
        if d.extended || first && (match before with | .empty => true | _ => false) then
          set { s with rest }
          readSequence d fuel first (.cat before (.edge .lineStart))
        else goOn rest (d.char '^')
      | '$' :: rest =>
        if d.endsHere rest then
          set { s with rest }
          let a ← if d.extended then d.readRepetitions fuel (.edge .lineEnd)
            else pure (.edge .lineEnd)
          readSequence d fuel false (.cat before a)
        else goOn rest (d.char '$')
      | '.' :: rest => goOn rest (.one false [])
      | '[' :: rest =>
        set { s with rest }
        let a ← d.readSet
        let a ← d.readRepetitions fuel a
        readSequence d fuel false (.cat before a)
      | cs =>
        let repetition ← if first then (d.repetition? cs : Except _ _) else pure none
        match repetition, cs with
        | some (_, rest), c :: behind =>
          if d.extended && d.lenient then
            noteIdle (if c = '\x7b' then "\x7b...\x7d" else String.ofList [c])
            set { (← get) with rest }
            readSequence d fuel first before
          else if d.extended || c = '\\' && !d.lenient then
            if !d.extended && behind.head? ≠ some '\x7b' then
              goOn (behind.drop 1) (d.char (behind.headD '\\'))
            else throw .nothingBefore
          else if c = '\\' then goOn (behind.drop 1) (d.char (behind.headD '\\'))
          else goOn behind (d.char c)
        | _, ['\\'] => throw .trailingBackslash
        | _, '\\' :: c :: rest =>
          let a ← d.escaped c
          goOn rest a
        | _, c :: rest => goOn rest (d.char c)
        | _, [] => return before

end

/-- The regular expression that a text is, the number of its groups, and the operators in it that
make no sense. -/
def read (d : Dialect) (text : Octets) : Except RegexFault (Regex × Nat × List String) := do
  let (r, s) ← (d.readEither (4 * text.length + 8)).run { rest := text }
  return (r, s.opened, s.idle)

end Dialect

end KctlProbe.Sandbox
