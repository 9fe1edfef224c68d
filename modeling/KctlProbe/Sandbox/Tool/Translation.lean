import KctlProbe.Sandbox.Tool.Reading

/-!
# Translating characters

`tr` replaces, deletes and squeezes characters. The characters are given by sets: single ones, ranges,
classes, and characters that are repeated.
-/

namespace KctlProbe.Sandbox.Tool

/-- A part of a set. -/
inductive SetPart where
  | char (c : Char)
  | range (first last : Char)
  | named (name : String)
  /-- One character a number of times, or as often as there is room. -/
  | repeated (c : Char) (times : Option Nat)
  deriving DecidableEq, Repr

/-- The numbers of the characters in a class. -/
def classMembers? (name : String) : Option (List Nat) :=
  let among := fun (p : Char → Bool) => some ((List.range 128).filter fun n => p (Char.ofNat n))
  match name with
  | "alnum" => among Char.isAlphanum
  | "alpha" => among Char.isAlpha
  | "blank" => among fun c => c == ' ' || c == '\t'
  | "cntrl" => among fun c => c.toNat < 32 || c.toNat = 127
  | "digit" => among Char.isDigit
  | "graph" => among fun c => '!' ≤ c && c ≤ '~'
  | "lower" => among Char.isLower
  | "print" => among isPrintable
  | "punct" => among fun c => '!' ≤ c && c ≤ '~' && !c.isAlphanum
  | "space" => among isSpace
  | "upper" => among Char.isUpper
  | "xdigit" => among fun c => (Octets.hexValue? c).isSome
  | _ => none

/-- A text with its escapes replaced. What was escaped is marked. -/
def unescapeSet : Nat → Octets → Tool (List (Char × Bool))
  | 0, _ => return []
  | _, [] => return []
  | fuel + 1, '\\' :: rest => do
    match rest with
    | [] =>
      warn "warning: an unescaped backslash at end of string is not portable"
      return [('\\', false)]
    | c :: cs =>
      let digits := rest.takeWhile fun c => '0' ≤ c && c ≤ '7'
      if digits.isEmpty then
        let d := match c with
          | 'a' => '\x07'
          | 'b' => '\x08'
          | 'f' => '\x0C'
          | 'n' => '\n'
          | 'r' => '\r'
          | 't' => '\t'
          | 'v' => '\x0B'
          | c => c
        return (d, true) :: (← unescapeSet fuel cs)
      else
        let three := digits.take 3
        let n := numberOf 8 three
        if n < 256 then
          return (Char.ofNat n, true) :: (← unescapeSet fuel (rest.drop three.length))
        else
          let two := digits.take 2
          warn ("warning: the ambiguous octal escape \\" ++ shown three ++
            " is being\n\tinterpreted as the 2-byte sequence \\0" ++ shown two ++ ", " ++
            shown (three.drop 2))
          return (Char.ofNat (numberOf 8 two), true) :: (← unescapeSet fuel (rest.drop 2))
  | fuel + 1, c :: cs => return (c, false) :: (← unescapeSet fuel cs)

/-- A character as complaints name it. -/
def charText (c : Char) : String :=
  if isPrintable c then String.ofList [c] else "\\" ++ shown (octalDigits c)

/-- The parts of a set. -/
def setParts : Nat → List SetPart → List (Char × Bool) → Tool (List SetPart)
  | 0, done, _ => return done.reverse
  | _, done, [] => return done.reverse
  | fuel + 1, done, (c, escaped) :: rest => do
    let bracketed := fun (mark : Char) =>
      match rest with
      | (m, false) :: inner =>
        if m ≠ mark then none
        else
          let places := inner.zip (inner.drop 1)
          (places.findIdx? fun (a, b) => a = (mark, false) && b = (']', false)).map fun n =>
            (inner.take n, inner.drop (n + 2))
      | _ => none
    let single := do
      match rest with
      | ('-', false) :: (d, _) :: behind =>
        if d.toNat < c.toNat then
          refuse 1 ("range-endpoints of '" ++ charText c ++ "-" ++ charText d ++
            "' are in reverse collating sequence order")
        setParts fuel (.range c d :: done) behind
      | rest => setParts fuel (.char c :: done) rest
    let repeats := fun (_ : Unit) => do
      match rest with
      | (d, _) :: ('*', false) :: behind =>
        let digits := behind.takeWhile (fun x => x.1.isDigit)
        match behind.drop digits.length with
        | (']', false) :: behind =>
          let digits := digits.map (·.1)
          let n := numberOf (if digits.head? = some '0' then 8 else 10) digits
          setParts fuel (.repeated d (if n = 0 then none else some n) :: done) behind
        | _ => single
      | _ => single
    if c ≠ '[' || escaped then single
    else
      match bracketed ':', bracketed '=' with
      | some (name, behind), _ =>
        let name := shown (name.map (·.1))
        match classMembers? name with
        | some _ => setParts fuel (.named name :: done) behind
        | none =>
          refuse 1 ("invalid character class " ++ textInQuotes name.toList)
      | none, some (members, behind) =>
        match members with
        | [(d, _)] => setParts fuel (.char d :: done) behind
        | members =>
          refuse 1 (shown (members.map (·.1)) ++
            ": equivalence class operand must be a single character")
      | none, none => repeats ()

/-- The set that a text gives. -/
def setOf (text : Octets) : Tool (List SetPart) := do
  let cs ← unescapeSet (text.length + 1) text
  setParts (cs.length + 1) [] cs

/-- The characters of a part, where a repeated one may fill `room` places. -/
def SetPart.members (room : Nat) : SetPart → List Nat
  | .char c => [c.toNat]
  | .range a b => (List.range (b.toNat + 1 - a.toNat)).map (· + a.toNat)
  | .named name => (classMembers? name).getD []
  | .repeated c (some n) => List.replicate n c.toNat
  | .repeated c none => List.replicate room c.toNat

/-- The characters of a set, in order, where it is stretched to a size if it can be. -/
def setMembers (size : Nat) (parts : List SetPart) : List Nat :=
  let fixed := (parts.flatMap (SetPart.members 0)).length
  parts.flatMap (SetPart.members (size - fixed))

/-- Whether a part is a class of letters that can be changed into another. -/
def SetPart.isCase : SetPart → Bool
  | .named name => name = "lower" || name = "upper"
  | _ => false

/-- The characters that two sets pair. A class of letters in the second set changes the letters of one
in the first. -/
def pairsOf (truncates : Bool) (first second : List SetPart) : List (Nat × Nat) :=
  let cases := (first.zip second).all fun (a, b) => a.isCase == b.isCase
  let expandCase := fun (p q : SetPart) =>
    match p, q with
    | .named _, .named target =>
      ((List.range 128).filter fun n => (Char.ofNat n).isAlpha && p ≠ q &&
        (n ∈ p.members 0)).map fun n =>
        (n, if target = "upper" then (Char.ofNat n).toUpper.toNat else (Char.ofNat n).toLower.toNat)
    | _, _ => []
  if second.any SetPart.isCase && cases then
    let paired := (first.zip second).flatMap fun (p, q) =>
      if p.isCase && q.isCase then expandCase p q
      else (p.members 0).zip (q.members (p.members 0).length)
    paired
  else
    let a := setMembers 0 first
    let b := setMembers a.length second
    let b := if truncates then b else b ++ List.replicate (a.length - b.length) (b.getLast?.getD 0)
    a.zip b

/-- Whether each number below 256 is among some. -/
def flagsOf (members : List Nat) : Array Bool :=
  members.foldl (fun flags n => flags.set! n true) (Array.replicate 256 false)

/-- A text in which characters of a set that follow themselves are left out. -/
def squeezed (flags : Array Bool) (text : Octets) : Octets :=
  (text.foldl (fun ((last, done) : Option Char × Octets) c =>
    if some c = last && flags.getD c.toNat false then (last, done) else (some c, c :: done))
    (none, [])).2.reverse

/-- Translates, deletes or squeezes characters. -/
def trTool (args : List Octets) : Tool Nat := do
  let g ← OptionRules.read { ordered := true, forms := [plain "cC" "complement", plain "d" "delete",
    plain "s" "squeeze-repeats", plain "t" "truncate-set1"] } args
  let deletes := g.has "d"
  let squeezes := g.has "s"
  let least := if deletes == squeezes then 2 else 1
  let most := if deletes && !squeezes then 1 else 2
  let help := fun (line : String) => do
    if line ≠ "" then say (line ++ "\n")
    pointToHelp 1
  if g.operands.length < least then
    match g.operands.getLast? with
    | none =>
      warn "missing operand"
      help ""
    | some a =>
      warn ("missing operand after " ++ textInQuotes a)
      help (if squeezes then "Two strings must be given when both deleting and squeezing repeats."
        else "Two strings must be given when translating.")
  if most < g.operands.length then
    warn ("extra operand " ++ textInQuotes (g.operands[most]?.getD []))
    help (if g.operands.length = 2 then
      "Only one string may be given when deleting without squeezing repeats." else "")
  let firstParts ← setOf (g.operands.headD [])
  let secondParts ← match g.operands[1]? with
    | some text => some <$> setOf text
    | none => pure none
  let isRepeated := fun (p : SetPart) => match p with
    | .repeated _ _ => true
    | _ => false
  if firstParts.any isRepeated then
    refuse 1 "the [c*] repeat construct may not appear in string1"
  let complement := g.has "c"
  let members := setMembers 0 firstParts
  let members := if complement then
      let flags := flagsOf members
      (List.range 256).filter fun n => !flags.getD n false
    else members
  let translates := secondParts.isSome && !deletes
  match secondParts with
  | some second =>
    let stretching := second.filter fun p => match p with
      | .repeated _ none => true
      | _ => false
    if 1 < stretching.length then
      refuse 1 "only one [c*] repeat construct may appear in string2"
    if translates then
      let isNamed := fun (p : SetPart) => match p with
        | .named _ => !p.isCase
        | _ => false
      if second.any isNamed then
        refuse 1 ("when translating, the only character classes that may appear in\nstring2 are " ++
          "'upper' and 'lower'")
      if second.isEmpty && !g.has "t" then
        refuse 1 "when not truncating set1, string2 must be non-empty"
      let firstNamed := firstParts.any fun p => match p with
        | .named _ => true
        | _ => false
      let targets := setMembers members.length second
      if complement && firstNamed && !(targets.length = members.length && targets.all (some · = targets.head?))
          && 1 < targets.eraseDups.length then
        refuse 1 ("when translating with complemented character classes,\nstring2 must map all " ++
          "characters in the domain to one")
      if second.any SetPart.isCase &&
          !((firstParts.zip second).all (fun (a, b) => !b.isCase || a.isCase)) then
        refuse 1 "misaligned [:upper:] and/or [:lower:] construct"
  | none => pure ()
  match ← drainOperand ['-'] with
  | .error e => refuse 1 ("read error: " ++ e.words)
  | .ok (text, cut) =>
    let flags := flagsOf members
    let result :=
      if deletes then
        let kept := text.filter fun c => !flags.getD c.toNat false
        if squeezes then squeezed (flagsOf (setMembers 0 (secondParts.getD []))) kept else kept
      else
        match secondParts with
        | none => squeezed flags text
        | some second =>
          let pairs := if complement then
              let b := setMembers members.length second
              let b := if g.has "t" then b
                else b ++ List.replicate (members.length - b.length) (b.getLast?.getD 0)
              members.zip b
            else pairsOf (g.has "t") firstParts second
          let table := pairs.foldl (fun (t : Array Nat) (a, b) => t.set! a b) (Array.range 256)
          let changed := text.map fun c => Char.ofNat (table.getD c.toNat 0)
          if squeezes then squeezed (flagsOf (setMembers members.length second)) changed else changed
    put result
    if cut then starve
    return 0

end KctlProbe.Sandbox.Tool
