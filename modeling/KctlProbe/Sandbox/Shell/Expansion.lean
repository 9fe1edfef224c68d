import KctlProbe.Sandbox.Shell.Calculation
import KctlProbe.Sandbox.Script.Pattern
import KctlProbe.Sandbox.Script.Quoting

/-!
# Substitutions

The marks of a word become glyphs: its characters, and what its substitutions give. Where the word
can be split into fields afterwards, the parts of it that can be split are noted as regions.
-/

namespace KctlProbe.Sandbox

open Script

/-- What a word is used for. -/
structure Purpose where
  /-- It becomes fields. -/
  fields : Bool := false
  /-- It is a pattern, so that it matters what is quoted. -/
  pattern : Bool := false
  /-- A tilde at its start is a home directory. -/
  tilde : Bool := false
  /-- Tildes behind colons and the equals sign are home directories. -/
  assignment : Bool := false
  /-- The equals sign was seen. -/
  assigned : Bool := false
  /-- It stands in a substitution, and its characters can be split as those of values. -/
  inner : Bool := false
  quoted : Bool := false
  /-- It is passed over. -/
  discarded : Bool := false

/-- Whether quotes stay marked. -/
def Purpose.keepsQuotes (p : Purpose) : Bool :=
  p.fields || p.pattern

/-- A part of a word that can be split. -/
structure Region where
  start : Nat
  stop : Nat
  /-- Whether it can be split only where one parameter ends and the next begins. -/
  atEnds : Bool

/-- A word with the substitutions that were made so far. -/
structure Expanded where
  glyphs : Array Glyph := #[]
  /-- The last region first. -/
  regions : List Region := []

/-- A step of expanding a word. -/
abbrev Expansion := StateT Expanded Action

namespace Expansion

/-- Where the next glyph goes. -/
def position : Expansion Nat :=
  return (← get).glyphs.size

/-- Adds a glyph. -/
def add (g : Glyph) : Expansion Unit :=
  modify fun e => { e with glyphs := e.glyphs.push g }

/-- Adds a character of a value. -/
def addChar (p : Purpose) (c : Char) : Expansion Unit :=
  add (if p.keepsQuotes && p.quoted && isMarked c then .escaped c else .char c)

/-- Adds the characters of a value. -/
def addValue (p : Purpose) (cs : Octets) : Expansion Unit :=
  modify fun e =>
    { e with glyphs := cs.foldl (fun gs c =>
        gs.push (if p.keepsQuotes && p.quoted && isMarked c then .escaped c else .char c)) e.glyphs }

/-- Notes a region. -/
def addRegion (start stop : Nat) (atEnds : Bool) : Expansion Unit :=
  modify fun e => { e with regions := ⟨start, stop, atEnds⟩ :: e.regions }

/-- Takes away what is behind a position, and gives it. -/
def takeFrom (start : Nat) : Expansion (List Glyph) := do
  let e ← get
  let taken := (e.glyphs.extract start e.glyphs.size).toList
  set { e with glyphs := e.glyphs.take start }
  return taken

/-- Takes away the regions behind a position. -/
def dropRegions (start : Nat) : Expansion Unit :=
  modify fun e =>
    { e with regions := (e.regions.filter (·.start < start)).map fun r =>
        { r with stop := min r.stop start } }

/-- Does something with the machine. -/
def perform {α : Type} (a : Action α) : Expansion α :=
  StateT.lift a

/-- The home directory of a user. -/
def homeOf? (name : Octets) : Expansion (Option Octets) := do
  if name.isEmpty then perform (valueOf? "HOME".toList)
  else if name = "root".toList then return some "/root".toList
  else return none

/-- The name behind a tilde, and what is behind the name. Nothing in it can be quoted or
substituted. -/
def tildeName? (inAssignment : Bool) : Octets → Word → Option (Octets × Word)
  | done, [] => some (done.reverse, [])
  | done, .endParameter :: rest => some (done.reverse, .endParameter :: rest)
  | done, .char c :: rest =>
    if c = '/' ∨ (c = ':' ∧ inAssignment) then some (done.reverse, .char c :: rest)
    else tildeName? inAssignment (c :: done) rest
  | _, _ => none

/-- Replaces a tilde at the start of a word. -/
def expandTilde (p : Purpose) (w : Word) : Expansion Word := do
  match w with
  | .char '~' :: rest =>
    match tildeName? p.assignment [] rest with
    | none => return w
    | some (name, behind) =>
      if p.discarded then return behind
      match ← homeOf? name with
      | some home =>
        addValue { p with quoted := true } home
        return behind
      | none => return w
  | w => return w

/-- The characters at the start of a word up to one behind which a tilde can stand, that one
included, in reverse, and what is behind them. -/
def plainRun (p : Purpose) : Octets → Word → Octets × Word
  | done, .char c :: rest =>
    if p.assignment && (c = ':' || (c = '=' && !p.assigned)) then (c :: done, rest)
    else plainRun p (c :: done) rest
  | done, w => (done, w)

/-- Complains that a parameter has no value. -/
def complainUnset {α : Type} (name : Octets) (text : String) : Expansion α :=
  perform (fail (shown name ++ ": " ++ text))

/-- The number of characters of the value of a parameter, none if it has no value. The value is added
unless it is passed over. -/
def addParameter (p : Purpose) (name : Octets) (form : Form) : Expansion (Option Nat) := do
  let counted := match form with
    | .instead _ | .length => true
    | _ => false
  let silent := counted || p.discarded
  match form with
  | .bad _ => if silent then return none else perform (fail "Bad substitution")
  | _ => pure ()
  let p := if silent then { p with fields := false, pattern := false } else p
  let give := fun (value : Octets) => do
    unless silent do addValue p value
    return some value.length
  let number := fun (n : Nat) => give (Octets.ofNat n)
  let s ← perform getShell
  match name with
  | ['$'] => number s.number
  | ['?'] => number s.status
  | ['#'] => number s.parameters.length
  | ['!'] =>
    match s.background with
    | some n => number n
    | none => return none
  | ['-'] => give ("pubaCEVvxsnmiIfe".toList.filter (· ∈ s.options))
  | ['0'] => give s.name
  | ['@'] | ['*'] =>
    let ifs ← perform separators?
    let between : Octets :=
      if name = ['@'] && p.quoted && p.fields then ['\x00']
      else if !p.quoted && p.fields then
        match ifs with
        | some _ => ['\x00']
        | none => [' ']
      else
        match ifs with
        | some text => text.take 1
        | none => [' ']
    unless silent do
      for (value, i) in s.parameters.zipIdx do
        if i ≠ 0 then addValue p between
        addValue p value
    let lengths := s.parameters.foldl (fun n value => n + value.length) 0
    return some (lengths + between.length * (s.parameters.length - 1))
  | c :: _ =>
    if c.isDigit then
      let n := numberOf 10 name
      if n = 0 then give s.name
      else
        match s.parameters[n - 1]? with
        | some value => give value
        | none => return none
    else
      match ← perform (valueOf? name) with
      | some value => give value
      | none => return none
  | [] => return none

/-- The number of nested steps that the expansion of a word is granted. -/
def stepsGranted (w : Word) : Nat :=
  2 * w.length + 16

mutual

/-- Expands a word up to the mark that ends it, and gives what is behind that. -/
def expand (capture : Option Command → Action Octets) : Nat → Purpose → Word → Expansion Word
  | 0, _, _ => throw .exhausted
  | fuel + 1, p, w => do
    let w ← if p.tilde then expandTilde p w else pure w
    scan capture fuel { p with tilde := false } (p.inner && !p.quoted) false w

/-- Expands the rest of a word, which can be split if `splits` holds. -/
def scan (capture : Option Command → Action Octets) :
    Nat → Purpose → Bool → Bool → Word → Expansion Word
  | 0, _, _, _, _ => throw .exhausted
  | fuel + 1, p, splits, inQuotes, w => do
    let inside := if inQuotes then { p with quoted := true } else p
    match w with
    | [] => return []
    | .endParameter :: rest => return rest
    | .endCalculation :: rest => return rest
    | .char c :: rest =>
      let (run, rest) := plainRun p [] (.char c :: rest)
      unless p.discarded do
        let start ← position
        modify fun e => { e with glyphs := run.foldr (fun c gs => gs.push (.char c)) e.glyphs }
        if splits && !inQuotes then addRegion start (← position) false
      let last := run.head?
      if p.assignment && (last = some ':' || (last = some '=' && !p.assigned)) then
        let p := if last = some '=' then { p with assigned := true } else p
        let rest ← expandTilde p rest
        scan capture fuel p splits inQuotes rest
      else scan capture fuel p splits inQuotes rest
    | .escaped c :: rest =>
      unless p.discarded do add (if p.keepsQuotes then .escaped c else .char c)
      scan capture fuel p splits inQuotes rest
    | .quote :: rest =>
      match inQuotes, rest with
      | false, .parameter ['@'] .value :: .quote :: rest =>
        let _ ← expandParameter capture fuel { p with quoted := true } ['@'] .value []
        scan capture fuel p splits inQuotes rest
      | _, _ =>
        unless p.discarded do
          if p.keepsQuotes then add .quote
        scan capture fuel p splits (!inQuotes) rest
    | .parameter name form :: rest =>
      let rest ← expandParameter capture fuel inside name form rest
      scan capture fuel p splits inQuotes rest
    | .calculation :: rest =>
      let start ← position
      let rest ← expand capture fuel { discarded := p.discarded } rest
      unless p.discarded do
        let text := textOf (← takeFrom start)
        dropRegions start
        let n ← perform (calculate text)
        addValue inside (Octets.ofInt n)
        unless inside.quoted do addRegion start (← position) false
      scan capture fuel p splits inQuotes rest
    | .output script :: rest =>
      unless p.discarded do
        let start ← position
        let text ← perform (capture script)
        let text := (text.filter (· ≠ '\x00')).reverse.dropWhile (· = '\n')
        addValue inside text.reverse
        unless inside.quoted do addRegion start (← position) false
      scan capture fuel p splits inQuotes rest

/-- Makes the substitution of a parameter whose word is at the start of `rest`. -/
def expandParameter (capture : Option Command → Action Octets) :
    Nat → Purpose → Octets → Form → Word → Expansion Word
  | 0, _, _, _, _ => throw .exhausted
  | fuel + 1, p, name, form, rest => do
    let start ← position
    let count ← addParameter p name form
    let missing := match count with
      | none => true
      | some n => form.orNull && n = 0
    let note := do
      let all := name = ['@'] && !(← perform getShell).parameters.isEmpty
      if !p.quoted || all then addRegion start (← position) p.quoted
    let word := fun (skipped : Bool) =>
      expand capture fuel
        { p with tilde := true, inner := true, discarded := p.discarded || skipped } rest
    let checkUnset := do
      if missing && !p.discarded && 'u' ∈ (← perform getShell).options then
        complainUnset name "parameter not set"
    match form with
    | .otherwise _ =>
      let rest ← word (!missing)
      unless p.discarded || missing do note
      return rest
    | .instead _ =>
      let rest ← word missing
      unless p.discarded || !missing do note
      return rest
    | .require orNull =>
      let skipped := p.discarded || !missing
      let behind ← expand capture fuel { tilde := true, discarded := skipped } rest
      if skipped then
        unless p.discarded do note
        return behind
      else
        let text := textOf (← takeFrom start)
        match rest with
        | .endParameter :: _ =>
          complainUnset name ("parameter not set" ++ if orNull then " or null" else "")
        | _ => complainUnset name (shown text)
    | .assign _ =>
      let skipped := p.discarded || !missing
      let behind ← expand capture fuel { tilde := true, discarded := skipped } rest
      if skipped then
        unless p.discarded do note
        return behind
      else
        let text := textOf (← takeFrom start)
        dropRegions start
        perform (assign name text)
        expandParameter capture fuel p name .value behind
    | .value =>
      checkUnset
      unless p.discarded || missing do note
      return rest
    | .length =>
      checkUnset
      unless p.discarded do
        addValue p (Octets.ofNat (count.getD 0))
        note
      return rest.drop 1
    | .bad _ => expand capture fuel { tilde := true, pattern := true, discarded := true } rest
    | .trimStart longest | .trimEnd longest =>
      checkUnset
      let skipped := p.discarded || missing
      let middle ← position
      let behind ← expand capture fuel { tilde := true, pattern := true, discarded := skipped } rest
      if skipped then return behind
      let pattern := elementsOf (patternText true (← takeFrom middle))
      let value ← takeFrom start
      let text := textOf value
      let kept : List Glyph := match form with
        | .trimStart _ =>
          match startLength? longest pattern text with
          | some n => value.drop n
          | none => value
        | _ =>
          match endStart? longest pattern text with
          | some n => value.take n
          | none => value
      modify fun e => { e with glyphs := e.glyphs ++ kept }
      dropRegions start
      note
      return behind

end

end Expansion

/-- The result of expanding a word. -/
def expandWord (capture : Option Command → Action Octets) (p : Purpose) (w : Word) :
    Action Expanded := do
  return (← (Expansion.expand capture (Expansion.stepsGranted w) p w).run {}).2

/-- The text of a word that is not split. -/
def expandText (capture : Option Command → Action Octets) (p : Purpose) (w : Word) :
    Action Octets := do
  return textOf (← expandWord capture p w).glyphs.toList

end KctlProbe.Sandbox
