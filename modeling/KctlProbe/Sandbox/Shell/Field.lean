import KctlProbe.Sandbox.Shell.Expansion

/-!
# Fields

An expanded word is split into fields where separators stand in its regions. A field in which a
character can stand for others becomes the names of the files that it matches, if there are any.
-/

namespace KctlProbe.Sandbox

open Script

/-- Whether a character separates fields, and whether it does so as a blank, of which several
separate no more than one. -/
structure Separators where
  separates : Char → Bool
  blank : Char → Bool

/-- The blanks that separate fields where nothing else is said. The end of a parameter counts as one
too. -/
def isFieldBlank (c : Char) : Bool :=
  c == ' ' || c == '\t' || c == '\n' || c == '\x00'

/-- How far a word is split. -/
structure Splitting where
  /-- Where the current field starts. -/
  start : Nat := 0
  /-- Whether a blank has ended the last field, so that more blanks end nothing. -/
  blanks : Bool := false
  /-- Where the last field ends, if not at the end of the word. -/
  last : Option Nat := none
  /-- The number of fields that may still be ended, if there is a limit. -/
  left : Option Nat
  /-- The fields, the last one first. -/
  done : List (Nat × Nat) := []

/-- The character of a glyph. -/
def charOf : Glyph → Option Char
  | .char c => some c
  | .escaped c => some c
  | .quote => none

/-- Goes on behind the glyph at `i`, which is in a region that separators split. -/
def Splitting.step (s : Splitting) (separates : Char → Bool) (onlyEnds : Bool) (i : Nat)
    (g : Glyph) : Splitting :=
  let c := charOf g
  let isSeparator := c.any separates
  let isBlank := isSeparator && c.any isFieldBlank
  if s.left = some 0 then
    if isBlank then { s with last := some (s.last.getD i) }
    else { s with last := if isSeparator && s.blanks then s.last else none, blanks := false }
  else
    let start := if s.blanks then (if isSeparator then i + 1 else i) else s.start
    let s := { s with start }
    if s.blanks && isBlank then s
    else if isSeparator && !s.blanks then
      let blanks := if onlyEnds then s.blanks else isBlank
      if i = start && blanks then { s with start := i + 1, blanks := false }
      else if s.left = some 1 then { s with left := some 0, last := some i, blanks }
      else
        { s with
          start := i + 1
          blanks
          left := s.left.map (· - 1)
          done := (start, i) :: s.done }
    else { s with blanks := false }

/-- Goes on behind glyphs that are in one region, the first one at `i`. -/
def Splitting.region (separates : Char → Bool) (onlyEnds : Bool) :
    Splitting → Nat → List Glyph → Splitting
  | s, _, [] => s
  | s, i, g :: gs => region separates onlyEnds (s.step separates onlyEnds i g) (i + 1) gs

/-- Splits a word into at most as many fields as `limit` says. -/
def splitFields (ifs : Option Octets) (limit : Option Nat) (e : Expanded) : List (List Glyph) :=
  let size := e.glyphs.size
  let slice := fun (start stop : Nat) => (e.glyphs.extract start stop).toList
  let usual := fun (c : Char) => match ifs with
    | some text => c == '\x00' || c ∈ text
    | none => isFieldBlank c
  let (s, atEnds) := e.regions.reverse.foldl (fun (s, before) r =>
    let separates := if r.atEnds then (· == '\x00') else usual
    let s := { s with blanks := false }
    (s.region separates (before || r.atEnds) r.start (slice r.start r.stop), r.atEnds))
    (({ left := limit } : Splitting), false)
  let stop := if atEnds then size else s.last.getD size
  let done := if s.start < stop || atEnds then (s.start, stop) :: s.done else s.done
  done.reverse.map fun (start, stop) => slice start stop

/-- A part of a pattern for paths: the part before the last slash in front of the first character
that can stand for others, the part up to the next slash, and what is behind that, if anything. -/
structure PathPattern where
  way : Octets
  name : Octets
  behind : Option Octets
  isPattern : Bool

/-- Whether a set starts behind an opening bracket, and ends before the next slash. -/
def closesSet : Octets → Bool
  | [] => false
  | '\\' :: c :: cs =>
    if c = '/' then false
    else
      match cs with
      | ']' :: _ => true
      | cs => closesSet cs
  | '\\' :: [] => false
  | c :: cs =>
    if c = '/' then false
    else
      match cs with
      | ']' :: _ => true
      | cs => closesSet cs

/-- Takes a pattern for paths apart. The way and the name before are in reverse. -/
def pathPattern : Nat → Octets → Octets → Bool → Octets → PathPattern
  | 0, way, name, isPattern, _ => ⟨way.reverse, name.reverse, none, isPattern⟩
  | _, way, name, isPattern, [] => ⟨way.reverse, name.reverse, none, isPattern⟩
  | fuel + 1, way, name, isPattern, c :: cs =>
    let (escaped, d, rest) := match c, cs with
      | '\\', d :: rest => (true, d, rest)
      | c, cs => (false, c, cs)
    if !escaped && (c = '*' || c = '?') then pathPattern fuel way (c :: name) true cs
    else if !escaped && c = '[' then
      let body := if cs.head? = some '!' then cs.drop 1 else cs
      pathPattern fuel way (c :: name) (isPattern || closesSet body) cs
    else if d = '/' then
      if isPattern then ⟨way.reverse, name.reverse, some rest, true⟩
      else pathPattern fuel ('/' :: name ++ way) [] false rest
    else if escaped then pathPattern fuel way (d :: '\\' :: name) isPattern rest
    else pathPattern fuel way (d :: name) isPattern rest

/-- A text without the backslashes that quote. -/
def withoutBackslashes : Octets → Octets
  | '\\' :: c :: cs => c :: withoutBackslashes cs
  | c :: cs => c :: withoutBackslashes cs
  | [] => []

/-- The paths behind `way` that a pattern matches. -/
def matchPaths (files : Files) (here : Nat) : Nat → Octets → Octets → List Octets
  | 0, _, _ => []
  | fuel + 1, way, pattern =>
    let p := pathPattern (pattern.length + 1) [] [] false pattern
    let way := way ++ withoutBackslashes p.way
    if !p.isPattern then
      let path := way ++ withoutBackslashes p.name
      match files.spot here path false with
      | .ok s => if s.node.isSome then [path] else []
      | .error _ => []
    else
      match files.find here (if way.isEmpty then ['.'] else way) true with
      | .error _ => []
      | .ok i =>
        let directory := files.node i
        if !directory.isDirectory || !directory.allows 4 then []
        else
          let elements := elementsOf p.name
          let dotted := p.name.head? = some '.' || p.name.take 2 = ['\\', '.']
          let names := (['.'] :: ['.', '.'] :: files.names i).filter fun name =>
            (dotted || name.head? ≠ some '.') && accepts elements name
          names.flatMap fun name =>
            match p.behind with
            | none => [way ++ name]
            | some rest => matchPaths files here fuel (way ++ name ++ ['/']) rest

/-- The names that a field stands for, or its text. -/
def namesFor (field : List Glyph) : Action (List Octets) := do
  let m ← get
  if 'f' ∈ m.shell.options || !hasMeta field then return [textOf field]
  let pattern := patternText true field
  let here := m.process.directory
  match matchPaths m.world.files here (pattern.length + 1) [] pattern with
  | [] => return [textOf field]
  | names => return names.mergeSort fun a b => !Octets.precedes b a

/-- The fields that a word becomes. -/
def expandFields (capture : Option Command → Action Octets) (w : Word) : Action (List Octets) := do
  let e ← expandWord capture { fields := true, tilde := true } w
  let fields ← if e.regions.isEmpty then
      pure (if e.glyphs.isEmpty then [] else [e.glyphs.toList])
    else do pure (splitFields (← separators?) none e)
  return (← fields.mapM namesFor).flatten

end KctlProbe.Sandbox
