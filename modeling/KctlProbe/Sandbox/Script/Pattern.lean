import KctlProbe.Sandbox.Octets

/-!
# Patterns

Patterns select names and cases. A star stands for any text, a question mark for any character, and
a bracket for one character of a set. A quoted character stands for itself, and so does one behind a
backslash.
-/

namespace KctlProbe.Sandbox.Script

/-- A character of a word after its substitutions were made. -/
inductive Glyph where
  | char (c : Char)
  /-- A quoted character. -/
  | escaped (c : Char)
  /-- A quote, which keeps an empty word from getting lost. -/
  | quote
  deriving DecidableEq, Repr

/-- The text of glyphs, without quotes. -/
def textOf (gs : List Glyph) : Octets :=
  gs.filterMap fun
    | .char c => some c
    | .escaped c => some c
    | .quote => none

/-- The text of glyphs as a pattern, in which a backslash stands before each quoted character. -/
def patternText (bare : Bool) : List Glyph → Octets
  | [] => []
  | .quote :: gs => patternText true gs
  | .char c :: gs => c :: patternText (c ≠ '\\') gs
  | .escaped c :: gs => if bare then '\\' :: c :: patternText true gs else c :: patternText true gs

/-- An element of a pattern. -/
inductive Element where
  | char (c : Char)
  | one
  | many
  /-- One character inside or outside of a set. -/
  | within (inside : Bool) (ranges : List (Char × Char))
  deriving DecidableEq, Repr

/-- The ranges of a class of characters. -/
def classRanges? (name : String) : Option (List (Char × Char)) :=
  match name with
  | "alnum" => some [('0', '9'), ('A', 'Z'), ('a', 'z')]
  | "alpha" => some [('A', 'Z'), ('a', 'z')]
  | "blank" => some [(' ', ' '), ('\t', '\t')]
  | "cntrl" => some [('\x00', '\x1f'), ('\x7f', '\x7f')]
  | "digit" => some [('0', '9')]
  | "graph" => some [('!', '~')]
  | "lower" => some [('a', 'z')]
  | "print" => some [(' ', '~')]
  | "punct" => some [('!', '/'), (':', '@'), ('[', '`'), ('\x7b', '~')]
  | "space" => some [(' ', ' '), ('\t', '\r')]
  | "upper" => some [('A', 'Z')]
  | "xdigit" => some [('0', '9'), ('A', 'F'), ('a', 'f')]
  | _ => none

/-- The class at the start of a text, after its opening bracket, and what is behind it. -/
def classAt? (cs : Octets) : Option (List (Char × Char) × Octets) :=
  match cs with
  | ':' :: rest =>
    let name := rest.takeWhile Char.isAlpha
    match rest.drop name.length with
    | ':' :: ']' :: rest => (classRanges? (shown name)).map (·, rest)
    | _ => none
  | _ => none

/-- A character of a set, which a backslash can stand before, and what is behind it. -/
def unescaped : Octets → Option (Char × Octets)
  | '\\' :: c :: cs => some (c, cs)
  | c :: cs => some (c, cs)
  | [] => none

/-- The ranges of a set up to its closing bracket, and what is behind it. The first character
belongs to the set even if it is a bracket. -/
def setRanges : Nat → Bool → List (Char × Char) → Octets → Option (List (Char × Char) × Octets)
  | 0, _, _, _ => none
  | _, false, done, ']' :: cs => some (done, cs)
  | fuel + 1, _, done, '[' :: cs =>
    match classAt? cs with
    | some (ranges, rest) => setRanges fuel false (ranges ++ done) rest
    | none => setRange fuel done '[' cs
  | fuel + 1, _, done, cs =>
    match unescaped cs with
    | some (a, rest) => setRange fuel done a rest
    | none => none
where
  /-- The ranges of a set from the character `a` on, which can start a range. -/
  setRange : Nat → List (Char × Char) → Char → Octets → Option (List (Char × Char) × Octets)
    | 0, _, _, _ => none
    | fuel + 1, done, a, '-' :: b :: cs =>
      if b = ']' then setRanges fuel false ((a, a) :: done) ('-' :: b :: cs)
      else
        match unescaped (b :: cs) with
        | some (b, rest) => setRanges fuel false ((a, b) :: done) rest
        | none => none
    | fuel + 1, done, a, cs => setRanges fuel false ((a, a) :: done) cs

/-- The elements of a pattern, those before in reverse. -/
def elements : Nat → List Element → Octets → List Element
  | 0, done, _ => done.reverse
  | _, done, [] => done.reverse
  | fuel + 1, done, c :: cs =>
    if c = '*' then elements fuel (if done.head? = some .many then done else .many :: done) cs
    else if c = '?' then elements fuel (.one :: done) cs
    else if c = '[' then
      let (inside, body) := match cs with
        | '!' :: rest => (false, rest)
        | rest => (true, rest)
      match setRanges (2 * cs.length + 2) true [] body with
      | some (ranges, rest) => elements fuel (.within inside ranges :: done) rest
      | none => elements fuel (.char c :: done) cs
    else if c = '\\' then
      match cs with
      | d :: rest => elements fuel (.char d :: done) rest
      | [] => elements fuel (.char c :: done) []
    else elements fuel (.char c :: done) cs

/-- The elements of a pattern. -/
def elementsOf (pattern : Octets) : List Element :=
  elements (pattern.length + 1) [] pattern

/-- Whether a character belongs to one of some ranges. -/
def inRanges (ranges : List (Char × Char)) (c : Char) : Bool :=
  ranges.any fun (a, b) => a ≤ c && c ≤ b

/-- Whether an element stands for a character. -/
def Element.accepts (e : Element) (c : Char) : Bool :=
  match e with
  | .char d => c == d
  | .one => true
  | .many => false
  | .within inside ranges => inRanges ranges c == inside

/-- Whether a pattern stands for a text. After a star, `again` is the pattern behind it and the text
that it is tried on next. -/
def acceptsFrom : Nat → Option (List Element × Octets) → List Element → Octets → Bool
  | 0, _, _, _ => false
  | fuel + 1, _, .many :: es, text => acceptsFrom fuel (some (es, text)) es text
  | fuel + 1, again, es, text =>
    let retry := fun (_ : Unit) =>
      match again with
      | some (es, _ :: text) => acceptsFrom fuel (some (es, text)) es text
      | _ => false
    match es, text with
    | [], [] => true
    | e :: es, c :: cs => if e.accepts c then acceptsFrom fuel again es cs else retry ()
    | _, _ => retry ()

/-- Whether a pattern stands for a text. -/
def accepts (pattern : List Element) (text : Octets) : Bool :=
  acceptsFrom ((pattern.length + 2) * (text.length + 2)) none pattern text

/-- Whether the text of a pattern has a character that can stand for others. -/
def hasMeta (gs : List Glyph) : Bool :=
  gs.any fun
    | .char c | .escaped c => c == '*' || c == '?' || c == '['
    | .quote => false

/-- How many glyphs at the start of a value a pattern stands for. -/
def startLength? (longest : Bool) (pattern : List Element) (text : Octets) : Option Nat :=
  let lengths := List.range (text.length + 1)
  (if longest then lengths.reverse else lengths).find? fun n => accepts pattern (text.take n)

/-- How many glyphs are left of a value without the end that a pattern stands for. -/
def endStart? (longest : Bool) (pattern : List Element) (text : Octets) : Option Nat :=
  let lengths := List.range (text.length + 1)
  (if longest then lengths else lengths.reverse).find? fun n => accepts pattern (text.drop n)

end KctlProbe.Sandbox.Script
