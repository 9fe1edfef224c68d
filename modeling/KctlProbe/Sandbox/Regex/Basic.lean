import KctlProbe.Sandbox.Octets

/-!
# Regular expressions

A regular expression describes texts. It is matched from a place of a text on, and gives the places
up to which it describes the text, the preferred ones first. Of all matches the first one counts, and
of those that start at the same place the longest one.
-/

namespace KctlProbe.Sandbox

/-- A place between characters that a regular expression can ask for. -/
inductive Edge where
  | lineStart
  | lineEnd
  | wordStart
  | wordEnd
  /-- The start or the end of a word, or neither of them. -/
  | word (isEdge : Bool)
  deriving DecidableEq, Repr

/-- A regular expression. -/
inductive Regex where
  | empty
  /-- A character of a set, or one outside of it. -/
  | one (inside : Bool) (ranges : List (Char × Char))
  | edge (e : Edge)
  | cat (a b : Regex)
  | either (a b : Regex)
  /-- Any number of times. -/
  | many (a : Regex)
  | group (number : Nat) (a : Regex)
  /-- What a group stands for. -/
  | again (number : Nat)
  deriving Repr

/-- A place in a text. -/
structure Cursor where
  before : Option Char
  rest : Octets
  /-- The number of characters before it. -/
  place : Nat
  /-- What the groups stand for. -/
  groups : List (Nat × Octets) := []
  deriving Repr

namespace Cursor

/-- The start of a text. -/
def start (text : Octets) : Cursor := ⟨none, text, 0, []⟩

/-- The next place. -/
def next? (c : Cursor) : Option Cursor :=
  match c.rest with
  | [] => none
  | d :: rest => some { c with before := some d, rest, place := c.place + 1 }

/-- The text up to a later place. -/
def upTo (c d : Cursor) : Octets :=
  c.rest.take (d.place - c.place)

end Cursor

/-- Whether a character belongs to a word. -/
def isWordChar (c : Char) : Bool :=
  c.isAlphanum || c == '_'

/-- Whether a place is where an edge is. -/
def Edge.isAt (e : Edge) (c : Cursor) : Bool :=
  let behind := c.before.any isWordChar
  let ahead := c.rest.head?.any isWordChar
  match e with
  | lineStart => c.before.isNone
  | lineEnd => c.rest.isEmpty
  | wordStart => !behind && ahead
  | wordEnd => behind && !ahead
  | word isEdge => (behind != ahead) == isEdge

/-- The cursors with different places, the first one for each. -/
def distinct (cs : List Cursor) : List Cursor :=
  match cs with
  | [] | [_] => cs
  | cs => (cs.foldl (fun (seen, kept) c =>
      if c.place ∈ seen then (seen, kept) else (c.place :: seen, c :: kept))
      (([], []) : List Nat × List Cursor)).2.reverse

/-- A step of going on again and again: a place to go on from, or one that is reached. -/
inductive Visit where
  | enter (c : Cursor)
  | leave (c : Cursor)

/-- The places that are reached by steps that each get further, those first that take more of
them. -/
def closure (step : Cursor → List Cursor) : Nat → List Nat → List Cursor → List Visit → List Cursor
  | 0, _, done, _ => done.reverse
  | _, _, done, [] => done.reverse
  | fuel + 1, seen, done, .leave c :: rest => closure step fuel seen (c :: done) rest
  | fuel + 1, seen, done, .enter c :: rest =>
    if c.place ∈ seen then closure step fuel seen done rest
    else
      let further := ((step c).filter (c.place < ·.place)).map Visit.enter
      closure step fuel (c.place :: seen) done (further ++ .leave c :: rest)

/-- A text that is at the start of another one, and what is behind it there. -/
def behind? : Octets → Octets → Option Octets
  | [], text => some text
  | c :: cs, d :: ds => if c = d then behind? cs ds else none
  | _ :: _, [] => none

namespace Regex

/-- The places up to which an expression describes a text. -/
def ends : Regex → Cursor → List Cursor
  | empty, c => [c]
  | one inside ranges, c =>
    match c.rest with
    | d :: _ => if ranges.any (fun (a, b) => a ≤ d && d ≤ b) == inside then c.next?.toList else []
    | [] => []
  | edge e, c => if e.isAt c then [c] else []
  | cat a b, c =>
    match a.ends c with
    | [] => []
    | [d] => b.ends d
    | ds => distinct (ds.flatMap b.ends)
  | either a b, c => distinct (a.ends c ++ b.ends c)
  | many a, c =>
    let n := c.rest.length + 2
    closure a.ends (n * n + n) [] [] [.enter c]
  | group number a, c =>
    (a.ends c).map fun d =>
      { d with groups := (number, c.upTo d) :: d.groups.filter (·.1 ≠ number) }
  | again number, c =>
    match c.groups.lookup number with
    | none => []
    | some text =>
      match behind? text c.rest with
      | none => []
      | some rest =>
        [{ c with
            before := match text.getLast? with
              | some d => some d
              | none => c.before
            rest, place := c.place + text.length }]

/-- The longest match at a place. -/
def matchAt? (r : Regex) (c : Cursor) : Option Cursor :=
  (r.ends c).foldl (fun best d =>
    match best with
    | some b => if b.place < d.place then some d else best
    | none => some d) none

/-- The first match from a place on: where it starts, and where it ends. -/
def searchFrom (r : Regex) : Nat → Cursor → Option (Cursor × Cursor)
  | 0, _ => none
  | fuel + 1, c =>
    match r.matchAt? c with
    | some d => some (c, d)
    | none => c.next?.bind (searchFrom r fuel)

/-- The first match from a place on. -/
def search? (r : Regex) (c : Cursor) : Option (Cursor × Cursor) :=
  r.searchFrom (c.rest.length + 1) c

/-- A character. -/
def char (c : Char) : Regex := one true [(c, c)]

/-- An expression so many times. -/
def times (a : Regex) : Nat → Regex
  | 0 => empty
  | n + 1 => cat a (times a n)

/-- An expression at most so many times. -/
def atMost (a : Regex) : Nat → Regex
  | 0 => empty
  | n + 1 => either (cat a (atMost a n)) empty

end Regex

end KctlProbe.Sandbox
