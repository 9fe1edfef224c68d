import KctlProbe.Sandbox.Regex.Reader
import KctlProbe.Sandbox.Tool.Reading

/-!
# Expressions of arguments

`expr` takes each of its arguments as a word of an expression, calculates, compares and matches, and
writes the value. It fails if that is nothing or zero.
-/

namespace KctlProbe.Sandbox.Tool

/-- A value of an expression. -/
inductive Quantity where
  | whole (n : Int)
  | text (cs : Octets)

namespace Quantity

/-- The text of a value. -/
def toText : Quantity → Octets
  | whole n => Octets.ofInt n
  | text cs => cs

/-- The whole number that a value is. -/
def toWhole? : Quantity → Option Int
  | whole n => some n
  | text ('-' :: cs) => (Octets.toNat? cs).map fun n => -(n : Int)
  | text cs => (Octets.toNat? cs).map Int.ofNat

/-- Whether a value is nothing or zero. -/
def isNull : Quantity → Bool
  | whole n => n == 0
  | text [] => true
  | text ('-' :: cs) => !cs.isEmpty && cs.all (· == '0')
  | text cs => cs.all (· == '0')

/-- The whole number that stands for a truth. -/
def ofBool (b : Bool) : Quantity := whole (if b then 1 else 0)

end Quantity

/-- The words of an expression that are left, and the one before them. -/
structure Wording where
  rest : List Octets
  before : Octets := []

/-- A step of reading and calculating an expression. -/
abbrev Reckon := StateT Wording Tool

namespace Reckon

/-- Ends the calculation. -/
def fail {α : Type} (text : String) : Reckon α :=
  (refuse 2 text : Tool α)

/-- The next word, which must be there. -/
def next : Reckon Octets := do
  let s ← get
  match s.rest with
  | [] => fail ("syntax error: missing argument after " ++ textInQuotes s.before)
  | w :: rest =>
    set ({ rest, before := w } : Wording)
    return w

/-- The next word if it is one of some words. -/
def oneOf? (words : List String) : Reckon (Option String) := do
  match (← get).rest with
  | [] => return none
  | w :: _ =>
    match words.find? (·.toList = w) with
    | none => return none
    | some word =>
      let _ ← next
      return some word

/-- What a pattern selects at the start of a text: the text of its first group, or the number of
characters. -/
def matched (text pattern : Octets) : Reckon Quantity := do
  match Dialect.read { lenient := true, emptyRanges := true } pattern with
  | .error e => fail e.words
  | .ok (r, groups, _) =>
    match r.matchAt? (.start text) with
    | some c =>
      if groups = 0 then return .whole c.place
      else return .text ((c.groups.lookup 1).getD [])
    | none => return if groups = 0 then .whole 0 else .text []

/-- A value as a whole number. -/
def whole (q : Quantity) : Reckon Int :=
  match q.toWhole? with
  | some n => return n
  | none => fail "non-integer argument"

/-- The value of an operator between two values. -/
def combine (op : String) (a b : Quantity) : Reckon Quantity := do
  let wholes := fun (f : Int → Int → Reckon Int) => do
    let m ← whole a
    let n ← whole b
    return Quantity.whole (← f m n)
  let divided := fun (f : Int → Int → Int) => wholes fun m n =>
    if n = 0 then fail "division by zero" else return f m n
  let compared := fun (p : Ordering → Bool) =>
    let order := match a.toWhole?, b.toWhole? with
      | some m, some n => compare m n
      | _, _ =>
        if Octets.precedes a.toText b.toText then .lt
        else if a.toText = b.toText then .eq else .gt
    return Quantity.ofBool (p order)
  match op with
  | "|" => return if !a.isNull then a else if b.isNull then .whole 0 else b
  | "&" => return if a.isNull || b.isNull then .whole 0 else a
  | "<" => compared (· == .lt)
  | "<=" => compared (· != .gt)
  | "=" | "==" => compared (· == .eq)
  | "!=" => compared (· != .eq)
  | ">=" => compared (· != .lt)
  | ">" => compared (· == .gt)
  | "+" => wholes fun m n => return m + n
  | "-" => wholes fun m n => return m - n
  | "*" => wholes fun m n => return m * n
  | "/" => divided Int.tdiv
  | "%" => divided Int.tmod
  | _ => matched a.toText b.toText

/-- The operators between values, those that bind least first. -/
def operators : List (List String) :=
  [["|"], ["&"], ["<", "<=", "=", "==", "!=", ">=", ">"], ["+", "-"], ["*", "/", "%"], [":"]]

/-- The place of the first character of a text that is one of some characters. -/
def placeOfAny (text characters : Octets) : Nat :=
  let before := text.takeWhile fun c => c ∉ characters
  if before.length = text.length then 0 else before.length + 1

/-- The part of a text from a place on, so many characters long. -/
def part (text : Octets) (start count : Quantity) : Octets :=
  match start.toWhole?, count.toWhole? with
  | some s, some n => if s ≤ 0 ∨ n ≤ 0 then [] else (text.drop (s - 1).toNat).take n.toNat
  | _, _ => []

mutual

/-- The value of an expression whose operators bind at least as much as those of a level. Where
`active` does not hold, the value does not matter. -/
def value : Nat → List (List String) → Bool → Reckon Quantity
  | 0, _, _ => fail "syntax error"
  | fuel + 1, levels, active => do
    match levels with
    | [] => factor fuel active
    | _ :: tighter =>
      let a ← value fuel tighter active
      goOn fuel levels active a

/-- The value of what follows a value at a level. -/
def goOn : Nat → List (List String) → Bool → Quantity → Reckon Quantity
  | 0, _, _, _ => fail "syntax error"
  | fuel + 1, levels, active, a => do
    match levels with
    | [] => return a
    | ops :: tighter =>
      match ← oneOf? ops with
      | none => return a
      | some op =>
        let matters := match op with
          | "|" => active && a.isNull
          | "&" => active && !a.isNull
          | _ => active
        let b ← value fuel tighter matters
        let c ← if active then combine op a b else pure a
        goOn fuel levels active c

/-- The value of a word, of an expression in parentheses, or of a function. -/
def factor : Nat → Bool → Reckon Quantity
  | 0, _ => fail "syntax error"
  | fuel + 1, active => do
    match ← oneOf? ["+", "length", "match", "index", "substr", "(", ")"] with
    | some "+" => return .text (← next)
    | some "length" => return .whole (← factor fuel active).toText.length
    | some "match" =>
      let a ← factor fuel active
      let b ← factor fuel active
      if active then matched a.toText b.toText else return a
    | some "index" =>
      let a ← factor fuel active
      let b ← factor fuel active
      return .whole (placeOfAny a.toText b.toText)
    | some "substr" =>
      let a ← factor fuel active
      let b ← factor fuel active
      let c ← factor fuel active
      return .text (part a.toText b c)
    | some "(" =>
      let a ← value fuel operators active
      let s ← get
      match s.rest with
      | [')'] :: _ =>
        let _ ← next
        return a
      | [] => fail ("syntax error: expecting ')' after " ++ textInQuotes s.before)
      | w :: _ => fail ("syntax error: expecting ')' instead of " ++ textInQuotes w)
    | some _ => fail "syntax error: unexpected ')'"
    | none => return .text (← next)

end

end Reckon

/-- Writes the value of an expression. -/
def exprTool (args : List Octets) : Tool Nat := do
  let words := if args.head? = some ['-', '-'] then args.drop 1 else args
  if words.isEmpty then misused 2 "missing operand"
  let (q, s) ← (Reckon.value (20 * words.length + 40) Reckon.operators true).run { rest := words }
  match s.rest with
  | w :: _ => refuse 2 ("syntax error: unexpected argument " ++ textInQuotes w)
  | [] =>
    put (q.toText ++ ['\n'])
    return if q.isNull then 1 else 0

end KctlProbe.Sandbox.Tool
