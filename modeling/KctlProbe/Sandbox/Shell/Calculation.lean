import KctlProbe.Sandbox.Shell.Binding
import KctlProbe.Sandbox.Script.Arithmetic

/-!
# Calculations

The value of an arithmetic expression in a shell, which can read and set variables. What is not
needed for the value is read, but not done.
-/

namespace KctlProbe.Sandbox

open Script

/-- A step of a calculation: the text it is for, and the terms that follow. -/
abbrev Calculation := ReaderT Octets (StateT (List Term) Action)

namespace Calculation

/-- Says why an expression has no value. -/
def refuse {α : Type} (why : String) : Calculation α := do
  let text ← read
  fail ("arithmetic expression: " ++ why ++ ": \"" ++ shown text ++ "\"")

/-- The next term, if there is one. -/
def peek : Calculation (Option Term) :=
  return (← get).head?

/-- Goes on behind the next term. -/
def skip : Calculation Unit :=
  modify (·.drop 1)

/-- The number that is the value of a variable. -/
def valueOf (name : Octets) : Calculation Int := do
  let value : Octets := (← (valueOf? name : Action (Option Octets))).getD []
  match integer? 0 value with
  | some n => return n
  | none => fail ("Illegal number: " ++ shown value)

/-- The value of an operator between two operands. Nothing can be divided by zero, and the processor
cannot divide the least integer by -1. -/
def apply (op : String) (a b : Int) : Calculation Int := do
  if op = "/" ∨ op = "%" then
    if b = 0 then refuse "division by zero"
    if b = -1 ∧ a = -9223372036854775808 then throw (.killed 8)
  return combine op a b

mutual

/-- The value of an operand. -/
def operand (idle : Bool) : Nat → Calculation Int
  | 0 => refuse "expecting primary"
  | fuel + 1 => do
    let first ← peek
    skip
    match first with
    | some (.operator "(") =>
      let n ← assignment idle fuel
      if (← peek) ≠ some (.operator ")") then refuse "expecting ')'"
      skip
      return n
    | some (.number n) => return n
    | some (.name name) => if idle then return 0 else valueOf name
    | some (.operator "+") => operand idle fuel
    | some (.operator "-") => return wrap (-(← operand idle fuel))
    | some (.operator "!") => return truth ((← operand idle fuel) = 0)
    | some (.operator "~") => return -(← operand idle fuel) - 1
    | _ => refuse "expecting primary"

/-- The value of `a` and what operators of a rank below `least` join to it, the first one being
`op`, whose right operand is next. -/
def operations (idle : Bool) : Nat → Int → String → Nat → Calculation Int
  | 0, _, _, _ => refuse "expecting primary"
  | fuel + 1, a, op, least => do
    let rank := (rankOf? op).getD loosestRank
    let b ← operand idle fuel
    let b ← match (← peek) with
      | some (.operator next) =>
        match rankOf? next with
        | some r =>
          if r < rank then do
            skip
            operations idle fuel b next rank
          else pure b
        | none => pure b
      | _ => pure b
    let a ← if idle then pure b else apply op a b
    match (← peek) with
    | some (.operator next) =>
      match rankOf? next with
      | some r =>
        if r < least then
          skip
          operations idle fuel a next least
        else return a
      | none => return a
    | _ => return a

/-- The value of operands and operators. -/
def sum (idle : Bool) : Nat → Calculation Int
  | 0 => refuse "expecting primary"
  | fuel + 1 => do
    let a ← operand idle fuel
    match (← peek) with
    | some (.operator op) =>
      if (rankOf? op).isSome then
        skip
        operations idle fuel a op loosestRank
      else return a
    | _ => return a

/-- The truth of sums that must all be true. -/
def conjunction (idle : Bool) : Nat → Calculation Int
  | 0 => refuse "expecting primary"
  | fuel + 1 => do
    let a ← sum idle fuel
    if (← peek) ≠ some (.operator "&&") then return a
    skip
    let b ← conjunction (idle || a = 0) fuel
    return truth (a ≠ 0 ∧ b ≠ 0)

/-- The truth of conjunctions of which one must be true. -/
def disjunction (idle : Bool) : Nat → Calculation Int
  | 0 => refuse "expecting primary"
  | fuel + 1 => do
    let a ← conjunction idle fuel
    if (← peek) ≠ some (.operator "||") then return a
    skip
    let b ← disjunction (idle || a ≠ 0) fuel
    return truth (a ≠ 0 ∨ b ≠ 0)

/-- The value of a choice between two expressions. -/
def choice (idle : Bool) : Nat → Calculation Int
  | 0 => refuse "expecting primary"
  | fuel + 1 => do
    let a ← disjunction idle fuel
    if (← peek) ≠ some (.operator "?") then return a
    skip
    let b ← assignment (idle || a = 0) fuel
    if (← peek) ≠ some (.operator ":") then refuse "expecting ':'"
    skip
    let c ← choice (idle || a ≠ 0) fuel
    return if a ≠ 0 then b else c

/-- The value of an expression that may be assigned to a variable. -/
def assignment (idle : Bool) : Nat → Calculation Int
  | 0 => refuse "expecting primary"
  | fuel + 1 => do
    match (← get) with
    | .name name :: .assign op :: rest =>
      set rest
      let n ← assignment idle fuel
      if idle then return n
      let n ← match op with
        | some op => do apply op (← valueOf name) n
        | none => pure n
      (assign name (Octets.ofInt n) : Action Unit)
      return n
    | _ => choice idle fuel

end

end Calculation

/-- The value of an arithmetic expression. -/
def calculate (text : Octets) : Action Int := do
  let terms := termsOf text
  let whole : Calculation Int := do
    let n ← Calculation.assignment false (16 * terms.length + 64)
    if (← get).isEmpty then return n else Calculation.refuse "expecting EOF"
  return (← (whole.run text).run terms).1

end KctlProbe.Sandbox
