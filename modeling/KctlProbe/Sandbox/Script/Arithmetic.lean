import KctlProbe.Sandbox.Numeral
import KctlProbe.Sandbox.Script.Tree

/-!
# Arithmetic expressions

The terms of an expression, and what its operators do to integers of 64 bits. Truth is 1 and falsity
0.
-/

namespace KctlProbe.Sandbox.Script

/-- A term of an expression. -/
inductive Term where
  | number (n : Int)
  | name (name : Octets)
  | operator (text : String)
  /-- An assignment, of the result of an operator if there is one. -/
  | assign (operator : Option String)
  /-- A character that does not belong to an expression. -/
  | stray
  deriving DecidableEq, Repr

/-- The operators with two characters, which no assignment follows. -/
def longOperators : List String :=
  ["==", "!=", "<=", ">=", "&&", "||"]

/-- The operators that an equals sign can follow, the longer ones first. -/
def assigningOperators : List String :=
  ["<<", ">>", "*", "/", "%", "+", "-", "&", "^", "|"]

/-- The other operators. -/
def plainOperators : List String :=
  ["<", ">", "!", "~", "?", ":", "(", ")"]

/-- The first text of a list that another text starts with, and what is behind it. -/
def startingWith? (texts : List String) (cs : Octets) : Option (String × Octets) :=
  (texts.find? fun t => t.toList.isPrefixOf cs).map fun t => (t, cs.drop t.length)

/-- The terms of an expression, those before in reverse. -/
def terms : Nat → List Term → Octets → List Term
  | 0, done, _ => done.reverse
  | _, done, [] => done.reverse
  | fuel + 1, done, c :: cs =>
    if c = ' ' ∨ c = '\t' ∨ c = '\n' then terms fuel done cs
    else if c.isDigit then
      let n := numeral 0 (c :: cs)
      terms fuel (.number n.value :: done) n.rest
    else if startsName c then
      let name := c :: cs.takeWhile inName
      terms fuel (.name name :: done) ((c :: cs).drop name.length)
    else
      match startingWith? longOperators (c :: cs) with
      | some (text, rest) => terms fuel (.operator text :: done) rest
      | none =>
        match startingWith? assigningOperators (c :: cs) with
        | some (text, '=' :: rest) => terms fuel (.assign (some text) :: done) rest
        | some (text, rest) => terms fuel (.operator text :: done) rest
        | none =>
          match startingWith? plainOperators (c :: cs) with
          | some (text, rest) => terms fuel (.operator text :: done) rest
          | none => terms fuel ((if c = '=' then .assign none else .stray) :: done) cs

/-- The terms of an expression. -/
def termsOf (text : Octets) : List Term :=
  terms (text.length + 1) [] text

/-- The rank of an operator between two operands; those of a lower rank bind closer. -/
def rankOf? : String → Option Nat
  | "*" | "/" | "%" => some 0
  | "+" | "-" => some 1
  | "<<" | ">>" => some 2
  | "<" | "<=" | ">" | ">=" => some 3
  | "==" | "!=" => some 4
  | "&" => some 5
  | "^" => some 6
  | "|" => some 7
  | _ => none

/-- The rank beyond those of all operators. -/
def loosestRank : Nat := 8

/-- The number of a truth value. -/
def truth (b : Bool) : Int :=
  if b then 1 else 0

/-- The bits of an integer of 64 bits. -/
def bits (n : Int) : UInt64 :=
  UInt64.ofInt n

/-- The value of an operator between two operands, where division has a divisor. -/
def combine (op : String) (a b : Int) : Int :=
  match op with
  | "*" => wrap (a * b)
  | "/" => wrap (Int.tdiv a b)
  | "%" => Int.tmod a b
  | "+" => wrap (a + b)
  | "-" => wrap (a - b)
  | "<<" => wrap (bits a <<< bits b).toNat
  | ">>" => Int.shiftRight a (bits b % 64).toNat
  | "<" => truth (a < b)
  | "<=" => truth (a ≤ b)
  | ">" => truth (b < a)
  | ">=" => truth (b ≤ a)
  | "==" => truth (a = b)
  | "!=" => truth (a ≠ b)
  | "&" => wrap (bits a &&& bits b).toNat
  | "^" => wrap (bits a ^^^ bits b).toNat
  | "|" => wrap (bits a ||| bits b).toNat
  | _ => 0

end KctlProbe.Sandbox.Script
