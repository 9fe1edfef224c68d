import KctlProbe.Sandbox.Octets

/-!
# Numbers at the start of a text

Numbers are read as far as they go: blanks, a sign and the digits of a base, with what is left
behind them. Base 0 takes the base from how the number is written. A number that does not fit into 64
bits is the nearest one that does.
-/

namespace KctlProbe.Sandbox

/-- Whether a character is a blank of any kind. -/
def isSpace (c : Char) : Bool :=
  c == ' ' || ('\t' ≤ c && c ≤ '\r')

/-- The value of a digit or letter. -/
def digitValue? (c : Char) : Option Nat :=
  if c.isDigit then some (c.toNat - '0'.toNat)
  else if 'a' ≤ c ∧ c ≤ 'z' then some (c.toNat - 'a'.toNat + 10)
  else if 'A' ≤ c ∧ c ≤ 'Z' then some (c.toNat - 'A'.toNat + 10)
  else none

/-- Whether a character is a digit of a base. -/
def isDigitOf (base : Nat) (c : Char) : Bool :=
  match digitValue? c with
  | some d => d < base
  | none => false

/-- The number with the given digits of a base. -/
def numberOf (base : Nat) (digits : Octets) : Nat :=
  digits.foldl (fun n c => n * base + (digitValue? c).getD 0) 0

/-- A number at the start of a text. -/
structure Numeral where
  value : Int
  /-- What is behind the number. -/
  rest : Octets
  /-- Whether there was a number at all. -/
  found : Bool := true
  /-- Whether the number did not fit. -/
  overflow : Bool := false

/-- The digits at the start of a text, and the base they are in. -/
def unsignedNumeral (base : Nat) (cs : Octets) : Nat × Nat × Octets :=
  let hexadecimal := match cs with
    | '0' :: x :: d :: _ => (x == 'x' || x == 'X') && isDigitOf 16 d
    | _ => false
  let (base, cs) :=
    if hexadecimal && (base = 0 || base = 16) then (16, cs.drop 2)
    else if base = 0 then (if cs.head? = some '0' then 8 else 10, cs)
    else (base, cs)
  let digits := cs.takeWhile (isDigitOf base)
  (numberOf base digits, digits.length, cs.drop digits.length)

/-- The sign at the start of a text, after its blanks, and what is behind it. -/
def signOf (cs : Octets) : Bool × Octets :=
  match cs.dropWhile isSpace with
  | '-' :: rest => (true, rest)
  | '+' :: rest => (false, rest)
  | rest => (false, rest)

/-- The integer at the start of a text. -/
def numeral (base : Nat) (cs : Octets) : Numeral :=
  let (negative, digits) := signOf cs
  let (n, count, rest) := unsignedNumeral base digits
  if count = 0 then { value := 0, rest := cs, found := false }
  else
    let value : Int := if negative then -n else n
    if value < -9223372036854775808 then
      { value := -9223372036854775808, rest, overflow := true }
    else if 9223372036854775807 < value then
      { value := 9223372036854775807, rest, overflow := true }
    else { value, rest }

/-- The integer without a sign at the start of a text. A minus sign counts down from zero. -/
def wordNumeral (base : Nat) (cs : Octets) : Numeral :=
  let (negative, digits) := signOf cs
  let (n, count, rest) := unsignedNumeral base digits
  if count = 0 then { value := 0, rest := cs, found := false }
  else if 18446744073709551615 < n then
    { value := 18446744073709551615, rest, overflow := true }
  else { value := if negative then (18446744073709551616 - n) % 18446744073709551616 else n, rest }

/-- The integer that a text is, with blanks around it. In base 0 an empty text counts as zero. -/
def integer? (base : Nat) (cs : Octets) : Option Int :=
  let n := numeral base cs
  if n.overflow || (!n.found && base ≠ 0) || !n.rest.all isSpace then none else some n.value

/-- The integer of 64 bits that `n` wraps to. -/
def wrap (n : Int) : Int :=
  Int.bmod n 18446744073709551616

end KctlProbe.Sandbox
