/-!
# Numbers in text

The digits of numbers as arguments, reports and log lines show them, and the reader for the numbers
that a command line gives.
-/

namespace KctlProbe.Text

/-- A number in decimal, without leading zeros. -/
def decimal (n : Nat) : String :=
  String.ofList (Nat.toDigits 10 n)

/-- A whole number in decimal, with a minus sign when it is negative. -/
def signedDecimal : Int → String
  | .ofNat n => decimal n
  | .negSucc n => "-" ++ decimal (n + 1)

/-- The digits of `n` in base `base`, filled up with zeros on the left to `width` characters. -/
def padded (base width n : Nat) : List Char :=
  let digits := Nat.toDigits base n
  List.replicate (width - digits.length) '0' ++ digits

/-- The value of a decimal digit. -/
def digitValue? (c : Char) : Option Nat :=
  if '0' ≤ c ∧ c ≤ '9' then some (c.toNat - '0'.toNat) else none

/-- The value of a run of decimal digits, appended to the digits of `value`. -/
def digitsValue? (value : Nat) : List Char → Option Nat
  | [] => some value
  | c :: cs => (digitValue? c).bind fun d => digitsValue? (value * 10 + d) cs

/-- Reads an unsigned number below `limit`: at least one digit, leading zeros allowed, and one plus
sign in front allowed. -/
def readUnsigned? (limit : Nat) (s : String) : Option Nat :=
  let digits := match s.toList with
    | '+' :: cs => cs
    | cs => cs
  if digits.isEmpty then none
  else (digitsValue? 0 digits).filter (· < limit)

end KctlProbe.Text
