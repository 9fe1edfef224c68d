import KctlProbe.Sandbox.Numeral
import KctlProbe.Rounding

/-!
# Numbers with decimals

Numbers with decimals are quotients, rounded to a number of significant bits when they are read:
the shell keeps 53 of them, and tools keep 64. They are written with a fixed number of decimals, with an exponent, or in whichever of these forms is shorter.
-/

namespace KctlProbe.Sandbox

/-- A number with decimals. -/
inductive Real where
  | finite (negative : Bool) (size : Fraction)
  | infinite (negative : Bool)
  | notNumber
  deriving DecidableEq, Repr

namespace Real

/-- A whole number. -/
def ofInt (n : Int) : Real :=
  .finite (n < 0) (.ofNat n.natAbs)

/-- A quotient of integers, rounded to 53 significant bits. -/
def ofQuotient (num : Int) (den : Nat) : Real :=
  .finite (num < 0) (Fraction.binary53 ⟨num.natAbs, den⟩)

/-- Whether there is a minus sign before the number. -/
def negative : Real → Bool
  | .finite n _ => n
  | .infinite n => n
  | .notNumber => false

/-- Ten to a power. -/
def tenTo : Nat → Nat
  | 0 => 1
  | n + 1 => 10 * tenTo n

/-- The size of a number with digits before and after the point and a power of ten. -/
def sizeOf (bits : Nat) (whole part : Octets) (exponent : Int) : Fraction :=
  let digits := numberOf 10 (whole ++ part)
  let places := (part.length : Int) - exponent
  if places < 0 then .ofNat (digits * tenTo (min places.natAbs 5000))
  else Fraction.binary bits ⟨digits, tenTo (min places.natAbs 5000)⟩

/-- The exponent at the start of a text, and what is behind it. -/
def exponentAt (cs : Octets) : Int × Octets :=
  match cs with
  | e :: rest =>
    if e = 'e' ∨ e = 'E' then
      let (negative, digits) := match rest with
        | '-' :: digits => (true, digits)
        | '+' :: digits => (false, digits)
        | digits => (false, digits)
      let run := digits.takeWhile Char.isDigit
      if run.isEmpty then (0, cs)
      else
        let n : Int := numberOf 10 run
        (if negative then -n else n, digits.drop run.length)
    else (0, cs)
  | [] => (0, [])

/-- The number at the start of a text, if there is one, and what is behind it. -/
def read? (bits : Nat) (cs : Octets) : Option (Real × Octets) :=
  let (negative, body) := signOf cs
  let lower := fun (n : Nat) => (body.take n).map Char.toLower
  if lower 8 = "infinity".toList then some (.infinite negative, body.drop 8)
  else if lower 3 = "inf".toList then some (.infinite negative, body.drop 3)
  else if lower 3 = "nan".toList then some (.notNumber, body.drop 3)
  else if lower 2 = "0x".toList && (body.drop 2).head?.any (isDigitOf 16) then
    let digits := (body.drop 2).takeWhile (isDigitOf 16)
    some (.finite negative (Fraction.binary bits (.ofNat (numberOf 16 digits))),
      body.drop (2 + digits.length))
  else
    let whole := body.takeWhile Char.isDigit
    let rest := body.drop whole.length
    let (part, behind) := match rest with
      | '.' :: rest =>
        let part := rest.takeWhile Char.isDigit
        if whole.isEmpty && part.isEmpty then ([], '.' :: rest) else (part, rest.drop part.length)
      | rest => ([], rest)
    if whole.isEmpty && part.isEmpty then none
    else
      let (exponent, behind) := exponentAt behind
      some (.finite negative (sizeOf bits whole part exponent), behind)

/-- The digits of a number with a fixed number of decimals, and the point if `point` holds or there
are decimals. -/
def fixedDigits (size : Fraction) (places : Nat) (point : Bool) : Octets :=
  let n := roundDiv (size.num * tenTo places) size.den
  let digits := Octets.ofNat n
  let digits := List.replicate (places + 1 - digits.length) '0' ++ digits
  let whole := digits.take (digits.length - places)
  whole ++ (if point || places ≠ 0 then ['.'] else []) ++ digits.drop whole.length

/-- The power of ten of the first digit of a number that is not zero. -/
def magnitude (size : Fraction) : Int :=
  let q := size.num / size.den
  if q ≠ 0 then (Octets.ofNat q).length - 1
  else
    let scaled := size.num * tenTo 400 / size.den
    (Octets.ofNat scaled).length - 1 - 400

/-- The digits of a number as a whole number with `places + 1` digits, and the power of ten of the
first one. -/
def significand (size : Fraction) (places : Nat) : Octets × Int :=
  if size.num = 0 then (List.replicate (places + 1) '0', 0)
  else
    let x := magnitude size
    let shift := (places : Int) - x
    let n := if 0 ≤ shift then roundDiv (size.num * tenTo shift.natAbs) size.den
      else roundDiv size.num (size.den * tenTo shift.natAbs)
    let digits := Octets.ofNat n
    if digits.length = places + 1 then (digits, x) else (digits.take (places + 1), x + 1)

/-- An exponent with a sign and at least two digits. -/
def exponentText (letter : Char) (x : Int) : Octets :=
  let digits := Octets.ofNat x.natAbs
  letter :: (if x < 0 then '-' else '+') ::
    (if digits.length < 2 then '0' :: digits else digits)

/-- The digits of a number with an exponent. -/
def scientificDigits (size : Fraction) (places : Nat) (point : Bool) (letter : Char) : Octets :=
  let (digits, x) := significand size places
  digits.take 1 ++ (if point || places ≠ 0 then ['.'] else []) ++ digits.drop 1 ++
    exponentText letter x

/-- Digits without the zeros after the point, and without the point if nothing is left behind it. -/
def withoutZeros (digits : Octets) : Octets :=
  if '.' ∈ digits then
    let kept := digits.reverse.dropWhile (· = '0')
    (if kept.head? = some '.' then kept.drop 1 else kept).reverse
  else digits

/-- The digits of a number in the shorter form. -/
def generalDigits (size : Fraction) (precision : Nat) (point : Bool) (letter : Char) : Octets :=
  let precision := max precision 1
  let (digits, x) := significand size (precision - 1)
  if x < -4 ∨ (precision : Int) ≤ x then
    let body := digits.take 1 ++ (if point || 1 < precision then ['.'] else []) ++ digits.drop 1
    (if point then body else withoutZeros body) ++ exponentText letter x
  else
    let body := fixedDigits size ((precision : Int) - 1 - x).natAbs point
    if point then body else withoutZeros body

end Real

end KctlProbe.Sandbox
