/-!
# Rounding

Exact quotients of natural numbers, rounded to the nearest whole number or to the nearest number
with so many significant bits. In both cases a tie goes to the even neighbour.
-/

namespace KctlProbe

/-- The whole number nearest to `num / den`; of two equally near ones, the even one. -/
def roundDiv (num den : Nat) : Nat :=
  let q := num / den
  let r := num % den
  if 2 * r < den then q
  else if den < 2 * r then q + 1
  else q + q % 2

/-- A quotient of two natural numbers. -/
structure Fraction where
  num : Nat
  den : Nat
  deriving DecidableEq, Repr

namespace Fraction

/-- A whole number. -/
def ofNat (n : Nat) : Fraction := ⟨n, 1⟩

/-- The sum of two quotients. -/
def add (x y : Fraction) : Fraction :=
  ⟨x.num * y.den + y.num * x.den, x.den * y.den⟩

/-- The product of two quotients. -/
def mul (x y : Fraction) : Fraction :=
  ⟨x.num * y.num, x.den * y.den⟩

/-- The nearest number with `bits` significant bits. The quotient is scaled by a power of two until
its whole part has so many bits, and the scaled quotient is rounded to a whole number. -/
def binary (bits : Nat) (x : Fraction) : Fraction :=
  if x.num = 0 then ofNat 0
  else
    let up := x.den.log2 + bits
    let excess := ((x.num <<< up) / x.den).log2 - (bits - 1)
    if excess ≤ up then ⟨roundDiv (x.num <<< (up - excess)) x.den, 1 <<< (up - excess)⟩
    else ofNat (roundDiv x.num (x.den <<< (excess - up)) <<< (excess - up))

/-- The nearest number with 53 significant bits. -/
def binary53 (x : Fraction) : Fraction := binary 53 x

end Fraction

end KctlProbe
