import KctlProbe.Rounding
import KctlProbe.Text.Decimal

/-!
# Durations

A span of time in whole seconds and nanoseconds, held in machine words. Division works word by word
and carries the seconds that do not divide evenly over to the nanoseconds; `divide_nanos_lt` shows
that no word overflows on the way and that what comes out is again less than a second.
-/

namespace KctlProbe

/-- A span of time. -/
structure Duration where
  seconds : UInt64
  nanos : UInt32
  nanos_lt : nanos.toNat < 1000000000 := by decide
  deriving DecidableEq, Repr

namespace Duration

/-- No time at all. -/
def zero : Duration := ⟨0, 0, by decide⟩

/-- The length of a duration in nanoseconds. -/
def toNanos (d : Duration) : Nat :=
  d.seconds.toNat * 1000000000 + d.nanos.toNat

/-- The duration of `n` nanoseconds, or of the longest whole second and what `n` has beyond its own,
if `n` is too long. -/
def ofNanos (n : Nat) : Duration where
  seconds := UInt64.ofNat (min (n / 1000000000) 18446744073709551615)
  nanos := UInt32.ofNat (n % 1000000000)
  nanos_lt := by
    rw [UInt32.toNat_ofNat']
    omega

/-- The part of a quotient's nanoseconds that comes from what the division of the seconds leaves
over. -/
def carried (d : Duration) (n : UInt32) : UInt64 :=
  (d.seconds % n.toUInt64 * 1000000000 + (d.nanos % n).toUInt64) / n.toUInt64

/-- A divisor that is no zero word is positive. -/
theorem toNat_pos {n : UInt32} (hn : n ≠ 0) : 0 < n.toNat :=
  Nat.pos_of_ne_zero fun h => hn (UInt32.toNat_inj.1 h)

theorem toNat_carried (d : Duration) {n : UInt32} (hn : n ≠ 0) :
    (d.carried n).toNat =
      (d.seconds.toNat % n.toNat * 1000000000 + d.nanos.toNat % n.toNat) / n.toNat := by
  have hpos := toNat_pos hn
  have hlt := n.toNat_lt
  have hs := Nat.mod_lt d.seconds.toNat hpos
  have hr := Nat.mod_lt d.nanos.toNat hpos
  simp only [carried, UInt64.toNat_div, UInt64.toNat_add, UInt64.toNat_mul, UInt64.toNat_mod,
    UInt32.toNat_toUInt64, UInt32.toNat_mod, UInt64.reduceToNat]
  rw [Nat.mod_eq_of_lt (a := d.seconds.toNat % n.toNat * 1000000000) (by omega),
    Nat.mod_eq_of_lt (by omega)]

/-- The nanoseconds of a quotient stay below a second: the remainders are less than the divisor. -/
theorem divide_nanos_lt (d : Duration) {n : UInt32} (hn : n ≠ 0) :
    d.nanos.toNat / n.toNat + (d.carried n).toNat < 1000000000 := by
  have hpos := toNat_pos hn
  rw [toNat_carried d hn]
  have hs := Nat.mod_lt d.seconds.toNat hpos
  have hd := d.nanos_lt
  have hsplit := Nat.div_add_mod d.nanos.toNat n.toNat
  have hle := Nat.div_mul_le_self
    (d.seconds.toNat % n.toNat * 1000000000 + d.nanos.toNat % n.toNat) n.toNat
  refine Nat.lt_of_mul_lt_mul_right (a := n.toNat) ?_
  rw [Nat.add_mul, Nat.mul_comm (d.nanos.toNat / n.toNat)]
  omega

/-- The `n`th part of a duration. -/
def divide (d : Duration) (n : UInt32) (hn : n ≠ 0) : Duration where
  seconds := d.seconds / n.toUInt64
  nanos := d.nanos / n + (d.carried n).toUInt32
  nanos_lt := by
    have h := divide_nanos_lt d hn
    simp only [UInt32.toNat_add, UInt32.toNat_div, UInt64.toNat_toUInt32]
    generalize d.nanos.toNat / n.toNat = q at *
    omega

/-- The microseconds that are over in a duration. -/
def toMicros (d : Duration) : Nat :=
  d.seconds.toNat * 1000000 + d.nanos.toNat / 1000

/-- The duration in seconds as a number with 53 significant bits. The seconds and the fraction of a
second are each rounded, and so is their sum. -/
def inSeconds (d : Duration) : Fraction :=
  ((Fraction.ofNat d.seconds.toNat).binary53.add
    (Fraction.mk d.nanos.toNat 1000000000).binary53).binary53

/-- The duration in seconds, to the nearest of six decimals. -/
def secondsText (d : Duration) : String :=
  let x := d.inSeconds
  let micros := roundDiv (x.num * 1000000) x.den
  Text.decimal (micros / 1000000) ++ "." ++
    String.ofList (Text.padded 10 6 (micros % 1000000))

end Duration

end KctlProbe
