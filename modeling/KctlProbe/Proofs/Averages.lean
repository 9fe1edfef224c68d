import KctlProbe.Timing
import Mathlib.Data.List.Basic
import Mathlib.Tactic.Common

/-!
# Averages

A duration is divided word by word: the seconds, then what they leave over together with the
nanoseconds. This is the division of the whole length with the remainder dropped
(`toNanos_divide`): the two remainders together make up the part of the nanoseconds that is carried
(`div_carry`), and no word overflows on the way (`DividesInWords`). A duration is determined by its
length (`toNanos_injective`), so the quotient is the only duration with the length of the quotient,
and an average in microseconds is one division of the total, whatever was rounded before.
-/

namespace KctlProbe

namespace Duration

@[simp] theorem toNanos_zero : zero.toNanos = 0 := rfl

/-- Durations of one length are the same. -/
theorem toNanos_injective : Function.Injective toNanos := by
  rintro ⟨s, a, ha⟩ ⟨t, b, hb⟩ h
  simp only [toNanos] at h
  obtain rfl : s = t := UInt64.toNat_inj.1 (by omega)
  obtain rfl : a = b := UInt32.toNat_inj.1 (by omega)
  rfl

/-- A sum `s * u + a` is divided by `n` part by part, with what the parts leave over carried. -/
theorem div_carry (s a u : Nat) {n : Nat} (hn : 0 < n) :
    s / n * u + (a / n + (s % n * u + a % n) / n) = (s * u + a) / n := by
  have hsplit : s * u + a = s % n * u + a % n + n * (s / n * u + a / n) := by
    conv_lhs => rw [← Nat.mod_add_div s n, ← Nat.mod_add_div a n]
    rw [Nat.add_mul, Nat.mul_add, Nat.mul_assoc]
    omega
  rw [hsplit, Nat.add_mul_div_left _ _ hn]
  omega

/-- The product and the sums of a division are those of the numbers that the words stand for: none
of them overflows its word, and the nanoseconds of the quotient are less than a second. -/
structure DividesInWords (d : Duration) (n : UInt32) : Prop where
  product : (d.seconds % n.toUInt64 * 1000000000).toNat = d.seconds.toNat % n.toNat * 1000000000
  sum : (d.seconds % n.toUInt64 * 1000000000 + (d.nanos % n).toUInt64).toNat =
    d.seconds.toNat % n.toNat * 1000000000 + d.nanos.toNat % n.toNat
  narrowed : (d.carried n).toUInt32.toNat = (d.carried n).toNat
  nanos : (d.nanos / n + (d.carried n).toUInt32).toNat =
    d.nanos.toNat / n.toNat + (d.carried n).toNat
  nanos_lt : d.nanos.toNat / n.toNat + (d.carried n).toNat < 1000000000

section
variable (d : Duration) {n : UInt32} (hn : n ≠ 0)
include hn

/-- No word overflows if something divides at all. -/
theorem dividesInWords : d.DividesInWords n := by
  have hs := Nat.mod_lt d.seconds.toNat (toNat_pos hn)
  have ha := Nat.mod_lt d.nanos.toNat (toNat_pos hn)
  have hlt := n.toNat_lt
  have hcarried := divide_nanos_lt d hn
  have hsmall := Nat.lt_of_le_of_lt (Nat.le_add_left _ _) hcarried
  have hnarrowed : (d.carried n).toUInt32.toNat = (d.carried n).toNat := by
    rw [UInt64.toNat_toUInt32, Nat.mod_eq_of_lt (by omega)]
  have hproduct : (d.seconds % n.toUInt64 * 1000000000).toNat =
      d.seconds.toNat % n.toNat * 1000000000 := by
    rw [UInt64.toNat_mul, UInt64.toNat_mod, UInt32.toNat_toUInt64]
    exact Nat.mod_eq_of_lt (by simp only [UInt64.reduceToNat]; omega)
  refine ⟨hproduct, ?_, hnarrowed, ?_, hcarried⟩
  · rw [UInt64.toNat_add, hproduct, UInt32.toNat_toUInt64, UInt32.toNat_mod,
      Nat.mod_eq_of_lt (by omega)]
  · rw [UInt32.toNat_add, UInt32.toNat_div, hnarrowed, Nat.mod_eq_of_lt (by omega)]

/-- **The division of a duration drops less than a nanosecond.** -/
theorem toNanos_divide : (d.divide n hn).toNanos = d.toNanos / n.toNat := by
  have hcarry := div_carry d.seconds.toNat d.nanos.toNat 1000000000 (toNat_pos hn)
  rw [← toNat_carried d hn] at hcarry
  rw [toNanos, divide, (d.dividesInWords hn).nanos, UInt64.toNat_div, UInt32.toNat_toUInt64, hcarry,
    toNanos]

end

/-- The microseconds of a duration are its length with the rest of the last one dropped. -/
theorem toMicros_eq (d : Duration) : d.toMicros = d.toNanos / 1000 := by
  rw [toMicros, toNanos]
  omega

end Duration

namespace TimingReport

section
variable {r : TimingReport}

/-- Without a run the average is zero. -/
theorem average_of_zero (h : r.iterations = 0) : r.average = .zero := by
  rw [average, dif_pos h]

/-- With runs the average is the total divided by their number. -/
theorem toNanos_average (h : r.iterations ≠ 0) :
    r.average.toNanos = r.total.toNanos / r.iterations.toNat := by
  rw [average, dif_neg h, Duration.toNanos_divide]

/-- The greatest word stands for what is too great for a word. -/
theorem toNat_averageMicros :
    r.averageMicros.toNat = min (r.average.toNanos / 1000) 18446744073709551615 := by
  rw [averageMicros, Duration.toMicros_eq, UInt64.toNat_ofNat', Nat.mod_eq_of_lt (by omega)]

end

/-- **Averages are exact and never fail.** Without a run both averages are zero. With runs the
average is the one duration whose length is that of the total, divided by the number of runs and
rounded down; the division stays within its words, and the microseconds are those of one division,
or the greatest word if there are more. So the runs together, each as long as the average, are no
longer than the total, and longer if each took a nanosecond more. -/
theorem average_is_floor (r : TimingReport) :
    (r.iterations = 0 → r.average = .zero ∧ r.averageMicros = 0) ∧
    (r.iterations ≠ 0 →
      (∀ d : Duration, r.average = d ↔ d.toNanos = r.total.toNanos / r.iterations.toNat) ∧
      r.total.DividesInWords r.iterations ∧
      r.averageMicros.toNat =
        min (r.total.toNanos / (1000 * r.iterations.toNat)) 18446744073709551615 ∧
      r.iterations.toNat * r.average.toNanos ≤ r.total.toNanos ∧
      r.total.toNanos < r.iterations.toNat * (r.average.toNanos + 1)) ∧
    r.average.toNanos ≤ r.total.toNanos := by
  refine ⟨fun h => ?_, fun h => ⟨fun d => ?_, r.total.dividesInWords h, ?_, ?_, ?_⟩, ?_⟩
  · have hmicros : r.averageMicros.toNat = 0 := by
      rw [toNat_averageMicros, average_of_zero h, Duration.toNanos_zero, Nat.zero_div,
        Nat.zero_min]
    exact ⟨average_of_zero h, UInt64.toNat_inj.1 hmicros⟩
  · rw [← Duration.toNanos_injective.eq_iff, toNanos_average h]
    exact eq_comm
  · rw [toNat_averageMicros, toNanos_average h, Nat.div_div_eq_div_mul, Nat.mul_comm]
  · rw [toNanos_average h]
    exact Nat.mul_div_le _ _
  · rw [toNanos_average h]
    exact Nat.lt_mul_div_succ _ (Duration.toNat_pos h)
  · by_cases h : r.iterations = 0
    · rw [average_of_zero h, Duration.toNanos_zero]
      exact Nat.zero_le _
    · rw [toNanos_average h]
      exact Nat.div_le_self _ _

/-- The longest total, divided by seven: both parts leave something over, and the microseconds do
not fit a word. -/
theorem average_is_floor_longest :
    let r : TimingReport :=
      { iterations := 7, total := ⟨18446744073709551615, 999999999, by decide⟩, failures := 0 }
    r.iterations ≠ 0 ∧ r.average = ⟨2635249153387078802, 285714285, by decide⟩ ∧
      r.averageMicros = 18446744073709551615 ∧
      (TimingReport.mk 0 r.total 0).average = .zero := by
  intro r
  obtain ⟨-, hruns, -⟩ := average_is_floor r
  obtain ⟨hzero, -⟩ := average_is_floor (TimingReport.mk 0 r.total 0)
  have hne : r.iterations ≠ 0 := by decide
  obtain ⟨hunique, -, hmicros, -⟩ := hruns hne
  exact ⟨hne, (hunique _).2 (by decide), UInt64.toNat_inj.1 (hmicros.trans (by decide)),
    (hzero rfl).1⟩

end TimingReport

end KctlProbe
