import KctlProbe.Rounding
import Mathlib.Algebra.Order.Field.Power
import Mathlib.Algebra.Order.Floor.Semiring
import Mathlib.Data.Rat.Floor
import Mathlib.Tactic.FieldSimp
import Mathlib.Tactic.Linarith
import Mathlib.Tactic.Positivity

/-!
# What is rounded to what

Rounding is described by what comes out, whatever the way to it is: the nearest whole number
(`NearestEven`), or the nearest of the numbers with so many significant bits (`RoundsTo`); in both
cases the even one if there are two. One number at most fits each description
(`NearestEven.unique`, `RoundsTo.unique`), and the one that is computed does
(`nearestEven_roundDiv`, `Fraction.roundsTo_binary`). A quotient is scaled by a power of two until
its whole part has so many bits; no number with so many bits is then nearer than the nearest whole
number (`NearestEven.multiple_or_farther`).

How far a rounded number is off follows from its description alone (`RoundsTo.error_le`).
-/

namespace KctlProbe

/-- `n` is the whole number nearest to `x`, and the even one if there are two. -/
structure NearestEven (x : ℚ) (n : ℕ) : Prop where
  near : |(n : ℚ) - x| ≤ 1 / 2
  even : |(n : ℚ) - x| = 1 / 2 → Even n

/-- Numbers that are whole numbers of so many bits, multiplied or divided by a power of two. -/
def Significant (bits : ℕ) (y : ℚ) : Prop :=
  ∃ (m : ℕ) (e : ℤ), m < 2 ^ bits ∧ y = m * 2 ^ e

/-- `y` is the number with so many significant bits that is nearest to `x`, and the one whose last
bit is zero if there are two. -/
structure RoundsTo (bits : ℕ) (x y : ℚ) : Prop where
  significant : Significant bits y
  nearest : ∀ z, Significant bits z → |y - x| ≤ |z - x|
  even : ∀ z, Significant bits z → z ≠ y → |z - x| = |y - x| →
    ∃ (m : ℕ) (e : ℤ), m < 2 ^ bits ∧ Even m ∧ y = m * 2 ^ e

/-! ## Whole numbers -/

section
variable {x : ℚ} {m n : ℕ}

/-- The way from one whole number to another is no longer than the way by `x`. -/
theorem abs_natSub_le (m n : ℕ) (x : ℚ) : |(m : ℚ) - n| ≤ |(m : ℚ) - x| + |(n : ℚ) - x| := by
  rw [abs_sub_comm (n : ℚ) x]
  exact abs_sub_le _ _ _

/-- Different whole numbers are not both nearer than a half. -/
theorem one_le_abs_add_abs (hne : m ≠ n) (x : ℚ) : 1 ≤ |(m : ℚ) - x| + |(n : ℚ) - x| := by
  have h : (1 : ℤ) ≤ |(m : ℤ) - n| := Int.one_le_abs (by omega)
  have hstep : (1 : ℚ) ≤ |(m : ℚ) - n| := by exact_mod_cast h
  exact hstep.trans (abs_natSub_le m n x)

namespace NearestEven

/-- No whole number is nearer. -/
theorem nearest (h : NearestEven x n) (m : ℕ) : |(n : ℚ) - x| ≤ |(m : ℚ) - x| := by
  by_cases hne : m = n
  · rw [hne]
  · linarith [h.near, one_le_abs_add_abs hne x]

/-- If another whole number is as near, the one that is chosen is even. -/
theorem even_of_tie (h : NearestEven x n) (hne : m ≠ n)
    (htie : |(m : ℚ) - x| = |(n : ℚ) - x|) : Even n :=
  h.even (by linarith [h.near, one_le_abs_add_abs hne x])

/-- There is one such number: two would be even and next to each other. -/
theorem unique (hm : NearestEven x m) (hn : NearestEven x n) : m = n := by
  by_contra hne
  have htie := le_antisymm (hm.nearest n) (hn.nearest m)
  obtain ⟨a, ha⟩ := hm.even_of_tie (Ne.symm hne) htie.symm
  obtain ⟨b, hb⟩ := hn.even_of_tie hne htie
  have hle : |(m : ℚ) - n| ≤ 1 := by linarith [hm.near, hn.near, abs_natSub_le m n x]
  have hle' : |(m : ℤ) - n| ≤ 1 := by exact_mod_cast hle
  rw [abs_le] at hle'
  omega

end NearestEven

/-- A whole number that is near is no greater than what is no less. -/
theorem le_of_near (hn : |(n : ℚ) - x| ≤ 1 / 2) (hx : x ≤ m) : n ≤ m := by
  have hlt : (n : ℚ) < (m + 1 : ℕ) := by
    push_cast
    linarith [(abs_le.1 hn).2]
  exact Nat.lt_succ_iff.1 (by exact_mod_cast hlt)

/-- Some whole number is near. -/
theorem exists_near (hx : 0 ≤ x) : ∃ n : ℕ, |(n : ℚ) - x| ≤ 1 / 2 := by
  refine ⟨⌊x + 1 / 2⌋₊, abs_le.2 ⟨?_, ?_⟩⟩
  · linarith [Nat.lt_floor_add_one (x + 1 / 2)]
  · linarith [Nat.floor_le (by linarith : 0 ≤ x + 1 / 2)]

end

/-- **The rounded quotient is the nearest whole number**, and the even one of two. -/
theorem nearestEven_roundDiv (num : ℕ) {den : ℕ} (hden : 0 < den) :
    NearestEven (num / den) (roundDiv num den) := by
  have hd : (0 : ℚ) < den := by exact_mod_cast hden
  have hsplit : (num : ℚ) / den = (num / den : ℕ) + (num % den : ℕ) / den := by
    have h : (num : ℚ) = den * (num / den : ℕ) + (num % den : ℕ) := by
      exact_mod_cast (Nat.div_add_mod num den).symm
    rw [div_eq_iff hd.ne', add_mul, div_mul_cancel₀ _ hd.ne', mul_comm _ (den : ℚ)]
    exact h
  have hr : ((num % den : ℕ) : ℚ) < den := by exact_mod_cast Nat.mod_lt num hden
  rw [hsplit, roundDiv]
  generalize num / den = q at *
  generalize num % den = r at *
  have hfraction : (0 : ℚ) ≤ r / den := by positivity
  split_ifs with hlow hhigh
  · have hlt : (r : ℚ) / den < 1 / 2 := by
      rw [div_lt_div_iff₀ hd two_pos]
      exact_mod_cast (by omega : r * 2 < 1 * den)
    have habs : |(q : ℚ) - (q + r / den)| < 1 / 2 := by
      rw [abs_lt]
      constructor <;> linarith
    exact ⟨habs.le, fun h => absurd h habs.ne⟩
  · have hlt : 1 / 2 < (r : ℚ) / den := by
      rw [div_lt_div_iff₀ two_pos hd]
      exact_mod_cast (by omega : 1 * den < r * 2)
    have hlt' : (r : ℚ) / den < 1 := (div_lt_one hd).2 hr
    have habs : |((q + 1 : ℕ) : ℚ) - (q + r / den)| < 1 / 2 := by
      push_cast
      rw [abs_lt]
      constructor <;> linarith
    exact ⟨habs.le, fun h => absurd h habs.ne⟩
  · have heq : (r : ℚ) / den = 1 / 2 := by
      rw [div_eq_div_iff hd.ne' two_ne_zero]
      exact_mod_cast (by omega : r * 2 = 1 * den)
    rw [heq]
    refine ⟨?_, fun _ => ?_⟩
    · rcases Nat.mod_two_eq_zero_or_one q with h | h
      · rw [h, abs_le]
        constructor <;> push_cast <;> linarith
      · rw [h, abs_le]
        constructor <;> push_cast <;> linarith
    · rw [Nat.even_iff]
      omega

/-! ## Significant bits -/

section
variable {bits : ℕ} {e f : ℤ}

/-- A multiple of a power of two is one of a lesser power. -/
theorem exists_rescaled (h : e ≤ f) (n : ℕ) :
    ∃ k : ℕ, (n : ℚ) * 2 ^ f = k * 2 ^ e ∧ (Even n → Even k) := by
  obtain ⟨d, rfl⟩ := Int.le.dest h
  refine ⟨n * 2 ^ d, ?_, fun hn => hn.mul_right _⟩
  rw [zpow_add₀ two_ne_zero, zpow_natCast]
  push_cast
  ring

/-- The least number with one bit too many needs one bit only, or two with the last one zero. -/
theorem exists_significand (hbits : 1 < bits) {m : ℕ} (hm : m ≤ 2 ^ bits) (e : ℤ) :
    ∃ (k : ℕ) (f : ℤ), k < 2 ^ bits ∧ (Even m → Even k) ∧ (m : ℚ) * 2 ^ e = k * 2 ^ f := by
  rcases hm.lt_or_eq with hlt | rfl
  · exact ⟨m, e, hlt, id, rfl⟩
  · obtain ⟨b, rfl⟩ := Nat.exists_eq_add_one_of_ne_zero (by omega : bits ≠ 0)
    refine ⟨2, e + b, ?_, fun _ => even_two, ?_⟩
    · calc 2 = 2 ^ 1 := rfl
        _ < 2 ^ (b + 1) := Nat.pow_lt_pow_right (by omega) hbits
    · rw [zpow_add₀ two_ne_zero, zpow_natCast]
      push_cast
      ring

/-- A number of at most so many bits is significant at every scale, and so is the next one. -/
theorem significant_of_le (hbits : 1 < bits) {m : ℕ} (hm : m ≤ 2 ^ bits) (e : ℤ) :
    Significant bits (m * 2 ^ e) := by
  obtain ⟨k, f, hk, -, heq⟩ := exists_significand hbits hm e
  exact ⟨k, f, hk, heq⟩

/-- Significant numbers are not negative. -/
theorem Significant.nonneg {z : ℚ} (hz : Significant bits z) : 0 ≤ z := by
  obtain ⟨m, e, -, rfl⟩ := hz
  positivity

/-- A number with so many bits is a multiple of a power of two, or less than the least multiple that
needs all bits. -/
theorem Significant.multiple_or_lt (hbits : 1 < bits) {z : ℚ} (hz : Significant bits z) (t : ℤ) :
    (∃ k : ℕ, z = k * 2 ^ t) ∨ z < 2 ^ (bits - 1) * 2 ^ t := by
  obtain ⟨n, e, hn, rfl⟩ := hz
  rcases le_or_gt t e with hle | hlt
  · obtain ⟨k, hk, -⟩ := exists_rescaled hle n
    exact .inl ⟨k, hk⟩
  · right
    obtain ⟨b, rfl⟩ := Nat.exists_eq_add_one_of_ne_zero (by omega : bits ≠ 0)
    have hn' : (n : ℚ) < 2 ^ (b + 1) := by exact_mod_cast hn
    calc (n : ℚ) * 2 ^ e < 2 ^ (b + 1) * 2 ^ e := by gcongr
      _ ≤ 2 ^ (b + 1) * 2 ^ (t - 1) := by
        gcongr
        · exact one_le_two
        · omega
      _ = 2 ^ (b + 1 - 1) * 2 ^ t := by
        rw [zpow_sub_one₀ two_ne_zero, pow_succ, Nat.add_sub_cancel]
        ring

end

/-! ## Rounding to significant bits -/

section
variable {bits : ℕ} {x y z : ℚ}

/-- Distances are scaled with the numbers. -/
theorem abs_scaled (a s : ℚ) (t : ℤ) : |a * 2 ^ t - s * 2 ^ t| = |a - s| * 2 ^ t := by
  rw [← sub_mul, abs_mul, abs_of_pos (zpow_pos two_pos t : (0 : ℚ) < 2 ^ t)]

/-- Between even multiples of a power of two there is the multiple next to the lesser of them. -/
theorem next_between {a b : ℕ} (ha : Even a) (hb : Even b) {g : ℤ}
    (hlt : (a : ℚ) * 2 ^ g < b * 2 ^ g) :
    a + 1 < b ∧ (a : ℚ) * 2 ^ g < (a + 1 : ℕ) * 2 ^ g ∧
      ((a + 1 : ℕ) : ℚ) * 2 ^ g < b * 2 ^ g := by
  have hg : (0 : ℚ) < 2 ^ g := zpow_pos two_pos g
  have hab : a < b := by exact_mod_cast lt_of_mul_lt_mul_right hlt hg.le
  have hroom : a + 1 < b := by
    obtain ⟨c, rfl⟩ := ha
    obtain ⟨d, rfl⟩ := hb
    omega
  exact ⟨hroom, mul_lt_mul_of_pos_right (by exact_mod_cast Nat.lt_succ_self a) hg,
    mul_lt_mul_of_pos_right (by exact_mod_cast hroom) hg⟩

/-- Between two numbers whose last bits are zero there is another one. -/
theorem exists_significant_between (hbits : 1 < bits) {m n : ℕ} {e f : ℤ} (hm : m < 2 ^ bits)
    (hmeven : Even m) (hn : n < 2 ^ bits) (hneven : Even n) (hlt : (m : ℚ) * 2 ^ e < n * 2 ^ f) :
    ∃ w, Significant bits w ∧ m * 2 ^ e < w ∧ w < n * 2 ^ f := by
  -- Both are even multiples of the lesser of their powers.
  rcases le_total e f with hle | hle
  · obtain ⟨k, hk, hkeven⟩ := exists_rescaled hle n
    rw [hk] at hlt ⊢
    obtain ⟨-, hlow, hhigh⟩ := next_between hmeven (hkeven hneven) hlt
    have hroom : m + 1 < 2 ^ bits := by
      obtain ⟨a, rfl⟩ := hmeven
      obtain ⟨b, hb⟩ := Nat.even_pow.2 ⟨even_two, (by omega : bits ≠ 0)⟩
      omega
    exact ⟨_, ⟨m + 1, e, hroom, rfl⟩, hlow, hhigh⟩
  · obtain ⟨k, hk, hkeven⟩ := exists_rescaled hle m
    rw [hk] at hlt ⊢
    obtain ⟨hroom, hlow, hhigh⟩ := next_between (hkeven hmeven) hneven hlt
    exact ⟨_, ⟨k + 1, f, hroom.trans hn, rfl⟩, hlow, hhigh⟩

/-- A number with so many bits is a multiple of the power by which the whole number is scaled, or
farther away: then it is below the least multiple that needs all bits. -/
theorem NearestEven.multiple_or_farther (hbits : 1 < bits) {s : ℚ} {m : ℕ} (h : NearestEven s m)
    (hlow : 2 ^ (bits - 1) ≤ s) (t : ℤ) (hz : Significant bits z) :
    (∃ k : ℕ, z = k * 2 ^ t) ∨ |m * 2 ^ t - s * 2 ^ t| < |z - s * 2 ^ t| := by
  have hpos : (0 : ℚ) < 2 ^ t := zpow_pos two_pos t
  refine (hz.multiple_or_lt hbits t).imp_right fun hlt => ?_
  have hleast := h.nearest (2 ^ (bits - 1))
  push_cast at hleast
  calc |m * 2 ^ t - s * 2 ^ t| = |m - s| * 2 ^ t := abs_scaled _ _ _
    _ ≤ |2 ^ (bits - 1) - s| * 2 ^ t := mul_le_mul_of_nonneg_right hleast hpos.le
    _ = s * 2 ^ t - 2 ^ (bits - 1) * 2 ^ t := by
      rw [abs_of_nonpos (by linarith)]
      ring
    _ < s * 2 ^ t - z := by linarith
    _ ≤ |z - s * 2 ^ t| := by
      rw [abs_sub_comm]
      exact le_abs_self _

namespace RoundsTo

/-- A number that has no more bits is left as it is. -/
theorem of_significant (h : Significant bits x) : RoundsTo bits x x where
  significant := h
  nearest z _ := by simp
  even z _ hne htie := by
    rw [sub_self, abs_zero, abs_eq_zero, sub_eq_zero] at htie
    exact absurd htie hne

/-- Numbers that are equally near on both sides are not nearest if there is one between them. -/
theorem not_between (hy : RoundsTo bits x y) (htie : |z - x| = |y - x|) {w : ℚ}
    (hw : Significant bits w) (hyw : y < w) (hwz : w < z) : False := by
  have hnear := hy.nearest w hw
  rcases abs_eq_abs.1 htie with h | h
  · linarith
  · rw [abs_of_nonpos (by linarith : y - x ≤ 0)] at hnear
    rcases le_abs.1 hnear with h' | h' <;> linarith

/-- There is one such number: between two there would be a nearer one. -/
theorem unique (hbits : 1 < bits) (hy : RoundsTo bits x y) (hz : RoundsTo bits x z) : y = z := by
  by_contra hne
  have htie := le_antisymm (hz.nearest y hy.significant) (hy.nearest z hz.significant)
  obtain ⟨m, e, hm, hmeven, hmy⟩ := hy.even z hz.significant (Ne.symm hne) htie
  obtain ⟨n, f, hn, hneven, hnz⟩ := hz.even y hy.significant hne htie.symm
  rcases lt_or_gt_of_ne hne with hlt | hlt
  · rw [hmy, hnz] at hlt
    obtain ⟨w, hw, hlow, hhigh⟩ := exists_significant_between hbits hm hmeven hn hneven hlt
    exact hy.not_between htie hw (hmy ▸ hlow) (hnz ▸ hhigh)
  · rw [hmy, hnz] at hlt
    obtain ⟨w, hw, hlow, hhigh⟩ := exists_significant_between hbits hn hneven hm hmeven hlt
    exact hz.not_between htie.symm hw (hnz ▸ hlow) (hmy ▸ hhigh)

/-- A number whose whole part has so many bits is rounded by rounding it to a whole number. -/
theorem of_nearestEven (hbits : 1 < bits) {s : ℚ} {m : ℕ} (hlow : 2 ^ (bits - 1) ≤ s)
    (hhigh : s < 2 ^ bits) (h : NearestEven s m) (t : ℤ) :
    RoundsTo bits (s * 2 ^ t) (m * 2 ^ t) := by
  have hpos : (0 : ℚ) < 2 ^ t := zpow_pos two_pos t
  have hm : m ≤ 2 ^ bits := le_of_near h.near (by exact_mod_cast hhigh.le)
  refine ⟨significant_of_le hbits hm t, fun z hz => ?_, fun z hz hne htie => ?_⟩
  · rcases h.multiple_or_farther hbits hlow t hz with ⟨k, rfl⟩ | hlt
    · rw [abs_scaled, abs_scaled]
      exact mul_le_mul_of_nonneg_right (h.nearest k) hpos.le
    · exact hlt.le
  · rcases h.multiple_or_farther hbits hlow t hz with ⟨k, rfl⟩ | hlt
    · rw [abs_scaled, abs_scaled] at htie
      have heven := h.even_of_tie (fun hkm => hne (by rw [hkm])) (mul_right_cancel₀ hpos.ne' htie)
      obtain ⟨j, f, hj, hjeven, heq⟩ := exists_significand hbits hm t
      exact ⟨j, f, hj, hjeven heven, heq⟩
    · exact absurd htie hlt.ne'

/-- A number is off by no more than half a unit of its last bit. -/
theorem error_le (hbits : 1 < bits) (h : RoundsTo bits x y) (hx : 0 ≤ x) {e : ℤ}
    (hle : x ≤ 2 ^ bits * 2 ^ e) : |y - x| ≤ 1 / 2 * 2 ^ e := by
  have hpos : (0 : ℚ) < 2 ^ e := zpow_pos two_pos e
  have hscaled : x / 2 ^ e * 2 ^ e = x := div_mul_cancel₀ x hpos.ne'
  obtain ⟨n, hn⟩ := exists_near (div_nonneg hx hpos.le)
  have hbound : n ≤ 2 ^ bits := le_of_near hn (by exact_mod_cast (div_le_iff₀ hpos).2 hle)
  calc |y - x| ≤ |n * 2 ^ e - x| := h.nearest _ (significant_of_le hbits hbound e)
    _ = |n - x / 2 ^ e| * 2 ^ e := by rw [← abs_scaled, hscaled]
    _ ≤ 1 / 2 * 2 ^ e := mul_le_mul_of_nonneg_right hn hpos.le

end RoundsTo

end

/-! ## Computed roundings -/

namespace Fraction

/-- The number that a quotient stands for. -/
def value (x : Fraction) : ℚ := x.num / x.den

@[simp] theorem value_ofNat (n : ℕ) : (ofNat n).value = n := by simp [value, ofNat]

/-- The sum of fractions has the sum of their values. -/
theorem value_add {x y : Fraction} (hx : x.den ≠ 0) (hy : y.den ≠ 0) :
    (x.add y).value = x.value + y.value := by
  simp only [value, add]
  push_cast
  field_simp

section
variable {bits : ℕ}

/-- The scaled quotient has a whole part of so many bits. -/
theorem scaled_bounds (hbits : 0 < bits) {num den : ℕ} (hnum : 0 < num) (hden : 0 < den)
    {up excess : ℕ} (hup : up = den.log2 + bits)
    (hexcess : excess = ((num <<< up) / den).log2 - (bits - 1)) :
    2 ^ (bits - 1) * den * 2 ^ excess ≤ num * 2 ^ up ∧
      num * 2 ^ up < 2 ^ bits * den * 2 ^ excess := by
  rw [Nat.shiftLeft_eq] at hexcess
  -- The quotient is scaled up far enough for its whole part to have all bits.
  have hfull : 2 ^ (bits - 1) ≤ num * 2 ^ up / den := by
    rw [Nat.le_div_iff_mul_le hden]
    calc 2 ^ (bits - 1) * den ≤ 2 ^ (bits - 1) * 2 ^ (den.log2 + 1) :=
          Nat.mul_le_mul_left _ Nat.lt_log2_self.le
      _ = 1 * 2 ^ up := by
        rw [← Nat.pow_add, hup, Nat.one_mul]
        congr 1
        omega
      _ ≤ num * 2 ^ up := Nat.mul_le_mul_right _ hnum
  have hne : num * 2 ^ up / den ≠ 0 := (Nat.lt_of_lt_of_le (Nat.two_pow_pos _) hfull).ne'
  have hlog : bits - 1 + excess = (num * 2 ^ up / den).log2 := by
    have := (Nat.le_log2 hne).2 hfull
    omega
  have hlow := Nat.log2_self_le hne
  have hhigh : num * 2 ^ up / den < 2 ^ ((num * 2 ^ up / den).log2 + 1) := Nat.lt_log2_self
  rw [← hlog] at hlow hhigh
  rw [Nat.le_div_iff_mul_le hden] at hlow
  rw [Nat.div_lt_iff_lt_mul hden] at hhigh
  constructor
  · calc 2 ^ (bits - 1) * den * 2 ^ excess = 2 ^ (bits - 1 + excess) * den := by ring
      _ ≤ num * 2 ^ up := hlow
  · calc num * 2 ^ up < 2 ^ (bits - 1 + excess + 1) * den := hhigh
      _ = 2 ^ (bits + excess) * den := by
        congr 2
        omega
      _ = 2 ^ bits * den * 2 ^ excess := by ring

/-- A number that is not zero is a quotient with a whole part of so many bits, scaled by a power of
two, and what it is rounded to is the rounded quotient, scaled by the same power. -/
theorem exists_scaled (hbits : 0 < bits) {x : Fraction} (hnum : x.num ≠ 0) (hden : x.den ≠ 0) :
    ∃ (p q : ℕ) (t : ℤ), 0 < q ∧ 2 ^ (bits - 1) * q ≤ p ∧ p < 2 ^ bits * q ∧
      x.value = p / q * 2 ^ t ∧ (x.binary bits).value = roundDiv p q * 2 ^ t := by
  obtain ⟨num, den⟩ := x
  rw [binary, if_neg hnum]
  dsimp only at hnum hden ⊢
  generalize hup : den.log2 + bits = up
  generalize hexcess : ((num <<< up) / den).log2 - (bits - 1) = excess
  obtain ⟨hlow, hhigh⟩ := scaled_bounds hbits (Nat.pos_of_ne_zero hnum)
    (Nat.pos_of_ne_zero hden) hup.symm hexcess.symm
  have hdenQ : (den : ℚ) ≠ 0 := by exact_mod_cast hden
  split_ifs with hle
  · obtain ⟨d, rfl⟩ := Nat.exists_eq_add_of_le hle
    rw [Nat.add_sub_cancel_left, Nat.shiftLeft_eq, Nat.one_shiftLeft]
    have hsplit : num * 2 ^ (excess + d) = num * 2 ^ d * 2 ^ excess := by ring
    rw [hsplit] at hlow hhigh
    refine ⟨num * 2 ^ d, den, -d, Nat.pos_of_ne_zero hden,
      Nat.le_of_mul_le_mul_right hlow (Nat.two_pow_pos _),
      Nat.lt_of_mul_lt_mul_right hhigh, ?_, ?_⟩
    · rw [value, zpow_neg, zpow_natCast]
      push_cast
      field_simp
    · rw [value, zpow_neg, zpow_natCast]
      push_cast
      field_simp
  · obtain ⟨d, rfl⟩ := Nat.exists_eq_add_of_le (Nat.le_of_not_le hle)
    rw [Nat.add_sub_cancel_left, Nat.shiftLeft_eq, Nat.shiftLeft_eq]
    have hsplit (b : ℕ) : b * den * 2 ^ (up + d) = b * (den * 2 ^ d) * 2 ^ up := by ring
    rw [hsplit] at hlow hhigh
    refine ⟨num, den * 2 ^ d, d, Nat.mul_pos (Nat.pos_of_ne_zero hden) (Nat.two_pow_pos _),
      Nat.le_of_mul_le_mul_right hlow (Nat.two_pow_pos _),
      Nat.lt_of_mul_lt_mul_right hhigh, ?_, ?_⟩
    · rw [value, zpow_natCast]
      push_cast
      field_simp
    · rw [value_ofNat, zpow_natCast]
      push_cast
      rfl

/-- What is rounded is no quotient by zero. -/
theorem den_binary_ne_zero {x : Fraction} : (x.binary bits).den ≠ 0 := by
  unfold binary
  dsimp only
  split_ifs
  · exact one_ne_zero
  · rw [Nat.one_shiftLeft]
    exact (Nat.two_pow_pos _).ne'
  · exact one_ne_zero

/-- **The computed number is the nearest one** of so many significant bits, and the even one of
two. -/
theorem roundsTo_binary (hbits : 1 < bits) {x : Fraction} (hden : x.den ≠ 0) :
    RoundsTo bits x.value (x.binary bits).value := by
  by_cases hnum : x.num = 0
  · have hzero : x.value = 0 := by rw [value, hnum, Nat.cast_zero, zero_div]
    rw [binary, if_pos hnum, value_ofNat, hzero, Nat.cast_zero]
    exact RoundsTo.of_significant ⟨0, 0, Nat.two_pow_pos _, by simp⟩
  · obtain ⟨p, q, t, hq, hlow, hhigh, hx, hbinary⟩ :=
      exists_scaled (Nat.lt_of_succ_lt hbits) hnum hden
    have hqQ : (0 : ℚ) < q := by exact_mod_cast hq
    rw [hx, hbinary]
    refine RoundsTo.of_nearestEven hbits ?_ ?_ (nearestEven_roundDiv p hq) t
    · rw [le_div_iff₀ hqQ]
      exact_mod_cast hlow
    · rw [div_lt_iff₀ hqQ]
      exact_mod_cast hhigh

/-- What is rounded to 53 bits has a denominator. -/
theorem den_binary53_ne_zero {x : Fraction} : x.binary53.den ≠ 0 := den_binary_ne_zero

/-- A fraction is rounded to 53 bits. -/
theorem roundsTo_binary53 {x : Fraction} (hden : x.den ≠ 0) :
    RoundsTo 53 x.value x.binary53.value :=
  roundsTo_binary (by decide) hden

/-- A whole number of so many bits is not rounded. -/
theorem value_binary53_ofNat {n : ℕ} (hn : n ≤ 2 ^ 53) : (ofNat n).binary53.value = n := by
  have hcomputed : RoundsTo 53 n (ofNat n).binary53.value := by
    have h := roundsTo_binary53 (x := ofNat n) one_ne_zero
    rwa [value_ofNat] at h
  have hexact : Significant 53 (n : ℚ) := by
    have h := significant_of_le (by decide) hn 0
    rwa [zpow_zero, mul_one] at h
  exact hcomputed.unique (by decide) (.of_significant hexact)

end

end Fraction

end KctlProbe
