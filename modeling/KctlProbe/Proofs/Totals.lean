import KctlProbe.Proofs.Rounding
import KctlProbe.Proofs.Text.Digits
import KctlProbe.Timing

/-!
# Totals

A report shows the total time in seconds with six decimals, after three roundings: the fraction of a
second is rounded to 53 significant bits, its sum with the seconds is rounded to as many, and what
this gives is rounded to whole microseconds (`Duration.Shows`). The number that is shown is read back
from the report by `Text.readMicros?`.

Below `2 ^ 33` seconds the sum is off by half of `2 ^ -20` seconds at most, which is 0.477
microseconds; with half a microsecond of the last rounding, and next to nothing of the first, this
makes up less than one microsecond (`roundings_error_lt`). So a total in whole microseconds is shown
as it is.
-/

namespace KctlProbe

/-! ## Six decimals -/

namespace Text

/-- A number of millionths, with six decimals. -/
def sixPlaces (micros : Nat) : String :=
  decimal (micros / 1000000) ++ "." ++ String.ofList (padded 10 6 (micros % 1000000))

/-- Reads the number in front of the first blank, which has six decimals, as a number of
millionths. -/
def readMicros? (text : String) : Option Nat :=
  let number := text.toList.takeWhile (· ≠ ' ')
  let whole := number.takeWhile (· ≠ '.')
  let places := number.drop (whole.length + 1)
  if whole ≠ [] ∧ places.length = 6 then readNumber? 10 (whole ++ places) else none

/-- What stands in front of a character is taken. -/
theorem takeWhile_ne_append_cons {c : Char} {front : List Char} (h : c ∉ front)
    (rest : List Char) : (front ++ c :: rest).takeWhile (· ≠ c) = front := by
  have hfront : ∀ a ∈ front, decide (a ≠ c) = true := fun a ha =>
    decide_eq_true fun hac => h (hac ▸ ha)
  rw [List.takeWhile_append_of_pos hfront, List.takeWhile_cons_of_neg (by simp), List.append_nil]

/-- The number is read from the digits on both sides of the point. -/
theorem readMicros?_of_toList {text : String} {whole places tail : List Char}
    (htext : text.toList = (whole ++ '.' :: places) ++ ' ' :: tail) (hne : whole ≠ [])
    (hpoint : '.' ∉ whole) (hwhole : ' ' ∉ whole) (hplaces : ' ' ∉ places)
    (hlength : places.length = 6) : readMicros? text = readNumber? 10 (whole ++ places) := by
  have hblank : ' ' ∉ whole ++ '.' :: places := by simp [hwhole, hplaces]
  have hdrop : (whole ++ '.' :: places).drop (whole.length + 1) = places := by simp
  rw [readMicros?, htext, takeWhile_ne_append_cons hblank, takeWhile_ne_append_cons hpoint, hdrop,
    if_pos ⟨hne, hlength⟩]

/-- **A number with six decimals is read back** in front of a blank. -/
theorem readMicros?_sixPlaces (micros : Nat) {rest : String} {tail : List Char}
    (hrest : rest.toList = ' ' :: tail) : readMicros? (sixPlaces micros ++ rest) = some micros := by
  obtain ⟨ds, hds, hdlt, hdval, hdne, -⟩ := exists_digits (by decide : 1 < 10) (micros / 1000000)
  obtain ⟨es, hes, helt, heval, -, helen⟩ :=
    exists_padded (by decide : 1 < 10) 6 (micros % 1000000)
  have hlength : es.length = 6 := helen (by decide) (Nat.mod_lt _ (by decide))
  have htext : (sixPlaces micros ++ rest).toList =
      (ds.map Nat.digitChar ++ '.' :: es.map Nat.digitChar) ++ ' ' :: tail := by
    simp [sixPlaces, decimal, hds, hes, hrest]
  have hdigits : ∀ d ∈ ds ++ es, d < 10 := fun d hd =>
    (List.mem_append.1 hd).elim (hdlt d) (helt d)
  have hpoint := notMem_map_digitChar (c := '.') (by decide) (by decide) hdlt
  have hwhole := notMem_map_digitChar (c := ' ') (by decide) (by decide) hdlt
  have hplaces := notMem_map_digitChar (c := ' ') (by decide) (by decide) helt
  rw [readMicros?_of_toList htext (by simpa using hdne) hpoint hwhole hplaces
      (by rw [List.length_map, hlength]), ← List.map_append,
    readNumber?_map_digitChar (by decide) (by simp [hdne]) hdigits, value_append, hdval, heval,
    hlength]
  exact congrArg some (Nat.div_add_mod' micros 1000000)

end Text

/-! ## Three roundings -/

section
variable {seconds nanos micros : ℕ} {q y : ℚ}

/-- A bound on a distance among the rationals is one among the whole numbers. -/
theorem abs_sub_lt_of_cast {a b c : ℤ} (h : |(a : ℚ) - b| < c) : |a - b| < c := by
  -- For variables only: the cast of a product by `10 ^ 9` is more than the kernel can unfold.
  exact_mod_cast h

/-- The fraction of a second is off by half of `2 ^ -53` at most. -/
theorem fraction_error_le (hnanos : nanos < 1000000000) (hq : RoundsTo 53 (nanos / 10 ^ 9) q) :
    |q - nanos / 10 ^ 9| ≤ 1 / 2 * 2 ^ (-53 : ℤ) := by
  have hle : (nanos : ℚ) ≤ 1000000000 := by exact_mod_cast hnanos.le
  exact hq.error_le (by decide) (by positivity) (by norm_num; linarith)

/-- The fraction of a second stays one. -/
theorem fraction_le_one (hnanos : nanos < 1000000000) (hq : RoundsTo 53 (nanos / 10 ^ 9) q) :
    q ≤ 1 := by
  have hle : (nanos : ℚ) ≤ 999999999 := by exact_mod_cast (by omega : nanos ≤ 999999999)
  have herror := (abs_le.1 (fraction_error_le hnanos hq)).2
  norm_num at herror
  linarith

/-- Below `2 ^ 33` seconds, the sum is off by half of `2 ^ -20` at most. -/
theorem sum_error_le (hnanos : nanos < 1000000000) (hseconds : seconds < 2 ^ 33)
    (hq : RoundsTo 53 (nanos / 10 ^ 9) q) (hy : RoundsTo 53 (seconds + q) y) :
    |y - (seconds + q)| ≤ 1 / 2 * 2 ^ (-20 : ℤ) := by
  have hq0 := hq.significant.nonneg
  have hq1 := fraction_le_one hnanos hq
  have hle : (seconds : ℚ) + 1 ≤ 2 ^ 33 := by exact_mod_cast hseconds
  exact hy.error_le (by decide) (by positivity) (by norm_num; linarith)

/-- The three roundings together are off by less than a microsecond. -/
theorem roundings_error_lt (hnanos : nanos < 1000000000) (hseconds : seconds < 2 ^ 33)
    (hq : RoundsTo 53 (nanos / 10 ^ 9) q) (hy : RoundsTo 53 (seconds + q) y)
    (hmicros : NearestEven (y * 10 ^ 6) micros) :
    |1000 * (micros : ℤ) - (seconds * 10 ^ 9 + nanos)| < 1000 := by
  have hfraction := abs_le.1 (fraction_error_le hnanos hq)
  have hsum := abs_le.1 (sum_error_le hnanos hseconds hq hy)
  have hnear := abs_le.1 hmicros.near
  norm_num at hfraction hsum hnear
  apply abs_sub_lt_of_cast
  push_cast
  rw [abs_lt]
  constructor <;> linarith

end

/-! ## What is shown of a duration -/

namespace Duration

/-- The number of microseconds that is shown of a duration. -/
def shownMicros (d : Duration) : Nat :=
  roundDiv (d.inSeconds.num * 1000000) d.inSeconds.den

/-- `micros` comes from three roundings: the fraction of a second is rounded to 53 significant bits,
its sum with the seconds is rounded to as many, and that is rounded to whole microseconds. -/
def Shows (d : Duration) (micros : ℕ) : Prop :=
  ∃ q y : ℚ, RoundsTo 53 (d.nanos.toNat / 10 ^ 9) q ∧ RoundsTo 53 (d.seconds.toNat + q) y ∧
    NearestEven (y * 10 ^ 6) micros

section
variable {d : Duration} {micros : ℕ}

/-- The three roundings have one result. -/
theorem Shows.unique {m n : ℕ} (hm : d.Shows m) (hn : d.Shows n) : m = n := by
  obtain ⟨q, y, hq, hy, hm⟩ := hm
  obtain ⟨q', y', hq', hy', hn⟩ := hn
  obtain rfl := hq.unique (by decide) hq'
  obtain rfl := hy.unique (by decide) hy'
  exact hm.unique hn

/-- What is shown comes from the three roundings if the seconds need no rounding of their own. -/
theorem shows_shownMicros (h : d.seconds.toNat ≤ 2 ^ 53) : d.Shows d.shownMicros := by
  refine ⟨(Fraction.mk d.nanos.toNat 1000000000).binary53.value, d.inSeconds.value, ?_, ?_, ?_⟩
  · have hvalue : (Fraction.mk d.nanos.toNat 1000000000).value = d.nanos.toNat / 10 ^ 9 := by
      norm_num [Fraction.value]
    rw [← hvalue]
    exact Fraction.roundsTo_binary53 (Nat.succ_ne_zero _)
  · have hsum := Fraction.value_add (x := (Fraction.ofNat d.seconds.toNat).binary53)
      (y := (Fraction.mk d.nanos.toNat 1000000000).binary53) Fraction.den_binary53_ne_zero
      Fraction.den_binary53_ne_zero
    rw [Fraction.value_binary53_ofNat h] at hsum
    rw [← hsum]
    exact Fraction.roundsTo_binary53
      (Nat.mul_ne_zero Fraction.den_binary53_ne_zero Fraction.den_binary53_ne_zero)
  · have hvalue : ((d.inSeconds.num * 1000000 : ℕ) : ℚ) / d.inSeconds.den =
        d.inSeconds.value * 10 ^ 6 := by
      rw [Fraction.value]
      push_cast
      ring
    rw [← hvalue]
    exact nearestEven_roundDiv _ (Nat.pos_of_ne_zero Fraction.den_binary53_ne_zero)

/-- **What is shown is off by less than a microsecond.** -/
theorem Shows.error_lt (h : d.Shows micros) (hd : d.seconds.toNat < 2 ^ 33) :
    |1000 * (micros : ℤ) - (d.seconds.toNat * 10 ^ 9 + d.nanos.toNat)| < 1000 := by
  obtain ⟨q, y, hq, hy, hmicros⟩ := h
  exact roundings_error_lt d.nanos_lt hd hq hy hmicros

/-- A duration in whole microseconds is shown as it is. -/
theorem Shows.eq_of_dvd (h : d.Shows micros) (hd : d.seconds.toNat < 2 ^ 33)
    (hdvd : 1000 ∣ d.nanos.toNat) :
    micros = d.seconds.toNat * 1000000 + d.nanos.toNat / 1000 := by
  have herror := h.error_lt hd
  obtain ⟨k, hk⟩ := hdvd
  rw [hk, abs_lt] at herror
  rw [hk, Nat.mul_div_cancel_left k (by decide)]
  push_cast at herror
  omega

end

end Duration

namespace TimingReport

/-- A report is a number with six decimals and what follows it. -/
theorem text_eq (r : TimingReport) :
    r.text = Text.sixPlaces r.total.shownMicros ++ r.measureText := rfl

/-- What follows the number starts with a blank. -/
theorem toList_measureText (r : TimingReport) :
    r.measureText.toList = ' ' ::
      ("seconds, average over " ++ Text.decimal r.iterations.toNat ++ " iterations").toList := by
  unfold measureText
  simp

/-- **The printed total is correct to the microsecond.** Below `2 ^ 33` seconds, the number of
microseconds in a report is the one that the three roundings give. It differs from the total by less
than a microsecond, and a total in whole microseconds is printed as it is: its seconds, a point and
its microseconds in six places. -/
theorem total_to_the_microsecond (r : TimingReport) (h : r.total.seconds.toNat < 2 ^ 33) :
    ∃ micros : ℕ, Text.readMicros? r.text = some micros ∧
      (∀ n, r.total.Shows n ↔ n = micros) ∧
      |1000 * (micros : ℤ) - (r.total.seconds.toNat * 10 ^ 9 + r.total.nanos.toNat)| < 1000 ∧
      (1000 ∣ r.total.nanos.toNat →
        r.text = Text.decimal r.total.seconds.toNat ++ "." ++
          String.ofList (Text.padded 10 6 (r.total.nanos.toNat / 1000)) ++ r.measureText) := by
  have hshows : r.total.Shows r.total.shownMicros :=
    Duration.shows_shownMicros (h.le.trans (by decide))
  have hnanos := r.total.nanos_lt
  refine ⟨r.total.shownMicros, ?_, fun n => ⟨fun hn => hn.unique hshows, ?_⟩, hshows.error_lt h,
    fun hdvd => ?_⟩
  · rw [text_eq]
    exact Text.readMicros?_sixPlaces _ r.toList_measureText
  · rintro rfl
    exact hshows
  · have hmicros := hshows.eq_of_dvd h hdvd
    have hwhole : r.total.shownMicros / 1000000 = r.total.seconds.toNat := by omega
    have hplaces : r.total.shownMicros % 1000000 = r.total.nanos.toNat / 1000 := by omega
    rw [text_eq, Text.sixPlaces, hwhole, hplaces]

/-- The last total in whole microseconds that the bound admits. -/
theorem total_to_the_microsecond_last :
    let r : TimingReport :=
      { iterations := 7, total := ⟨8589934591, 999999000, by decide⟩, failures := 0 }
    r.total.seconds.toNat < 2 ^ 33 ∧ 1000 ∣ r.total.nanos.toNat ∧
      Text.readMicros? r.text = some 8589934591999999 ∧
      r.text = "8589934591.999999 seconds, average over 7 iterations" := by
  intro r
  have hbound : r.total.seconds.toNat < 2 ^ 33 := by decide
  have hwhole : 1000 ∣ r.total.nanos.toNat := by decide
  obtain ⟨micros, hread, -, herror, htext⟩ := total_to_the_microsecond r hbound
  have hmicros : micros = 8589934591999999 := by
    have hseconds : r.total.seconds.toNat = 8589934591 := by decide
    have hnanos : r.total.nanos.toNat = 999999000 := by decide
    rw [hseconds, hnanos, abs_lt] at herror
    omega
  exact ⟨hbound, hwhole, hmicros ▸ hread, (htext hwhole).trans (by decide)⟩

/-- From `2 ^ 33` seconds on the doubles are too far apart: one microsecond is shown as two. -/
example :
    (Duration.mk 8589934592 1000 (by decide)).secondsText = "8589934592.000002" := by
  decide

end TimingReport

end KctlProbe
