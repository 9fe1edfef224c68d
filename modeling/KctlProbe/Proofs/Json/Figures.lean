import KctlProbe.Proofs.Json.Tokens

/-!
# Numbers are read as they are spelled

The digits of a number end where a byte follows that is no digit (`EndsDigits`), and the number
where a byte follows that ends a value. In front of such a rest, `numeral` takes a spelled number
apart into the digits that it is spelled with (`numeral_figure`), unless its exponent exceeds the
limit, and `skipNumeral` passes over it (`skipNumeral_figure`). A number is taken as an integer
exactly if it denotes one within 64 bits (`number_eq_integer_iff`), and such a number is read as that
integer (`number_figure`).
-/

namespace KctlProbe.Json

/-- What is left starts with a byte that is no digit. -/
def Source.EndsDigits : Source → Prop
  | .byte b _ => isDigit b = false
  | _ => False

/-! ## Digits -/

@[simp] theorem isDigit_digitByte (d : Fin 10) : isDigit (digitByte d) = true := by
  revert d; decide

@[simp] theorem toNat_digitByte (d : Fin 10) : (digitByte d).toNat = d.val + 0x30 := by
  revert d; decide

@[simp] theorem digitByte_eq_zero_iff (d : Fin 10) : digitByte d = 0x30 ↔ d = 0 := by
  revert d; decide

/-- A byte that is no digit is not the byte of a digit. -/
theorem digitByte_ne {b : UInt8} (h : isDigit b = false) (d : Fin 10) : digitByte d ≠ b := by
  rintro rfl
  simp at h

/-- A byte that ends a value starts no digit, fraction or exponent. -/
theorem Source.EndsValue.exists_byte {s : Source} (h : s.EndsValue) :
    ∃ b rest, s = .byte b rest ∧ isDigit b = false ∧ b ≠ 0x2E ∧ b ≠ 0x65 ∧ b ≠ 0x45 := by
  cases s with
  | byte b rest =>
    have : isSpace b = true ∨ b = 0x2C ∨ b = 0x5D ∨ b = 0x7D := h
    simp only [isSpace, Bool.or_eq_true, beq_iff_eq] at this
    refine ⟨b, rest, rfl, ?_⟩
    rcases this with (((rfl | rfl) | rfl) | rfl) | rfl | rfl | rfl <;> decide
  | finished | failed => cases h

/-- What ends a value ends the digits of a number. -/
theorem Source.EndsValue.endsDigits {s : Source} (h : s.EndsValue) : s.EndsDigits := by
  obtain ⟨b, rest, rfl, hb, -⟩ := h.exists_byte
  exact hb

section
variable {s : Source}

@[simp] theorem delivered_byte (b : UInt8) (rest : Source) :
    delivered (.byte b rest) = .ok (.byte b rest) := rfl

/-- What ends digits has been delivered. -/
theorem Source.EndsDigits.delivered (h : s.EndsDigits) : Json.delivered s = .ok s := by
  cases s with
  | byte => rfl
  | finished | failed => cases h

/-- Digits are taken to their end. -/
theorem digits_prepend (h : s.EndsDigits) (ds : List (Fin 10)) :
    digits (s.prepend (ds.map digitByte)) = (ds.map Fin.val, s) := by
  induction ds with
  | nil =>
    cases s with
    | byte b rest =>
      have : isDigit b = false := h
      simp [digits, this]
    | finished | failed => cases h
  | cons d ds ih => simp [digits, ih]

/-- Digits are passed over to their end. -/
theorem skipDigits_prepend (h : s.EndsDigits) (ds : List (Fin 10)) :
    skipDigits (s.prepend (ds.map digitByte)) = s := by
  induction ds with
  | nil =>
    cases s with
    | byte b rest =>
      have : isDigit b = false := h
      simp [skipDigits, this]
    | finished | failed => cases h
  | cons d ds ih => simp [skipDigits, ih]

/-! ## Exponents and fractions -/

/-- Whether an exponent is refused: it makes a number greater that is not zero, and comes to the
limit. -/
def exceeds (isZero : Bool) (power : Bool × List Nat) : Bool :=
  !power.1 && !isZero && decide (exponentLimit ≤ Text.value 10 power.2)

/-- The digits of an exponent and whether it is negative, as a number is taken apart. -/
def Power.numeral (p : Power) : Bool × List Nat :=
  (p.sign == .minus, p.first.val :: p.rest.map Fin.val)

/-- The digits of an exponent are taken to their end, if it does not come to the limit. -/
theorem exponentDigits_prepend (h : s.EndsDigits) (bounded : Bool) {v : Nat}
    (hv : v < exponentLimit) (ds : List (Fin 10)) :
    exponentDigits bounded v (s.prepend (ds.map digitByte)) =
      if bounded ∧ exponentLimit ≤ (ds.map Fin.val).foldl (fun v d => v * 10 + d) v
      then .error .malformed else .ok (ds.map Fin.val, s) := by
  cases bounded with
  | false =>
    -- Without a limit the value makes no difference.
    clear hv
    induction ds generalizing v with
    | nil =>
      cases s with
      | byte b rest =>
        have : isDigit b = false := h
        simp [exponentDigits, this]
      | finished | failed => cases h
    | cons d ds ih => simp [exponentDigits, ih, Except.map]
  | true =>
    induction ds generalizing v with
    | nil =>
      cases s with
      | byte b rest =>
        have : isDigit b = false := h
        simp [exponentDigits, this, Nat.not_le.2 hv]
      | finished | failed => cases h
    | cons d ds ih =>
      rw [List.map_cons, List.map_cons, Source.prepend_cons, List.foldl_cons]
      simp only [exponentDigits, isDigit_digitByte, toNat_digitByte, Nat.add_sub_cancel, if_true,
        true_and]
      split
      · next hlimit =>
        have hle := Text.le_foldl_digits (by decide : 0 < 10) (v * 10 + d) (ds.map Fin.val)
        rw [if_pos (Nat.le_trans hlimit hle)]
      · next hlimit =>
        rw [ih (Nat.not_le.1 hlimit)]
        simp only [true_and]
        split <;> rfl

/-- An exponent after its letter. -/
theorem exponent_tail (h : s.EndsDigits) (isZero : Bool) (p : Power) :
    exponent isZero (s.prepend p.tail) =
      if exceeds isZero p.numeral then .error .malformed else .ok (p.numeral, s) := by
  obtain ⟨upper, sign, first, rest⟩ := p
  have hp : digitByte first ≠ 0x2B := digitByte_ne rfl first
  have hm : digitByte first ≠ 0x2D := digitByte_ne rfl first
  have hfirst : first.val < exponentLimit := Nat.lt_trans first.isLt (by decide)
  have hdigits (bounded : Bool) := exponentDigits_prepend h bounded hfirst rest
  by_cases hlimit : exponentLimit ≤ (rest.map Fin.val).foldl (fun v d => v * 10 + d) first.val <;>
    cases sign <;> cases isZero <;>
    simp [Power.tail, Sign.bytes, exponent, exponentSign, bind, Except.bind, hdigits, hp, hm,
      exceeds, Power.numeral, Text.value, hlimit]

/-- Digits of which there is one are skipped. -/
theorem skipSomeDigits_prepend (h : s.EndsDigits) (d : Fin 10) (ds : List (Fin 10)) :
    skipSomeDigits (.byte (digitByte d) (s.prepend (ds.map digitByte))) = .ok s := by
  simp [skipSomeDigits, bind, Except.bind, skipDigits_prepend h, h.delivered]

/-- An exponent is passed over. -/
theorem skipExponent_tail (h : s.EndsDigits) (p : Power) :
    skipExponent (s.prepend p.tail) = .ok s := by
  obtain ⟨upper, sign, first, rest⟩ := p
  have hp : digitByte first ≠ 0x2B := digitByte_ne rfl first
  have hm : digitByte first ≠ 0x2D := digitByte_ne rfl first
  cases sign <;>
    simp [Power.tail, Sign.bytes, skipExponent, bind, Except.bind, skipSomeDigits_prepend h, hp, hm]

/-- What an exponent starts with ends the digits before it. -/
theorem endsDigits_power (h : s.EndsValue) (p : Option Power) :
    (s.prepend (powerBytes p)).EndsDigits := by
  cases p with
  | none => exact h.endsDigits
  | some p =>
    show isDigit (if p.upper then 0x45 else 0x65) = false
    cases p.upper <;> rfl

/-- What a fraction or an exponent starts with ends the digits before it. -/
theorem endsDigits_fraction (h : s.EndsDigits) (d : Option (Fin 10 × List (Fin 10))) :
    (s.prepend (fractionBytes d)).EndsDigits := by
  cases d with
  | none => exact h
  | some d => rfl

/-- A spelled number, as a number is taken apart. -/
def Figure.numeral (f : Figure) : Numeral where
  negative := f.negative
  whole := f.whole.digits.map Fin.val
  fraction := f.fraction.map fun (d, ds) => d.val :: ds.map Fin.val
  exponent := f.power.map Power.numeral

/-- Whether the exponent of a number, if there is one, is refused. -/
def Numeral.overflows (n : Numeral) : Bool :=
  n.exponent.any (exceeds (significand n.whole (n.fraction.getD []) == 0))

/-- How a spelled number is taken apart: as it is spelled, unless its exponent is refused. -/
def Figure.parts (f : Figure) : Except Fault Numeral :=
  if f.numeral.overflows then .error .malformed else .ok f.numeral

/-- What follows the digits before the point is taken apart as it is spelled. -/
theorem afterWhole_ending (h : s.EndsValue) (f : Figure) :
    afterWhole f.negative (f.whole.digits.map Fin.val)
        ((s.prepend (powerBytes f.power)).prepend (fractionBytes f.fraction)) =
      f.parts.map (·, s) := by
  obtain ⟨negative, whole, fraction, power⟩ := f
  obtain ⟨b, rest, rfl, hb, hp, he, hE⟩ := h.exists_byte
  have hd : (Source.byte b rest).EndsDigits := hb
  rcases fraction with _ | ⟨d, ds⟩
  · cases power with
    | none =>
      simp [afterWhole, fractionBytes, powerBytes, bind, Except.bind, hp, he, hE, Figure.parts,
        Numeral.overflows, Figure.numeral, Except.map]
    | some p =>
      have htail := exponent_tail hd (significand (whole.digits.map Fin.val) [] == 0) p
      cases hexceeds : exceeds (significand (whole.digits.map Fin.val) [] == 0) p.numeral <;>
        rw [hexceeds] at htail <;> cases hupper : p.upper <;>
        simp [afterWhole, fractionBytes, powerBytes, bind, Except.bind, htail, hupper, Figure.parts,
          Numeral.overflows, Figure.numeral, hexceeds, Except.map]
  · have hds := digits_prepend (endsDigits_power h power) (d :: ds)
    rw [List.map_cons, Source.prepend_cons] at hds
    cases power with
    | none =>
      simp [afterWhole, fractionBytes, hds, bind, Except.bind]
      simp [powerBytes, he, hE, Figure.parts, Numeral.overflows, Figure.numeral, Except.map]
    | some p =>
      have htail := exponent_tail hd
        (significand (whole.digits.map Fin.val) (d.val :: ds.map Fin.val) == 0) p
      cases hexceeds : exceeds (significand (whole.digits.map Fin.val) (d.val :: ds.map Fin.val) == 0)
          p.numeral <;>
        rw [hexceeds] at htail <;> cases hupper : p.upper <;>
        simp [afterWhole, fractionBytes, hds, bind, Except.bind] <;>
        simp [powerBytes, hupper, htail, Figure.parts, Numeral.overflows, Figure.numeral, hexceeds,
          Except.map]

/-- What follows the digits before the point is passed over. -/
theorem skipAfterWhole_ending (h : s.EndsValue) (f : Figure) :
    skipAfterWhole ((s.prepend (powerBytes f.power)).prepend (fractionBytes f.fraction)) =
      .ok s := by
  obtain ⟨negative, whole, fraction, power⟩ := f
  obtain ⟨b, rest, rfl, hb, hp, he, hE⟩ := h.exists_byte
  have hd : (Source.byte b rest).EndsDigits := hb
  rcases fraction with _ | ⟨d, ds⟩
  · cases power with
    | none => simp [skipAfterWhole, fractionBytes, powerBytes, bind, Except.bind, hp, he, hE]
    | some p =>
      obtain ⟨upper, sign, first, more⟩ := p
      have := skipExponent_tail hd ⟨upper, sign, first, more⟩
      cases upper <;> simp [skipAfterWhole, fractionBytes, powerBytes, bind, Except.bind, this]
  · have hds := skipSomeDigits_prepend (endsDigits_power h power) d ds
    cases power with
    | none =>
      simp [skipAfterWhole, fractionBytes, hds, bind, Except.bind]
      simp [powerBytes, he, hE]
    | some p =>
      obtain ⟨upper, sign, first, more⟩ := p
      have := skipExponent_tail hd ⟨upper, sign, first, more⟩
      cases upper <;> simp [skipAfterWhole, fractionBytes, hds, bind, Except.bind] <;>
        simp [powerBytes, this]

/-! ## Whole numbers -/

/-- The bytes of a number after its sign, in front of a rest. -/
def Figure.unsignedIn (f : Figure) (s : Source) : Source :=
  ((s.prepend (powerBytes f.power)).prepend (fractionBytes f.fraction)).prepend
    (f.whole.digits.map digitByte)

/-- A number is its sign, if it has one, in front of the bytes after it. -/
theorem Figure.prepend_bytes (f : Figure) (s : Source) :
    s.prepend f.bytes = if f.negative then .byte 0x2D (f.unsignedIn s) else f.unsignedIn s := by
  cases hn : f.negative <;> simp [Figure.bytes, Figure.unsignedIn, hn]

/-- A number after its sign is taken apart as it is spelled. -/
theorem unsigned_figure (h : s.EndsValue) (f : Figure) :
    unsigned f.negative (f.unsignedIn s) = f.parts.map (·, s) := by
  have hend := endsDigits_fraction (endsDigits_power h f.power) f.fraction
  have hafter := afterWhole_ending h f
  rw [Figure.unsignedIn]
  generalize (s.prepend (powerBytes f.power)).prepend (fractionBytes f.fraction) = t
    at hend hafter ⊢
  cases hw : f.whole with
  | zero =>
    cases t with
    | byte b rest =>
      have hb : isDigit b = false := hend
      simpa [Whole.digits, unsigned, hb, hw] using hafter
    | finished | failed => cases hend
  | leading first isLeading rest =>
    simpa [Whole.digits, unsigned, isLeading, digits_prepend hend, hw] using hafter

/-- A number after its sign is passed over. -/
theorem skipUnsigned_figure (h : s.EndsValue) (f : Figure) :
    skipUnsigned (f.unsignedIn s) = .ok s := by
  have hend := endsDigits_fraction (endsDigits_power h f.power) f.fraction
  have hafter := skipAfterWhole_ending h f
  rw [Figure.unsignedIn]
  generalize (s.prepend (powerBytes f.power)).prepend (fractionBytes f.fraction) = t
    at hend hafter ⊢
  cases f.whole with
  | zero =>
    cases t with
    | byte b rest =>
      have hb : isDigit b = false := hend
      simpa [Whole.digits, skipUnsigned, bind, Except.bind, hb] using hafter
    | finished | failed => cases hend
  | leading first isLeading rest =>
    simpa [Whole.digits, skipUnsigned, bind, Except.bind, isLeading, skipDigits_prepend hend]
      using hafter

/-- What follows the sign of a number starts with a digit. -/
theorem Figure.unsignedIn_eq (f : Figure) (s : Source) :
    ∃ d rest, f.unsignedIn s = .byte (digitByte d) rest := by
  rw [Figure.unsignedIn]
  cases f.whole <;> exact ⟨_, _, rfl⟩

/-- **Numbers are taken apart as they are spelled**, unless their exponents are refused. -/
theorem numeral_figure (h : s.EndsValue) (f : Figure) :
    numeral (s.prepend f.bytes) = f.parts.map (·, s) := by
  have hu := unsigned_figure h f
  obtain ⟨d, rest, hd⟩ := f.unsignedIn_eq s
  have hne : digitByte d ≠ 0x2D := digitByte_ne rfl d
  rw [f.prepend_bytes]
  cases hn : f.negative <;> rw [hn] at hu
  · simpa [numeral, hd, hne] using hu
  · simpa [numeral] using hu

/-- Every spelled number is passed over. -/
theorem skipNumeral_figure (h : s.EndsValue) (f : Figure) :
    skipNumeral (s.prepend f.bytes) = .ok s := by
  have hu := skipUnsigned_figure h f
  obtain ⟨d, rest, hd⟩ := f.unsignedIn_eq s
  have hne : digitByte d ≠ 0x2D := digitByte_ne rfl d
  rw [f.prepend_bytes]
  cases f.negative
  · simpa [skipNumeral, hd, hne] using hu
  · simpa [skipNumeral] using hu

/-- A number starts with a minus sign or a digit. -/
theorem Figure.exists_byte (f : Figure) (s : Source) :
    ∃ b rest, s.prepend f.bytes = .byte b rest ∧ (b = 0x2D ∨ isDigit b = true) := by
  obtain ⟨d, rest, hd⟩ := f.unsignedIn_eq s
  rw [f.prepend_bytes]
  cases f.negative
  · exact ⟨_, _, hd, .inr (isDigit_digitByte d)⟩
  · exact ⟨_, _, rfl, .inl rfl⟩

end

section
variable {b : UInt8} (h : b = 0x2D ∨ isDigit b = true)
include h

/-- The first byte of a number is no other byte. -/
theorem ne_of_digit {c : UInt8} (hc : isDigit c = false) (hm : c ≠ 0x2D) : b ≠ c := by
  rintro rfl
  rcases h with rfl | h
  · exact hm rfl
  · rw [hc] at h
    cases h

/-- The first byte of a number is no blank. -/
theorem isSpace_of_digit : isSpace b = false := by
  have hne : ∀ {c}, isDigit c = false → c ≠ 0x2D → b ≠ c := ne_of_digit h
  simp [isSpace, hne (c := 0x20) rfl, hne (c := 0x09) rfl, hne (c := 0x0A) rfl, hne (c := 0x0D) rfl]

end

/-! ## Integers -/

/-- The value of the digits before the point, with the sign. -/
def Figure.value (f : Figure) : Int :=
  if f.negative then -(f.whole.value : Int) else f.whole.value

/-- A number denotes an integer if it has neither fraction nor exponent and is not minus zero. -/
theorem Figure.integer?_eq_some_iff {f : Figure} {z : Int} :
    f.integer? = some z ↔ f.fraction = none ∧ f.power = none ∧
      ¬ (f.negative = true ∧ f.whole.value = 0) ∧ f.value = z := by
  unfold Figure.integer? Figure.value
  cases f.fraction <;> cases f.power <;> cases f.negative <;> simp

/-- Digits whose value fits 64 bits are all taken. -/
theorem gather_of_lt {v : Nat} {ds : List Nat}
    (h : ds.foldl (fun v d => v * 10 + d) v < wordLimit) :
    gather v ds = (ds.foldl (fun v d => v * 10 + d) v, 0) := by
  induction ds generalizing v with
  | nil => rfl
  | cons d ds ih =>
    have hle : v * 10 + d ≤ ds.foldl (fun v d => v * 10 + d) (v * 10 + d) :=
      Text.le_foldl_digits (by decide) _ ds
    rw [List.foldl_cons] at h ⊢
    rw [gather, if_pos (by omega), ih h]

/-- Digits whose value does not fit 64 bits leave some over. -/
theorem gather_snd_ne_zero {v : Nat} {ds : List Nat} (hv : v < wordLimit)
    (h : wordLimit ≤ ds.foldl (fun v d => v * 10 + d) v) : (gather v ds).2 ≠ 0 := by
  induction ds generalizing v with
  | nil => exact absurd hv (Nat.not_lt.2 h)
  | cons d ds ih =>
    rw [gather]
    split
    · next hlt => exact ih hlt h
    · exact Nat.succ_ne_zero _

/-- The numerals that are taken as integers. -/
theorem Numeral.number_eq_integer_iff {n : Numeral} {z : Int} :
    n.number = .ok (.integer z) ↔
      (n.fraction = none ∧ n.exponent = none ∧ (gather 0 n.whole).2 = 0 ∧
        (n.negative = true → 0 < (gather 0 n.whole).1 ∧
          (gather 0 n.whole).1 ≤ 9223372036854775808)) ∧
      (if n.negative then -((gather 0 n.whole).1 : Int) else (gather 0 n.whole).1) = z := by
  unfold Numeral.number
  simp only [Option.isNone_iff_eq_none]
  split
  · next h =>
    rw [Except.ok.injEq, Number.integer.injEq]
    exact (and_iff_right h).symm
  · next h =>
    simp only [h, false_and, iff_false]
    split <;> exact nofun

/-- What a spelled number is read as. -/
def Figure.number (f : Figure) : Except Fault Number :=
  f.parts.bind Numeral.number

/-- A number without an exponent is taken apart as it is spelled. -/
theorem Figure.parts_of_power (f : Figure) (h : f.power = none) : f.parts = .ok f.numeral := by
  simp [Figure.parts, Numeral.overflows, Figure.numeral, h]

/-- The exponent decides nothing about integers, since they have none. -/
theorem Figure.number_eq_integer {f : Figure} {z : Int} :
    f.number = .ok (.integer z) ↔ f.numeral.number = .ok (.integer z) := by
  cases hpower : f.power with
  | none => rw [Figure.number, f.parts_of_power hpower, Except.bind]
  | some p =>
    have hexponent : f.numeral.exponent = some p.numeral := congrArg (Option.map _) hpower
    refine iff_of_false (fun h => ?_) fun h => ?_
    · rw [Figure.number, Figure.parts] at h
      split at h
      · cases h
      · rw [Except.bind, Numeral.number_eq_integer_iff, hexponent] at h
        cases h.1.2.1
    · rw [Numeral.number_eq_integer_iff, hexponent] at h
      cases h.1.2.1

/-- **What is an integer.** A number is taken as an integer exactly if it denotes one that fits 64
bits, with a sign if it is negative and without one else. -/
theorem number_eq_integer_iff {f : Figure} {z : Int} :
    f.number = .ok (.integer z) ↔
      f.integer? = some z ∧ -9223372036854775808 ≤ z ∧ z < 18446744073709551616 := by
  rw [Figure.integer?_eq_some_iff, Figure.number_eq_integer, Numeral.number_eq_integer_iff]
  have hwhole : f.numeral.whole = f.whole.digits.map Fin.val := rfl
  have hnegative : f.numeral.negative = f.negative := rfl
  have hfraction : f.numeral.fraction = none ↔ f.fraction = none := Option.map_eq_none_iff
  have hpower : f.numeral.exponent = none ↔ f.power = none := Option.map_eq_none_iff
  rw [hwhole, hnegative, hfraction, hpower, Figure.value]
  by_cases hval : f.whole.value < wordLimit
  · have hg : gather 0 (f.whole.digits.map Fin.val) = (f.whole.value, 0) := gather_of_lt hval
    unfold wordLimit at hval
    rw [hg]
    constructor
    · rintro ⟨⟨hfraction, hpower, -, hneg⟩, hz⟩
      refine ⟨⟨hfraction, hpower, fun h => ?_, hz⟩, ?_⟩
      · have := hneg h.1
        omega
      · split at hz
        · next h =>
          have := hneg h
          omega
        · omega
    · rintro ⟨⟨hfraction, hpower, hzero, hz⟩, hlow, -⟩
      refine ⟨⟨hfraction, hpower, rfl, fun h => ?_⟩, hz⟩
      rw [if_pos h] at hz
      have := mt (And.intro h) hzero
      omega
  · have hg : (gather 0 (f.whole.digits.map Fin.val)).2 ≠ 0 :=
      gather_snd_ne_zero (by decide) (Nat.le_of_not_lt hval)
    unfold wordLimit at hval
    refine iff_of_false (fun h => hg h.1.2.2.1) ?_
    rintro ⟨⟨-, -, -, hz⟩, hlow, hhigh⟩
    split at hz <;> omega

/-- A spelled number is read as what it denotes, or refused if that exceeds every number. -/
theorem number_bytes {s : Source} (h : s.EndsValue) (f : Figure) :
    number (s.prepend f.bytes) = f.number.map (·, s) := by
  simp only [number, numeral_figure h, bind, Figure.number]
  cases f.parts with
  | error e => rfl
  | ok n =>
    show (n.number.bind fun value => .ok (value, s)) = n.number.map (·, s)
    cases n.number <;> rfl

/-- **Integers are read.** A number that denotes an integer from -2⁶³ to 2⁶³ - 1 is read as it. -/
theorem number_figure {f : Figure} {z : Int} (hz : f.integer? = some z)
    (hlow : -9223372036854775808 ≤ z) (hhigh : z ≤ 9223372036854775807) {s : Source}
    (h : s.EndsValue) : number (s.prepend f.bytes) = .ok (.integer z, s) := by
  rw [number_bytes h, number_eq_integer_iff.2 ⟨hz, hlow, by omega⟩, Except.map]

end KctlProbe.Json
