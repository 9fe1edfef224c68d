import KctlProbe.Json.Scan
import KctlProbe.Rounding

/-!
# Numbers of a JSON text

A number is read in two steps. `numeral` splits its text into sign, digits before and after the
point, and exponent. `Numeral.number` says what they denote: an integer if there is neither point
nor exponent and the value fits 64 bits, else a real number, whose value no setting can use. A real
number that exceeds every double is refused.

A number that is passed over is only checked for its form (`skipNumeral`). Both readers take at least
one byte (`number_length_lt`, `skipNumeral_length_lt`).
-/

namespace KctlProbe.Json

/-- Whether a byte is a decimal digit. -/
def isDigit (b : UInt8) : Bool := 0x30 ≤ b && b ≤ 0x39

/-- The digits at the front, by value, and what is left. -/
def digits : Source → List Nat × Source
  | .byte b rest =>
    if isDigit b then ((b.toNat - 0x30) :: (digits rest).1, (digits rest).2)
    else ([], .byte b rest)
  | s => ([], s)

/-- The text of a number, taken apart. -/
structure Numeral where
  negative : Bool
  /-- The digits before the point. -/
  whole : List Nat
  /-- The digits after the point, if there is one. -/
  fraction : Option (List Nat) := none
  /-- Whether the exponent is negative, and its digits, if there is one. -/
  exponent : Option (Bool × List Nat) := none
  deriving DecidableEq, Repr

/-- Fails if the operating system cannot deliver the byte that ends a run of digits. -/
def delivered : Source → Except Fault Source
  | .failed e => .error (.unreadable e)
  | s => .ok s

/-- The sign of an exponent, and what is left. -/
def exponentSign : Source → Bool × Source
  | .byte b rest =>
    if b = 0x2B then (false, rest) else if b = 0x2D then (true, rest) else (false, .byte b rest)
  | s => (false, s)

/-- The greatest number of 64 bits, plus one. -/
def wordLimit : Nat := 18446744073709551616

/-- Appends digits to `value` while the result fits 64 bits, and counts those left over. -/
def gather (value : Nat) : List Nat → Nat × Nat
  | [] => (value, 0)
  | d :: ds =>
    if value * 10 + d < wordLimit then gather (value * 10 + d) ds else (value, ds.length + 1)

/-- The significand of a number: its digits without the point, as far as they fit 64 bits. -/
def significand (whole fraction : List Nat) : Nat :=
  (gather (gather 0 whole).1 fraction).1

/-- The greatest exponent that is kept, plus one. -/
def exponentLimit : Nat := 2147483648

/-- Reads the digits of an exponent behind those that make up `value`. If the exponent is `bounded`,
it is refused at the digit with which it comes to the limit, whatever is behind that digit. -/
def exponentDigits (bounded : Bool) (value : Nat) : Source → Except Fault (List Nat × Source)
  | .byte b rest =>
    if isDigit b then
      let d := b.toNat - 0x30
      if bounded ∧ exponentLimit ≤ value * 10 + d then .error .malformed
      else (exponentDigits bounded (value * 10 + d) rest).map fun (ds, rest) => (d :: ds, rest)
    else .ok ([], .byte b rest)
  | .finished => .ok ([], .finished)
  | .failed e => .error (.unreadable e)

/-- Reads an exponent after its letter: a sign or none, and at least one digit. One that makes a
number greater is bounded, unless the number is zero. -/
def exponent (isZero : Bool) (s : Source) : Except Fault ((Bool × List Nat) × Source) := do
  let (negative, s) := exponentSign (← delivered s)
  match s with
  | .byte b rest =>
    if isDigit b then
      let d := b.toNat - 0x30
      let (ds, rest) ← exponentDigits (!negative && !isZero) d rest
      .ok ((negative, d :: ds), rest)
    else
      .error .malformed
  | s => .error s.shortage

/-- Reads what follows the digits before the point. -/
def afterWhole (negative : Bool) (whole : List Nat) (s : Source) :
    Except Fault (Numeral × Source) := do
  match ← delivered s with
  | .byte b rest =>
    if b = 0x2E then
      let (ds, rest) := digits rest
      if ds.isEmpty then
        match rest with
        | .byte _ _ => .error .malformed
        | s => .error s.shortage
      else
        match ← delivered rest with
        | .byte b rest =>
          if b = 0x65 ∨ b = 0x45 then
            let (e, rest) ← exponent (significand whole ds == 0) rest
            .ok ({ negative, whole, fraction := some ds, exponent := some e }, rest)
          else .ok ({ negative, whole, fraction := some ds }, .byte b rest)
        | s => .ok ({ negative, whole, fraction := some ds }, s)
    else if b = 0x65 ∨ b = 0x45 then
      let (e, rest) ← exponent (significand whole [] == 0) rest
      .ok ({ negative, whole, exponent := some e }, rest)
    else .ok ({ negative, whole }, .byte b rest)
  | s => .ok ({ negative, whole }, s)

/-- Reads a number after its sign. A leading zero stands alone. -/
def unsigned (negative : Bool) : Source → Except Fault (Numeral × Source)
  | .byte b rest =>
    if b = 0x30 then
      match rest with
      | .byte d _ => if isDigit d then .error .malformed else afterWhole negative [0] rest
      | s => afterWhole negative [0] s
    else if isDigit b then
      let (ds, rest) := digits rest
      afterWhole negative ((b.toNat - 0x30) :: ds) rest
    else .error .malformed
  | s => .error s.shortage

/-- Reads the text of a number. -/
def numeral : Source → Except Fault (Numeral × Source)
  | .byte b rest => if b = 0x2D then unsigned true rest else unsigned false (.byte b rest)
  | s => .error s.shortage

/-- What a number denotes, as far as settings are concerned. -/
inductive Number where
  | integer (value : Int)
  | real
  deriving DecidableEq, Repr

/-- Whether `significand` times ten to the `exponent` exceeds every double, where the significand
and the power of ten are doubles themselves. -/
def exceedsDoubles (significand : Nat) : Int → Bool
  | .negSucc _ => false
  | .ofNat e =>
    if significand = 0 then false
    else if 308 < e then true
    else
      let product := (Fraction.ofNat significand).binary53.mul
        (Fraction.ofNat (Nat.pow 10 e)).binary53
      (Nat.pow 2 1024 - Nat.pow 2 970) * product.den ≤ product.num

/-- The significand and the power of ten of a number that is no 64-bit integer: digits that do not
fit 64 bits are left out, and those before the point still count as places. -/
def Numeral.scaled (n : Numeral) : Nat × Int :=
  let (value, left) := gather 0 n.whole
  let after := n.fraction.getD []
  let (value, leftAfter) := gather value after
  let shift : Int := match n.exponent with
    | none => 0
    | some (negative, ds) =>
      let e : Nat := ds.foldl (fun v d => v * 10 + d) 0
      if negative then -(e : Int) else e
  (value, (left : Int) - ((after.length - leftAfter : Nat) : Int) + shift)

/-- What a number denotes. Minus zero is no integer. -/
def Numeral.number (n : Numeral) : Except Fault Number :=
  let (value, left) := gather 0 n.whole
  if n.fraction.isNone ∧ n.exponent.isNone ∧ left = 0 ∧
      (n.negative → 0 < value ∧ value ≤ 9223372036854775808) then
    .ok (.integer (if n.negative then -(value : Int) else value))
  else
    let (significand, power) := n.scaled
    if exceedsDoubles significand power then .error .malformed else .ok .real

/-- Reads a number. -/
def number (s : Source) : Except Fault (Number × Source) := do
  let (n, rest) ← numeral s
  let value ← n.number
  .ok (value, rest)

/-- Passes over digits. -/
def skipDigits : Source → Source
  | .byte b rest => if isDigit b then skipDigits rest else .byte b rest
  | s => s

/-- Passes over one digit and those after it. Unlike in a number that is read, a text that ends
here counts as malformed. -/
def skipSomeDigits (s : Source) : Except Fault Source := do
  match ← delivered s with
  | .byte b rest => if isDigit b then delivered (skipDigits rest) else .error .malformed
  | _ => .error .malformed

/-- Passes over an exponent after its letter. -/
def skipExponent (s : Source) : Except Fault Source := do
  match ← delivered s with
  | .byte b rest =>
    if b = 0x2B ∨ b = 0x2D then skipSomeDigits rest else skipSomeDigits (.byte b rest)
  | s => skipSomeDigits s

/-- Passes over what follows the digits before the point. -/
def skipAfterWhole (s : Source) : Except Fault Source := do
  match ← delivered s with
  | .byte b rest =>
    if b = 0x2E then
      match ← skipSomeDigits rest with
      | .byte b rest => if b = 0x65 ∨ b = 0x45 then skipExponent rest else .ok (.byte b rest)
      | s => .ok s
    else if b = 0x65 ∨ b = 0x45 then skipExponent rest
    else .ok (.byte b rest)
  | s => .ok s

/-- Passes over a number after its sign. -/
def skipUnsigned (s : Source) : Except Fault Source := do
  match ← delivered s with
  | .byte b rest =>
    if b = 0x30 then
      match rest with
      | .byte d _ => if isDigit d then .error .malformed else skipAfterWhole rest
      | s => skipAfterWhole s
    else if isDigit b then skipAfterWhole (skipDigits rest)
    else .error .malformed
  | _ => .error .malformed

/-- Passes over a number: only its form is checked. -/
def skipNumeral : Source → Except Fault Source
  | .byte b rest => if b = 0x2D then skipUnsigned rest else skipUnsigned (.byte b rest)
  | s => .error s.shortage

section Lengths

theorem delivered_eq {s r : Source} (h : delivered s = .ok r) : r = s := by
  unfold delivered at h
  split at h <;> cases h
  rfl

theorem digits_length_le (s : Source) : (digits s).2.length ≤ s.length := by
  fun_induction digits s with
  | case1 b rest _ ih => simp only [Source.length]; omega
  | case2 => exact Nat.le_refl _
  | case3 => exact Nat.le_refl _

theorem exponentSign_length_le (s : Source) : (exponentSign s).2.length ≤ s.length := by
  unfold exponentSign
  split
  · split
    · simp only [Source.length]; omega
    · split <;> simp only [Source.length] <;> omega
  · exact Nat.le_refl _

theorem exponentDigits_length_le {bounded : Bool} {value : Nat} {s r : Source} {ds : List Nat}
    (h : exponentDigits bounded value s = .ok (ds, r)) : r.length ≤ s.length := by
  induction s generalizing value ds with
  | byte b rest ih =>
    simp only [exponentDigits] at h
    split at h
    · split at h
      · cases h
      · cases hr : exponentDigits bounded (value * 10 + (b.toNat - 0x30)) rest with
        | error f => rw [hr] at h; cases h
        | ok p =>
          rw [hr] at h
          cases h
          have hle : p.2.length ≤ rest.length := ih hr
          simp only [Source.length]; omega
    · cases h
      exact Nat.le_refl _
  | finished =>
    cases h
    exact Nat.le_refl _
  | failed e => cases h

theorem exponent_length_lt {isZero : Bool} {s r : Source} {e : Bool × List Nat}
    (h : exponent isZero s = .ok (e, r)) : r.length < s.length := by
  unfold exponent at h
  cases hd : delivered s with
  | error f => rw [hd] at h; cases h
  | ok t =>
    have hs := exponentSign_length_le s
    obtain rfl := delivered_eq hd
    simp only [hd, bind, Except.bind] at h
    split at h
    · rename_i b rest hx
      rw [hx] at hs
      simp only [Source.length] at hs
      split at h
      · split at h
        · cases h
        · rename_i p hp
          have hle : p.2.length ≤ _ := exponentDigits_length_le hp
          cases h
          omega
      · cases h
    · cases h

theorem afterWhole_length_le {negative : Bool} {whole : List Nat} {s r : Source} {n : Numeral}
    (h : afterWhole negative whole s = .ok (n, r)) : r.length ≤ s.length := by
  unfold afterWhole at h
  cases hd : delivered s with
  | error f => rw [hd] at h; cases h
  | ok t =>
    obtain rfl := delivered_eq hd
    simp only [hd, bind, Except.bind] at h
    split at h
    · rename_i b rest
      have hl := digits_length_le rest
      simp only [Source.length]
      split at h
      · split at h
        · split at h <;> cases h
        · cases he : delivered (digits rest).2 with
          | error f => simp only [he] at h; cases h
          | ok u =>
            obtain rfl := delivered_eq he
            simp only [he] at h
            split at h
            · rename_i c rest' hx
              rw [hx] at hl
              simp only [Source.length] at hl
              split at h
              · cases hp : exponent (significand whole (digits rest).1 == 0) rest' with
                | error f => simp only [hp] at h; cases h
                | ok q =>
                  simp only [hp, Except.ok.injEq, Prod.mk.injEq] at h
                  obtain ⟨-, rfl⟩ := h
                  have := exponent_length_lt (e := q.1) (r := q.2) hp
                  omega
              · simp only [Except.ok.injEq, Prod.mk.injEq] at h
                obtain ⟨-, rfl⟩ := h
                simp only [Source.length]; omega
            · simp only [Except.ok.injEq, Prod.mk.injEq] at h
              obtain ⟨-, rfl⟩ := h
              omega
      · split at h
        · cases hp : exponent (significand whole [] == 0) rest with
          | error f => simp only [hp] at h; cases h
          | ok q =>
            simp only [hp, Except.ok.injEq, Prod.mk.injEq] at h
            obtain ⟨-, rfl⟩ := h
            have := exponent_length_lt (e := q.1) (r := q.2) hp
            omega
        · simp only [Except.ok.injEq, Prod.mk.injEq] at h
          obtain ⟨-, rfl⟩ := h
          simp only [Source.length]; omega
    · simp only [Except.ok.injEq, Prod.mk.injEq] at h
      obtain ⟨-, rfl⟩ := h
      exact Nat.le_refl _

theorem unsigned_length_lt {negative : Bool} {s r : Source} {n : Numeral}
    (h : unsigned negative s = .ok (n, r)) : r.length < s.length := by
  unfold unsigned at h
  split at h
  · rename_i b rest
    simp only [Source.length]
    split at h
    · split at h
      · split at h
        · cases h
        · have := afterWhole_length_le h; omega
      · have := afterWhole_length_le h; omega
    · split at h
      · have := afterWhole_length_le h
        have := digits_length_le rest
        omega
      · cases h
  · cases h

theorem numeral_length_lt {s r : Source} {n : Numeral} (h : numeral s = .ok (n, r)) :
    r.length < s.length := by
  unfold numeral at h
  split at h
  · split at h
    · have := unsigned_length_lt h
      simp only [Source.length]; omega
    · exact unsigned_length_lt h
  · cases h

theorem number_length_lt {s r : Source} {n : Number} (h : number s = .ok (n, r)) :
    r.length < s.length := by
  unfold number at h
  cases hn : numeral s with
  | error f => rw [hn] at h; cases h
  | ok p =>
    simp only [hn, bind, Except.bind] at h
    split at h
    · cases h
    · simp only [Except.ok.injEq, Prod.mk.injEq] at h
      obtain ⟨-, rfl⟩ := h
      exact numeral_length_lt (n := p.1) hn

theorem skipDigits_length_le (s : Source) : (skipDigits s).length ≤ s.length := by
  fun_induction skipDigits s with
  | case1 b rest _ ih => simp only [Source.length]; omega
  | case2 => exact Nat.le_refl _
  | case3 => exact Nat.le_refl _

theorem skipSomeDigits_length_lt {s r : Source} (h : skipSomeDigits s = .ok r) :
    r.length < s.length := by
  unfold skipSomeDigits at h
  cases hd : delivered s with
  | error f => rw [hd] at h; cases h
  | ok t =>
    obtain rfl := delivered_eq hd
    simp only [hd, bind, Except.bind] at h
    split at h
    · rename_i b rest
      split at h
      · obtain rfl := delivered_eq h
        have := skipDigits_length_le rest
        simp only [Source.length]; omega
      · cases h
    · cases h

theorem skipExponent_length_lt {s r : Source} (h : skipExponent s = .ok r) :
    r.length < s.length := by
  unfold skipExponent at h
  cases hd : delivered s with
  | error f => rw [hd] at h; cases h
  | ok t =>
    obtain rfl := delivered_eq hd
    simp only [hd, bind, Except.bind] at h
    split at h
    · split at h
      · have := skipSomeDigits_length_lt h
        simp only [Source.length]; omega
      · exact skipSomeDigits_length_lt h
    · exact skipSomeDigits_length_lt h

theorem skipAfterWhole_length_le {s r : Source} (h : skipAfterWhole s = .ok r) :
    r.length ≤ s.length := by
  unfold skipAfterWhole at h
  cases hd : delivered s with
  | error f => rw [hd] at h; cases h
  | ok t =>
    obtain rfl := delivered_eq hd
    simp only [hd, bind, Except.bind] at h
    split at h
    · rename_i b rest
      simp only [Source.length]
      split at h
      · cases hs : skipSomeDigits rest with
        | error f => simp only [hs] at h; cases h
        | ok u =>
          have hl := skipSomeDigits_length_lt hs
          simp only [hs] at h
          split at h
          · simp only [Source.length] at hl
            split at h
            · have := skipExponent_length_lt h; omega
            · cases h; simp only [Source.length]; omega
          · cases h; omega
      · split at h
        · have := skipExponent_length_lt h; omega
        · cases h; exact Nat.le_refl _
    · cases h; exact Nat.le_refl _

theorem skipUnsigned_length_lt {s r : Source} (h : skipUnsigned s = .ok r) :
    r.length < s.length := by
  unfold skipUnsigned at h
  cases hd : delivered s with
  | error f => rw [hd] at h; cases h
  | ok t =>
    obtain rfl := delivered_eq hd
    simp only [hd, bind, Except.bind] at h
    split at h
    · rename_i b rest
      simp only [Source.length]
      split at h
      · split at h
        · split at h
          · cases h
          · have := skipAfterWhole_length_le h; omega
        · have := skipAfterWhole_length_le h; omega
      · split at h
        · have := skipAfterWhole_length_le h
          have := skipDigits_length_le rest
          omega
        · cases h
    · cases h

theorem skipNumeral_length_lt {s r : Source} (h : skipNumeral s = .ok r) :
    r.length < s.length := by
  unfold skipNumeral at h
  split at h
  · split at h
    · have := skipUnsigned_length_lt h
      simp only [Source.length]; omega
    · exact skipUnsigned_length_lt h
  · cases h

end Lengths

end KctlProbe.Json
