import KctlProbe.Text.Decimal
import Mathlib.Data.List.Basic
import Mathlib.Data.List.Induction
import Mathlib.Tactic.Common

/-!
# Reading digits back

The numbers in argument vectors and configurations are written as digits of base 10 or 16, the most
significant first. `value` is the number that digits stand for, and the digits of a number have that
number as their value (`exists_digits`), also with zeros in front (`exists_padded`). Readers that
look every digit up in the table of digits invert what is written: `readNumber?_toDigits` for both
bases and `readSigned?_signedDecimal` for numbers with a sign.
-/

namespace KctlProbe.Text

/-- The number that digits stand for. -/
def value (base : Nat) (ds : List Nat) : Nat :=
  ds.foldl (fun v d => v * base + d) 0

/-- Whether digits are written as numbers are: there is one, and the first is zero only if it stands
alone. -/
def Canonical (ds : List Nat) : Prop :=
  ds ≠ [] ∧ (ds.head? = some 0 → ds = [0])

section
variable {base n : Nat}

@[simp] theorem value_nil : value base [] = 0 := rfl
@[simp] theorem value_singleton (d : Nat) : value base [d] = d := by simp [value]

/-- One digit more multiplies by the base and adds the digit. -/
theorem value_append_singleton (ds : List Nat) (d : Nat) :
    value base (ds ++ [d]) = value base ds * base + d := by
  simp [value]

/-- Digits in front count for as many places as stand behind them. -/
theorem value_append (ds es : List Nat) :
    value base (ds ++ es) = value base ds * Nat.pow base es.length + value base es := by
  induction es using List.reverseRecOn with
  | nil => simp
  | append_singleton es e ih =>
    have hpow : Nat.pow base (es.length + 1) = Nat.pow base es.length * base := rfl
    rw [← List.append_assoc, value_append_singleton, ih, value_append_singleton,
      List.length_append, List.length_singleton, hpow, Nat.add_mul, Nat.mul_assoc, Nat.add_assoc]

/-- Zeros in front do not change the number. -/
theorem value_replicate_zero (k : Nat) (ds : List Nat) :
    value base (List.replicate k 0 ++ ds) = value base ds := by
  induction k with
  | zero => rfl
  | succ k ih =>
    rw [← ih]
    simp [List.replicate_succ, value]

/-- One more digit behind digits that stand for no zero leaves them canonical. -/
theorem Canonical.append {ds : List Nat} (h : Canonical ds) (hv : value base ds ≠ 0) (d : Nat) :
    Canonical (ds ++ [d]) := by
  obtain ⟨hne, hz⟩ := h
  refine ⟨by simp, fun h0 => ?_⟩
  rw [List.head?_append_of_ne_nil ds hne] at h0
  rw [hz h0] at hv
  exact absurd (value_singleton 0) hv

/-- The digits of a number are canonical and stand for it. -/
theorem exists_digits (hb : 1 < base) (n : Nat) :
    ∃ ds, Nat.toDigits base n = ds.map Nat.digitChar ∧ (∀ d ∈ ds, d < base) ∧ value base ds = n ∧
      Canonical ds := by
  induction n using Nat.base_induction base hb with
  | single m hm =>
    refine ⟨[m], Nat.toDigits_of_lt_base hm, by simpa using hm, by simp, by simp, fun h => ?_⟩
    simpa using h
  | digit m k hk hm ih =>
    obtain ⟨ds, hds, hlt, hval, hcan⟩ := ih
    refine ⟨ds ++ [k], ?_, ?_, ?_, hcan.append (hval ▸ Nat.ne_of_gt hm) k⟩
    · rw [← Nat.toDigits_append_toDigits hb hm hk, hds, Nat.toDigits_of_lt_base hk]
      simp
    · intro d hd
      rcases List.mem_append.1 hd with hd | hd
      · exact hlt d hd
      · exact List.mem_singleton.1 hd ▸ hk
    · rw [value_append_singleton, hval, Nat.mul_comm]

/-- Digits that are filled up to a width still stand for the number, and have that width if the
number is not too great. -/
theorem exists_padded (hb : 1 < base) (width n : Nat) :
    ∃ ds, padded base width n = ds.map Nat.digitChar ∧ (∀ d ∈ ds, d < base) ∧ value base ds = n ∧
      ds ≠ [] ∧ (0 < width → n < Nat.pow base width → ds.length = width) := by
  obtain ⟨ds, hds, hlt, hval, hne, -⟩ := exists_digits hb n
  refine ⟨List.replicate (width - ds.length) 0 ++ ds, ?_, ?_, ?_, by simp [hne], ?_⟩
  · simp [padded, hds, Nat.digitChar]
  · intro d hd
    rcases List.mem_append.1 hd with hd | hd
    · rw [(List.mem_replicate.1 hd).2]
      omega
    · exact hlt d hd
  · rw [value_replicate_zero, hval]
  · intro hwidth hn
    have hle := (Nat.length_toDigits_le_iff hb hwidth).2 hn
    rw [hds, List.length_map] at hle
    rw [List.length_append, List.length_replicate]
    omega

/-- A character that is no digit does not stand among digits. -/
theorem notMem_map_digitChar {c : Char} (hc : ∀ d < 16, c ≠ Nat.digitChar d) (hb : base ≤ 16)
    {ds : List Nat} (h : ∀ d ∈ ds, d < base) : c ∉ ds.map Nat.digitChar := by
  rw [List.mem_map]
  rintro ⟨d, hd, heq⟩
  exact hc d (Nat.lt_of_lt_of_le (h d hd) hb) heq.symm

/-- Further digits make no number less. -/
theorem le_foldl_digits (hb : 0 < base) (v : Nat) (ds : List Nat) :
    v ≤ ds.foldl (fun v d => v * base + d) v := by
  induction ds generalizing v with
  | nil => exact Nat.le_refl v
  | cons d ds ih =>
    have hv : v ≤ v * base := Nat.le_mul_of_pos_right v hb
    exact Nat.le_trans (by omega) (ih (v * base + d))

/-- A number is no less than its first digit. -/
theorem le_value_cons (hb : 0 < base) (d : Nat) (ds : List Nat) : d ≤ value base (d :: ds) := by
  rw [value, List.foldl_cons, Nat.zero_mul, Nat.zero_add]
  exact le_foldl_digits hb d ds

/-- Digits in front of another one are canonical and stand for no zero. -/
theorem Canonical.of_append {ds : List Nat} {d : Nat} (hb : 0 < base) (h : Canonical (ds ++ [d]))
    (hne : ds ≠ []) : Canonical ds ∧ 0 < value base ds := by
  obtain ⟨first, rest, rfl⟩ := List.exists_cons_of_ne_nil hne
  have hfirst : first ≠ 0 := by
    rintro rfl
    have := h.2 rfl
    simp at this
  refine ⟨⟨hne, fun h0 => absurd (Option.some.inj h0) hfirst⟩, ?_⟩
  exact Nat.lt_of_lt_of_le (Nat.pos_of_ne_zero hfirst) (le_value_cons hb first rest)

/-- **Canonical digits are the digits of the number that they stand for.** -/
theorem toDigits_value (hb : 1 < base) {ds : List Nat} (hlt : ∀ d ∈ ds, d < base)
    (hc : Canonical ds) : Nat.toDigits base (value base ds) = ds.map Nat.digitChar := by
  induction ds using List.reverseRecOn with
  | nil => exact absurd rfl hc.1
  | append_singleton ds d ih =>
    have hd : d < base := hlt d (by simp)
    rw [value_append_singleton, List.map_append, List.map_singleton]
    by_cases hne : ds = []
    · subst hne
      rw [value_nil, Nat.zero_mul, Nat.zero_add, Nat.toDigits_of_lt_base hd]
      rfl
    · obtain ⟨hcanonical, hpos⟩ : Canonical ds ∧ 0 < value base ds :=
        hc.of_append (by omega) hne
      rw [← ih (fun e he => hlt e (List.mem_append_left _ he)) hcanonical, Nat.mul_comm,
        ← Nat.toDigits_append_toDigits hb hpos hd, Nat.toDigits_of_lt_base hd]

/-- `text` has the digits `ds` of base `base`, letters in lower case, and they stand for `n`. -/
structure Denotes (base : Nat) (ds : List Nat) (text : String) (n : Nat) : Prop where
  digits : ∀ d ∈ ds, d < base
  spelled : text.toList = ds.map Nat.digitChar
  number : value base ds = n

/-- A number in decimal. -/
theorem exists_denotes_decimal (n : Nat) : ∃ ds, Canonical ds ∧ Denotes 10 ds (decimal n) n := by
  obtain ⟨ds, hds, hlt, hval, hcan⟩ := exists_digits (by decide : 1 < 10) n
  exact ⟨ds, hcan, hlt, by rw [decimal, String.toList_ofList, hds], hval⟩

end

/-! ## Readers -/

/-- The value of a digit of base `base`. -/
def digitOf? (base : Nat) (c : Char) : Option Nat :=
  (List.range base).find? (Nat.digitChar · == c)

/-- Reads a number of base `base`: at least one digit and nothing else. -/
def readNumber? (base : Nat) (cs : List Char) : Option Nat :=
  if cs = [] then none else (cs.mapM (digitOf? base)).map (value base)

/-- Reads a whole number in decimal, with or without a minus sign. -/
def readSigned? : List Char → Option Int
  | '-' :: cs => (readNumber? 10 cs).map fun n => -(n : Int)
  | cs => (readNumber? 10 cs).map fun n => (n : Int)

section
variable {base : Nat}

/-- The digits up to `f` are different characters. -/
theorem digitChar_inj_of_lt {c d : Nat} (hc : c < 16) (hd : d < 16)
    (h : Nat.digitChar c = Nat.digitChar d) : c = d := by
  have : ∀ c < 16, ∀ d < 16, Nat.digitChar c = Nat.digitChar d → c = d := by decide
  exact this c hc d hd h

/-- The character of a digit is read as that digit. -/
theorem digitOf?_digitChar (hb : base ≤ 16) {d : Nat} (hd : d < base) :
    digitOf? base (Nat.digitChar d) = some d := by
  rw [digitOf?, List.find?_range_eq_some]
  refine ⟨by simp, by simpa using hd, fun e he => ?_⟩
  have hne : Nat.digitChar e ≠ Nat.digitChar d := fun h => by
    have := digitChar_inj_of_lt (by omega) (by omega) h
    omega
  simpa using hne

/-- The characters of digits are read as those digits. -/
theorem mapM_digitOf? (hb : base ≤ 16) {ds : List Nat} (h : ∀ d ∈ ds, d < base) :
    (ds.map Nat.digitChar).mapM (digitOf? base) = some ds := by
  induction ds with
  | nil => rfl
  | cons d ds ih =>
    rw [List.map_cons, List.mapM_cons, digitOf?_digitChar hb (h d (by simp)),
      ih fun e he => h e (by simp [he])]
    rfl

/-- The characters of some digits are read as the value of the digits. -/
theorem readNumber?_map_digitChar (hb : base ≤ 16) {ds : List Nat} (hne : ds ≠ [])
    (h : ∀ d ∈ ds, d < base) :
    readNumber? base (ds.map Nat.digitChar) = some (value base ds) := by
  rw [readNumber?, if_neg (by simpa using hne), mapM_digitOf? hb h]
  rfl

/-- A number is read of its digits. -/
theorem readNumber?_toDigits (hl : 1 < base) (hb : base ≤ 16) (n : Nat) :
    readNumber? base (Nat.toDigits base n) = some n := by
  obtain ⟨ds, hds, hlt, hval, hne, -⟩ := exists_digits hl n
  rw [hds, readNumber?_map_digitChar hb hne hlt, hval]

/-- A number is read of its digits with zeros in front. -/
theorem readNumber?_padded (hl : 1 < base) (hb : base ≤ 16) (width n : Nat) :
    readNumber? base (padded base width n) = some n := by
  obtain ⟨ds, hds, hlt, hval, hne, -⟩ := exists_padded hl width n
  rw [hds, readNumber?_map_digitChar hb hne hlt, hval]

/-- The first digit of a number is no minus sign. -/
theorem toDigits_ne_minus (n : Nat) (cs : List Char) : Nat.toDigits 10 n ≠ '-' :: cs := by
  intro h
  have := Nat.isDigit_of_mem_toDigits (b := 10) (n := n) (c := '-') (by omega) (by omega)
    (by simp [h])
  exact absurd this (by decide)

/-- An integer is read of its decimal text. -/
theorem readSigned?_signedDecimal (z : Int) : readSigned? (signedDecimal z).toList = some z := by
  cases z with
  | ofNat n =>
    simp only [signedDecimal, decimal, String.toList_ofList]
    unfold readSigned?
    split
    · next h => exact absurd h (toDigits_ne_minus n _)
    · rw [readNumber?_toDigits (by omega) (by omega)]
      rfl
  | negSucc n =>
    simp only [signedDecimal, decimal, String.toList_append, String.toList_ofList]
    rw [show "-".toList ++ Nat.toDigits 10 (n + 1) = '-' :: Nat.toDigits 10 (n + 1) from rfl,
      readSigned?, readNumber?_toDigits (by omega) (by omega)]
    rfl

end

end KctlProbe.Text
