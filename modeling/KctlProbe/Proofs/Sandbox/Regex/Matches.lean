import KctlProbe.Proofs.Sandbox.Regex.Places
import KctlProbe.Sandbox.Regex.Reader

/-!
# What a regular expression describes

A regular expression relates the places of a text: it leads from a place to every place up to which
it describes the text (`Regex.Matches`). On the way it says what its groups stand for, and it can
refer back to them; where it does not, it is regular in the narrow sense (`Regex.Regular`).

The operators that repeat an expression are made of the others. They lead where the expression does
as many times as they allow (`Regex.matches_repeated_iff`).
-/

namespace KctlProbe.Sandbox

open Relation (ReflTransGen)

/-- The cursor behind a group that starts at one place and ends at another one. -/
def Cursor.capture (c : Cursor) (number : Nat) (d : Cursor) : Cursor :=
  { d with groups := (number, c.upTo d) :: d.groups.filter (·.1 ≠ number) }

/-- A character is in one of some ranges. -/
def InRanges (ranges : List (Char × Char)) (x : Char) : Prop :=
  ∃ r ∈ ranges, r.1 ≤ x ∧ x ≤ r.2

namespace Regex

/-- The places to which an expression leads: those up to which it describes the text. -/
def Matches : Regex → Cursor → Cursor → Prop
  | empty, c, d => d = c
  | one inside ranges, c, d =>
    c.next? = some d ∧ ∃ x, c.rest.head? = some x ∧ (InRanges ranges x ↔ inside = true)
  | edge e, c, d => e.isAt c = true ∧ d = c
  | cat a b, c, d => ∃ m, a.Matches c m ∧ b.Matches m d
  | either a b, c, d => a.Matches c d ∨ b.Matches c d
  | many a, c, d => ReflTransGen a.Matches c d
  | group number a, c, d => ∃ m, a.Matches c m ∧ d = c.capture number m
  | again number, c, d => ∃ text rest, c.groups.lookup number = some text ∧ c.rest = text ++ rest ∧
      d = { c with before := text.getLast?.or c.before, rest, place := c.place + text.length }

/-- An expression that does not refer back to its groups. -/
def Regular : Regex → Prop
  | empty | one _ _ | edge _ => True
  | cat a b | either a b => a.Regular ∧ b.Regular
  | many a | group _ a => a.Regular
  | again _ => False

variable {r a b : Regex} {c d e : Cursor}

/-- An expression leads on in the text. -/
theorem Matches.reaches (h : r.Matches c d) : c.Reaches d := by
  induction r generalizing c d with
  | empty =>
    obtain rfl := h
    exact .refl _
  | one => exact Cursor.reaches_of_next? h.1
  | edge =>
    obtain ⟨-, rfl⟩ := h
    exact .refl _
  | cat a b iha ihb =>
    obtain ⟨m, ha, hb⟩ := h
    exact (iha ha).trans (ihb hb)
  | either a b iha ihb => exact h.elim iha ihb
  | many a ih =>
    induction h with
    | refl => exact .refl _
    | tail _ h hreach => exact hreach.trans (ih h)
  | group number a ih =>
    obtain ⟨m, h, rfl⟩ := h
    exact ih (d := m) h
  | again number =>
    obtain ⟨text, rest, -, hrest, rfl⟩ := h
    exact ⟨text, hrest, rfl, rfl⟩

/-! ## Repetitions -/

/-- So many times and so many times more. -/
theorem matches_times_add {m n : Nat} : (a.times (m + n)).Matches c e ↔
    ∃ d, (a.times m).Matches c d ∧ (a.times n).Matches d e := by
  induction m generalizing c with
  | zero =>
    rw [Nat.zero_add]
    exact ⟨fun h => ⟨c, rfl, h⟩, fun ⟨_, hd, h⟩ => hd ▸ h⟩
  | succ m ih =>
    rw [Nat.succ_add]
    constructor
    · rintro ⟨d, ha, h⟩
      obtain ⟨d', hm, hn⟩ := ih.1 h
      exact ⟨d', ⟨d, ha, hm⟩, hn⟩
    · rintro ⟨d', ⟨d, ha, hm⟩, hn⟩
      exact ⟨d, ha, ih.2 ⟨d', hm, hn⟩⟩

/-- Any number of times is some number of times. -/
theorem matches_many_iff : (many a).Matches c d ↔ ∃ n, (a.times n).Matches c d := by
  constructor
  · intro h
    induction h using ReflTransGen.head_induction_on with
    | refl => exact ⟨0, rfl⟩
    | head ha _ ih =>
      obtain ⟨n, hn⟩ := ih
      exact ⟨n + 1, _, ha, hn⟩
  · rintro ⟨n, h⟩
    induction n generalizing c with
    | zero =>
      obtain rfl := h
      exact .refl
    | succ n ih =>
      obtain ⟨m, ha, h⟩ := h
      exact .head ha (ih h)

/-- At most so many times is a number of times up to that. -/
theorem matches_atMost_iff {n : Nat} :
    (a.atMost n).Matches c d ↔ ∃ k ≤ n, (a.times k).Matches c d := by
  induction n generalizing c with
  | zero =>
    refine ⟨fun h => ⟨0, le_rfl, h⟩, fun ⟨k, hk, h⟩ => ?_⟩
    obtain rfl := Nat.le_zero.1 hk
    exact h
  | succ n ih =>
    constructor
    · rintro (⟨m, ha, h⟩ | h)
      · obtain ⟨k, hk, h⟩ := ih.1 h
        exact ⟨k + 1, Nat.succ_le_succ hk, m, ha, h⟩
      · exact ⟨0, Nat.zero_le _, h⟩
    · rintro ⟨_ | k, hk, h⟩
      · exact .inr h
      · obtain ⟨m, ha, h⟩ := h
        exact .inl ⟨m, ha, ih.2 ⟨k, Nat.le_of_succ_le_succ hk, h⟩⟩

/-- Without a greatest number, an expression is repeated so many times, and then any number of
times. -/
theorem matches_repeated_none_iff {least : Nat} : (Dialect.repeated a ⟨least, none⟩).Matches c d ↔
    (cat (a.times least) (many a)).Matches c d := by
  cases least with
  | zero => exact ⟨fun h => ⟨c, rfl, h⟩, fun ⟨_, hm, h⟩ => hm ▸ h⟩
  | succ least => rfl

/-- **A repetition leads where the expression does as many times as it allows.** -/
theorem matches_repeated_iff {p : Dialect.Repetition} (hp : ∀ m ∈ p.most, p.least ≤ m) :
    (Dialect.repeated a p).Matches c d ↔
      ∃ n, p.least ≤ n ∧ (∀ m ∈ p.most, n ≤ m) ∧ (a.times n).Matches c d := by
  obtain ⟨least, most⟩ := p
  cases most with
  | none =>
    rw [matches_repeated_none_iff]
    constructor
    · rintro ⟨m, hleast, hmany⟩
      obtain ⟨n, hn⟩ := matches_many_iff.1 hmany
      refine ⟨least + n, Nat.le_add_right _ _, fun m hm => ?_, matches_times_add.2 ⟨m, hleast, hn⟩⟩
      cases hm
    · rintro ⟨n, hle, -, hn⟩
      obtain ⟨k, rfl⟩ := Nat.exists_eq_add_of_le hle
      obtain ⟨m, hleast, hk⟩ := matches_times_add.1 hn
      exact ⟨m, hleast, matches_many_iff.2 ⟨k, hk⟩⟩
  | some most =>
    have hmost : least ≤ most := hp most rfl
    clear hp
    have hrepeated : Dialect.repeated a ⟨least, some most⟩ =
        cat (a.times least) (a.atMost (most - least)) := by
      cases least <;> rfl
    rw [hrepeated]
    constructor
    · rintro ⟨m, hleast, hrest⟩
      obtain ⟨k, hk, h⟩ := matches_atMost_iff.1 hrest
      refine ⟨least + k, Nat.le_add_right _ _, fun m hm => ?_, matches_times_add.2 ⟨m, hleast, h⟩⟩
      obtain rfl := Option.some.inj hm
      omega
    · rintro ⟨n, hle, hge, hn⟩
      have hle : least ≤ n := hle
      have hge : n ≤ most := hge most rfl
      obtain ⟨k, rfl⟩ := Nat.exists_eq_add_of_le hle
      obtain ⟨m, hleast, hk⟩ := matches_times_add.1 hn
      exact ⟨m, hleast, matches_atMost_iff.2 ⟨k, by omega, hk⟩⟩

end Regex

end KctlProbe.Sandbox
