import KctlProbe.Sandbox.Regex.Basic
import Mathlib.Data.List.Basic
import Mathlib.Data.List.Induction
import Mathlib.Logic.Relation
import Mathlib.Order.Nat
import Mathlib.Tactic.Common

/-!
# Places of a text

A cursor stands at a place of a text, and carries what the groups of a regular expression stand for.
Two cursors are alike if they stand at the same place (`Cursor.Alike`). What is reached from a place
is behind some text (`Cursor.Reaches`), and by the number of characters it is known which place it is
(`Cursor.Reaches.alike`).

Where something is searched for, the first place counts, and of the matches from there the longest
one (`FirstMatch`). The lemmas about it are the steps of a search that passes by the places without a
match.
-/

namespace KctlProbe.Sandbox

open Relation (ReflTransGen)

namespace Cursor

variable {c d e : Cursor}

/-- The same place of a text, whatever the groups stand for. -/
structure Alike (c d : Cursor) : Prop where
  before : c.before = d.before
  rest : c.rest = d.rest
  place : c.place = d.place

/-- A place is the same as itself. -/
@[refl] theorem Alike.refl (c : Cursor) : c.Alike c := ⟨rfl, rfl, rfl⟩

/-- To be the same place is symmetric. -/
theorem Alike.symm (h : c.Alike d) : d.Alike c := ⟨h.before.symm, h.rest.symm, h.place.symm⟩

/-- To be the same place is transitive. -/
theorem Alike.trans (h : c.Alike d) (h' : d.Alike e) : c.Alike e :=
  ⟨h.before.trans h'.before, h.rest.trans h'.rest, h.place.trans h'.place⟩

/-- A place with some text between. -/
def Reaches (c d : Cursor) : Prop :=
  ∃ passed, c.rest = passed ++ d.rest ∧ d.place = c.place + passed.length ∧
    d.before = passed.getLast?.or c.before

/-- A place reaches itself, with nothing between. -/
theorem Reaches.refl (c : Cursor) : c.Reaches c := ⟨[], rfl, rfl, rfl⟩

/-- What is between the places is put together. -/
theorem Reaches.trans (h : c.Reaches d) (h' : d.Reaches e) : c.Reaches e := by
  obtain ⟨p, hrest, hplace, hbefore⟩ := h
  obtain ⟨q, hrest', hplace', hbefore'⟩ := h'
  refine ⟨p ++ q, ?_, ?_, ?_⟩
  · rw [hrest, hrest', List.append_assoc]
  · rw [hplace', hplace, List.length_append, Nat.add_assoc]
  · rw [hbefore', hbefore, List.getLast?_append, Option.or_assoc]

/-- The next place is behind a character. -/
theorem reaches_of_next? (h : c.next? = some d) : c.Reaches d := by
  rw [next?] at h
  split at h
  · cases h
  · next x rest hrest =>
    cases h
    exact ⟨[x], hrest, rfl, rfl⟩

/-- A place that is reached is not before, and not behind the end of the text. -/
theorem Reaches.place_le (h : c.Reaches d) :
    c.place ≤ d.place ∧ d.place ≤ c.place + c.rest.length := by
  obtain ⟨passed, hrest, hplace, -⟩ := h
  rw [hplace, hrest, List.length_append]
  omega

/-- What is reached by as many characters is the same place. -/
theorem Reaches.alike (h : c.Reaches d) (h' : c.Reaches e) (heq : d.place = e.place) :
    d.Alike e := by
  obtain ⟨p, hrest, hplace, hbefore⟩ := h
  obtain ⟨q, hrest', hplace', hbefore'⟩ := h'
  obtain ⟨rfl, hrests⟩ := List.append_inj (hrest.symm.trans hrest') (by omega)
  exact ⟨hbefore.trans hbefore'.symm, hrests, heq⟩

/-- From the same place the same is reached. -/
theorem Alike.reaches (h : c.Alike d) (hreach : d.Reaches e) : c.Reaches e := by
  obtain ⟨passed, hrest, hplace, hbefore⟩ := hreach
  exact ⟨passed, h.rest.trans hrest, by rw [hplace, h.place], by rw [hbefore, h.before]⟩

/-- From the same place, the next place is the same. -/
theorem Alike.exists_next? (h : c.Alike d) (hnext : c.next? = some e) :
    ∃ e', d.next? = some e' ∧ e.Alike e' := by
  rw [next?] at hnext
  split at hnext
  · cases hnext
  · next x rest hrest =>
    cases hnext
    rw [next?, ← h.rest, hrest]
    exact ⟨_, rfl, rfl, rfl, congrArg (· + 1) h.place⟩

/-- At the same place, there are the same edges. -/
theorem Alike.isAt (h : c.Alike d) (s : Edge) : s.isAt c = s.isAt d := by
  cases s <;> simp only [Edge.isAt, h.before, h.rest]

/-- The next place has one character less behind it. -/
theorem length_of_next? (h : c.next? = some d) : c.rest.length = d.rest.length + 1 := by
  rw [next?] at h
  split at h
  · cases h
  · next x rest hrest =>
    cases h
    rw [hrest]
    rfl

/-- A place further on in the text, so many characters behind. -/
def Later (c d : Cursor) : Prop :=
  ReflTransGen (fun c d => c.next? = some d) c d

/-- A place further on is the place itself, or further on from the next place. -/
theorem later_iff : c.Later e ↔ e = c ∨ ∃ d, c.next? = some d ∧ d.Later e := by
  rw [Later, ReflTransGen.cases_head_iff, eq_comm]
  rfl

/-- A place further on is reached. -/
theorem Later.reaches (h : c.Later d) : c.Reaches d := by
  induction h with
  | refl => exact .refl _
  | tail _ hnext h => exact h.trans (reaches_of_next? hnext)

/-- Behind the next place, there is a character before. -/
theorem Later.before_ne_none (h : d.Later e) (hnext : c.next? = some d) : e.before ≠ none := by
  obtain ⟨passed, -, -, hbefore⟩ := h.reaches
  rw [next?] at hnext
  split at hnext
  · cases hnext
  · cases hnext
    rw [hbefore]
    cases passed.getLast? <;> exact Option.some_ne_none _

end Cursor

/-! ## First and longest matches -/

/-- One step of looking for the longest match: a match counts if it is longer than those before. -/
def longer (best : Option Cursor) (d : Cursor) : Option Cursor :=
  match best with
  | some b => if b.place < d.place then some d else best
  | none => some d

/-- The longest of some matches. -/
def Longest (ds : List Cursor) : Option Cursor → Prop
  | none => ds = []
  | some d => d ∈ ds ∧ ∀ e ∈ ds, e.place ≤ d.place

section
variable {ds : List Cursor} {best : Option Cursor}

/-- One more match is the longest, or it is not longer than that. -/
theorem Longest.longer (h : Longest ds best) (d : Cursor) :
    Longest (ds ++ [d]) (longer best d) := by
  cases best with
  | none =>
    obtain rfl := h
    exact ⟨.head _, List.forall_mem_singleton.2 le_rfl⟩
  | some b =>
    obtain ⟨hb, hle⟩ := h
    dsimp only [Sandbox.longer]
    split_ifs with hlt
    · refine ⟨List.mem_append_right _ (.head _), List.forall_mem_append.2 ⟨fun e he => ?_, ?_⟩⟩
      · exact (hle e he).trans hlt.le
      · exact List.forall_mem_singleton.2 le_rfl
    · refine ⟨List.mem_append_left _ hb, List.forall_mem_append.2 ⟨hle, ?_⟩⟩
      exact List.forall_mem_singleton.2 (Nat.le_of_not_lt hlt)

/-- The longest match is found, by induction from the last match on. -/
theorem longest_foldl (ds : List Cursor) : Longest ds (ds.foldl longer none) := by
  induction ds using List.reverseRecOn with
  | nil => rfl
  | append_singleton ds d ih =>
    rw [List.foldl_concat]
    exact ih.longer d

end

/-- The longest match at a place, where `r` leads from the start of a match to its end. -/
def LongestMatch (r : Cursor → Cursor → Prop) (c : Cursor) : Option Cursor → Prop
  | none => ∀ d, ¬ r c d
  | some d => r c d ∧ ∀ e, r c e → e.place ≤ d.place

/-- The first match from a place on, and the longest one of those that start there. -/
def FirstMatch (r : Cursor → Cursor → Prop) (c : Cursor) : Option (Cursor × Cursor) → Prop
  | none => ∀ s d, c.Later s → ¬ r s d
  | some (s, d) => c.Later s ∧ LongestMatch r s (some d) ∧
      ∀ s' e, c.Later s' → r s' e → s.place ≤ s'.place

section
variable {r : Cursor → Cursor → Prop} {c d : Cursor} {ds : List Cursor} {best : Option Cursor}
  {found : Option (Cursor × Cursor)}

/-- The longest of some matches at a place is the longest one there, if all that matches is alike one
of them. -/
theorem Longest.longestMatch (h : Longest ds best) (hsound : ∀ d ∈ ds, r c d)
    (hcomplete : ∀ d, r c d → ∃ d' ∈ ds, d.Alike d') : LongestMatch r c best := by
  match best with
  | none =>
    obtain rfl := h
    intro d hd
    obtain ⟨d', hd', -⟩ := hcomplete d hd
    cases hd'
  | some d =>
    obtain ⟨hmem, hle⟩ := h
    refine ⟨hsound d hmem, fun e he => ?_⟩
    obtain ⟨e', he', halike⟩ := hcomplete e he
    rw [halike.place]
    exact hle e' he'

/-- A match at a place is the first one from there on. -/
theorem LongestMatch.first (h : LongestMatch r c (some d)) : FirstMatch r c (some (c, d)) :=
  ⟨.refl, h, fun _ _ hlater _ => hlater.reaches.place_le.1⟩

/-- Where there is no match at a place, the first match is that from the next place on. -/
theorem LongestMatch.next {go : Cursor → Option (Cursor × Cursor)} (h : LongestMatch r c none)
    (hgo : ∀ d, c.next? = some d → FirstMatch r d (go d)) : FirstMatch r c (c.next?.bind go) := by
  cases hnext : c.next? with
  | none =>
    intro s e hs he
    obtain rfl | ⟨d, hd, -⟩ := Cursor.later_iff.1 hs
    · exact h e he
    · rw [hnext] at hd
      cases hd
  | some d =>
    have hlater {s e : Cursor} (hs : c.Later s) (he : r s e) : d.Later s := by
      obtain rfl | ⟨d', hnext', hs⟩ := Cursor.later_iff.1 hs
      · exact absurd he (h e)
      · obtain rfl := Option.some.inj (hnext.symm.trans hnext')
        exact hs
    have hfirst : FirstMatch r d (go d) := hgo d hnext
    rw [Option.bind_some]
    match go d, hfirst with
    | none, hnone => exact fun s e hs he => hnone s e (hlater hs he) he
    | some (s, e), ⟨hs, hlongest, hfirst⟩ =>
      exact ⟨.head hnext hs, hlongest, fun s' e' hs' he' => hfirst s' e' (hlater hs' he') he'⟩

/-- Something is found if there is a match somewhere. -/
theorem FirstMatch.isSome_iff (h : FirstMatch r c found) :
    found.isSome = true ↔ ∃ s d, c.Later s ∧ r s d := by
  match found, h with
  | none, h =>
    exact ⟨fun h' => absurd h' Bool.false_ne_true, fun ⟨s, d, hs, hd⟩ => absurd hd (h s d hs)⟩
  | some (s, d), h => exact ⟨fun _ => ⟨s, d, h.1, h.2.1.1⟩, fun _ => rfl⟩

end

end KctlProbe.Sandbox
