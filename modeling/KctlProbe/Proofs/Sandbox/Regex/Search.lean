import KctlProbe.Proofs.Sandbox.Regex.Closure
import KctlProbe.Proofs.Sandbox.Regex.Matches
import KctlProbe.Sandbox.Tool.Searching

/-!
# What a regular expression finds

The places to which an expression leads are computed as a list (`Regex.ends`), in which a place stands
only once, although the ways there may differ in what the groups stand for. Every place that is
computed is right (`Regex.matches_of_mem_ends`). None is missing if the expression does not refer back
to its groups (`Regex.exists_mem_ends`): then it does not depend on the groups where it leads, so of
the ways to a place one is enough.

It follows that an expression finds the first match of a text, and of those that start there the
longest one (`Regex.firstMatch_search?`), and that a line is selected by some patterns if one of them
leads from a place of it to another one (`Tool.Search.selects_iff`).
-/

namespace KctlProbe.Sandbox

open Relation (ReflTransGen)

/-! ## The places that are computed -/

/-- A text is at the start of another one if some rest is behind it there. -/
theorem behind?_eq_some_iff {text cs rest : Octets} :
    behind? text cs = some rest ↔ cs = text ++ rest := by
  induction text generalizing cs with
  | nil => exact ⟨fun h => Option.some.inj h, fun h => congrArg some h⟩
  | cons x text ih =>
    cases cs with
    | nil => simp [behind?]
    | cons y cs =>
      rw [behind?, List.cons_append, List.cons.injEq, ← ih, eq_comm (a := y)]
      split_ifs with h <;> simp [h]

namespace Regex

variable {r a b : Regex} {c d e : Cursor} {inside : Bool} {ranges : List (Char × Char)}
  {number : Nat}

@[simp] theorem ends_edge (s : Edge) (c : Cursor) :
    (edge s).ends c = if s.isAt c then [c] else [] := rfl

@[simp] theorem ends_group (number : Nat) (a : Regex) (c : Cursor) :
    (group number a).ends c = (a.ends c).map (c.capture number) := rfl

/-- At the end of a text, a set computes nothing. -/
theorem ends_one_nil (hrest : c.rest = []) : (one inside ranges).ends c = [] := by
  obtain ⟨before, rest, place, groups⟩ := c
  cases hrest
  rfl

/-- In front of a character, a set computes the next place. -/
theorem ends_one_cons {x : Char} {rest : Octets} (hrest : c.rest = x :: rest) :
    (one inside ranges).ends c =
      if ranges.any (fun r => r.1 ≤ x && x ≤ r.2) == inside then c.next?.toList else [] := by
  obtain ⟨before, rest, place, groups⟩ := c
  cases hrest
  rfl

/-- A reference to a group computes the place behind the text of the group, if it is there. -/
theorem ends_again (number : Nat) (c : Cursor) : (again number).ends c =
    ((c.groups.lookup number).bind fun text => (behind? text c.rest).map fun rest =>
      { c with before := text.getLast?.or c.before, rest, place := c.place + text.length }).toList := by
  rw [ends]
  cases c.groups.lookup number with
  | none => rfl
  | some text =>
    dsimp only [Option.bind_some]
    cases behind? text c.rest with
    | none => rfl
    | some rest =>
      dsimp only [Option.map_some]
      cases text.getLast? <;> rfl

/-- What a set computes is where it leads. -/
theorem mem_ends_one_iff : d ∈ (one inside ranges).ends c ↔ (one inside ranges).Matches c d := by
  change _ ↔ c.next? = some d ∧ ∃ x, c.rest.head? = some x ∧ (InRanges ranges x ↔ inside = true)
  cases hrest : c.rest with
  | nil => simp [ends_one_nil hrest]
  | cons x rest =>
    have hranges : InRanges ranges x ↔ ranges.any (fun r => r.1 ≤ x && x ≤ r.2) = true := by
      simp [InRanges]
    rw [ends_one_cons hrest]
    split_ifs with h
    · simp [hranges, eq_of_beq h]
    · have hinside : ¬ (InRanges ranges x ↔ inside = true) := by
        rwa [hranges, ← Bool.eq_iff_iff, ← beq_iff_eq]
      simp [hinside]

/-- What an edge computes is where it leads. -/
theorem mem_ends_edge_iff {s : Edge} : d ∈ (edge s).ends c ↔ (edge s).Matches c d := by
  change _ ↔ s.isAt c = true ∧ d = c
  rw [ends_edge]
  split_ifs with h <;> simp [h]

/-- What a reference to a group computes is where it leads. -/
theorem mem_ends_again_iff : d ∈ (again number).ends c ↔ (again number).Matches c d := by
  simp only [ends_again, Option.mem_toList, Option.bind_eq_some_iff, Option.map_eq_some_iff,
    behind?_eq_some_iff]
  constructor
  · rintro ⟨text, hlookup, rest, hrest, rfl⟩
    exact ⟨text, rest, hlookup, hrest, rfl⟩
  · rintro ⟨text, rest, hlookup, hrest, rfl⟩
    exact ⟨text, hlookup, rest, hrest, rfl⟩

/-- Alternatives lead where one of them does. -/
theorem mem_ends_of_mem_ends_either (h : d ∈ (either a b).ends c) : d ∈ a.ends c ∨ d ∈ b.ends c :=
  List.mem_append.1 (mem_of_mem_distinct h)

/-- One thing behind another is computed from one place, or the places are made different. -/
theorem ends_cat (a b : Regex) (c : Cursor) :
    (∃ m, a.ends c = [m] ∧ (cat a b).ends c = b.ends m) ∨
      (cat a b).ends c = distinct ((a.ends c).flatMap b.ends) := by
  rw [ends]
  split
  · next h =>
    rw [h]
    exact .inr rfl
  · next m h => exact .inl ⟨m, h, rfl⟩
  · exact .inr rfl

/-- What is computed for one thing behind another is behind something between. -/
theorem exists_of_mem_ends_cat (h : d ∈ (cat a b).ends c) : ∃ m ∈ a.ends c, d ∈ b.ends m := by
  obtain ⟨m, hm, heq⟩ | heq := ends_cat a b c
  · exact ⟨m, hm ▸ .head _, heq ▸ h⟩
  · rw [heq] at h
    exact List.mem_flatMap.1 (mem_of_mem_distinct h)

/-- Of the ways to a place by one thing behind another, one is computed. -/
theorem exists_mem_ends_cat (ha : d ∈ a.ends c) (hb : e ∈ b.ends d) :
    ∃ e' ∈ (cat a b).ends c, e'.place = e.place := by
  obtain ⟨m, hm, heq⟩ | heq := ends_cat a b c
  · rw [hm] at ha
    obtain rfl := List.mem_singleton.1 ha
    exact ⟨e, heq ▸ hb, rfl⟩
  · rw [heq]
    exact exists_mem_distinct (List.mem_flatMap.2 ⟨d, ha, hb⟩)

/-- **The places that are computed are right**: an expression leads to them. -/
theorem matches_of_mem_ends (h : d ∈ r.ends c) : r.Matches c d := by
  induction r generalizing c d with
  | empty => exact List.mem_singleton.1 h
  | one => exact mem_ends_one_iff.1 h
  | edge => exact mem_ends_edge_iff.1 h
  | cat a b iha ihb =>
    obtain ⟨m, ha, hb⟩ := exists_of_mem_ends_cat h
    exact ⟨m, iha ha, ihb hb⟩
  | either a b iha ihb => exact (mem_ends_of_mem_ends_either h).imp iha ihb
  | many a ih =>
    obtain h | ⟨v, hv, hsteps⟩ := exists_of_mem_closure h
    · exact absurd h List.not_mem_nil
    · obtain rfl := List.mem_singleton.1 hv
      exact ReflTransGen.mono (fun _ _ => ih) _ _ hsteps
  | group number a ih =>
    obtain ⟨m, hm, rfl⟩ := List.mem_map.1 h
    exact ⟨m, ih hm, rfl⟩
  | again => exact mem_ends_again_iff.1 h

/-- What is computed is further on in the text. -/
theorem reaches_of_mem_ends (h : d ∈ r.ends c) : c.Reaches d :=
  (matches_of_mem_ends h).reaches

/-- A repetition computes all that it reaches, if its places are different at each step. -/
theorem closed_ends_many (hnodup : ∀ c, ((a.ends c).map (·.place)).Nodup) (c : Cursor) :
    Closed a.ends c ((many a).ends c) := by
  have hstep : ∀ c, ∀ d ∈ a.ends c, c.Reaches d := fun _ _ => reaches_of_mem_ends
  have hfuel : needed c [] [.enter c] ≤ (c.rest.length + 2) * (c.rest.length + 2) +
      (c.rest.length + 2) := by
    have hle : (c.rest.length + 1) * (c.rest.length + 1) ≤
        (c.rest.length + 2) * (c.rest.length + 2) :=
      Nat.mul_le_mul (Nat.le_succ _) (Nat.le_succ _)
    rw [needed, List.length_singleton, List.length_nil, Nat.sub_zero]
    omega
  obtain ⟨seen, done, heq, hdone⟩ := (searched_initial a.ends c).run hstep hnodup hfuel
  have hends : (many a).ends c = done.reverse := heq
  rw [hends]
  exact hdone.closed hstep

/-- What is computed at most once has no other place. -/
theorem nodup_map_toList (found : Option Cursor) : (found.toList.map (·.place)).Nodup := by
  cases found with
  | none => exact .nil
  | some d => exact List.nodup_singleton _

/-- The places that are computed are all different. -/
theorem nodup_ends (r : Regex) (c : Cursor) : ((r.ends c).map (·.place)).Nodup := by
  induction r generalizing c with
  | empty => exact List.nodup_singleton _
  | one =>
    cases hrest : c.rest with
    | nil =>
      rw [ends_one_nil hrest]
      exact .nil
    | cons x rest =>
      rw [ends_one_cons hrest]
      split_ifs
      · exact nodup_map_toList _
      · exact .nil
  | edge =>
    rw [ends_edge]
    split_ifs
    · exact List.nodup_singleton _
    · exact .nil
  | cat a b _ ihb =>
    obtain ⟨m, -, heq⟩ | heq := ends_cat a b c
    · rw [heq]
      exact ihb m
    · rw [heq]
      exact nodup_distinct _
  | either => exact nodup_distinct _
  | many a ih => exact (closed_ends_many ih c).nodup
  | group number a ih =>
    rw [ends_group, List.map_map]
    exact ih c
  | again =>
    rw [ends_again]
    exact nodup_map_toList _

/-- Of the ways by which an expression leads to a place, one is computed, if it does not refer back
to its groups. It does not matter what the groups stand for before. -/
theorem exists_mem_ends_of_alike (hr : r.Regular) (h : r.Matches c d) {c' : Cursor}
    (hc : c.Alike c') : ∃ d' ∈ r.ends c', d.Alike d' := by
  -- What is reached at the place of `d` by another way is alike.
  have hplace {r : Regex} {c c' d : Cursor} (h : r.Matches c d) (hc : c.Alike c')
      (hd : ∃ d' ∈ r.ends c', d'.place = d.place) : ∃ d' ∈ r.ends c', d.Alike d' := by
    obtain ⟨d', hd', heq⟩ := hd
    exact ⟨d', hd', h.reaches.alike (hc.reaches (reaches_of_mem_ends hd')) heq.symm⟩
  induction r generalizing c d c' with
  | empty =>
    obtain rfl := h
    exact ⟨c', .head _, hc⟩
  | one inside ranges =>
    obtain ⟨hnext, x, hx, hinside⟩ := h
    obtain ⟨d', hnext', halike⟩ := hc.exists_next? hnext
    exact ⟨d', mem_ends_one_iff.2 ⟨hnext', x, hc.rest ▸ hx, hinside⟩, halike⟩
  | edge s =>
    obtain ⟨hs, rfl⟩ := h
    exact ⟨c', mem_ends_edge_iff.2 ⟨hc.isAt s ▸ hs, rfl⟩, hc⟩
  | cat a b iha ihb =>
    obtain ⟨m, ha, hb⟩ := h
    obtain ⟨m', hm', halike⟩ := iha hr.1 ha hc
    obtain ⟨d', hd', halike'⟩ := ihb hr.2 hb halike
    refine hplace (r := cat a b) ⟨m, ha, hb⟩ hc ?_
    rw [halike'.place]
    exact exists_mem_ends_cat hm' hd'
  | either a b iha ihb =>
    refine hplace h hc ?_
    obtain h | h := h
    · obtain ⟨d', hd', halike⟩ := iha hr.1 h hc
      rw [halike.place]
      exact exists_mem_distinct (List.mem_append_left _ hd')
    · obtain ⟨d', hd', halike⟩ := ihb hr.2 h hc
      rw [halike.place]
      exact exists_mem_distinct (List.mem_append_right _ hd')
  | many a ih =>
    -- One step further from what is computed leads to what is computed.
    have hclosed := closed_ends_many (nodup_ends a) c'
    induction h with
    | refl =>
      obtain ⟨e, he, halike⟩ := hclosed.starts
      exact ⟨e, he, hc.trans halike⟩
    | tail _ h hprevious =>
      obtain ⟨m, hm, halike⟩ := hprevious
      obtain ⟨e, he, halike'⟩ := ih hr h halike
      obtain ⟨d', hd', halike''⟩ := hclosed.goesOn m hm e he
      exact ⟨d', hd', halike'.trans halike''⟩
  | group number a ih =>
    obtain ⟨m, h, rfl⟩ := h
    obtain ⟨m', hm', halike⟩ := ih hr h hc
    exact ⟨c'.capture number m', List.mem_map_of_mem hm', halike.before, halike.rest, halike.place⟩
  | again => exact absurd hr id

/-- **No place is missing.** All places to which an expression leads are computed, if it does not
refer back to its groups. -/
theorem exists_mem_ends (hr : r.Regular) (h : r.Matches c d) : ∃ d' ∈ r.ends c, d.Alike d' :=
  exists_mem_ends_of_alike hr h (.refl c)

/-! ## Matches -/

/-- **The longest match at a place is found.** -/
theorem longestMatch_matchAt? (hr : r.Regular) (c : Cursor) :
    LongestMatch r.Matches c (r.matchAt? c) := by
  have hlongest : Longest (r.ends c) (r.matchAt? c) := longest_foldl (r.ends c)
  exact hlongest.longestMatch (fun _ => matches_of_mem_ends) fun _ => exists_mem_ends hr

/-- A search passes by the places without a match, by induction on the characters that are left. -/
theorem firstMatch_searchFrom (hr : r.Regular) {fuel : Nat} (hfuel : c.rest.length < fuel) :
    FirstMatch r.Matches c (r.searchFrom fuel c) := by
  induction fuel generalizing c with
  | zero => cases hfuel
  | succ fuel ih =>
    have hlongest : LongestMatch r.Matches c (r.matchAt? c) := longestMatch_matchAt? hr c
    rw [searchFrom]
    split
    · next d hmatch =>
      rw [hmatch] at hlongest
      exact hlongest.first
    · next hmatch =>
      rw [hmatch] at hlongest
      refine hlongest.next fun d hnext => ih ?_
      have hlength := Cursor.length_of_next? hnext
      omega

/-- **The first match of a text is found**, and of those that start at the same place the longest
one. -/
theorem firstMatch_search? (hr : r.Regular) (c : Cursor) :
    FirstMatch r.Matches c (r.search? c) :=
  firstMatch_searchFrom hr (Nat.lt_succ_self _)

end Regex

/-! ## Lines that are selected -/

namespace Tool.Search

variable {s : Search} {c d : Cursor}

/-- A match that is a whole line or a whole word if it has to be. -/
@[mk_iff]
structure Whole (s : Search) (c d : Cursor) : Prop where
  line : s.wholeLines = true → c.before = none ∧ d.rest = []
  word : s.wholeWords = true →
    c.before.any isWordChar = false ∧ d.rest.head?.any isWordChar = false

/-- What a search looks for: matches of one of its patterns that are as whole as they have to be. -/
def Hits (s : Search) (c d : Cursor) : Prop :=
  (∃ r ∈ s.patterns, r.Matches c d) ∧ s.Whole c d

/-- Whether a match is as whole as it has to be. -/
def isWhole (s : Search) (c d : Cursor) : Bool :=
  (!s.wholeLines || (c.before.isNone && d.rest.isEmpty)) &&
    (!s.wholeWords || (!c.before.any isWordChar && !d.rest.head?.any isWordChar))

/-- The condition is decided. -/
theorem isWhole_iff : s.isWhole c d = true ↔ s.Whole c d := by
  simp [isWhole, whole_iff, imp_iff_not_or]

/-- The matches that are considered at a place. -/
def hits (s : Search) (c : Cursor) : List Cursor :=
  (s.patterns.flatMap fun r => r.ends c).filter (s.isWhole c)

/-- The matches are gone through one by one. -/
theorem matchAt?_eq_foldl (s : Search) (c : Cursor) :
    s.matchAt? c = (s.hits c).foldl longer none := rfl

/-- The longest match of one of the patterns is found. -/
theorem longestMatch_matchAt? (hs : ∀ r ∈ s.patterns, r.Regular) (c : Cursor) :
    LongestMatch s.Hits c (s.matchAt? c) := by
  rw [matchAt?_eq_foldl]
  refine (longest_foldl (s.hits c)).longestMatch (fun d hd => ?_) fun d hd => ?_
  · obtain ⟨hd, hwhole⟩ := List.mem_filter.1 hd
    obtain ⟨r, hr, hd⟩ := List.mem_flatMap.1 hd
    exact ⟨⟨r, hr, Regex.matches_of_mem_ends hd⟩, isWhole_iff.1 hwhole⟩
  · obtain ⟨⟨r, hr, hd⟩, hwhole⟩ := hd
    obtain ⟨d', hd', halike⟩ := Regex.exists_mem_ends (hs r hr) hd
    have hwhole' : s.Whole c d' := by
      rw [whole_iff] at hwhole ⊢
      rwa [← halike.rest]
    exact ⟨d', List.mem_filter.2 ⟨List.mem_flatMap.2 ⟨r, hr, hd'⟩, isWhole_iff.2 hwhole'⟩, halike⟩

/-- The first match from a place on is found. Whole lines start nowhere else than at their start, so
they are not looked for further on. -/
theorem firstMatch_matchFrom? (hs : ∀ r ∈ s.patterns, r.Regular) {fuel : Nat}
    (hfuel : c.rest.length < fuel) : FirstMatch s.Hits c (s.matchFrom? fuel c) := by
  induction fuel generalizing c with
  | zero => cases hfuel
  | succ fuel ih =>
    have hlongest : LongestMatch s.Hits c (s.matchAt? c) := longestMatch_matchAt? hs c
    rw [matchFrom?]
    split
    · next d hmatch =>
      rw [hmatch] at hlongest
      exact hlongest.first
    · next hmatch =>
      rw [hmatch] at hlongest
      split_ifs with hlines
      · intro e d he hd
        obtain rfl | ⟨c', hnext, he⟩ := Cursor.later_iff.1 he
        · exact hlongest d hd
        · exact he.before_ne_none hnext (hd.2.line hlines).1
      · refine hlongest.next fun d hnext => ih ?_
        have hlength := Cursor.length_of_next? hnext
        omega

/-- **A line is selected** if one of the patterns leads from a place of it to another one, or if none
does and the others are meant. -/
theorem selects_iff (hs : ∀ r ∈ s.patterns, r.Regular) (line : Octets) : s.selects line = true ↔
    ((∃ c d, (Cursor.start line).Later c ∧ s.Hits c d) ↔ s.inverted = false) := by
  have hfirst : FirstMatch s.Hits (.start line) (s.matchFrom? (line.length + 1) (.start line)) :=
    firstMatch_matchFrom? hs (Nat.lt_succ_self _)
  rw [← hfirst.isSome_iff, selects]
  cases (s.matchFrom? (line.length + 1) (.start line)).isSome <;> cases s.inverted <;> decide

end Tool.Search

end KctlProbe.Sandbox
