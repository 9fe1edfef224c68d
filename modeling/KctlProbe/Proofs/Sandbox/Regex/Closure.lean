import KctlProbe.Proofs.Sandbox.Regex.Places
import Mathlib.Data.List.Nodup
import Mathlib.Data.List.Perm.Subperm
import Mathlib.Data.List.Range

/-!
# Going on again and again

Where a regular expression repeats another one, the places are found by a search in depth: from each
cursor that is entered, all cursors that are further on are entered in turn, unless their places were
seen. `Searched` is what one step of the search keeps true (`Searched.leave`, `Searched.skip`,
`Searched.enter`). The steps that are granted are enough, because every place is entered only once
and then leads to at most one visit for each place behind it (`Searched.run`).

In the end, nothing goes on from what was found to a place that was not found (`Closed`), and what
was found is reached by steps (`exists_of_mem_closure`).
-/

namespace KctlProbe.Sandbox

open Relation (ReflTransGen)

/-! ## Lists of places -/

/-- One step of `distinct`: a cursor is kept if its place is new. -/
def keepNew (s : List Nat × List Cursor) (c : Cursor) : List Nat × List Cursor :=
  if c.place ∈ s.1 then s else (c.place :: s.1, c :: s.2)

/-- The cursors are gone through one by one. -/
theorem distinct_eq_foldl (cs : List Cursor) :
    distinct cs = (cs.foldl keepNew ([], [])).2.reverse := by
  match cs with
  | [] => rfl
  | [_] => rfl
  | _ :: _ :: _ => rfl

/-- What was kept of some cursors: cursors of different places, one for each place. -/
structure Kept (cs : List Cursor) (s : List Nat × List Cursor) : Prop where
  seen : s.1 = s.2.map (·.place)
  subset : s.2 ⊆ cs
  nodup : s.1.Nodup
  covers : ∀ c ∈ cs, c.place ∈ s.1

/-- One more cursor is kept, or its place was seen before. -/
theorem Kept.keepNew {cs : List Cursor} {s : List Nat × List Cursor} (h : Kept cs s) (c : Cursor) :
    Kept (cs ++ [c]) (keepNew s c) := by
  have hsubset : s.2 ⊆ cs ++ [c] := List.subset_append_of_subset_left _ h.subset
  rw [Sandbox.keepNew]
  split_ifs with hc
  · refine ⟨h.seen, hsubset, h.nodup, fun d hd => ?_⟩
    obtain hd | hd := List.mem_append.1 hd
    · exact h.covers d hd
    · obtain rfl := List.mem_singleton.1 hd
      exact hc
  · refine ⟨congrArg _ h.seen, ?_, List.nodup_cons.2 ⟨hc, h.nodup⟩, fun d hd => ?_⟩
    · exact List.cons_subset.2 ⟨List.mem_append_right _ (.head _), hsubset⟩
    · obtain hd | hd := List.mem_append.1 hd
      · exact List.mem_cons_of_mem _ (h.covers d hd)
      · obtain rfl := List.mem_singleton.1 hd
        exact .head _

/-- What is kept in the end, by induction from the last cursor on. -/
theorem kept_foldl (cs : List Cursor) : Kept cs (cs.foldl keepNew ([], [])) := by
  induction cs using List.reverseRecOn with
  | nil => exact ⟨rfl, List.Subset.refl _, .nil, fun c hc => absurd hc List.not_mem_nil⟩
  | append_singleton cs c ih =>
    rw [List.foldl_concat]
    exact ih.keepNew c

section
variable {c : Cursor} {cs : List Cursor}

/-- What stays was there before. -/
theorem mem_of_mem_distinct (h : c ∈ distinct cs) : c ∈ cs := by
  rw [distinct_eq_foldl, List.mem_reverse] at h
  exact (kept_foldl cs).subset h

/-- What stays has different places. -/
theorem nodup_distinct (cs : List Cursor) : ((distinct cs).map (·.place)).Nodup := by
  rw [distinct_eq_foldl, List.map_reverse, List.nodup_reverse, ← (kept_foldl cs).seen]
  exact (kept_foldl cs).nodup

/-- Of the cursors with one place, one stays. -/
theorem exists_mem_distinct (h : c ∈ cs) : ∃ d ∈ distinct cs, d.place = c.place := by
  have hseen : c.place ∈ _ := (kept_foldl cs).covers c h
  rw [(kept_foldl cs).seen, List.mem_map] at hseen
  obtain ⟨d, hd, hplace⟩ := hseen
  refine ⟨d, ?_, hplace⟩
  rw [distinct_eq_foldl]
  exact List.mem_reverse.2 hd

end

/-! ## Going on again and again -/

/-- The cursor that is to be left. -/
def Visit.leaving? : Visit → Option Cursor
  | .enter _ => none
  | .leave c => some c

/-- The cursor of a visit. -/
def Visit.cursor : Visit → Cursor
  | .enter c | .leave c => c

/-- The cursors that were entered: those that were left, and those that are to be left. -/
def entered (done : List Cursor) (visits : List Visit) : List Cursor :=
  visits.filterMap Visit.leaving? ++ done

/-- What a search in depth keeps true. The places that were seen are those of the cursors that were
entered, each once, and from these cursors all goes on to places that were seen, or are to be
entered. -/
structure Searched (step : Cursor → List Cursor) (origin : Cursor) (seen : List Nat)
    (done : List Cursor) (visits : List Visit) : Prop where
  nodup : seen.Nodup
  perm : seen.Perm ((entered done visits).map (·.place))
  reached : ∀ c ∈ entered done visits, origin.Reaches c
  reaches : ∀ c, .enter c ∈ visits → origin.Reaches c
  starts : origin.place ∈ seen ∨ .enter origin ∈ visits
  goesOn : ∀ c ∈ entered done visits, ∀ d ∈ step c, c.place < d.place →
    d.place ∈ seen ∨ .enter d ∈ visits

section
variable {step : Cursor → List Cursor} {origin c : Cursor} {seen : List Nat} {done : List Cursor}
  {visits : List Visit}

/-- A search starts with its origin still to be entered. -/
theorem searched_initial (step : Cursor → List Cursor) (origin : Cursor) :
    Searched step origin [] [] [.enter origin] where
  nodup := .nil
  perm := .refl _
  reached c hc := absurd hc List.not_mem_nil
  reaches c hc := by
    cases List.mem_singleton.1 hc
    exact .refl _
  starts := .inr (.head _)
  goesOn c hc := absurd hc List.not_mem_nil

/-- A cursor is left. -/
theorem Searched.leave (h : Searched step origin seen done (.leave c :: visits)) :
    Searched step origin seen (c :: done) visits := by
  have hperm : (entered done (.leave c :: visits)).Perm (entered (c :: done) visits) :=
    List.perm_middle.symm
  refine ⟨h.nodup, h.perm.trans (hperm.map _), fun d hd => h.reached d (hperm.mem_iff.2 hd),
    fun d hd => h.reaches d (.tail _ hd), ?_, fun d hd e he hlt => ?_⟩
  · simpa using h.starts
  · simpa using h.goesOn d (hperm.mem_iff.2 hd) e he hlt

/-- A place that was seen is not entered again. -/
theorem Searched.skip (h : Searched step origin seen done (.enter c :: visits))
    (hc : c.place ∈ seen) : Searched step origin seen done visits := by
  have hseen {d : Cursor} (hd : d.place ∈ seen ∨ .enter d ∈ .enter c :: visits) :
      d.place ∈ seen ∨ .enter d ∈ visits := by
    obtain hd | hd := hd
    · exact .inl hd
    · obtain hd | hd := List.mem_cons.1 hd
      · cases hd
        exact .inl hc
      · exact .inr hd
  exact ⟨h.nodup, h.perm, h.reached, fun d hd => h.reaches d (.tail _ hd), hseen h.starts,
    fun d hd e he hlt => hseen (h.goesOn d hd e he hlt)⟩

/-- What is to be visited when a cursor is entered. -/
def visitsFrom (step : Cursor → List Cursor) (c : Cursor) : List Visit :=
  ((step c).filter (c.place < ·.place)).map .enter

/-- What is to be entered is further on. -/
theorem enter_mem_visitsFrom_iff {d : Cursor} :
    .enter d ∈ visitsFrom step c ↔ d ∈ step c ∧ c.place < d.place := by
  simp [visitsFrom]

/-- By what is to be entered, nothing more was entered. -/
theorem entered_visitsFrom_append :
    entered done (visitsFrom step c ++ visits) = entered done visits := by
  simp [entered, visitsFrom, Visit.leaving?]

/-- A new place is entered. -/
theorem Searched.enter (hstep : ∀ c, ∀ d ∈ step c, c.Reaches d)
    (h : Searched step origin seen done (.enter c :: visits)) (hc : c.place ∉ seen) :
    Searched step origin (c.place :: seen) done (visitsFrom step c ++ .leave c :: visits) := by
  have hentered : entered done (visitsFrom step c ++ .leave c :: visits) =
      c :: entered done visits := entered_visitsFrom_append
  have hreach : origin.Reaches c := h.reaches c (.head _)
  have hseen {d : Cursor} (hd : d.place ∈ seen ∨ .enter d ∈ .enter c :: visits) :
      d.place ∈ c.place :: seen ∨ .enter d ∈ visitsFrom step c ++ .leave c :: visits := by
    obtain hd | hd := hd
    · exact .inl (.tail _ hd)
    · obtain hd | hd := List.mem_cons.1 hd
      · cases hd
        exact .inl (.head _)
      · exact .inr (List.mem_append_right _ (.tail _ hd))
  refine ⟨List.nodup_cons.2 ⟨hc, h.nodup⟩, ?_, ?_, fun d hd => ?_, hseen h.starts, ?_⟩
  · rw [hentered]
    exact h.perm.cons _
  · rw [hentered]
    exact List.forall_mem_cons.2 ⟨hreach, h.reached⟩
  · obtain hd | hd := List.mem_append.1 hd
    · exact hreach.trans (hstep c d (enter_mem_visitsFrom_iff.1 hd).1)
    · obtain hd | hd := List.mem_cons.1 hd
      · cases hd
      · exact h.reaches d (.tail _ hd)
  · rw [hentered]
    refine List.forall_mem_cons.2 ⟨fun d hd hlt => ?_, fun d hd e he hlt => ?_⟩
    · exact .inr (List.mem_append_left _ (enter_mem_visitsFrom_iff.2 ⟨hd, hlt⟩))
    · exact hseen (h.goesOn d hd e he hlt)

/-- The places that were seen are places of the text. -/
theorem Searched.mem_range (h : Searched step origin seen done visits) {n : Nat} (hn : n ∈ seen) :
    n ∈ List.range' origin.place (origin.rest.length + 1) := by
  obtain ⟨c, hc, rfl⟩ := List.mem_map.1 (h.perm.mem_iff.1 hn)
  have hplace := (h.reached c hc).place_le
  exact List.mem_range'_1.2 (by omega)

/-- As many places are seen at most as the text has. -/
theorem Searched.length_le (h : Searched step origin seen done visits) :
    seen.length ≤ origin.rest.length + 1 := by
  have hle := (List.subperm_of_subset h.nodup fun _ => h.mem_range).length_le
  rwa [List.length_range'] at hle

/-- From one cursor, as many are to be entered at most as characters are left. -/
theorem length_visitsFrom_le (hstep : ∀ d ∈ step c, c.Reaches d)
    (hnodup : ((step c).map (·.place)).Nodup) (hreach : origin.Reaches c) :
    (visitsFrom step c).length ≤ origin.rest.length := by
  have hnodup' : (((step c).filter (c.place < ·.place)).map (·.place)).Nodup :=
    hnodup.sublist (List.filter_sublist.map _)
  have hsub : ((step c).filter (c.place < ·.place)).map (·.place) ⊆
      List.range' (origin.place + 1) origin.rest.length := by
    intro n hn
    obtain ⟨d, hd, rfl⟩ := List.mem_map.1 hn
    obtain ⟨hd, hlt⟩ := List.mem_filter.1 hd
    have hlt := of_decide_eq_true hlt
    have hplace := hreach.place_le
    have hplace' := (hreach.trans (hstep d hd)).place_le
    exact List.mem_range'_1.2 (by omega)
  have hle := (List.subperm_of_subset hnodup' hsub).length_le
  rw [List.length_map, List.length_range'] at hle
  rwa [visitsFrom, List.length_map]

/-- The steps that are enough for a search: one for each visit, and for each place that was not seen
one for every visit that it can lead to. -/
def needed (origin : Cursor) (seen : List Nat) (visits : List Visit) : Nat :=
  visits.length + (origin.rest.length + 1 - seen.length) * (origin.rest.length + 1)

/-- A search comes to its end. -/
theorem Searched.run (hstep : ∀ c, ∀ d ∈ step c, c.Reaches d)
    (hnodup : ∀ c, ((step c).map (·.place)).Nodup) {fuel : Nat}
    (h : Searched step origin seen done visits) (hfuel : needed origin seen visits ≤ fuel) :
    ∃ seen' done', closure step fuel seen done visits = done'.reverse ∧
      Searched step origin seen' done' [] := by
  induction fuel generalizing seen done visits with
  | zero =>
    have hlength : visits.length = 0 := by
      rw [needed] at hfuel
      omega
    obtain rfl := List.eq_nil_of_length_eq_zero hlength
    exact ⟨seen, done, rfl, h⟩
  | succ fuel ih =>
    match visits with
    | [] => exact ⟨seen, done, rfl, h⟩
    | .leave c :: visits =>
      refine ih h.leave ?_
      rw [needed, List.length_cons] at hfuel
      rw [needed]
      omega
    | .enter c :: visits =>
      rw [closure]
      rw [needed, List.length_cons] at hfuel
      split_ifs with hc
      · refine ih (h.skip hc) ?_
        rw [needed]
        omega
      · have hnext := h.enter hstep hc
        refine ih hnext ?_
        -- A place that was not seen pays for the visits that it leads to.
        have hlength := length_visitsFrom_le (hstep c) (hnodup c) (h.reaches c (.head _))
        obtain ⟨k, hk⟩ := Nat.exists_eq_add_of_le hnext.length_le
        rw [List.length_cons] at hk
        have hbefore : origin.rest.length + 1 - seen.length = k + 1 := by omega
        have hafter : origin.rest.length + 1 - (seen.length + 1) = k := by omega
        rw [hbefore, Nat.succ_mul] at hfuel
        rw [needed, List.length_cons, hafter]
        change (visitsFrom step c ++ .leave c :: visits).length + _ ≤ fuel
        rw [List.length_append, List.length_cons]
        omega

/-- Cursors of different places that are all that is reached, whatever the groups stand for. -/
structure Closed (step : Cursor → List Cursor) (origin : Cursor) (cs : List Cursor) : Prop where
  nodup : (cs.map (·.place)).Nodup
  starts : ∃ c ∈ cs, origin.Alike c
  goesOn : ∀ c ∈ cs, ∀ d ∈ step c, ∃ e ∈ cs, d.Alike e

/-- At the end of a search, nothing goes on. -/
theorem Searched.closed (hstep : ∀ c, ∀ d ∈ step c, c.Reaches d)
    (h : Searched step origin seen done []) : Closed step origin done.reverse := by
  have hseen {d : Cursor} (hreach : origin.Reaches d) (hd : d.place ∈ seen) :
      ∃ e ∈ done.reverse, d.Alike e := by
    obtain ⟨e, he, hplace⟩ := List.mem_map.1 (h.perm.mem_iff.1 hd)
    exact ⟨e, List.mem_reverse.2 he, hreach.alike (h.reached e he) hplace.symm⟩
  refine ⟨?_, ?_, fun c hc d hd => ?_⟩
  · rw [List.map_reverse, List.nodup_reverse]
    exact h.perm.nodup_iff.1 h.nodup
  · exact hseen (.refl _) (h.starts.resolve_right List.not_mem_nil)
  · have hc : c ∈ entered done [] := List.mem_reverse.1 hc
    obtain hlt | heq := (hstep c d hd).place_le.1.lt_or_eq
    · refine hseen ((h.reached c hc).trans (hstep c d hd)) ?_
      exact (h.goesOn c hc d hd hlt).resolve_right List.not_mem_nil
    · exact ⟨c, List.mem_reverse.2 hc, ((Cursor.Reaches.refl c).alike (hstep c d hd) heq).symm⟩

/-- What a search leaves is what its visits lead to. -/
theorem exists_of_mem_closure {fuel : Nat} (h : c ∈ closure step fuel seen done visits) :
    c ∈ done ∨ ∃ v ∈ visits, ReflTransGen (fun a b => b ∈ step a) v.cursor c := by
  induction fuel generalizing seen done visits with
  | zero => exact .inl (List.mem_reverse.1 h)
  | succ fuel ih =>
    match visits with
    | [] => exact .inl (List.mem_reverse.1 h)
    | .leave d :: visits =>
      obtain h | ⟨v, hv, hsteps⟩ := ih h
      · obtain rfl | h := List.mem_cons.1 h
        · exact .inr ⟨_, .head _, .refl⟩
        · exact .inl h
      · exact .inr ⟨v, .tail _ hv, hsteps⟩
    | .enter d :: visits =>
      rw [closure] at h
      split_ifs at h
      · exact (ih h).imp id fun ⟨v, hv, hsteps⟩ => ⟨v, .tail _ hv, hsteps⟩
      · obtain h | ⟨v, hv, hsteps⟩ := ih h
        · exact .inl h
        refine .inr ?_
        obtain hv | hv := List.mem_append.1 hv
        · obtain ⟨e, he, rfl⟩ := List.mem_map.1 hv
          exact ⟨_, .head _, .head (List.mem_filter.1 he).1 hsteps⟩
        · obtain rfl | hv := List.mem_cons.1 hv
          · exact ⟨_, .head _, hsteps⟩
          · exact ⟨v, .tail _ hv, hsteps⟩

end

end KctlProbe.Sandbox
