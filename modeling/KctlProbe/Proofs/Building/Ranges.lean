import KctlProbe.Proofs.Building.Calls
import KctlProbe.Proofs.Options

/-!
# A listing and a delete of the same range

A listing has the slots of a range of its own, and so have the ranges of deletes. The calls that
narrow a range do the same to both: `Listing.withRange` puts a range into a listing, and what calls
make of a listing is what they make of its range, put into the listing (`run_range`). So a listing
shows just the keys that a delete of the range built by the same calls removes, and the options
agree but for what only a listing or only a delete has (`range_spelled_alike`).
-/

namespace KctlProbe

open Call (slot)
open Builder (run)

/-! ## Listings and ranges in lockstep -/

namespace Listing

/-- The listing with another range. -/
def withRange (c : Listing) (r : DeleteRange) : Listing :=
  { c with start := r.start, stop := r.stop, count := r.count }

@[simp] theorem range_withRange (c : Listing) (r : DeleteRange) : (c.withRange r).range = r := rfl

/-- A call does to a listing what it does to its range. -/
theorem call_range (c : Listing) (x : RangeCall) :
    Builder.call c (Call.range x) = (Builder.call c.range x).map c.withRange := by
  cases x with
  | start bound => rfl
  | stop bound => rfl
  | count n =>
    by_cases hn : n = 0
    · simp [Builder.call, withCount, DeleteRange.withCount, hn, Except.map]
    · simp [Builder.call, withCount, DeleteRange.withCount, hn, Except.map, withRange, range]

/-- Calls do to a listing what they do to its range. -/
theorem run_range (c : Listing) (calls : List RangeCall) :
    run c (calls.map Call.range) = (run c.range calls).map c.withRange := by
  induction calls generalizing c with
  | nil => rfl
  | cons x calls ih =>
    rw [List.map_cons, ← List.singleton_append, ← List.singleton_append (l := calls), run_append,
      run_append, run_singleton, run_singleton, call_range]
    cases hx : Builder.call c.range x with
    | error f => rfl
    | ok r =>
      show run (c.withRange r) (calls.map Call.range) = (run r calls).map c.withRange
      rw [ih, range_withRange]
      rfl

end Listing

/-! ## What only a listing or only a delete has -/

/-- The options of a delete of a range are those of a delete of a key that was built by the same
calls, and then those of the range. -/
theorem Delete.options_filled_ofRange (settings : Settings) (r : DeleteRange)
    (last : Slot → Option Delete.Call) :
    ((Delete.ofRange settings r).filled last).options =
      ((Delete.new settings).filled last).options ++ r.options :=
  congrArg (· ++ r.options) (List.append_nil _).symm

/-- Calls that do not narrow the range put their options behind those of the range. -/
theorem Listing.options_filled_withRange (settings : Settings) (r : DeleteRange)
    {calls : List Listing.Call} (h : ∀ x, Listing.Call.range x ∉ calls) :
    (((Listing.new settings).withRange r).filled (last calls)).options =
      r.options ++ ((Listing.new settings).filled (last calls)).options := by
  have hnone : ∀ s, s ≠ .reverse → s ≠ .format → last calls s = none := by
    intro s hreverse hformat
    cases hs : last calls s with
    | none => rfl
    | some x =>
      obtain ⟨hmem, hslot⟩ := of_last_eq_some hs
      cases x with
      | range x => exact absurd hmem (h x)
      | reversed => exact absurd hslot.symm hreverse
      | format f => exact absurd hslot.symm hformat
  have hcount := hnone .count nofun nofun
  have hstart := hnone .start nofun nofun
  have hstop := hnone .stop nofun nofun
  simp only [Listing.options_eq, Listing.range, Listing.filled, Listing.withRange, Listing.new,
    hcount, hstart, hstop, Option.bind_none, Option.none_or, List.append_assoc]
  rfl

/-- **A range is spelled alike in a listing and in a delete.** The same calls are made on a new
listing and on a new range. With a limit of 0 among them both fail, at the first such limit and for
the same reason. Without one both succeed, and a delete of the range has the options of the listing.
Calls that build the delete put in front of them what they give a delete of a key, and calls that
turn the listing around or give it a format put behind them what they give a new listing. -/
theorem range_spelled_alike (settings : Settings) (calls : List RangeCall) :
    (.count 0 ∈ calls ∧ ∃ before after c r, calls = before ++ .count 0 :: after ∧
      run (Listing.new settings) (before.map .range) = .ok c ∧ run DeleteRange.new before = .ok r ∧
      Builder.call c (Listing.Call.range (.count 0)) = .error .invalidArgument ∧
      Builder.call r (.count 0) = .error .invalidArgument ∧
      run (Listing.new settings) (calls.map .range) = .error .invalidArgument ∧
      run DeleteRange.new calls = .error .invalidArgument) ∨
    .count 0 ∉ calls ∧ ∃ c r, run (Listing.new settings) (calls.map .range) = .ok c ∧
      run DeleteRange.new calls = .ok r ∧
      (Delete.ofRange settings r).options = c.options ∧
      (∀ more : List Delete.Call, ∃ d k, run (Delete.ofRange settings r) more = .ok d ∧
        run (Delete.new settings) more = .ok k ∧ d.options = k.options ++ c.options) ∧
      ∀ more : List Listing.Call, (∀ x, Listing.Call.range x ∉ more) →
        ∃ d k, run c more = .ok d ∧ run (Listing.new settings) more = .ok k ∧
          d.options = c.options ++ k.options := by
  have hlisting (calls : List RangeCall) : run (Listing.new settings) (calls.map .range) =
      (run DeleteRange.new calls).map (Listing.new settings).withRange :=
    Listing.run_range _ calls
  have hrange {calls : List RangeCall} (h : .count 0 ∉ calls) :
      ∃ r, run DeleteRange.new calls = .ok r :=
    ⟨_, DeleteRange.fills.run_of_accepted .new fun x hx hzero => h (hzero ▸ hx)⟩
  by_cases h : .count 0 ∈ calls
  · obtain ⟨before, after, hcalls, hbefore⟩ := List.eq_append_cons_of_mem h
    obtain ⟨r, hr⟩ := hrange hbefore
    have hrun : run DeleteRange.new calls = .error .invalidArgument :=
      DeleteRange.fills.run_of_refused .new ⟨_, h, rfl⟩
    refine .inl ⟨h, before, after, (Listing.new settings).withRange r, r, hcalls, ?_, hr, rfl, rfl,
      ?_, hrun⟩
    · rw [hlisting, hr]
      rfl
    · rw [hlisting, hrun]
      rfl
  · obtain ⟨r, hrun⟩ := hrange h
    have hoptions : ((Listing.new settings).withRange r).options = r.options := by
      rw [Listing.options_eq]
      exact (List.append_nil _).trans (List.append_nil _)
    refine .inr ⟨h, (Listing.new settings).withRange r, r, ?_, hrun, hoptions.symm,
      fun more => ?_, fun more hmore => ?_⟩
    · rw [hlisting, hrun]
      rfl
    · refine ⟨_, _, Delete.run_eq _ more, Delete.run_eq _ more, ?_⟩
      rw [Delete.options_filled_ofRange, hoptions]
    · have haccepted : ∀ x ∈ more, ¬x = .range (.count 0) := fun x hx h => hmore _ (h ▸ hx)
      refine ⟨_, _, Listing.fills.run_of_accepted _ haccepted,
        Listing.fills.run_of_accepted _ haccepted, ?_⟩
      rw [Listing.options_filled_withRange settings r hmore, hoptions]

end KctlProbe
