import KctlProbe.Command.Delete
import KctlProbe.Command.Listing
import KctlProbe.Command.Put
import Mathlib.Data.List.Induction
import Mathlib.Logic.Function.Basic
import Mathlib.Tactic.Common

/-!
# Commands that are built by calls

Listings, puts, deletes and ranges of a delete are built by calls, each of which gives one `Slot` of
the command. A sequence of calls (`run`) stops at the first call that is refused.

What a sequence builds is a function of the last call for each slot (`last`). This is said once for
all builders: `Fills` asks what one call does to a value that is filled in from the last calls so
far, and `Fills.run_of_accepted` follows a whole sequence by it. Everything that `LastCallsDecide`
says about the order of calls, about calls that are overwritten and about calls that are repeated is
then a fact about `last`.
-/

namespace KctlProbe

/-- What a call gives a command. A switch is a slot with one call. -/
inductive Slot where
  | start
  | stop
  | count
  | reverse
  | format
  | compare
  | policy
  | checksum
  | zeros
  deriving DecidableEq, Repr

/-- Calls, each of which is for one slot. -/
class Call (κ : Type) where
  slot : κ → Slot

/-- Values that calls build up. -/
class Builder (α : Type) (κ : outParam Type) where
  /-- The value after a call, or why the call is refused. -/
  call : α → κ → Except Failure α

/-- The value after a sequence of calls, or why the first of them that is refused is refused. -/
def Builder.run {α κ : Type} [Builder α κ] (c : α) (calls : List κ) : Except Failure α :=
  calls.foldlM call c

open Call (slot)
open Builder (run)

section
variable {α κ : Type} [Builder α κ]

/-- A run of calls goes on where the calls before it left the builder. -/
theorem run_append (c : α) (before after : List κ) :
    run c (before ++ after) = (run c before).bind fun d => run d after :=
  List.foldlM_append

/-- A run of one call is that call. -/
theorem run_singleton (c : α) (x : κ) : run c [x] = Builder.call c x := by
  rw [run, List.foldlM_cons]
  cases Builder.call c x <;> rfl

end

/-- The last call for each slot. -/
def last {κ : Type} [Call κ] (calls : List κ) (s : Slot) : Option κ :=
  calls.reverse.find? fun x => slot x = s

/-! ## The last calls -/

section
variable {κ : Type} [Call κ] {calls before after : List κ} {x y : κ} {s : Slot}

@[simp] theorem last_nil : last ([] : List κ) = fun _ => none := rfl

/-- A slot was last filled by the later calls, and by the earlier ones if those do not fill it. -/
theorem last_append (before after : List κ) (s : Slot) :
    last (before ++ after) s = (last after s).or (last before s) := by
  simp [last]

/-- A call fills its slot unless a later one does. -/
theorem last_cons (x : κ) (calls : List κ) (s : Slot) :
    last (x :: calls) s = (last calls s).or (if slot x = s then some x else none) := by
  by_cases h : slot x = s <;> simp [last, h]

/-- A call is the last one for its slot, and leaves the last calls for other slots. -/
theorem last_append_singleton (calls : List κ) (x : κ) :
    last (calls ++ [x]) = Function.update (last calls) (slot x) (some x) := by
  funext s
  rw [last_append, last_cons, Function.update_apply]
  by_cases h : s = slot x
  · simp [h]
  · simp [h, Ne.symm h]

/-- The last call for a slot is one of the calls, and is for the slot. -/
theorem of_last_eq_some (h : last calls s = some x) : x ∈ calls ∧ slot x = s :=
  ⟨List.mem_reverse.1 (List.mem_of_find?_eq_some h), by simpa using List.find?_some h⟩

/-- There is a last call for the slot of every call. -/
theorem isSome_last (h : x ∈ calls) : (last calls (slot x)).isSome := by
  rw [last, List.find?_isSome]
  exact ⟨x, List.mem_reverse.2 h, by simp⟩

/-- Calls for different slots can be swapped. -/
theorem last_swap (h : slot x ≠ slot y) :
    last (before ++ x :: y :: after) = last (before ++ y :: x :: after) := by
  funext s
  simp only [last_append, last_cons, Option.or_assoc]
  by_cases hx : slot x = s
  · have hy : slot y ≠ s := fun hy => h (hx.trans hy.symm)
    simp [hx, hy]
  · simp [hx]

/-- A call does not matter if a later one is for the same slot. -/
theorem last_drop (hy : y ∈ after) (h : slot y = slot x) :
    last (before ++ x :: after) = last (before ++ after) := by
  funext s
  simp only [last_append, last_cons]
  by_cases hx : slot x = s
  · obtain ⟨z, hz⟩ := Option.isSome_iff_exists.1 (isSome_last hy)
    rw [h, hx] at hz
    simp [hz]
  · simp [hx]

end

/-! ## Builders -/

section
variable {α κ : Type} [Call κ] [Builder α κ]

/-- The order of calls for different slots does not matter, and of calls for the same slot only the
last one does. A sequence fails exactly if one of its calls is refused. -/
structure LastCallsDecide (α : Type) {κ : Type} [Call κ] [Builder α κ] (refused : κ → Prop) :
    Prop where
  /-- A sequence with a refused call fails, and no other does. -/
  fails_iff : ∀ (c : α) (calls : List κ) (f : Failure),
    run c calls = .error f ↔ f = .invalidArgument ∧ ∃ x ∈ calls, refused x
  /-- Sequences with the same last call for each slot build the same. -/
  last_wins : ∀ (c : α) (calls others : List κ),
    (∀ x ∈ calls, ¬refused x) → (∀ x ∈ others, ¬refused x) →
      (∀ s, last calls s = last others s) → run c calls = run c others
  /-- Calls for different slots can be swapped. -/
  swap : ∀ (c : α) (before after : List κ) (x y : κ), slot x ≠ slot y →
    run c (before ++ x :: y :: after) = run c (before ++ y :: x :: after)
  /-- A call that is not refused can be left out if a later one is for the same slot. -/
  drop : ∀ (c : α) (before after : List κ) (x y : κ), ¬refused x → y ∈ after →
    slot y = slot x → run c (before ++ x :: after) = run c (before ++ after)
  /-- A call can be repeated. -/
  again : ∀ (c : α) (before after : List κ) (x : κ),
    run c (before ++ x :: x :: after) = run c (before ++ x :: after)

/-- What one call does: it is refused whatever was built before, or it becomes the last call for its
slot, where `filled` gives the value for the last calls. -/
structure Fills (α : Type) {κ : Type} [Call κ] [Builder α κ] (refused : κ → Prop)
    (filled : α → (Slot → Option κ) → α) : Prop where
  blank : ∀ c : α, filled c (fun _ => none) = c
  accepts : ∀ (c : α) (l : Slot → Option κ) (x : κ), ¬refused x →
    Builder.call (filled c l) x = .ok (filled c (Function.update l (slot x) (some x)))
  refuses : ∀ (c : α) (x : κ), refused x → Builder.call c x = .error .invalidArgument

namespace Fills

variable {refused : κ → Prop} {filled : α → (Slot → Option κ) → α} {calls : List κ}

/-- A sequence without refused calls gives what is filled in from its last calls. -/
theorem run_of_accepted (h : Fills α refused filled) (c : α) (hcalls : ∀ x ∈ calls, ¬refused x) :
    run c calls = .ok (filled c (last calls)) := by
  induction calls using List.reverseRecOn with
  | nil => rw [last_nil, h.blank]; rfl
  | append_singleton calls x ih =>
    have hbefore : ∀ y ∈ calls, ¬refused y := fun y hy => hcalls y (by simp [hy])
    rw [run_append, ih hbefore, Except.bind, run_singleton, h.accepts c _ x (hcalls x (by simp)),
      last_append_singleton]

/-- A refused call ends a sequence. -/
theorem run_of_refused (h : Fills α refused filled) (c : α) (hcalls : ∃ x ∈ calls, refused x) :
    run c calls = .error .invalidArgument := by
  induction calls using List.reverseRecOn with
  | nil => simp at hcalls
  | append_singleton calls x ih =>
    rw [run_append]
    by_cases hbefore : ∃ y ∈ calls, refused y
    · rw [ih hbefore, Except.bind]
    · have hnone : ∀ y ∈ calls, ¬refused y := fun y hy hr => hbefore ⟨y, hy, hr⟩
      have hx : refused x := by
        obtain ⟨y, hy, hr⟩ := hcalls
        rcases List.mem_append.1 hy with hy | hy
        · exact absurd hr (hnone y hy)
        · exact List.mem_singleton.1 hy ▸ hr
      rw [h.run_of_accepted c hnone, Except.bind, run_singleton, h.refuses _ x hx]

/-- Sequences with the same calls refused and the same last calls build the same. -/
theorem run_congr (h : Fills α refused filled) (c : α) {others : List κ}
    (hrefused : ∀ x, refused x → (x ∈ calls ↔ x ∈ others)) (hlast : last calls = last others) :
    run c calls = run c others := by
  by_cases hr : ∃ x ∈ calls, refused x
  · obtain ⟨x, hx, hr⟩ := hr
    rw [h.run_of_refused c ⟨x, hx, hr⟩, h.run_of_refused c ⟨x, (hrefused x hr).1 hx, hr⟩]
  · have hcalls : ∀ x ∈ calls, ¬refused x := fun x hx hx' => hr ⟨x, hx, hx'⟩
    have hothers : ∀ x ∈ others, ¬refused x := fun x hx hx' => hr ⟨x, (hrefused x hx').2 hx, hx'⟩
    rw [h.run_of_accepted c hcalls, h.run_of_accepted c hothers, hlast]

/-- **The last calls decide what is built.** -/
theorem lastCallsDecide (h : Fills α refused filled) : LastCallsDecide α refused where
  fails_iff c calls f := by
    by_cases hr : ∃ x ∈ calls, refused x
    · simp [h.run_of_refused c hr, hr, eq_comm]
    · have hnone : ∀ x ∈ calls, ¬refused x := fun x hx hx' => hr ⟨x, hx, hx'⟩
      simp [h.run_of_accepted c hnone, hr]
  last_wins c calls others hcalls hothers hlast := by
    rw [h.run_of_accepted c hcalls, h.run_of_accepted c hothers, funext hlast]
  swap c before after x y hne := by
    refine h.run_congr c (fun z _ => ?_) (last_swap hne)
    simp only [List.mem_append, List.mem_cons, or_left_comm]
  drop c before after x y hx hy hslot := by
    refine h.run_congr c (fun z hz => ?_) (last_drop hy hslot)
    have hne : z ≠ x := fun he => hx (he ▸ hz)
    simp only [List.mem_append, List.mem_cons, hne, false_or]
  again c before after x := by
    refine h.run_congr c (fun z _ => ?_) (last_drop List.mem_cons_self rfl)
    simp only [List.mem_append, List.mem_cons, or_self_left]

end Fills

end

/-! ## Ranges of a delete -/

/-- A call that narrows a range. -/
inductive RangeCall where
  | start (bound : Bound)
  | stop (bound : Bound)
  | count (n : UInt32)
  deriving DecidableEq, Repr

namespace RangeCall

instance : Call RangeCall where
  slot
    | .start _ => .start
    | .stop _ => .stop
    | .count _ => .count

/-- The bound that a call gives. -/
def bound? : RangeCall → Option Bound
  | .start bound | .stop bound => some bound
  | .count _ => none

/-- The limit that a call gives. -/
def count? : RangeCall → Option UInt32
  | .count n => some n
  | .start _ | .stop _ => none

end RangeCall

namespace DeleteRange

instance : Builder DeleteRange RangeCall where
  call r
    | .start bound => .ok (r.withStart bound)
    | .stop bound => .ok (r.withStop bound)
    | .count n => r.withCount n

/-- The range with the slots for which there is a last call filled in. -/
def filled (r : DeleteRange) (last : Slot → Option RangeCall) : DeleteRange where
  start := ((last .start).bind RangeCall.bound?).or r.start
  stop := ((last .stop).bind RangeCall.bound?).or r.stop
  count := ((last .count).bind RangeCall.count?).or r.count

/-- A call fills in its slot of a range, and only a limit of 0 is refused. -/
theorem fills : Fills DeleteRange (· = RangeCall.count 0) filled where
  blank _ := rfl
  accepts r l x hx := by
    cases x with
    | start bound => simp [Builder.call, slot, withStart, filled, RangeCall.bound?]
    | stop bound => simp [Builder.call, slot, withStop, filled, RangeCall.bound?]
    | count n =>
      have hn : n ≠ 0 := fun h => hx (h ▸ rfl)
      simp [Builder.call, slot, withCount, filled, RangeCall.count?, hn]
  refuses r x hx := by
    subst hx
    rfl

end DeleteRange

/-! ## Listings -/

/-- A call that builds a listing. -/
inductive Listing.Call where
  | range (call : RangeCall)
  | reversed
  | format (format : PrintFormat)
  deriving DecidableEq, Repr

namespace Listing

namespace Call

instance : KctlProbe.Call Listing.Call where
  slot
    | .range x => slot x
    | .reversed => .reverse
    | .format _ => .format

/-- The bound that a call gives. -/
def bound? : Listing.Call → Option Bound
  | .range x => x.bound?
  | .reversed | .format _ => none

/-- The limit that a call gives. -/
def count? : Listing.Call → Option UInt32
  | .range x => x.count?
  | .reversed | .format _ => none

/-- The print format that a call gives. -/
def format? : Listing.Call → Option PrintFormat
  | .format f => some f
  | .range _ | .reversed => none

end Call

instance : Builder Listing Listing.Call where
  call c
    | .range (.start bound) => .ok (c.withStart bound)
    | .range (.stop bound) => .ok (c.withStop bound)
    | .range (.count n) => c.withCount n
    | .reversed => .ok c.reversed
    | .format f => .ok (c.withFormat f)

/-- The listing with the slots for which there is a last call filled in. -/
def filled (c : Listing) (last : Slot → Option Listing.Call) : Listing where
  settings := c.settings
  start := ((last .start).bind Call.bound?).or c.start
  stop := ((last .stop).bind Call.bound?).or c.stop
  count := ((last .count).bind Call.count?).or c.count
  reverse := (last .reverse).isSome || c.reverse
  format := ((last .format).bind Call.format?).or c.format

/-- A call fills in its slot of a listing, and only a limit of 0 is refused. -/
theorem fills : Fills Listing (· = Call.range (.count 0)) filled where
  blank _ := rfl
  accepts c l x hx := by
    cases x with
    | range x =>
      cases x with
      | start bound =>
        simp [Builder.call, slot, withStart, filled, Call.bound?, RangeCall.bound?]
      | stop bound => simp [Builder.call, slot, withStop, filled, Call.bound?, RangeCall.bound?]
      | count n =>
        have hn : n ≠ 0 := fun h => hx (h ▸ rfl)
        simp [Builder.call, slot, withCount, filled, Call.count?, RangeCall.count?, hn]
    | reversed => simp [Builder.call, slot, reversed, filled]
    | format f => simp [Builder.call, slot, withFormat, filled, Call.format?]
  refuses c x hx := by
    subst hx
    rfl

end Listing

/-! ## Puts -/

/-- A call that builds a put. -/
inductive Put.Call where
  | compareAndSwap
  | policy (policy : CachePolicy)
  | checksum (sum : UInt32)
  | zeroFilled (length : UInt32)
  deriving DecidableEq, Repr

namespace Put

namespace Call

instance : KctlProbe.Call Put.Call where
  slot
    | .compareAndSwap => .compare
    | .policy _ => .policy
    | .checksum _ => .checksum
    | .zeroFilled _ => .zeros

/-- The policy that a call gives. -/
def policy? : Put.Call → Option CachePolicy
  | .policy p => some p
  | .compareAndSwap | .checksum _ | .zeroFilled _ => none

/-- The number that a call gives. -/
def number? : Put.Call → Option UInt32
  | .checksum n | .zeroFilled n => some n
  | .compareAndSwap | .policy _ => none

end Call

instance : Builder Put Put.Call where
  call c
    | .compareAndSwap => .ok c.compareAndSwap
    | .policy p => .ok (c.withPolicy p)
    | .checksum sum => .ok (c.withChecksum sum)
    | .zeroFilled length => .ok (c.zeroFilled length)

/-- The put with the slots for which there is a last call filled in. -/
def filled (c : Put) (last : Slot → Option Put.Call) : Put where
  settings := c.settings
  compare := (last .compare).isSome || c.compare
  policy := ((last .policy).bind Call.policy?).or c.policy
  checksum := ((last .checksum).bind Call.number?).or c.checksum
  zeros := ((last .zeros).bind Call.number?).or c.zeros

/-- A call fills in its slot of a put, and none is refused. -/
theorem fills : Fills Put (fun _ => False) filled where
  blank _ := rfl
  accepts c l x _ := by
    cases x with
    | compareAndSwap => simp [Builder.call, slot, compareAndSwap, filled]
    | policy p => simp [Builder.call, slot, withPolicy, filled, Call.policy?]
    | checksum sum => simp [Builder.call, slot, withChecksum, filled, Call.number?]
    | zeroFilled length => simp [Builder.call, slot, zeroFilled, filled, Call.number?]
  refuses _ _ hx := hx.elim

/-- No call that builds a put is refused. -/
theorem run_eq (c : Put) (calls : List Put.Call) : run c calls = .ok (c.filled (last calls)) :=
  fills.run_of_accepted c fun _ _ h => h

end Put

/-! ## Deletes -/

/-- A call that builds a delete, whatever its target is. -/
inductive Delete.Call where
  | compareAndDelete
  | policy (policy : CachePolicy)
  deriving DecidableEq, Repr

namespace Delete

namespace Call

instance : KctlProbe.Call Delete.Call where
  slot
    | .compareAndDelete => .compare
    | .policy _ => .policy

/-- The policy that a call gives. -/
def policy? : Delete.Call → Option CachePolicy
  | .policy p => some p
  | .compareAndDelete => none

end Call

instance : Builder Delete Delete.Call where
  call c
    | .compareAndDelete => .ok c.compareAndDelete
    | .policy p => .ok (c.withPolicy p)

/-- The delete with the slots for which there is a last call filled in. -/
def filled (c : Delete) (last : Slot → Option Delete.Call) : Delete where
  settings := c.settings
  target := c.target
  compare := (last .compare).isSome || c.compare
  policy := ((last .policy).bind Call.policy?).or c.policy

/-- A call fills in its slot of a delete, and none is refused. -/
theorem fills : Fills Delete (fun _ => False) filled where
  blank _ := rfl
  accepts c l x _ := by
    cases x with
    | compareAndDelete => simp [Builder.call, slot, compareAndDelete, filled]
    | policy p => simp [Builder.call, slot, withPolicy, filled, Call.policy?]
  refuses _ _ hx := hx.elim

/-- No call that builds a delete is refused. -/
theorem run_eq (c : Delete) (calls : List Delete.Call) :
    run c calls = .ok (c.filled (last calls)) :=
  fills.run_of_accepted c fun _ _ h => h

end Delete

end KctlProbe
