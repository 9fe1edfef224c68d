import KctlProbe.Proofs.Building.Calls
import KctlProbe.Proofs.Invocation

/-!
# The options that calls build

The options of a command that was built by calls are the spellings of the last calls, one slot after
the other in an order that the type of the command fixes (`InOrder`); a slot without a call has no
tokens. How a call is spelled is a relation for each type of calls: bounds have the capital letter
exactly if they are inclusive, limits and lengths are decimals without leading zeros, and a checksum
has eight hexadecimal digits in lower case.

`calls_fill_record` puts this together with what `LastCallsDecide` says about sequences of calls.
-/

namespace KctlProbe

open Utf8 (encode)
open Call (slot)
open Builder (run)

/-! ## Grammar -/

/-- The tokens of a slot: none without a call for it, else a spelling of the call. -/
inductive Part {κ : Type} (spelled : κ → List Bytes → Prop) : Option κ → List Bytes → Prop
  | absent : Part spelled none []
  | present {x : κ} {tokens : List Bytes} : spelled x tokens → Part spelled (some x) tokens

/-- Tokens that spell the last calls for slots in the order of the slots. -/
inductive InOrder {κ : Type} (spelled : κ → List Bytes → Prop) (last : Slot → Option κ) :
    List Slot → List Bytes → Prop
  | nil : InOrder spelled last [] []
  | cons {s : Slot} {slots : List Slot} {part tokens : List Bytes} :
    Part spelled (last s) part → InOrder spelled last slots tokens →
      InOrder spelled last (s :: slots) (part ++ tokens)

/-- How a call that narrows a range is spelled. -/
inductive RangeCall.Spelled : RangeCall → List Bytes → Prop
  | inclusiveStart (key : String) : Spelled (.start (.inclusive key)) [encode "-S", encode key]
  | exclusiveStart (key : String) : Spelled (.start (.exclusive key)) [encode "-s", encode key]
  | inclusiveStop (key : String) : Spelled (.stop (.inclusive key)) [encode "-E", encode key]
  | exclusiveStop (key : String) : Spelled (.stop (.exclusive key)) [encode "-e", encode key]
  | count {n : UInt32} {ds : List Nat} {text : String} : 1 ≤ n.toNat → Text.Canonical ds →
      Text.Denotes 10 ds text n.toNat → Spelled (.count n) [encode "-n", encode text]

/-- How a call that builds a listing is spelled. -/
inductive Listing.Call.Spelled : Listing.Call → List Bytes → Prop
  | range {x : RangeCall} {tokens : List Bytes} : x.Spelled tokens → Spelled (.range x) tokens
  | reversed : Spelled .reversed [encode "-r"]
  | chars : Spelled (.format .chars) [encode "-A"]
  | hex : Spelled (.format .hex) [encode "-X"]

/-- How a call that builds a put is spelled. -/
inductive Put.Call.Spelled : Put.Call → List Bytes → Prop
  | compareAndSwap : Spelled .compareAndSwap [encode "-c"]
  | policy (p : CachePolicy) : Spelled (.policy p) [encode "-p", encode p.value]
  | checksum {sum : UInt32} {ds : List Nat} {text : String} : ds.length = 8 →
      Text.Denotes 16 ds text sum.toNat → Spelled (.checksum sum) [encode "-s", encode text]
  | zeroFilled {n : UInt32} {ds : List Nat} {text : String} : Text.Canonical ds →
      Text.Denotes 10 ds text n.toNat → Spelled (.zeroFilled n) [encode "-z", encode text]

/-- How a call that builds a delete is spelled. -/
inductive Delete.Call.Spelled : Delete.Call → List Bytes → Prop
  | compareAndDelete : Spelled .compareAndDelete [encode "-c"]
  | policy (p : CachePolicy) : Spelled (.policy p) [encode "-p", encode p.value]

/-- What is written for a slot is a part if it spells every call for the slot, and is nothing
without a call. -/
theorem Part.of_last {κ : Type} [Call κ] (spelled : κ → List Bytes → Prop) (calls : List κ)
    (s : Slot) (written : Option κ → List Bytes) (hnone : written none = [])
    (hsome : ∀ x ∈ calls, slot x = s → spelled x (written (some x))) :
    Part spelled (last calls s) (written (last calls s)) := by
  cases hx : last calls s with
  | none =>
    rw [hnone]
    exact .absent
  | some x =>
    obtain ⟨hmem, hslot⟩ := of_last_eq_some hx
    exact .present (hsome x hmem hslot)

/-! ## Spellings -/

/-- A checksum has eight digits. -/
theorem exists_denotes_checksum (sum : UInt32) :
    ∃ ds, ds.length = 8 ∧ Text.Denotes 16 ds (Put.checksumText sum) sum.toNat := by
  obtain ⟨ds, hds, hlt, hval, -, hlength⟩ :=
    Text.exists_padded (by decide : 1 < 16) 8 sum.toNat
  have hsum : sum.toNat < 16 ^ 8 := sum.toNat_lt
  exact ⟨ds, hlength (by decide) hsum, hlt,
    by rw [Put.checksumText, String.toList_ofList, hds], hval⟩

namespace RangeCall

variable {x : RangeCall}

/-- A call for the count is spelled as the options hold it. -/
theorem spelled_count (hslot : slot x = .count) (hx : x ≠ .count 0) :
    x.Spelled (Settings.optionWith "-n" (x.count?.map fun n => Text.decimal n.toNat)) := by
  cases x with
  | count n =>
    obtain ⟨ds, hcan, hds⟩ := Text.exists_denotes_decimal n.toNat
    have hn : n.toNat ≠ 0 := fun h => hx (congrArg _ (UInt32.toNat_inj.1 h))
    exact .count (Nat.one_le_iff_ne_zero.2 hn) hcan hds
  | start | stop => cases hslot

/-- A call for the lower bound is spelled as the options hold it. -/
theorem spelled_start (hslot : slot x = .start) : x.Spelled (Bound.optionsOf 's' x.bound?) := by
  cases x with
  | start bound =>
    cases bound with
    | inclusive key => exact .inclusiveStart key
    | exclusive key => exact .exclusiveStart key
  | stop | count => cases hslot

/-- A call for the upper bound is spelled as the options hold it. -/
theorem spelled_stop (hslot : slot x = .stop) : x.Spelled (Bound.optionsOf 'e' x.bound?) := by
  cases x with
  | stop bound =>
    cases bound with
    | inclusive key => exact .inclusiveStop key
    | exclusive key => exact .exclusiveStop key
  | start | count => cases hslot

end RangeCall

/-! ## The options of each command -/

/-- The options of a range spell its limit, its lower bound and its upper bound. -/
theorem DeleteRange.options_inOrder {calls : List RangeCall} (h : RangeCall.count 0 ∉ calls) :
    InOrder RangeCall.Spelled (last calls) [.count, .start, .stop]
      (DeleteRange.new.filled (last calls)).options := by
  have hcount := Part.of_last RangeCall.Spelled calls .count
    (fun l => Settings.optionWith "-n"
      ((l.bind RangeCall.count?).map fun n => Text.decimal n.toNat)) rfl
    fun x hmem hslot => RangeCall.spelled_count hslot fun h0 => h (h0 ▸ hmem)
  have hstart := Part.of_last RangeCall.Spelled calls .start
    (fun l => Bound.optionsOf 's' (l.bind RangeCall.bound?)) rfl
    fun _ _ hslot => RangeCall.spelled_start hslot
  have hstop := Part.of_last RangeCall.Spelled calls .stop
    (fun l => Bound.optionsOf 'e' (l.bind RangeCall.bound?)) rfl
    fun _ _ hslot => RangeCall.spelled_stop hslot
  have horder := InOrder.cons hcount (.cons hstart (.cons hstop .nil))
  simpa only [options, filled, new, Option.or_none, List.append_assoc, List.append_nil]
    using horder

namespace Listing

section
variable {x : Listing.Call}

/-- The count of a listing is spelled like that of a range. -/
theorem Call.spelled_count (hslot : slot x = .count) (hx : x ≠ .range (.count 0)) :
    x.Spelled (Settings.optionWith "-n" (x.count?.map fun n => Text.decimal n.toNat)) := by
  cases x with
  | range x => exact .range (RangeCall.spelled_count hslot fun h => hx (congrArg _ h))
  | reversed | format => cases hslot

/-- The lower bound of a listing is spelled like that of a range. -/
theorem Call.spelled_start (hslot : slot x = .start) :
    x.Spelled (Bound.optionsOf 's' x.bound?) := by
  cases x with
  | range x => exact .range (RangeCall.spelled_start hslot)
  | reversed | format => cases hslot

/-- The upper bound of a listing is spelled like that of a range. -/
theorem Call.spelled_stop (hslot : slot x = .stop) :
    x.Spelled (Bound.optionsOf 'e' x.bound?) := by
  cases x with
  | range x => exact .range (RangeCall.spelled_stop hslot)
  | reversed | format => cases hslot

/-- No call that narrows the range is a switch or gives a format. -/
theorem slot_range (x : RangeCall) : slot x ≠ .reverse ∧ slot x ≠ .format := by
  cases x <;> exact ⟨nofun, nofun⟩

/-- A listing in reverse order is spelled by its switch. -/
theorem Call.spelled_reverse (hslot : slot x = .reverse) : x.Spelled [encode "-r"] := by
  cases x with
  | range x => exact absurd hslot (slot_range x).1
  | reversed => exact .reversed
  | format => cases hslot

/-- The print format of a listing is spelled by its flag. -/
theorem Call.spelled_format (hslot : slot x = .format) :
    x.Spelled (Tokens.formatOption x.format?) := by
  cases x with
  | range x => exact absurd hslot (slot_range x).2
  | reversed => cases hslot
  | format f =>
    cases f with
    | chars => exact .chars
    | hex => exact .hex

end

/-- The options of a listing spell its limit, its bounds, its direction and its format. -/
theorem options_inOrder {settings : Settings} {calls : List Listing.Call}
    (h : Call.range (.count 0) ∉ calls) :
    InOrder Call.Spelled (last calls) [.count, .start, .stop, .reverse, .format]
      ((Listing.new settings).filled (last calls)).options := by
  have hcount := Part.of_last Call.Spelled calls .count
    (fun l => Settings.optionWith "-n"
      ((l.bind Call.count?).map fun n => Text.decimal n.toNat)) rfl
    fun x hmem hslot => Call.spelled_count hslot fun h0 => h (h0 ▸ hmem)
  have hstart := Part.of_last Call.Spelled calls .start
    (fun l => Bound.optionsOf 's' (l.bind Call.bound?)) rfl
    fun _ _ hslot => Call.spelled_start hslot
  have hstop := Part.of_last Call.Spelled calls .stop
    (fun l => Bound.optionsOf 'e' (l.bind Call.bound?)) rfl
    fun _ _ hslot => Call.spelled_stop hslot
  have hreverse := Part.of_last Call.Spelled calls .reverse
    (fun l => Settings.optionIf "-r" l.isSome) rfl
    fun _ _ hslot => Call.spelled_reverse hslot
  have hformat := Part.of_last Call.Spelled calls .format
    (fun l => Tokens.formatOption (l.bind Call.format?)) rfl
    fun _ _ hslot => Call.spelled_format hslot
  have horder := InOrder.cons hcount
    (.cons hstart (.cons hstop (.cons hreverse (.cons hformat .nil))))
  simpa only [options, filled, new, Tokens.formatOption, Option.or_none, Bool.or_false,
    List.append_assoc, List.append_nil] using horder

end Listing

namespace Put

section
variable {x : Put.Call}

/-- A `put` that compares is spelled by its switch. -/
theorem Call.spelled_compare (hslot : slot x = .compare) : x.Spelled [encode "-c"] := by
  cases x with
  | compareAndSwap => exact .compareAndSwap
  | policy | checksum | zeroFilled => cases hslot

/-- The cache policy of `put` is spelled behind its flag. -/
theorem Call.spelled_policy (hslot : slot x = .policy) :
    x.Spelled (CachePolicy.options x.policy?) := by
  cases x with
  | policy p => exact .policy p
  | compareAndSwap | checksum | zeroFilled => cases hslot

/-- The checksum of `put` is spelled behind its flag, in hexadecimal digits. -/
theorem Call.spelled_checksum (hslot : slot x = .checksum) :
    x.Spelled (Settings.optionWith "-s" (x.number?.map checksumText)) := by
  cases x with
  | checksum sum =>
    obtain ⟨ds, hlength, hds⟩ := exists_denotes_checksum sum
    exact .checksum hlength hds
  | compareAndSwap | policy | zeroFilled => cases hslot

/-- The zeros of `put` are spelled behind their flag. -/
theorem Call.spelled_zeros (hslot : slot x = .zeros) :
    x.Spelled (Settings.optionWith "-z" (x.number?.map fun n => Text.decimal n.toNat)) := by
  cases x with
  | zeroFilled n =>
    obtain ⟨ds, hcan, hds⟩ := Text.exists_denotes_decimal n.toNat
    exact .zeroFilled hcan hds
  | compareAndSwap | policy | checksum => cases hslot

end

/-- The options of a put spell its switch, its policy, its checksum and its length. -/
theorem options_inOrder {settings : Settings} {calls : List Put.Call} :
    InOrder Call.Spelled (last calls) [.compare, .policy, .checksum, .zeros]
      ((Put.new settings).filled (last calls)).options := by
  have hcompare := Part.of_last Call.Spelled calls .compare
    (fun l => Settings.optionIf "-c" l.isSome) rfl fun _ _ hslot => Call.spelled_compare hslot
  have hpolicy := Part.of_last Call.Spelled calls .policy
    (fun l => CachePolicy.options (l.bind Call.policy?)) rfl
    fun _ _ hslot => Call.spelled_policy hslot
  have hchecksum := Part.of_last Call.Spelled calls .checksum
    (fun l => Settings.optionWith "-s" ((l.bind Call.number?).map checksumText)) rfl
    fun _ _ hslot => Call.spelled_checksum hslot
  have hzeros := Part.of_last Call.Spelled calls .zeros
    (fun l => Settings.optionWith "-z"
      ((l.bind Call.number?).map fun n => Text.decimal n.toNat)) rfl
    fun _ _ hslot => Call.spelled_zeros hslot
  have horder := InOrder.cons hcompare
    (.cons hpolicy (.cons hchecksum (.cons hzeros .nil)))
  simpa only [options, filled, new, Option.or_none, Bool.or_false, List.append_assoc,
    List.append_nil] using horder

end Put

namespace Delete

section
variable {x : Delete.Call}

/-- A `del` that compares is spelled by its switch. -/
theorem Call.spelled_compare (hslot : slot x = .compare) : x.Spelled [encode "-c"] := by
  cases x with
  | compareAndDelete => exact .compareAndDelete
  | policy => cases hslot

/-- The cache policy of `del` is spelled behind its flag. -/
theorem Call.spelled_policy (hslot : slot x = .policy) :
    x.Spelled (CachePolicy.options x.policy?) := by
  cases x with
  | policy p => exact .policy p
  | compareAndDelete => cases hslot

end

/-- The options of a delete in front of those of its target. -/
def front (c : Delete) : List Bytes :=
  Settings.optionIf "-c" c.compare ++ CachePolicy.options c.policy

/-- The options of a delete in front of those of its target spell its switch and its policy, if
neither is set at the start. -/
theorem front_inOrder {c : Delete} {calls : List Delete.Call} (hcompare : c.compare = false)
    (hpolicy : c.policy = none) :
    InOrder Call.Spelled (last calls) [.compare, .policy] (c.filled (last calls)).front := by
  have hcompare' := Part.of_last Call.Spelled calls .compare
    (fun l => Settings.optionIf "-c" l.isSome) rfl fun _ _ hslot => Call.spelled_compare hslot
  have hpolicy' := Part.of_last Call.Spelled calls .policy
    (fun l => CachePolicy.options (l.bind Call.policy?)) rfl
    fun _ _ hslot => Call.spelled_policy hslot
  have horder := InOrder.cons hcompare' (.cons hpolicy' .nil)
  simpa only [front, filled, hcompare, hpolicy, Option.or_none, Bool.or_false, List.append_nil]
    using horder

end Delete

/-- **Calls fill in a record.** For listings, puts, ranges of a delete and deletes, a sequence of
calls fails exactly if it has a limit of 0, and otherwise the last calls decide what is built. The
settings are those at the start, and the options spell the last calls in a fixed order. Those of a
delete go before the options of its target: none for a key, the options of its range, or the option
for every key. -/
theorem calls_fill_record (settings : Settings) :
    (LastCallsDecide Listing (· = .range (.count 0)) ∧
      ∀ calls : List Listing.Call, .range (.count 0) ∉ calls →
        ∃ c, run (Listing.new settings) calls = .ok c ∧ c.settings = settings ∧
          InOrder Listing.Call.Spelled (last calls) [.count, .start, .stop, .reverse, .format]
            c.options) ∧
    (LastCallsDecide Put (fun _ => False) ∧
      ∀ calls : List Put.Call,
        ∃ c, run (Put.new settings) calls = .ok c ∧ c.settings = settings ∧
          InOrder Put.Call.Spelled (last calls) [.compare, .policy, .checksum, .zeros]
            c.options) ∧
    (LastCallsDecide DeleteRange (· = .count 0) ∧
      ∀ calls : List RangeCall, .count 0 ∉ calls →
        ∃ r, run DeleteRange.new calls = .ok r ∧
          InOrder RangeCall.Spelled (last calls) [.count, .start, .stop] r.options) ∧
    (LastCallsDecide Delete (fun _ => False) ∧
      ∀ calls : List Delete.Call,
        ∃ front, InOrder Delete.Call.Spelled (last calls) [.compare, .policy] front ∧
          (∃ d, run (Delete.new settings) calls = .ok d ∧ d.settings = settings ∧
            d.options = front) ∧
          (∀ r, ∃ d, run (Delete.ofRange settings r) calls = .ok d ∧ d.settings = settings ∧
            d.options = front ++ r.options) ∧
          ∃ d, run (Delete.all settings) calls = .ok d ∧ d.settings = settings ∧
            d.options = front ++ [encode "-a"]) := by
  refine ⟨⟨Listing.fills.lastCallsDecide, fun calls h => ?_⟩,
    ⟨Put.fills.lastCallsDecide, fun calls => ?_⟩,
    ⟨DeleteRange.fills.lastCallsDecide, fun calls h => ?_⟩,
    ⟨Delete.fills.lastCallsDecide, fun calls => ?_⟩⟩
  · have hrun := Listing.fills.run_of_accepted (Listing.new settings) fun x hx h0 => h (h0 ▸ hx)
    exact ⟨_, hrun, rfl, Listing.options_inOrder h⟩
  · exact ⟨_, Put.run_eq _ calls, rfl, Put.options_inOrder⟩
  · have hrun := DeleteRange.fills.run_of_accepted .new fun x hx h0 => h (h0 ▸ hx)
    exact ⟨_, hrun, DeleteRange.options_inOrder h⟩
  · refine ⟨_, Delete.front_inOrder (c := Delete.new settings) rfl rfl,
      ⟨_, Delete.run_eq _ calls, rfl, ?_⟩, fun r => ⟨_, Delete.run_eq _ calls, rfl, rfl⟩,
      ⟨_, Delete.run_eq _ calls, rfl, rfl⟩⟩
    exact List.append_nil _

/-- A bound that is overwritten, a switch that is made twice and a limit. -/
theorem calls_fill_record_overwritten :
    let calls : List Listing.Call :=
      [.range (.start (.inclusive "-n")), .reversed, .range (.start (.exclusive "-r")), .reversed,
        .range (.count 10)]
    .range (.count 0) ∉ calls ∧
      run (Listing.new .default) calls = run (Listing.new .default) calls.tail ∧
      ∃ c, run (Listing.new .default) calls = .ok c ∧ c.settings = .default := by
  intro calls
  have hcalls : .range (.count 0) ∉ calls := by decide
  obtain ⟨⟨hlast, hbuilt⟩, -⟩ := calls_fill_record .default
  obtain ⟨c, hc, hsettings, -⟩ := hbuilt calls hcalls
  have hdrop := hlast.drop (Listing.new .default) [] calls.tail
    (.range (.start (.inclusive "-n"))) (.range (.start (.exclusive "-r"))) (by decide)
    (by decide) rfl
  exact ⟨hcalls, hdrop, c, hc, hsettings⟩

end KctlProbe
