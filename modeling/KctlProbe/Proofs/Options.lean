import KctlProbe.Proofs.Invocation

/-!
# Empty tokens

A command of any type is itself a command, so what holds of the options of all five types is said
once. No token of the options is empty but for the key of a bound: flags, policies, counts,
checksums and lengths are never empty texts, and the option for a print format is left out when
there is none. A bound is passed on whatever its key is, so an empty key gives an empty token
(`nil_mem_options_iff`).
-/

namespace KctlProbe

open Utf8 (encode)

namespace Invocation

instance : Command Invocation where
  settings
    | .get c => Command.settings c
    | .put c => Command.settings c
    | .delete c => Command.settings c
    | .listing c => Command.settings c
    | .deviceInfo c => Command.settings c
  subCommand
    | .get c => Command.subCommand c
    | .put c => Command.subCommand c
    | .delete c => Command.subCommand c
    | .listing c => Command.subCommand c
    | .deviceInfo c => Command.subCommand c
  options
    | .get c => Command.options c
    | .put c => Command.options c
    | .delete c => Command.options c
    | .listing c => Command.options c
    | .deviceInfo c => Command.options c
  argv := Invocation.argv

/-- The vector of a command of any of the five types has the shared layout. -/
theorem argv_eq_layout (c : Invocation) (positional : List String) :
    c.argv positional =
      layout (Command.settings c) (Command.subCommand c) (Command.options c) positional := by
  cases c <;> rfl

end Invocation

/-! ## Bounds -/

/-- The key of a bound. -/
def Bound.key : Bound → String
  | .inclusive key => key
  | .exclusive key => key

/-- The bounds of a range. -/
def DeleteRange.bounds (r : DeleteRange) : List Bound :=
  r.start.toList ++ r.stop.toList

/-- The bounds of a target. -/
def Delete.Target.bounds : Delete.Target → List Bound
  | .within range => range.bounds
  | .key | .all => []

/-- The range that a listing is over. -/
def Listing.range (c : Listing) : DeleteRange :=
  { start := c.start, stop := c.stop, count := c.count }

/-- The bounds that a command passes on. -/
def Invocation.bounds : Invocation → List Bound
  | .delete c => c.target.bounds
  | .listing c => c.range.bounds
  | .get _ | .put _ | .deviceInfo _ => []

/-- The options of a listing are those of its range, and then its own. -/
theorem Listing.options_eq (c : Listing) :
    c.options = c.range.options ++ Settings.optionIf "-r" c.reverse ++
      Tokens.formatOption c.format := rfl

/-! ## Texts that are never empty -/

/-- A number has at least one digit. -/
theorem decimal_ne_empty (n : Nat) : Text.decimal n ≠ "" := by
  intro h
  have := congrArg String.toList h
  simp [Text.decimal] at this

/-- A checksum has at least one digit. -/
theorem checksumText_ne_empty (sum : UInt32) : Put.checksumText sum ≠ "" := by
  intro h
  have := congrArg String.toList h
  simp [Put.checksumText, Text.padded] at this

/-- A cache policy has a value to name it. -/
theorem policyValue_ne_empty (p : CachePolicy) : p.value ≠ "" := by
  cases p <;> decide

/-- A section has a flag. -/
theorem sectionFlag_ne_empty (s : Section) : s.flag ≠ "" := by
  cases s <;> decide

/-! ## Where an empty token can come from -/

section
variable {flag : String}

/-- An option whose values have texts that are not empty. -/
theorem nil_notMem_optionWith {α : Type} {v : Option α} {text : α → String} (hf : flag ≠ "")
    (htext : ∀ x, text x ≠ "") : [] ∉ Settings.optionWith flag (v.map text) := by
  cases v with
  | none => exact List.not_mem_nil
  | some x =>
    intro h
    rcases List.mem_cons.1 h with h | h
    · exact hf (Utf8.nil_eq_encode_iff.1 h)
    · exact htext x (Utf8.nil_eq_encode_iff.1 (List.mem_singleton.1 h))

/-- A switch has no empty token. -/
theorem nil_notMem_optionIf {b : Bool} (hf : flag ≠ "") : [] ∉ Settings.optionIf flag b := by
  cases b with
  | false => exact List.not_mem_nil
  | true => exact fun h => hf (Utf8.nil_eq_encode_iff.1 (List.mem_singleton.1 h))

/-- A print format has no empty token. -/
theorem nil_notMem_formatOption (f : Option PrintFormat) : [] ∉ Tokens.formatOption f := by
  match f with
  | none | some .chars | some .hex => decide

/-- The option for a bound has an empty token exactly if the key is empty. -/
theorem nil_mem_optionsOf_iff {letter : Char} {b : Option Bound} :
    [] ∈ Bound.optionsOf letter b ↔ ∃ bound ∈ b.toList, bound.key = "" := by
  match b with
  | none => simp [Bound.optionsOf]
  | some (.inclusive key) => simp [Bound.optionsOf, Bound.options, Bound.key]
  | some (.exclusive key) => simp [Bound.optionsOf, Bound.options, Bound.key]

end

/-! ## The options of a command -/

/-- A `put` has no empty token. -/
theorem nil_notMem_put (c : Put) : [] ∉ c.options := by
  have hcompare : [] ∉ Settings.optionIf "-c" c.compare := nil_notMem_optionIf (by decide)
  have hpolicy : [] ∉ CachePolicy.options c.policy :=
    nil_notMem_optionWith (by decide) policyValue_ne_empty
  have hchecksum : [] ∉ Settings.optionWith "-s" (c.checksum.map Put.checksumText) :=
    nil_notMem_optionWith (by decide) checksumText_ne_empty
  have hzeros : [] ∉ Settings.optionWith "-z" (c.zeros.map fun n => Text.decimal n.toNat) :=
    nil_notMem_optionWith (by decide) fun n => decimal_ne_empty n.toNat
  simp only [Put.options, List.mem_append, hcompare, hpolicy, hchecksum, hzeros, or_self,
    not_false_eq_true]

/-- A range has an empty token if and only if one of its bounds has an empty key. -/
theorem nil_mem_range_iff (r : DeleteRange) :
    [] ∈ r.options ↔ ∃ bound ∈ r.bounds, bound.key = "" := by
  have hcount : [] ∉ Settings.optionWith "-n" (r.count.map fun n => Text.decimal n.toNat) :=
    nil_notMem_optionWith (by decide) fun n => decimal_ne_empty n.toNat
  simp only [DeleteRange.options, DeleteRange.bounds, List.mem_append, nil_mem_optionsOf_iff,
    hcount, false_or, or_and_right, exists_or]

/-- A target has an empty token if and only if one of its bounds has an empty key. -/
theorem nil_mem_target_iff (t : Delete.Target) :
    [] ∈ t.options ↔ ∃ bound ∈ t.bounds, bound.key = "" := by
  cases t with
  | key => exact iff_of_false List.not_mem_nil (by simp [Delete.Target.bounds])
  | within range => exact nil_mem_range_iff range
  | all => exact iff_of_false (by decide) (by simp [Delete.Target.bounds])

/-- A `del` has an empty token if and only if a bound of its target has an empty key. -/
theorem nil_mem_delete_iff (c : Delete) :
    [] ∈ c.options ↔ ∃ bound ∈ c.target.bounds, bound.key = "" := by
  have hcompare : [] ∉ Settings.optionIf "-c" c.compare := nil_notMem_optionIf (by decide)
  have hpolicy : [] ∉ CachePolicy.options c.policy :=
    nil_notMem_optionWith (by decide) policyValue_ne_empty
  simp only [Delete.options, List.mem_append, hcompare, hpolicy, false_or, nil_mem_target_iff]

/-- A listing has an empty token if and only if a bound of its range has an empty key. -/
theorem nil_mem_listing_iff (c : Listing) :
    [] ∈ c.options ↔ ∃ bound ∈ c.range.bounds, bound.key = "" := by
  have hreverse : [] ∉ Settings.optionIf "-r" c.reverse := nil_notMem_optionIf (by decide)
  simp only [Listing.options_eq, List.mem_append, hreverse, nil_notMem_formatOption, or_false,
    nil_mem_range_iff]

/-- An `info` has no empty token. -/
theorem nil_notMem_deviceInfo (c : DeviceInfo) : [] ∉ c.options := by
  intro h
  obtain ⟨s, -, hs⟩ := List.mem_map.1 h
  exact sectionFlag_ne_empty s (Utf8.encode_eq_nil_iff.1 hs)

/-- **Only an empty key gives an empty token.** The options of a command of any type hold an empty
token exactly if the command passes on a bound whose key is empty. -/
theorem nil_mem_options_iff (c : Invocation) :
    [] ∈ Command.options c ↔ ∃ bound ∈ c.bounds, bound.key = "" := by
  cases c with
  | get c => exact iff_of_false (nil_notMem_formatOption c.format) (by simp [Invocation.bounds])
  | put c => exact iff_of_false (nil_notMem_put c) (by simp [Invocation.bounds])
  | delete c => exact nil_mem_delete_iff c
  | listing c => exact nil_mem_listing_iff c
  | deviceInfo c => exact iff_of_false (nil_notMem_deviceInfo c) (by simp [Invocation.bounds])

/-- A listing from the empty key on passes on an empty token. -/
theorem nil_mem_options_emptyStart :
    [] ∈ Command.options
      (Invocation.listing ((Listing.new .default).withStart (.inclusive ""))) := by
  decide

end KctlProbe
