import KctlProbe.Proofs.Json.Written
import KctlProbe.Proofs.Options
import KctlProbe.Proofs.Settings.Acceptance
import KctlProbe.Proofs.Settings.Delivery

/-!
# Numbers from the file to the command line

Three fields hold a number. On its way from a configuration to the argument vector of a command a
number is digits, then a machine integer, then digits again. A field takes a spelled number exactly
if it is an integer within the range of the field (`isSome_value?_iff`), and a number that is taken
is kept as its value (`integer?_of_value?`). There is one spelling of an integer, so the digits that
are passed on are those of the file (`bytes_eq_encode`). What is not taken is refused, so nothing is
wrapped, cut or rounded on the way (`loads_number`).
-/

namespace KctlProbe.Settings

open Json (Source Fault Tree Entry Figure)
open Utf8 (encode)

/-- A field that holds a number. -/
inductive NumberField where
  | port
  | user
  | clusterVersion
  deriving DecidableEq, Repr

namespace NumberField

/-- The field of the settings. -/
def field : NumberField → Field
  | .port => .port
  | .user => .user
  | .clusterVersion => .clusterVersion

/-- The option that passes the number on. -/
def flag : NumberField → String
  | .port => "-p"
  | .user => "-u"
  | .clusterVersion => "-c"

/-- The number in the settings, if there is one. -/
def number? : NumberField → Settings → Option Int
  | .port, c => some c.port.toNat
  | .user, c => c.user.map Int64.toInt
  | .clusterVersion, c => c.clusterVersion.map Int64.toInt

/-- The common options in front of the one that passes the number on. -/
def front : NumberField → Settings → List Bytes
  | .port, c => optionWith "-h" (some c.host)
  | .user, c =>
    optionWith "-h" (some c.host) ++ optionWith "-p" (some (Text.decimal c.port.toNat))
  | .clusterVersion, c =>
    optionWith "-h" (some c.host) ++ optionWith "-p" (some (Text.decimal c.port.toNat)) ++
      optionWith "-u" (c.user.map fun n => Text.signedDecimal n.toInt) ++
      optionWith "-m" c.hmacKey ++ optionIf "-s" c.tls

/-- The spelled numbers that the field can hold: integers without fraction and exponent. A port has
no sign and at most 16 bits, the others have 64 bits with a sign and are not minus zero. -/
def Takes (n : NumberField) (f : Figure) : Prop :=
  f.fraction = none ∧ f.power = none ∧
    match n with
    | .port => f.negative = false ∧ f.whole.value ≤ 65535
    | .user | .clusterVersion =>
      ¬ (f.negative = true ∧ f.whole.value = 0) ∧
        -9223372036854775808 ≤ f.value ∧ f.value ≤ 9223372036854775807

instance : (n : NumberField) → (f : Figure) → Decidable (n.Takes f)
  | .port, _ => inferInstanceAs (Decidable (_ ∧ _ ∧ _ ∧ _))
  | .user, _ | .clusterVersion, _ => inferInstanceAs (Decidable (_ ∧ _ ∧ _ ∧ _ ∧ _))

end NumberField

section
variable {n : NumberField} {f : Figure} {c : Settings} {z low high : Int}

/-! ## From the file to the settings -/

/-- A figure is an integer within bounds if it is that integer and the bounds hold it. -/
theorem integer?_number_eq_some_iff :
    (Tree.number f).integer? low high = some z ↔ f.integer? = some z ∧ low ≤ z ∧ z ≤ high := by
  rw [Tree.integer?, Option.filter_eq_some_iff, decide_eq_true_eq]

/-- A figure is some integer within bounds if it is whole, not minus zero, and between them. -/
theorem isSome_integer?_number_iff :
    ((Tree.number f).integer? low high).isSome ↔
      f.fraction = none ∧ f.power = none ∧ ¬ (f.negative = true ∧ f.whole.value = 0) ∧
        low ≤ f.value ∧ f.value ≤ high := by
  simp only [Option.isSome_iff_exists, integer?_number_eq_some_iff, Figure.integer?_eq_some_iff]
  constructor
  · rintro ⟨_, ⟨hfraction, hpower, hzero, rfl⟩, hrange⟩
    exact ⟨hfraction, hpower, hzero, hrange⟩
  · rintro ⟨hfraction, hpower, hzero, hrange⟩
    exact ⟨_, ⟨hfraction, hpower, hzero, rfl⟩, hrange⟩

/-- A number without a sign is one from zero on that is not minus zero. -/
theorem negative_eq_false_iff :
    f.negative = false ∧ f.whole.value ≤ 65535 ↔
      ¬ (f.negative = true ∧ f.whole.value = 0) ∧ 0 ≤ f.value ∧ f.value ≤ 65535 := by
  rw [Figure.value]
  cases f.negative with
  | false =>
    simp only [Bool.false_eq_true, if_false, false_and, true_and, not_false_eq_true]
    omega
  | true =>
    simp only [Bool.true_eq_false, if_true, false_and, true_and, false_iff]
    omega

/-- **What a field takes.** A number means something for a field if the field can hold it. -/
theorem isSome_value?_iff : (n.field.value? (.number f)).isSome ↔ n.Takes f := by
  cases n with
  | port =>
    simp only [NumberField.field, Field.value?, Option.isSome_map, isSome_integer?_number_iff,
      NumberField.Takes, negative_eq_false_iff]
  | user | clusterVersion =>
    simp only [NumberField.field, Field.value?, Tree.nullable?, Field.value?.integer64?,
      Option.isSome_map, isSome_integer?_number_iff, NumberField.Takes]

/-- An integer of 64 bits is kept as it is. -/
theorem integer?_of_integer64? {u : Int64}
    (h : Field.value?.integer64? (.number f) = some u) : f.integer? = some u.toInt := by
  obtain ⟨z, hz, rfl⟩ := Option.map_eq_some_iff.1 h
  obtain ⟨hz, hlow, hhigh⟩ := integer?_number_eq_some_iff.1 hz
  rwa [Int64.toInt_ofInt_of_le hlow (by omega)]

/-- **What a field holds.** A number that a field takes is the number in the settings. -/
theorem integer?_of_value? (h : n.field.value? (.number f) = some (c.value n.field)) :
    ∃ z, f.integer? = some z ∧ n.number? c = some z := by
  cases n with
  | port =>
    obtain ⟨z, hz, hport⟩ := Option.map_eq_some_iff.1 h
    obtain ⟨hz, hlow, hhigh⟩ := integer?_number_eq_some_iff.1 hz
    have hport : UInt16.ofNat z.toNat = c.port := Assignment.port.inj hport
    have hnat : c.port.toNat = z.toNat := by
      rw [← hport, UInt16.toNat_ofNat', Nat.mod_eq_of_lt (by omega)]
    refine ⟨z, hz, ?_⟩
    rw [NumberField.number?, hnat, Int.toNat_of_nonneg hlow]
  | user =>
    obtain ⟨x, hx, huser⟩ := Option.map_eq_some_iff.1 h
    obtain ⟨u, hu, rfl⟩ := Option.map_eq_some_iff.1 hx
    have huser : some u = c.user := Assignment.user.inj huser
    exact ⟨_, integer?_of_integer64? hu, by rw [NumberField.number?, ← huser, Option.map_some]⟩
  | clusterVersion =>
    obtain ⟨x, hx, hversion⟩ := Option.map_eq_some_iff.1 h
    obtain ⟨u, hu, rfl⟩ := Option.map_eq_some_iff.1 hx
    have hversion : some u = c.clusterVersion := Assignment.clusterVersion.inj hversion
    exact ⟨_, integer?_of_integer64? hu, by rw [NumberField.number?, ← hversion, Option.map_some]⟩

/-! ## From the settings to the command line -/

/-- A number in the settings is passed on in decimal. -/
theorem exists_commonOptions_eq (n : NumberField) (c : Settings) :
    ∃ rest, c.commonOptions =
      n.front c ++ (optionWith n.flag ((n.number? c).map Text.signedDecimal) ++ rest) := by
  cases n with
  | port => exact ⟨_, by simp only [commonOptions, List.append_assoc]; rfl⟩
  | user | clusterVersion =>
    rw [NumberField.number?, Option.map_map]
    exact ⟨_, by simp only [commonOptions, NumberField.front, List.append_assoc]; rfl⟩

/-- The digits of a number that denotes an integer are those that the integer is written with. -/
theorem bytes_eq_encode (h : f.integer? = some z) : f.bytes = encode (Text.signedDecimal z) :=
  Figure.bytes_of_integer? h

end

/-- **Numbers are exact from the file to the command line.** Where a member gives a number for a
field, the file is loaded if and only if the field can hold the number, the file is loaded without
the member, and no other member names the field. Whenever it is loaded, the settings have the value
of the digits in that field, and every command with these settings passes on the digits themselves,
right behind the option of the field. A number that the field cannot hold is refused, whatever the
other members are. -/
theorem loads_number {d : Document} {before after : List (Entry Tree)} {e : Entry Tree}
    {n : NumberField} {f : Figure} (hentries : d.entries = before ++ e :: after)
    (hname : Json.text? e.name = some n.field.name) (hvalue : e.value = .number f) :
    ((∃ c, Loads (.ofBytes d.bytes) (.ok c)) ↔
      n.Takes f ∧
      (∃ c, Loads (.ofBytes { d with entries := before ++ after }.bytes) (.ok c)) ∧
      ∀ e' ∈ before ++ after, Json.text? e'.name ≠ some n.field.name) ∧
    (∀ c, Loads (.ofBytes d.bytes) (.ok c) →
      n.number? c = some f.value ∧
      ∀ (x : Invocation) (positional : List String), Command.settings x = c →
        ∃ rest, x.argv positional =
          c.program :: n.front c ++ encode n.flag :: f.bytes :: rest) ∧
    (¬ n.Takes f →
      ∃ fault : Fault, fault.OfText ∧ Loads (.ofBytes d.bytes) (.error (.ofFault fault))) := by
  have hloads : (∃ c, Loads (.ofBytes d.bytes) (.ok c)) ↔
      n.Takes f ∧
      (∃ c, Loads (.ofBytes { d with entries := before ++ after }.bytes) (.ok c)) ∧
      ∀ e' ∈ before ++ after, Json.text? e'.name ≠ some n.field.name := by
    have hperm : d.entries.Perm (e :: (before ++ after)) := hentries ▸ List.perm_middle
    rw [exists_loads_iff, exists_loads_iff, ← isSome_value?_iff, ← hvalue,
      ← acceptable_cons_iff hname]
    exact ⟨fun h => h.perm hperm.symm, fun h => h.perm hperm⟩
  refine ⟨hloads, fun c hc => ?_, fun hnot => ?_⟩
  · obtain ⟨hacc, rfl⟩ := ofSource_document_iff.1 (loads_ok_iff.1 hc)
    have he : e ∈ d.entries := hentries ▸ List.mem_append_right _ List.mem_cons_self
    obtain ⟨a, ha, hassignment, hfield⟩ := exists_assignment (hacc.meaningful e he) hname
    have hheld : d.settings.value n.field = a := by
      rw [← hfield]
      exact value_foldl_assign_of_mem hacc.once (List.mem_filterMap.2 ⟨e, he, hassignment⟩)
    obtain ⟨z, hz, hnumber⟩ := integer?_of_value? (hheld ▸ hvalue ▸ ha)
    obtain ⟨-, -, -, rfl⟩ := Figure.integer?_eq_some_iff.1 hz
    refine ⟨hnumber, fun x positional hx => ?_⟩
    obtain ⟨rest, hrest⟩ := exists_commonOptions_eq n d.settings
    rw [hnumber, Option.map_some, optionWith, ← bytes_eq_encode hz] at hrest
    rw [x.argv_eq_layout, hx, layout, hrest]
    exact ⟨_, by simp only [List.append_assoc, List.cons_append, List.nil_append]; rfl⟩
  · cases hread : ofSource (.ofBytes d.bytes) with
    | error fault => exact ⟨fault, ofText_of_ofSource hread, loads_of_error hread⟩
    | ok c => exact absurd (hloads.1 ⟨c, loads_of_ok hread⟩).1 hnot

/-- An object with one member, which gives a number. -/
def numbered (name : String) (f : Figure) : Document where
  before := []
  inside := []
  entries := [Json.compact name (.number f)]
  after := []

/-- The last digit of a number. -/
def lastDigit (n : Nat) : Fin 10 :=
  ⟨n % 10, Nat.mod_lt n (by decide)⟩

/-- Nine is a leading digit. -/
theorem lastDigit_nine_ne_zero : lastDigit 9 ≠ 0 := by decide

/-- The smallest integer of 64 bits. -/
def smallest : Figure where
  negative := true
  whole := .leading (lastDigit 9) lastDigit_nine_ne_zero
    ([2, 2, 3, 3, 7, 2, 0, 3, 6, 8, 5, 4, 7, 7, 5, 8, 0, 8].map lastDigit)
  fraction := none
  power := none

/-- The same with an exponent. -/
def smallestPower : Figure :=
  { smallest with power := some ⟨false, .none, lastDigit 0, []⟩ }

example : (numbered "user" smallest).bytes =
    encode "\x7b\"user\":-9223372036854775808\x7d" := by decide

/-- The smallest number of a user is loaded and passed on. As a port, or with an exponent, it is
refused. -/
theorem loads_number_smallest :
    NumberField.user.Takes smallest ∧
      (∃ c, Loads (.ofBytes (numbered "user" smallest).bytes) (.ok c) ∧
        c.user = some Int64.minValue ∧
        ∃ rest, (Invocation.get (.new c none)).argv ["k"] =
          c.program :: NumberField.user.front c ++ encode "-u" :: encode "-9223372036854775808" ::
            rest) ∧
      (∃ fault : Fault, fault.OfText ∧
        Loads (.ofBytes (numbered "port" smallest).bytes) (.error (.ofFault fault))) ∧
      ∃ fault : Fault, fault.OfText ∧
        Loads (.ofBytes (numbered "user" smallestPower).bytes) (.error (.ofFault fault)) := by
  have htakes : NumberField.user.Takes smallest := by decide
  have hentries (name : String) (f : Figure) :
      (numbered name f).entries = [] ++ Json.compact name (.number f) :: [] := rfl
  obtain ⟨hloads, hkept, -⟩ :=
    loads_number (n := .user) (hentries _ smallest) (Json.text?_spell _) rfl
  obtain ⟨-, -, hport⟩ :=
    loads_number (n := .port) (hentries _ smallest) (Json.text?_spell _) rfl
  obtain ⟨-, -, hpower⟩ :=
    loads_number (n := .user) (hentries _ smallestPower) (Json.text?_spell _) rfl
  obtain ⟨c, hc⟩ := hloads.2 ⟨htakes, exists_loads_iff.2 ⟨nofun, by decide⟩, nofun⟩
  obtain ⟨hnumber, hargv⟩ := hkept c hc
  obtain ⟨u, hu, hvalue⟩ := Option.map_eq_some_iff.1 hnumber
  have hmin : u = Int64.minValue := Int64.toInt_inj.1 (hvalue.trans (by decide))
  obtain ⟨rest, hrest⟩ := hargv (.get (.new c none)) ["k"] rfl
  have hbytes : smallest.bytes = encode "-9223372036854775808" := by decide
  exact ⟨htakes, ⟨c, hc, hmin ▸ hu, rest, hbytes ▸ hrest⟩, hport (by decide), hpower (by decide)⟩

end KctlProbe.Settings
