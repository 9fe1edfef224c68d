import KctlProbe.Cli.Report
import KctlProbe.Proofs.Settings.Positions

/-!
# Where the settings come from

A field has the value that the command line gives for it, else the value that the configuration file
gives, else its default. The command line can give the program, the host and the port
(`Arguments.given?`), and the file can give every field: by name if its bytes spell an object, by
position if they spell an array (`Spells`). Either way the members of the configuration decide
whether there are settings at all, and if so what every field is (`Arguments.InForce`).

What is in the file is what the host delivers. Without a file there are no members, and a file that
cannot be opened, or of which not every byte is delivered, gives no settings (`Arguments.Base`).
-/

namespace KctlProbe.Settings

open Json (Tree Entry)

/-- Bytes spell a configuration with the given members, as an object, or as an array that gives the
fields by position as the members do by name. -/
inductive Spells : Bytes → List (Entry Tree) → Prop
  | object (d : Document) : Spells d.bytes d.entries
  | array (a : ArrayDocument) {es : List (Entry Tree)} : Names Field.all a.elements es →
      Spells a.bytes es

/-- A configuration is read if and only if its members are acceptable, as what they assign. -/
theorem Spells.ofSource_eq_ok_iff {bs : Bytes} {es : List (Entry Tree)} (h : Spells bs es)
    {c : Settings} :
    ofSource (.ofBytes bs) = .ok c ↔
      Acceptable es ∧ (assignments es).foldl assign .default = c := by
  cases h with
  | object d => exact ofSource_document_iff
  | array a hnames =>
    -- An object with these members is read alike.
    let d : Document := ⟨[], [], es, []⟩
    have hd : Names Field.all a.elements d.entries := hnames
    rw [← (exists_agree_of_names hd).2]
    exact ofSource_document_iff

end KctlProbe.Settings

namespace KctlProbe.Cli

open Json (Tree Entry)
open Settings (Field Assignment Acceptable Spells)
open Utf8 (encode)

variable {σ : Type}

/-! ## The three places -/

namespace Arguments

/-- The settings that the command line starts from: those that the bytes of the configuration file
are read as, or the defaults. -/
def Base (a : Arguments) (host : Host σ) (state : σ) (base : Settings) : Prop :=
  match a.config with
  | none => base = .default
  | some path => ∃ bs, host.openFile (encode path) state = .ok (.ofBytes bs) ∧
      Settings.ofSource (.ofBytes bs) = .ok base

/-- The members of the configuration, of which there are none without a file. -/
def Configured (a : Arguments) (host : Host σ) (state : σ) (es : List (Entry Tree)) : Prop :=
  match a.config with
  | none => es = []
  | some path => ∃ bs, host.openFile (encode path) state = .ok (.ofBytes bs) ∧ Spells bs es

/-- What the command line gives for a field. -/
def given? (a : Arguments) : Field → Option Assignment
  | .program => a.program.map fun program => .program (encode program)
  | .host => a.host.map .host
  | .port => a.port.map .port
  | _ => none

/-- The settings in force: program, host and port from the command line where it gives them. -/
def effective (a : Arguments) (base : Settings) : Settings :=
  { base with
    program := (a.program.map encode).getD base.program
    host := a.host.getD base.host
    port := a.port.getD base.port }

/-- Every field has the value that the command line gives, else that of the member that names it,
else its default. -/
structure InForce (a : Arguments) (es : List (Entry Tree)) (c : Settings) : Prop where
  given : ∀ field x, a.given? field = some x → c.value field = x
  member : ∀ field, a.given? field = none → ∀ e ∈ es, Json.text? e.name = some field.name →
    field.value? e.value = some (c.value field)
  default : ∀ field, a.given? field = none →
    (∀ e ∈ es, Json.text? e.name ≠ some field.name) →
      c.value field = Settings.default.value field

end Arguments

section
variable {a : Arguments} {host : Host σ} {state : σ} {base : Settings} {es : List (Entry Tree)}

/-- What the command line gives takes the place of what the settings hold. -/
theorem override_eq_effective (a : Arguments) (base : Settings) :
    a.override base = a.effective base := by
  unfold Arguments.override Arguments.effective
  cases a.program <;> cases a.host <;> cases a.port <;> rfl

/-- A field has the value that the command line gives, or that which it had. -/
theorem value_effective (a : Arguments) (base : Settings) (field : Field) :
    (a.effective base).value field = (a.given? field).getD (base.value field) := by
  cases field with
  | program =>
    cases h : a.program <;> simp [Arguments.effective, Arguments.given?, Settings.value, h]
  | host => cases h : a.host <;> simp [Arguments.effective, Arguments.given?, Settings.value, h]
  | port => cases h : a.port <;> simp [Arguments.effective, Arguments.given?, Settings.value, h]
  | _ => rfl

/-- What acceptable members assign and the command line overrides is in force. -/
theorem inForce_of_acceptable (a : Arguments) (h : Acceptable es) :
    a.InForce es (a.effective ((Settings.assignments es).foldl Settings.assign .default)) where
  given field x hx := by rw [value_effective, hx, Option.getD_some]
  member field hnone e he hname := by
    rw [value_effective, hnone, Option.getD_none]
    exact h.value_of_mem he hname .default
  default field hnone hother := by
    rw [value_effective, hnone, Option.getD_none]
    exact h.value_of_forall_ne hother .default

/-- The command line has settings to start from if and only if the members are acceptable, and it
starts from what they assign. -/
theorem base_iff_of_configured (h : a.Configured host state es) :
    a.Base host state base ↔
      Acceptable es ∧ (Settings.assignments es).foldl Settings.assign .default = base := by
  unfold Arguments.Configured at h
  unfold Arguments.Base
  cases hconfig : a.config with
  | none =>
    rw [hconfig] at h
    subst h
    exact ⟨fun hbase => ⟨⟨fun _ he => absurd he List.not_mem_nil, List.nodup_nil⟩, hbase.symm⟩,
      fun hbase => hbase.2.symm⟩
  | some path =>
    rw [hconfig] at h
    obtain ⟨bs, hopen, hspells⟩ := h
    rw [← hspells.ofSource_eq_ok_iff]
    constructor
    · rintro ⟨bs', hopen', hread⟩
      have heq := Except.ok.inj (hopen.symm.trans hopen')
      rwa [heq]
    · exact fun hread => ⟨bs, hopen, hread⟩

/-- **Layers.** The members of the configuration decide whether there are settings to start from,
and with what the command line gives, what every field is. -/
theorem inForce_of_configured (h : a.Configured host state es) :
    ((∃ base, a.Base host state base) ↔ Acceptable es) ∧
      ∀ base, a.Base host state base → a.InForce es (a.effective base) := by
  refine ⟨⟨fun ⟨base, hbase⟩ => ((base_iff_of_configured h).1 hbase).1, fun hacc =>
    ⟨_, (base_iff_of_configured h).2 ⟨hacc, rfl⟩⟩⟩, fun base hbase => ?_⟩
  obtain ⟨hacc, rfl⟩ := (base_iff_of_configured h).1 hbase
  exact inForce_of_acceptable a hacc

/-! ## What the program works with -/

/-- The program works with the settings in force. -/
theorem settings_of_base (h : a.Base host state base) :
    a.settings host state = .ok (a.effective base) := by
  unfold Arguments.Base at h
  unfold Arguments.settings
  cases hconfig : a.config with
  | none =>
    rw [hconfig] at h
    rw [h]
    exact congrArg Except.ok (override_eq_effective a .default)
  | some path =>
    rw [hconfig] at h
    obtain ⟨bs, hopen, hread⟩ := h
    simp only [Settings.load_eq_ok_iff.2 ⟨_, hopen, hread⟩, override_eq_effective]

/-- A file that is not opened is the failure. -/
theorem settings_of_unopened {path : String} {e : OsError} (hconfig : a.config = some path)
    (hopen : host.openFile (encode path) state = .error e) :
    a.settings host state = .error (.ofOsError e) := by
  simp only [Arguments.settings, hconfig, Settings.load_eq_ofOsError_iff.2 hopen]

/-- A file that is opened and gives no settings is a fault of the configuration. -/
theorem settings_of_unread {path : String} {content : Json.Source}
    (hconfig : a.config = some path)
    (hopen : host.openFile (encode path) state = .ok content)
    (h : ∀ base, ¬ a.Base host state base) :
    ∃ fault, a.settings host state = .error (.ofFault fault) := by
  cases hread : Settings.ofSource content with
  | error fault =>
    refine ⟨fault, ?_⟩
    simp only [Arguments.settings, hconfig, Settings.load_eq_ofFault_iff.2 ⟨_, hopen, hread⟩]
  | ok base =>
    obtain ⟨bs, rfl, hread⟩ := Settings.ofSource_eq_ok_iff.1 hread
    refine absurd ?_ (h base)
    simp only [Arguments.Base, hconfig]
    exact ⟨bs, hopen, hread⟩

/-- Without settings to start from, there is a failure. -/
theorem settings_of_unloaded (h : ∀ base, ¬ a.Base host state base) :
    ∃ f, a.settings host state = .error f := by
  cases hconfig : a.config with
  | none => exact absurd (by simp only [Arguments.Base, hconfig]) (h .default)
  | some path =>
    cases hopen : host.openFile (encode path) state with
    | error e => exact ⟨_, settings_of_unopened hconfig hopen⟩
    | ok content =>
      obtain ⟨fault, hfault⟩ := settings_of_unread hconfig hopen h
      exact ⟨_, hfault⟩

end

end KctlProbe.Cli
