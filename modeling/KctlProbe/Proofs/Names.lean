import KctlProbe.Cli.Request
import KctlProbe.Command.Policy
import KctlProbe.Format
import Mathlib.Data.List.Basic
import Mathlib.Tactic.Common

/-!
# Names and what they name

Print formats and sub-commands are looked up by name in the list of all of them. Cache policies, and
the lookups that are chosen on the command line, are read by a comparison with each text. Every list
is complete and no two names in it are the same, so each reader gives `x` for the text of `x` and for
no other text (`find?_name_eq_some_iff` and what follows from it).

What is chosen on the command line goes through three tables that know nothing of each other before
it is a sub-command: the reader `Op.parse`, the translation `Op.lookup` and `Lookup.subCommand`.
They fit together: each lookup is chosen in one way (`Op.lookup_bijective`), and its sub-command has
the name by which it was chosen (`Op.name_subCommand`).
-/

namespace KctlProbe

section
variable {α : Type} {all : List α} {name : α → String} {s : String}

/-- In a complete list without repeated names, `x` is found exactly under its own name. -/
theorem find?_name_eq_some_iff (hall : ∀ x, x ∈ all) (hname : Function.Injective name) {x : α} :
    all.find? (name · == s) = some x ↔ s = name x := by
  constructor
  · intro h
    exact (beq_iff_eq.1 (List.find?_some (p := (name · == s)) h)).symm
  · rintro rfl
    obtain ⟨y, hy⟩ : ∃ y, all.find? (name · == name x) = some y := by
      rw [← Option.isSome_iff_exists, List.find?_isSome]
      exact ⟨x, hall x, beq_self_eq_true _⟩
    rw [hy, hname (beq_iff_eq.1 (List.find?_some (p := (name · == name x)) hy))]

/-- Nothing is found under a text that is no name. -/
theorem find?_name_eq_none (h : ∀ x, name x ≠ s) : all.find? (name · == s) = none := by
  rw [List.find?_eq_none]
  exact fun x _ hx => h x (beq_iff_eq.1 hx)

end

variable {s : String}

/-! ## Print formats -/

/-- No two formats have the same name. -/
theorem PrintFormat.name_injective : Function.Injective PrintFormat.name := by
  intro f g h
  cases f <;> cases g <;> first | rfl | exact absurd h (by decide)

/-- A format is found under its name and under no other text. -/
theorem PrintFormat.ofName?_eq_some_iff {f : PrintFormat} :
    PrintFormat.ofName? s = some f ↔ s = f.name :=
  find?_name_eq_some_iff (fun f => by cases f <;> decide) PrintFormat.name_injective

/-- What is no name of a format finds none. -/
theorem PrintFormat.ofName?_of_unknown (h : ∀ f : PrintFormat, f.name ≠ s) :
    PrintFormat.ofName? s = none :=
  find?_name_eq_none h

/-- A format is read from its name and from no other text. -/
theorem PrintFormat.parse_eq_ok_iff {f : PrintFormat} :
    PrintFormat.parse s = .ok f ↔ s = f.name := by
  rw [← PrintFormat.ofName?_eq_some_iff, PrintFormat.parse]
  cases PrintFormat.ofName? s <;> simp

/-- What is no name of a format is refused. -/
theorem PrintFormat.parse_of_unknown (h : ∀ f : PrintFormat, f.name ≠ s) :
    PrintFormat.parse s = .error .unknownFormat := by
  rw [PrintFormat.parse, PrintFormat.ofName?_of_unknown h]

/-! ## Sub-commands -/

/-- No two sub-commands have the same name. -/
theorem SubCommand.name_injective : Function.Injective SubCommand.name := by
  intro c d h
  cases c <;> cases d <;> first | rfl | exact absurd h (by decide)

/-- A sub-command is read from its name and from no other text. -/
theorem SubCommand.parse_eq_ok_iff {c : SubCommand} :
    SubCommand.parse s = .ok c ↔ s = c.name := by
  have hfind : SubCommand.all.find? (·.name == s) = some c ↔ s = c.name :=
    find?_name_eq_some_iff (fun c => by cases c <;> decide) SubCommand.name_injective
  rw [← hfind, SubCommand.parse]
  cases SubCommand.all.find? (·.name == s) <;> simp

/-! ## Lookups on the command line -/

namespace Cli.Op

variable {op : Op}

/-- A lookup is read from the text that shows it and from no other text. -/
theorem parse_eq_ok_iff : Op.parse s = .ok op ↔ s = op.text := by
  constructor
  · intro h
    unfold Op.parse at h
    split_ifs at h with hget hnext hprev hvers <;> cases h <;> assumption
  · rintro rfl
    cases op <;> rfl

/-- What shows no lookup is refused with the reason. -/
theorem parse_of_unknown (h : ∀ op : Op, op.text ≠ s) :
    Op.parse s = .error "Unsupported get operation" := by
  have hget : s ≠ "get" := (h .get).symm
  have hnext : s ≠ "getnext" := (h .next).symm
  have hprev : s ≠ "getprev" := (h .prev).symm
  have hvers : s ≠ "getvers" := (h .vers).symm
  rw [Op.parse, if_neg hget, if_neg hnext, if_neg hprev, if_neg hvers]

/-- The sub-command of a lookup has the name by which the lookup is chosen. -/
theorem name_subCommand (op : Op) : op.lookup.subCommand.name = op.text := by
  cases op <;> rfl

/-- Every lookup is chosen in one way. -/
theorem lookup_bijective : Function.Bijective Op.lookup := by
  refine ⟨fun op op' h => ?_, fun l => ?_⟩
  · cases op <;> cases op' <;> first | rfl | cases h
  · cases l
    exacts [⟨.get, rfl⟩, ⟨.next, rfl⟩, ⟨.prev, rfl⟩, ⟨.vers, rfl⟩]

end Cli.Op

/-! ## Cache policies -/

/-- A cache policy is read from its value and from no other text. -/
theorem CachePolicy.parse_eq_ok_iff {p : CachePolicy} :
    CachePolicy.parse s = .ok p ↔ s = p.value := by
  constructor
  · intro h
    unfold CachePolicy.parse at h
    split at h
    · cases h
      assumption
    split at h
    · cases h
      assumption
    split at h
    · cases h
      assumption
    · cases h
  · rintro rfl
    cases p <;> rfl

end KctlProbe
