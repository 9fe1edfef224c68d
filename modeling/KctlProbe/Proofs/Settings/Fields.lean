import KctlProbe.Settings.Field
import Mathlib.Data.List.Perm.Basic
import Mathlib.Data.List.Nodup
import Mathlib.Tactic.Common

/-!
# Settings as a record of fields

Settings are determined by the values of their fields (`ext_value`), and an assignment changes the
field that it names and no other (`value_assign_field`, `value_assign_of_ne`). So assignments to
different fields can be made in any order (`foldl_assign_perm`), and after them each of their fields
has the value that was assigned.
-/

namespace KctlProbe.Settings

/-- The field that an assignment is about. -/
def Assignment.field : Assignment → Field
  | .program _ => .program
  | .host _ => .host
  | .port _ => .port
  | .user _ => .user
  | .hmacKey _ => .hmacKey
  | .tls _ => .tls
  | .clusterVersion _ => .clusterVersion
  | .quiet _ => .quiet
  | .terse _ => .terse
  | .verbose _ => .verbose
  | .yes _ => .yes

/-- The value of a field. -/
def value (c : Settings) : Field → Assignment
  | .program => .program c.program
  | .host => .host c.host
  | .port => .port c.port
  | .user => .user c.user
  | .hmacKey => .hmacKey c.hmacKey
  | .tls => .tls c.tls
  | .clusterVersion => .clusterVersion c.clusterVersion
  | .quiet => .quiet c.quiet
  | .terse => .terse c.terse
  | .verbose => .verbose c.verbose
  | .yes => .yes c.yes

/-- Every field is in the list of all. -/
theorem Field.mem_all (field : Field) : field ∈ Field.all := by
  cases field <;> decide

/-- No field is listed twice. -/
theorem Field.nodup_all : Field.all.Nodup := by decide

/-- The name of a field names it. -/
@[simp] theorem Field.ofName?_name (field : Field) : Field.ofName? field.name = some field := by
  cases field <;> decide

/-- A text names at most the field that has it as its name. -/
theorem Field.ofName?_eq_some_iff {name : String} {field : Field} :
    Field.ofName? name = some field ↔ name = field.name := by
  refine ⟨fun h => ?_, fun h => h ▸ Field.ofName?_name field⟩
  have := List.find?_some h
  exact (beq_iff_eq.1 this).symm

section
variable {c d : Settings}

@[simp] theorem field_value (field : Field) : (c.value field).field = field := by
  cases field <;> rfl

/-- Settings with the same value in every field are the same. -/
theorem ext_value (h : ∀ field, c.value field = d.value field) : c = d := by
  obtain ⟨⟩ := c
  obtain ⟨⟩ := d
  rw [Settings.mk.injEq]
  exact ⟨Assignment.program.inj (h .program), Assignment.host.inj (h .host),
    Assignment.port.inj (h .port), Assignment.user.inj (h .user),
    Assignment.hmacKey.inj (h .hmacKey), Assignment.tls.inj (h .tls),
    Assignment.clusterVersion.inj (h .clusterVersion), Assignment.quiet.inj (h .quiet),
    Assignment.terse.inj (h .terse), Assignment.verbose.inj (h .verbose),
    Assignment.yes.inj (h .yes)⟩

/-- An assignment gives its field the value. -/
@[simp] theorem value_assign_field (a : Assignment) : (c.assign a).value a.field = a := by
  cases a <;> rfl

/-- An assignment leaves every other field. -/
theorem value_assign_of_ne {a : Assignment} {field : Field} (h : a.field ≠ field) :
    (c.assign a).value field = c.value field := by
  cases a <;> cases field <;> first | rfl | exact absurd rfl h

end

section
variable {c : Settings} {as : List Assignment}

/-- Assignments leave the fields that none of them is about. -/
theorem value_foldl_assign_of_notMem {field : Field} (h : field ∉ as.map Assignment.field) :
    (as.foldl assign c).value field = c.value field := by
  induction as generalizing c with
  | nil => rfl
  | cons a as ih =>
    simp only [List.map_cons, List.mem_cons, not_or] at h
    rw [List.foldl_cons, ih h.2, value_assign_of_ne (Ne.symm h.1)]

/-- After assignments to different fields each of the fields has the value assigned. -/
theorem value_foldl_assign_of_mem (hn : (as.map Assignment.field).Nodup) {a : Assignment}
    (ha : a ∈ as) : (as.foldl assign c).value a.field = a := by
  induction as generalizing c with
  | nil => cases ha
  | cons b as ih =>
    rw [List.map_cons, List.nodup_cons] at hn
    rcases List.mem_cons.1 ha with rfl | ha
    · rw [List.foldl_cons, value_foldl_assign_of_notMem hn.1, value_assign_field]
    · exact ih hn.2 ha

/-- Assignments to different fields can be made in any order. -/
theorem foldl_assign_perm {bs : List Assignment} (hn : (as.map Assignment.field).Nodup)
    (h : bs.Perm as) : bs.foldl assign c = as.foldl assign c := by
  have hfields := h.map Assignment.field
  refine ext_value fun field => ?_
  by_cases hf : field ∈ as.map Assignment.field
  · obtain ⟨a, ha, rfl⟩ := List.mem_map.1 hf
    rw [value_foldl_assign_of_mem hn ha,
      value_foldl_assign_of_mem (hfields.nodup_iff.2 hn) (h.mem_iff.2 ha)]
  · rw [value_foldl_assign_of_notMem hf,
      value_foldl_assign_of_notMem (mt hfields.mem_iff.1 hf)]

end

end KctlProbe.Settings
