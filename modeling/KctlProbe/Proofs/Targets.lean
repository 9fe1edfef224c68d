import KctlProbe.Proofs.Invocation

/-!
# Reading what a delete removes off its options

The options of a delete are read back by `Tokens.delete`, whatever the keys of its bounds look like.
So two deletes with the same options have the same compare flag, the same policy and targets that
are read alike (`delete_eq_of_options_eq`). One target has nothing to be read: a range that leaves
out both bounds and the count has no options, as one key has none. That is the only pair of targets
that share their options (`delete_options_eq_iff`); which of the two is meant shows in the key that
is given as positional argument, or in there being none.
-/

namespace KctlProbe

section
variable {c d : Delete}

/-- What is read from the options of a delete, whatever its settings are. -/
theorem delete_read_options (c : Delete) :
    Tokens.delete .default c.options =
      some ({ c with settings := .default, target := Tokens.canonicalTarget c.target }, []) := by
  have hnone : Tokens.Plain [] := fun _ h => nomatch h
  have h := Tokens.delete_options { c with settings := .default } hnone
  rwa [List.append_nil] at h

/-- Deletes with the same options are read alike. -/
theorem delete_eq_of_options_eq (h : c.options = d.options) :
    c.compare = d.compare ∧ c.policy = d.policy ∧
      Tokens.canonicalTarget c.target = Tokens.canonicalTarget d.target := by
  have hread := delete_read_options c
  rw [h, delete_read_options d] at hread
  simp only [Option.some.injEq, Prod.mk.injEq, Delete.mk.injEq, true_and, and_true] at hread
  obtain ⟨htarget, hcompare, hpolicy⟩ := hread
  exact ⟨hcompare.symm, hpolicy.symm, htarget.symm⟩

/-- Targets are read alike if they are the same, or one is a key and the other a range without
bounds and count. -/
theorem canonicalTarget_eq_iff {t u : Delete.Target} :
    Tokens.canonicalTarget t = Tokens.canonicalTarget u ↔
      t = u ∨ (t = .key ∧ u = .within .new) ∨ (t = .within .new ∧ u = .key) := by
  constructor
  · intro h
    rcases Tokens.canonicalTarget_eq t with ht | ⟨ht, hkey⟩ <;>
      rcases Tokens.canonicalTarget_eq u with hu | ⟨hu, hkey'⟩
    · exact .inl (by rw [← ht, h, hu])
    · exact .inr (.inl ⟨by rw [← ht, h, hkey'], hu⟩)
    · exact .inr (.inr ⟨ht, by rw [← hu, ← h, hkey]⟩)
    · exact .inl (by rw [ht, hu])
  · rintro (rfl | ⟨rfl, rfl⟩ | ⟨rfl, rfl⟩) <;> rfl

/-- Targets that are read alike have the same options. -/
theorem targetOptions_eq_of_canonicalTarget_eq {t u : Delete.Target}
    (h : Tokens.canonicalTarget t = Tokens.canonicalTarget u) : t.options = u.options := by
  rw [← Tokens.options_canonicalTarget t, h, Tokens.options_canonicalTarget]

end

/-- **What a delete removes can be read off its options, but for a range of no parts.** Two deletes
have the same options exactly if they have the same compare flag, the same policy and the same
target, where a range without bounds and count counts as one key. -/
theorem delete_options_eq_iff (c d : Delete) :
    c.options = d.options ↔ c.compare = d.compare ∧ c.policy = d.policy ∧
      (c.target = d.target ∨ (c.target = .key ∧ d.target = .within .new) ∨
        (c.target = .within .new ∧ d.target = .key)) := by
  rw [← canonicalTarget_eq_iff]
  constructor
  · exact delete_eq_of_options_eq
  · rintro ⟨hcompare, hpolicy, htarget⟩
    rw [Delete.options, Delete.options, hcompare, hpolicy,
      targetOptions_eq_of_canonicalTarget_eq htarget]

/-- A delete of a range of no parts has the options of a delete of one key. -/
theorem delete_options_ofRange_new :
    (Delete.ofRange .default .new).options = (Delete.new .default).options ∧
      (Delete.ofRange .default .new).target ≠ (Delete.new .default).target := by
  decide

end KctlProbe
