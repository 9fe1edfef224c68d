import KctlProbe.Proofs.Json.Values

/-!
# What a reader makes of a value

A reader for one kind of value may be given the text of any value. It reads the value or refuses it,
and either is up to the value alone: the blanks in front of it and the text behind it make no
difference. `Settles` says so for one value and one outcome. A reader that has an outcome for every
value, and reads those that mean something to it and no others, `Recognises` them.

Two kinds of value can be refused for more than their type. A spelling that stands for no text is
refused at the half of a surrogate pair that has no other half (`text_refused`), and a number may
exceed what a number can denote (`number_bytes`).
-/

namespace KctlProbe.Json

/-! ## Spellings without a meaning -/

section
variable {ls : Spelling} (s : Source)

/-- Where the second half of a surrogate pair is needed, anything else is refused. -/
theorem lowHalf_refused (high : Nat)
    (h : ∀ v ls', ls = .unit v :: ls' → isLowSurrogate v.value = false) :
    lowHalf high ((Source.byte 0x22 s).prepend (ls.flatMap Letter.bytes)) = .error .malformed := by
  -- What does not start with a backslash and the letter `u` is refused at its first two bytes.
  have first {b : UInt8} (hb : b ≠ 0x5C) (r : Source) :
      lowHalf high (.byte b r) = .error .malformed := by
    cases r <;> simp [lowHalf, hb]
  rcases ls with _ | ⟨l, ls⟩
  · exact first (by decide) s
  cases l with
  | plain c isPlain =>
    obtain ⟨b, bs, hbs⟩ := List.exists_cons_of_ne_nil (String.utf8EncodeChar_ne_nil (c := c))
    have hb : Ordinary b := ordinary_of_plain isPlain (hbs ▸ List.mem_cons_self)
    simp only [List.flatMap_cons, Letter.bytes, hbs, List.cons_append, Source.prepend_cons]
    exact first hb.2.1 _
  | short m =>
    have hm : m.letter ≠ 0x75 := by cases m <;> decide
    simp [Letter.bytes, lowHalf, hm]
  | unit v =>
    have hv := h v ls rfl
    simp [Letter.bytes, lowHalf, hv]

/-- Half a surrogate pair is refused, unless it is the first half and the second one follows. -/
theorem text_half {u : CodeUnit} (hu : (isHighSurrogate u.value || isLowSurrogate u.value) = true)
    (h : isHighSurrogate u.value = true →
      ∀ v ls', ls = .unit v :: ls' → isLowSurrogate v.value = false) (done : Bytes) :
    text done ((Source.byte 0x22 s).prepend ((Letter.unit u :: ls).flatMap Letter.bytes)) =
      .error .malformed := by
  have hs : shortEscape? 0x75 = none := rfl
  cases hl : isLowSurrogate u.value with
  | true => simp [Letter.bytes, text_byte, escape, hs, hl]
  | false =>
    have hh : isHighSurrogate u.value = true := by simpa [hl] using hu
    simp [Letter.bytes, text_byte, escape, hs, hl, hh, lowHalf_refused s u.value (h hh)]

/-- **A spelling that stands for no text is refused**, whatever follows it. -/
theorem text_refused (h : chars? ls = none) (done : Bytes) :
    text done ((Source.byte 0x22 s).prepend (ls.flatMap Letter.bytes)) = .error .malformed := by
  fun_induction chars? ls generalizing done with
  | case1 => cases h
  | case2 c isPlain ls ih => simp [text_plain, ih (Option.map_eq_none_iff.1 h)]
  | case3 m ls ih => simp [text_short, ih (Option.map_eq_none_iff.1 h)]
  | case4 u v ls hh hl ih => simp [text_pair _ _ hh hl, ih (Option.map_eq_none_iff.1 h)]
  | case5 u v ls hh hl =>
    refine text_half s (by simp [hh]) (fun _ v' ls' heq => ?_) done
    cases heq
    exact Bool.not_eq_true _ ▸ hl
  | case6 u v ls hh hl => exact text_half s (by simp [hl]) (fun hu => absurd hu hh) done
  | case7 u v ls hh hl ih =>
    rw [Bool.not_eq_true] at hh hl
    rw [List.flatMap_cons, Source.prepend_append, text_unit _ _ hh hl,
      ih (Option.map_eq_none_iff.1 h)]
  | case8 u ls hnone hn => exact text_half s hn (fun _ v ls' heq => (hnone v ls' heq).elim) done
  | case9 u ls _ hn ih =>
    rw [Bool.not_eq_true, Bool.or_eq_false_iff] at hn
    simp [text_unit _ _ hn.1 hn.2, ih (Option.map_eq_none_iff.1 h)]

/-- A spelled string is read as its text, or refused if it has none. -/
theorem textString_letters (ls : Spelling) :
    textString ((Source.byte 0x22 s).prepend (ls.flatMap Letter.bytes)) =
      match text? ls with
      | some x => .ok (x, s)
      | none => .error .malformed := by
  cases h : text? ls with
  | some x => exact textString_spelling h s
  | none => simp [textString, text_refused s (Option.map_eq_none_iff.1 h) []]

end

/-! ## Values of any kind -/

/-- On the text of `t`, whatever is around it, `read` has the outcome `o`. -/
def Settles {α : Type} (read : Source → Except Fault (α × Source)) (t : Tree)
    (o : Except Fault α) : Prop :=
  ∀ s : Source, s.EndsValue → ∀ bs : Blanks,
    read ((s.prepend t.bytes).prepend (bs.map Blank.byte)) = o.map (·, s)

/-- A value has one outcome. -/
theorem Settles.unique {α : Type} {read : Source → Except Fault (α × Source)} {t : Tree}
    {o o' : Except Fault α} (h : Settles read t o) (h' : Settles read t o') : o = o' := by
  have hend := Source.endsValue_bracket .finished
  have heq := (h _ hend []).symm.trans (h' _ hend [])
  cases o <;> cases o' <;> cases heq <;> rfl

/-- What `read` makes of a value is up to the value: it reads what `value?` finds in it, and refuses
a value in which that finds nothing. -/
def Recognises {α : Type} (read : Source → Except Fault (α × Source)) (value? : Tree → Option α) :
    Prop :=
  ∀ t : Tree, ∃ o, Settles read t o ∧ o.toOption = value? t

/-- Blanks are passed over up to a value. -/
theorem skipSpace_tree (s : Source) (t : Tree) (bs : Blanks) :
    skipSpace ((s.prepend t.bytes).prepend (bs.map Blank.byte)) = s.prepend t.bytes := by
  obtain ⟨b, rest, hb, hspace, -⟩ := t.exists_byte s
  rw [skipSpace_blanks, hb, skipSpace_of_not_isSpace hspace]

/-- The fault of a value where another kind of value is needed: its own, or that of its kind. -/
def Tree.misfit : Tree → Fault
  | .number f =>
    match f.number with
    | .ok _ => .mistyped
    | .error e => e
  | .string ls => if (Json.text? ls).isSome then .mistyped else .malformed
  | _ => .mistyped

section
variable {s : Source} (h : s.EndsValue)
include h

/-- A value of the wrong kind is refused with its fault. -/
theorem mismatch_tree (t : Tree) : mismatch (s.prepend t.bytes) = t.misfit := by
  cases t with
  | null => simp [Tree.bytes, mismatch, literal, Except.map, Tree.misfit]
  | boolean b => cases b <;> simp [Tree.bytes, mismatch, literal, Except.map, Tree.misfit]
  | number f =>
    obtain ⟨b, rest, hb, hdigit⟩ := f.exists_byte s
    have hne : ∀ {c}, isDigit c = false → c ≠ 0x2D → b ≠ c := ne_of_digit hdigit
    have hn := number_bytes h f
    rw [hb] at hn
    simp only [Tree.bytes, hb, mismatch, if_neg (hne (c := 0x6E) rfl (by decide)),
      if_neg (hne (c := 0x74) rfl (by decide)), if_neg (hne (c := 0x66) rfl (by decide)),
      if_pos hdigit, hn, Tree.misfit]
    cases f.number <;> rfl
  | string ls =>
    simp only [Tree.bytes, quoted_prepend, mismatch, textString_letters, Tree.misfit]
    cases Json.text? ls <;> simp [isDigit, Except.map]
  | array inside es => simp [Tree.bytes, mismatch, isDigit, Tree.misfit]
  | object inside es => simp [Tree.bytes, mismatch, isDigit, Tree.misfit]

end

/-- The first byte of a value tells its kind. -/
theorem Tree.kind_of_byte (t : Tree) (s : Source) :
    ∃ b rest, s.prepend t.bytes = .byte b rest ∧ (b = 0x22 → ∃ ls, t = .string ls) ∧
      (b = 0x74 ∨ b = 0x66 → ∃ x, t = .boolean x) ∧
      (b = 0x2D ∨ isDigit b = true → ∃ f, t = .number f) := by
  cases t with
  | number f =>
    obtain ⟨b, rest, hb, h⟩ := f.exists_byte s
    have hne : ∀ {c}, isDigit c = false → c ≠ 0x2D → b ≠ c := ne_of_digit h
    exact ⟨b, rest, hb, fun hq => absurd hq (hne rfl (by decide)),
      fun hl => hl.elim (fun h => absurd h (hne rfl (by decide)))
        fun h => absurd h (hne rfl (by decide)), fun _ => ⟨f, rfl⟩⟩
  | boolean x =>
    cases x <;> exact ⟨_, _, rfl, fun h => absurd h (by decide), fun _ => ⟨_, rfl⟩,
      fun h => absurd h (by decide)⟩
  | string ls =>
    exact ⟨_, _, rfl, fun _ => ⟨ls, rfl⟩, fun h => absurd h (by decide),
      fun h => absurd h (by decide)⟩
  | null | array inside es | object inside es =>
    exact ⟨_, _, rfl, fun h => absurd h (by decide), fun h => absurd h (by decide),
      fun h => absurd h (by decide)⟩

/-! ## Readers for one kind of value -/

section
variable {α β : Type} {read : Source → Except Fault (α × Source)} {value? : Tree → Option α}

/-- A value is read as what it means, and is not read if it means nothing. -/
theorem Recognises.settles_ok_iff (h : Recognises read value?) {t : Tree} {x : α} :
    Settles read t (.ok x) ↔ value? t = some x := by
  obtain ⟨o, ho, hvalue⟩ := h t
  constructor
  · intro hx
    cases ho.unique hx
    exact hvalue.symm
  · intro hx
    rw [hx] at hvalue
    cases o with
    | error f => cases hvalue
    | ok y =>
      cases hvalue
      exact ho

/-- The values that are read may be turned into others. -/
theorem Recognises.map (h : Recognises read value?) (g : α → β) :
    Recognises (fun s => (read s).map fun (x, rest) => (g x, rest)) fun t => (value? t).map g := by
  intro t
  obtain ⟨o, ho, hvalue⟩ := h t
  refine ⟨o.map g, fun s hs bs => ?_, ?_⟩
  · simp only [ho s hs bs]
    cases o <;> rfl
  · show _ = (value? t).map g
    rw [← hvalue]
    cases o <;> rfl

/-- Strings are read as the texts that they spell, and nothing else is. -/
theorem recognises_string : Recognises string Tree.text? := by
  intro t
  by_cases ht : ∃ ls, t = .string ls
  · obtain ⟨ls, rfl⟩ := ht
    refine ⟨match text? ls with | some x => .ok x | none => .error .malformed, fun s _ bs => ?_, ?_⟩
    · rw [string, skipSpace_tree]
      simp only [Tree.bytes, quoted_prepend, if_pos, textString_letters]
      cases text? ls <;> rfl
    · rw [Tree.text?]
      cases text? ls <;> rfl
  · refine ⟨.error t.misfit, fun s hs bs => ?_, ?_⟩
    · obtain ⟨b, rest, hb, hquote, -⟩ := t.kind_of_byte s
      rw [string, skipSpace_tree, hb]
      simp only [if_neg (mt hquote ht), ← hb, mismatch_tree hs, Except.map]
    · cases t <;> first | rfl | exact absurd ⟨_, rfl⟩ ht

/-- The two truth values are read, and nothing else is. -/
theorem recognises_boolean : Recognises boolean Tree.boolean? := by
  intro t
  by_cases ht : ∃ x, t = .boolean x
  · obtain ⟨x, rfl⟩ := ht
    exact ⟨.ok x, fun s _ bs => boolean_tree bs rfl, rfl⟩
  · refine ⟨.error t.misfit, fun s hs bs => ?_, ?_⟩
    · obtain ⟨b, rest, hb, -, hletter, -⟩ := t.kind_of_byte s
      have hne := mt hletter ht
      rw [not_or] at hne
      rw [boolean, skipSpace_tree, hb]
      simp only [if_neg hne.1, if_neg hne.2, ← hb, mismatch_tree hs, Except.map]
    · cases t <;> first | rfl | exact absurd ⟨_, rfl⟩ ht

/-- The integer that a number denotes, if it lies between `low` and `high`. -/
def Number.within (low high : Int) : Number → Except Fault Int
  | .integer z => if low ≤ z ∧ z ≤ high then .ok z else .error .mistyped
  | .real => .error .mistyped

/-- A number is read as an integer within bounds exactly if it denotes one. -/
theorem toOption_within (f : Figure) {low high : Int} (hlow : -9223372036854775808 ≤ low)
    (hhigh : high ≤ 9223372036854775807) :
    (f.number.bind (Number.within low high)).toOption =
      (Tree.number f).integer? low high := by
  ext z
  have hnumber := number_eq_integer_iff (f := f) (z := z)
  rw [Tree.integer?, Option.filter_eq_some_iff, decide_eq_true_eq]
  constructor
  · intro h
    rcases hn : f.number with e | y | _ <;> rw [hn] at h hnumber
    · cases h
    · simp only [Except.bind, Number.within] at h
      split at h
      · next hy =>
        cases h
        exact ⟨(hnumber.1 rfl).1, hy⟩
      · cases h
    · cases h
  · rintro ⟨hz, hrange⟩
    rw [hnumber.2 ⟨hz, by omega, by omega⟩, Except.bind, Number.within, if_pos hrange]
    rfl

/-- Integers within the bounds are read, and nothing else is. -/
theorem recognises_integer {low high : Int} (hlow : -9223372036854775808 ≤ low)
    (hhigh : high ≤ 9223372036854775807) :
    Recognises (integer low high) (Tree.integer? low high) := by
  intro t
  by_cases ht : ∃ f, t = .number f
  · obtain ⟨f, rfl⟩ := ht
    refine ⟨f.number.bind (Number.within low high), fun s hs bs => ?_,
      toOption_within f hlow hhigh⟩
    obtain ⟨b, rest, hb, hdigit⟩ := f.exists_byte s
    have hn := number_bytes hs f
    rw [hb] at hn
    rw [integer, skipSpace_tree, Tree.bytes, hb]
    simp only [if_pos hdigit, hn]
    rcases f.number with e | z | _
    · rfl
    · simp only [Except.map, Except.bind, Number.within]
      split <;> rfl
    · rfl
  · refine ⟨.error t.misfit, fun s hs bs => ?_, ?_⟩
    · obtain ⟨b, rest, hb, -, -, hdigit⟩ := t.kind_of_byte s
      rw [integer, skipSpace_tree, hb]
      simp only [if_neg (mt hdigit ht), ← hb, mismatch_tree hs, Except.map]
    · cases t <;> first | rfl | exact absurd ⟨_, rfl⟩ ht

/-- A value that may be missing is read as `null` or as what it is. -/
theorem Recognises.nullable (h : Recognises read value?) :
    Recognises (Json.nullable read) (Tree.nullable? value?) := by
  intro t
  by_cases ht : t = .null
  · subst ht
    refine ⟨.ok none, fun s _ bs => ?_, rfl⟩
    rw [Json.nullable, skipSpace_tree]
    simp [Tree.bytes, literal, Except.map]
  · obtain ⟨o, ho, hvalue⟩ := h t
    refine ⟨o.map some, fun s hs bs => ?_, ?_⟩
    · obtain ⟨b, rest, hb, -, -, -, hnull⟩ := t.exists_byte s
      have hread : read (.byte b rest) = o.map (·, s) := hb ▸ ho s hs []
      rw [Json.nullable, skipSpace_tree, hb]
      simp only [if_neg (hnull ht), hread]
      cases o <;> rfl
    · have hsome : t.nullable? value? = (value? t).map some := by
        cases t <;> first | rfl | exact absurd rfl ht
      rw [hsome, ← hvalue]
      cases o <;> rfl

end

end KctlProbe.Json
