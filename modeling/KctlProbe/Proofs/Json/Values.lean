import KctlProbe.Proofs.Json.Figures

/-!
# Values are read as they are spelled

A reader for one kind of value gives what the tree of such a value means, and `skip` passes over the
text of any tree. For `skip` the arrays and objects around the value are arbitrary, so the induction
is on the tree alone: `skip_tree` for a value, `skip_elements` and `skip_entries` for what is still
to come inside an array or object.
-/

namespace KctlProbe.Json

/-! ## The steps of skipping

`skip` carries proofs that it ends in its own text. Its steps are stated here without them.
-/

section
variable (unclosed : List Frame) (s : Source)

/-- The first step of passing over a value. -/
theorem skip_value_eq :
    skip .value unclosed s =
      match skipSpace s with
      | .byte b rest =>
        if b = 0x5B then
          match skipSpace rest with
          | .byte c r =>
            if c = 0x5D then skip .next unclosed r else skip .value (.array :: unclosed) (.byte c r)
          | r => .error r.shortage
        else if b = 0x7B then
          match skipSpace rest with
          | .byte c r =>
            if c = 0x7D then skip .next unclosed r
            else skip .member (.object :: unclosed) (.byte c r)
          | r => .error r.shortage
        else
          match skipScalar (.byte b rest) with
          | .ok r => skip .next unclosed r
          | .error f => .error f
      | r => .error r.shortage := by
  conv_lhs => rw [skip]
  grind

/-- The first step of passing over a member. -/
theorem skip_member_eq :
    skip .member unclosed s =
      match skipSpace s with
      | .byte b rest =>
        if b = 0x22 then
          match skipText rest with
          | .ok r =>
            match skipSpace r with
            | .byte c r => if c = 0x3A then skip .value unclosed r else .error .malformed
            | r => .error r.shortage
          | .error f => .error f
        else .error .malformed
      | r => .error r.shortage := by
  conv_lhs => rw [skip]
  grind

/-- The first step behind a value inside an array or object. -/
theorem skip_next_eq (frame : Frame) :
    skip .next (frame :: unclosed) s =
      match skipSpace s with
      | .byte b rest =>
        if b = 0x2C then
          match frame with
          | .array => skip .value (.array :: unclosed) rest
          | .object => skip .member (.object :: unclosed) rest
        else if b = frame.close then skip .next unclosed rest
        else .error .malformed
      | r => .error r.shortage := by
  conv_lhs => rw [skip]
  grind

end

section
variable {s t : Source} {b : UInt8} {unclosed : List Frame}

/-- A value that is passed over. -/
theorem skip_value (h : skipSpace s = .byte b t) :
    skip .value unclosed s =
      if b = 0x5B then
        match skipSpace t with
        | .byte c r => if c = 0x5D then skip .next unclosed r
          else skip .value (.array :: unclosed) (.byte c r)
        | r => .error r.shortage
      else if b = 0x7B then
        match skipSpace t with
        | .byte c r => if c = 0x7D then skip .next unclosed r
          else skip .member (.object :: unclosed) (.byte c r)
        | r => .error r.shortage
      else
        match skipScalar (.byte b t) with
        | .ok r => skip .next unclosed r
        | .error f => .error f := by
  rw [skip_value_eq, h]

/-- A member that is passed over: its name and the colon. -/
theorem skip_member (h : skipSpace s = .byte 0x22 t) :
    skip .member unclosed s =
      match skipText t with
      | .ok r =>
        match skipSpace r with
        | .byte c r => if c = 0x3A then skip .value unclosed r else .error .malformed
        | r => .error r.shortage
      | .error f => .error f := by
  simp only [skip_member_eq, h, if_pos]

/-- What follows a value inside an array or object. -/
theorem skip_next {frame : Frame} (h : skipSpace s = .byte b t) :
    skip .next (frame :: unclosed) s =
      if b = 0x2C then
        match frame with
        | .array => skip .value (.array :: unclosed) t
        | .object => skip .member (.object :: unclosed) t
      else if b = frame.close then skip .next unclosed t
      else .error .malformed := by
  rw [skip_next_eq, h]

/-- The byte that closes an array or object. -/
theorem skip_next_close {frame : Frame} (h : skipSpace s = .byte frame.close t) :
    skip .next (frame :: unclosed) s = skip .next unclosed t := by
  have hc : frame.close ≠ 0x2C := by cases frame <;> decide
  rw [skip_next h, if_neg hc, if_pos rfl]

end

/-! ## Every tree is passed over -/

section
variable (s : Source) (unclosed : List Frame)

@[simp] theorem comma_true : comma true = [] := rfl
@[simp] theorem comma_false : comma false = [0x2C] := rfl

/-- A quoted string starts with its quote. -/
theorem quoted_prepend (ls : Spelling) :
    s.prepend (quoted ls) =
      .byte 0x22 ((Source.byte 0x22 s).prepend (ls.flatMap Letter.bytes)) := by
  simp [quoted]

/-- A member starts with the quote that opens its name. -/
theorem skipSpace_head {α : Type} (e : Entry α) :
    skipSpace (s.prepend e.head) =
      .byte 0x22 ((Source.byte 0x22 (s.prepend e.link)).prepend (e.name.flatMap Letter.bytes)) := by
  simp [Entry.head, quoted_prepend, skipSpace_of_not_isSpace (b := 0x22) rfl]

/-- The colon of a member stands after blanks. -/
theorem skipSpace_link {α : Type} (e : Entry α) :
    skipSpace (s.prepend e.link) = .byte 0x3A (s.prepend (e.gap.map Blank.byte)) := by
  simp [Entry.link, skipSpace_of_not_isSpace (b := 0x3A) rfl]

/-- The name of a member is passed over up to the blanks in front of its value. -/
theorem skip_head {α : Type} (e : Entry α) :
    skip .member unclosed (s.prepend e.head) =
      skip .value unclosed (s.prepend (e.gap.map Blank.byte)) := by
  rw [skip_member (skipSpace_head s e), skipText_spelling]
  simp only [skipSpace_link, if_pos]

/-- A value starts with a byte that is neither a blank nor a closing bracket, and that is the letter
of `null` only there. -/
theorem Tree.exists_byte (t : Tree) :
    ∃ b rest, s.prepend t.bytes = .byte b rest ∧ isSpace b = false ∧ b ≠ 0x5D ∧ b ≠ 0x7D ∧
      (t ≠ .null → b ≠ 0x6E) := by
  cases t with
  | null => exact ⟨_, _, rfl, rfl, by decide, by decide, fun h => absurd rfl h⟩
  | boolean b => cases b <;> exact ⟨_, _, rfl, rfl, by decide, by decide, fun _ => by decide⟩
  | number f =>
    obtain ⟨b, rest, hb, h⟩ := f.exists_byte s
    exact ⟨b, rest, hb, isSpace_of_digit h, ne_of_digit h rfl (by decide),
      ne_of_digit h rfl (by decide), fun _ => ne_of_digit h rfl (by decide)⟩
  | string ls => exact ⟨_, _, rfl, rfl, by decide, by decide, fun _ => by decide⟩
  | array inside es => exact ⟨_, _, rfl, rfl, by decide, by decide, fun _ => by decide⟩
  | object inside es => exact ⟨_, _, rfl, rfl, by decide, by decide, fun _ => by decide⟩

/-- Blanks in front of a value are passed over with it. -/
theorem skip_value_blanks (bs : Blanks) (t : Tree) :
    skip .value unclosed ((s.prepend t.bytes).prepend (bs.map Blank.byte)) =
      skip .value unclosed (s.prepend t.bytes) := by
  obtain ⟨b, rest, hb, hspace, -⟩ := t.exists_byte s
  have hs : skipSpace (s.prepend t.bytes) = .byte b rest := by
    rw [hb]
    exact skipSpace_of_not_isSpace hspace rest
  rw [skip_value (b := b) (t := rest) (by rw [skipSpace_blanks, hs]), skip_value hs]

variable {s} in
/-- What follows an element ends its value. -/
theorem endsValue_elements (h : s.EndsValue) (es : List (Element Tree)) (after : Blanks) :
    ((s.prepend (elementsBytes false es)).prepend (after.map Blank.byte)).EndsValue := by
  refine Source.EndsValue.blanks ?_ after
  cases es with
  | nil => exact h
  | cons e es => exact .inr (.inl rfl)

variable {s} in
/-- What follows a member ends its value. -/
theorem endsValue_entries (h : s.EndsValue) (es : List (Entry Tree)) (after : Blanks) :
    ((s.prepend (entriesBytes false es)).prepend (after.map Blank.byte)).EndsValue := by
  refine Source.EndsValue.blanks ?_ after
  cases es with
  | nil => exact h
  | cons e es => exact .inr (.inl rfl)

/-- A number is passed over by its first byte. -/
theorem skip_number {b : UInt8} {t : Source} (h : b = 0x2D ∨ isDigit b = true) :
    skip .value unclosed (.byte b t) =
      match skipNumeral (.byte b t) with
      | .ok r => skip .next unclosed r
      | .error f => .error f := by
  have hne : ∀ {c}, isDigit c = false → c ≠ 0x2D → b ≠ c := ne_of_digit h
  rw [skip_value (skipSpace_of_not_isSpace (isSpace_of_digit h) t)]
  simp [skipScalar, hne (c := 0x5B) rfl, hne (c := 0x7B) rfl, hne (c := 0x6E) rfl,
    hne (c := 0x74) rfl, hne (c := 0x66) rfl, hne (c := 0x22) rfl, h]

/-- The first element of an array is passed over inside the array. -/
theorem skip_array (inside before : Blanks) (t : Tree) :
    skip .value unclosed (.byte 0x5B (((s.prepend t.bytes).prepend (before.map Blank.byte)).prepend
      (inside.map Blank.byte))) = skip .value (.array :: unclosed) (s.prepend t.bytes) := by
  obtain ⟨b, rest, hb, hspace, harray, -⟩ := t.exists_byte s
  rw [skip_value (b := 0x5B) (skipSpace_of_not_isSpace rfl _), if_pos rfl]
  simp only [skipSpace_blanks, hb, skipSpace_of_not_isSpace hspace, if_neg harray]

/-- The first member of an object is passed over inside the object. -/
theorem skip_object (inside : Blanks) {α : Type} (e : Entry α) :
    skip .value unclosed (.byte 0x7B ((s.prepend e.head).prepend (inside.map Blank.byte))) =
      skip .member (.object :: unclosed) (s.prepend e.head) := by
  have hquote : ∀ r, skipSpace (.byte 0x22 r) = .byte 0x22 r := skipSpace_of_not_isSpace rfl
  rw [skip_value (b := 0x7B) (skipSpace_of_not_isSpace rfl _), if_neg (by decide), if_pos rfl]
  simp only [skipSpace_blanks, skipSpace_head]
  rw [if_neg (by decide), skip_member (hquote _), skip_member (skipSpace_head s e)]

end

mutual

/-- **Values of any depth are passed over.** -/
theorem skip_tree : ∀ (t : Tree) {s : Source} (_ : s.EndsValue) (unclosed : List Frame),
    skip .value unclosed (s.prepend t.bytes) = skip .next unclosed s
  | .null, s, _, unclosed => by
    rw [skip_value (b := 0x6E) rfl]
    simp [skipScalar, literal]
  | .boolean true, s, _, unclosed => by
    rw [skip_value (b := 0x74) rfl]
    simp [skipScalar, literal]
  | .boolean false, s, _, unclosed => by
    rw [skip_value (b := 0x66) rfl]
    simp [skipScalar, literal]
  | .number f, s, h, unclosed => by
    obtain ⟨b, rest, hb, hdigit⟩ := f.exists_byte s
    rw [Tree.bytes, hb, skip_number _ hdigit, ← hb, skipNumeral_figure h]
  | .string ls, s, _, unclosed => by
    rw [Tree.bytes, quoted_prepend, skip_value (b := 0x22) (skipSpace_of_not_isSpace rfl _)]
    simp [skipScalar, skipText_spelling]
  | .array inside [], s, _, unclosed => by
    simp only [Tree.bytes, List.cons_append, Source.prepend_cons]
    rw [skip_value (b := 0x5B) (skipSpace_of_not_isSpace rfl _)]
    simp [elementsBytes, skipSpace_of_not_isSpace (b := 0x5D) rfl]
  | .array inside (⟨before, value, after⟩ :: es), s, _, unclosed => by
    have hends := endsValue_elements (s := .byte 0x5D s) (.inr (.inr (.inl rfl))) es after
    simp only [Tree.bytes, elementsBytes, comma_true, Source.prepend_append, Source.prepend_cons,
      Source.prepend_nil]
    rw [skip_array, skip_tree value hends, skip_elements es after]
  | .object inside [], s, _, unclosed => by
    simp only [Tree.bytes, List.cons_append, Source.prepend_cons]
    rw [skip_value (b := 0x7B) (skipSpace_of_not_isSpace rfl _)]
    simp [entriesBytes, skipSpace_of_not_isSpace (b := 0x7D) rfl]
  | .object inside (⟨before, name, middle, gap, value, after⟩ :: es), s, _, unclosed => by
    have hends := endsValue_entries (s := .byte 0x7D s) (.inr (.inr (.inr rfl))) es after
    simp only [Tree.bytes, entriesBytes, comma_true, Source.prepend_append, Source.prepend_cons,
      Source.prepend_nil]
    rw [skip_object, skip_head, skip_value_blanks, skip_tree value hends, skip_entries es after]

/-- What is left of an array is passed over. -/
theorem skip_elements : ∀ (es : List (Element Tree)) (bs : Blanks) (s : Source)
    (unclosed : List Frame),
    skip .next (.array :: unclosed)
        (((Source.byte 0x5D s).prepend (elementsBytes false es)).prepend (bs.map Blank.byte)) =
      skip .next unclosed s
  | [], bs, s, unclosed => by
    have hclose : skipSpace (.byte 0x5D s) = .byte 0x5D s := skipSpace_of_not_isSpace rfl s
    exact skip_next_close (by rw [skipSpace_blanks]; exact hclose)
  | ⟨before, value, after⟩ :: es, bs, s, unclosed => by
    have hends := endsValue_elements (s := .byte 0x5D s) (.inr (.inr (.inl rfl))) es after
    have hcomma : ∀ r, skipSpace (.byte 0x2C r) = .byte 0x2C r := skipSpace_of_not_isSpace rfl
    simp only [elementsBytes, comma_false, Source.prepend_append, Source.prepend_cons,
      Source.prepend_nil]
    rw [skip_next (b := 0x2C) (by rw [skipSpace_blanks]; exact hcomma _), if_pos rfl]
    dsimp only
    rw [skip_value_blanks, skip_tree value hends, skip_elements es after]

/-- What is left of an object is passed over. -/
theorem skip_entries : ∀ (es : List (Entry Tree)) (bs : Blanks) (s : Source)
    (unclosed : List Frame),
    skip .next (.object :: unclosed)
        (((Source.byte 0x7D s).prepend (entriesBytes false es)).prepend (bs.map Blank.byte)) =
      skip .next unclosed s
  | [], bs, s, unclosed => by
    have hclose : skipSpace (.byte 0x7D s) = .byte 0x7D s := skipSpace_of_not_isSpace rfl s
    exact skip_next_close (by rw [skipSpace_blanks]; exact hclose)
  | ⟨before, name, middle, gap, value, after⟩ :: es, bs, s, unclosed => by
    have hends := endsValue_entries (s := .byte 0x7D s) (.inr (.inr (.inr rfl))) es after
    have hcomma : ∀ r, skipSpace (.byte 0x2C r) = .byte 0x2C r := skipSpace_of_not_isSpace rfl
    simp only [entriesBytes, comma_false, Source.prepend_append, Source.prepend_cons,
      Source.prepend_nil]
    rw [skip_next (b := 0x2C) (by rw [skipSpace_blanks]; exact hcomma _), if_pos rfl]
    dsimp only
    rw [skip_head, skip_value_blanks, skip_tree value hends, skip_entries es after]
end

/-! ## Typed values -/

section
variable {s : Source} {t : Tree} (bs : Blanks)

/-- A truth value is read. -/
theorem boolean_tree {b : Bool} (h : t.boolean? = some b) :
    boolean ((s.prepend t.bytes).prepend (bs.map Blank.byte)) = .ok (b, s) := by
  cases t with
  | boolean b' =>
    cases h
    cases b <;> simp [boolean, Tree.bytes, skipSpace, isSpace, literal, Except.map]
  | _ => cases h

/-- A text is read. -/
theorem string_tree {x : String} (h : t.text? = some x) :
    string ((s.prepend t.bytes).prepend (bs.map Blank.byte)) = .ok (x, s) := by
  cases t with
  | string ls =>
    have hquote : ∀ r, skipSpace (.byte 0x22 r) = .byte 0x22 r := skipSpace_of_not_isSpace rfl
    simp [string, Tree.bytes, quoted_prepend, hquote, textString_spelling h]
  | _ => cases h

/-- An integer in the range asked for is read. -/
theorem integer_tree {low high z : Int} (h : t.integer? low high = some z)
    (hlow : -9223372036854775808 ≤ low) (hhigh : high ≤ 9223372036854775807) (hs : s.EndsValue) :
    integer low high ((s.prepend t.bytes).prepend (bs.map Blank.byte)) = .ok (z, s) := by
  cases t with
  | number f =>
    obtain ⟨hz, hrange⟩ := Option.filter_eq_some_iff.1 h
    rw [decide_eq_true_eq] at hrange
    obtain ⟨b, rest, hb, hdigit⟩ := f.exists_byte s
    have hn := number_figure hz (by omega) (by omega) hs
    rw [hb] at hn
    simp [integer, Tree.bytes, hb, skipSpace_of_not_isSpace (isSpace_of_digit hdigit), hdigit, hn,
      hrange]
  | _ => cases h

/-- A value that may be missing is read if a value that is there is. -/
theorem nullable_tree {α : Type} {read : Source → Except Fault (α × Source)}
    {value? : Tree → Option α} {x : Option α} (h : t.nullable? value? = some x)
    (hread : ∀ y, value? t = some y → read (s.prepend t.bytes) = .ok (y, s)) :
    nullable read ((s.prepend t.bytes).prepend (bs.map Blank.byte)) = .ok (x, s) := by
  obtain ⟨b, rest, hb, hspace, -, -, hnull⟩ := t.exists_byte s
  have hs : skipSpace ((s.prepend t.bytes).prepend (bs.map Blank.byte)) = .byte b rest := by
    rw [skipSpace_blanks, hb, skipSpace_of_not_isSpace hspace]
  by_cases ht : t = .null
  · subst ht
    cases h
    simp [nullable, Tree.bytes, skipSpace, isSpace, literal, Except.map]
  · have hvalue : t.nullable? value? = (value? t).map some := by
      cases t <;> first | rfl | exact absurd rfl ht
    rw [hvalue] at h
    obtain ⟨y, hy, rfl⟩ := Option.map_eq_some_iff.1 h
    rw [nullable, hs]
    simp only [if_neg (hnull ht), ← hb, hread y hy, Except.map]

end

/-! ## Members -/

section
variable (s : Source)

/-- The colon of a member is read. -/
theorem colon_link {α : Type} (e : Entry α) :
    colon (s.prepend e.link) = .ok (s.prepend (e.gap.map Blank.byte)) := by
  simp [colon, skipSpace_link]

/-- Blanks do not change what comes next. -/
@[simp] theorem nextItem_blanks (close : UInt8) (isFirst : Bool) (bs : Blanks) :
    nextItem close isFirst (s.prepend (bs.map Blank.byte)) = nextItem close isFirst s := by
  simp [nextItem]

/-- A closing bracket comes next. -/
theorem nextItem_close (close : UInt8) (isFirst : Bool) (h : isSpace close = false) :
    nextItem close isFirst (.byte close s) = .ok (.closed s) := by
  simp [nextItem, skipSpace_of_not_isSpace h]

/-- An element or member comes next, behind its comma. -/
theorem nextItem_starts {close b : UInt8} (isFirst : Bool) {r : Source}
    (h : skipSpace r = .byte b s) (hb : b ≠ close) (hclose : 0x2C ≠ close) :
    nextItem close isFirst (r.prepend (comma isFirst)) = .ok (.starts b s) := by
  cases isFirst <;>
    simp [nextItem, h, hb, hclose, skipSpace_of_not_isSpace (b := 0x2C) rfl]

/-- The name of a member comes next. -/
theorem nextItem_quote (isFirst : Bool) {r : Source} (h : skipSpace r = .byte 0x22 s) :
    nextItem 0x7D isFirst (r.prepend (comma isFirst)) = .ok (.starts 0x22 s) :=
  nextItem_starts s isFirst h (by decide) (by decide)

end

end KctlProbe.Json
