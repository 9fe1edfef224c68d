import KctlProbe.Proofs.Text.Unquoted

/-!
# Inside and outside quotes

A line with a quoted vector may stand behind anything, also behind what looks like the start of such
a line. What keeps a reader from starting in the wrong place is the side of its quotes on which a
text stands. `Side.follow` goes through a text and keeps no more than that. What is read as a vector
leads from outside to outside (`follow_of_vector?`). A quoted vector that is entered inside quotes
does not lead out of them: what opens a token closes the quotes there, and what closes it opens them
again, unless a character stands between that belongs to no list (`keeps_quoteVector`).
-/

namespace KctlProbe.Text

/-! ## Sides -/

/-- The side of the quotes on which a text stands. -/
inductive Side where
  | outside
  | inside
  /-- Inside, behind a backslash. -/
  | escaped
  deriving DecidableEq, Repr

/-- What may stand outside quotes in the line about a process: the brackets and commas of a vector,
and the letters of the field behind it. -/
def outer : List Char :=
  "[], capture=truefalse".toList

namespace Side

/-- The side behind a character. -/
def next (c : Char) : Side → Option Side
  | .outside => if c = '"' then some .inside else if c ∈ outer then some .outside else none
  | .inside =>
    if c = '"' then some .outside else if c = '\\' then some .escaped else some .inside
  | .escaped => some .inside

/-- The side behind a text. -/
def follow (s : Side) (cs : List Char) : Option Side :=
  cs.foldlM (fun s c => s.next c) s

variable {s t : Side} {c : Char}

@[simp] theorem follow_nil (s : Side) : s.follow [] = some s := rfl

/-- A text is followed from the side behind its first character. -/
theorem follow_cons (h : s.next c = some t) (cs : List Char) : s.follow (c :: cs) = t.follow cs := by
  rw [follow, List.foldlM_cons, h]
  rfl

/-- A text is not followed where its first character cannot stand. -/
theorem follow_cons_of_none (h : s.next c = none) (cs : List Char) : s.follow (c :: cs) = none := by
  rw [follow, List.foldlM_cons, h]
  rfl

/-- A text is followed through its parts. -/
theorem follow_append (s : Side) (cs ds : List Char) :
    s.follow (cs ++ ds) = (s.follow cs).bind fun t => t.follow ds :=
  List.foldlM_append ..

end Side

/-! ## What is read -/

/-- The side on which the reader of a quoted text stands. -/
def Mode.side : Mode → Side
  | .outside | .closed => .outside
  | .escape => .escaped
  | .inside | .brace | .code _ | .high | .low _ => .inside

/-- What is no quote and no backslash stays inside. -/
theorem inside_next_of_ne {c : Char} (hquote : c ≠ '"') (hbackslash : c ≠ '\\') :
    Side.inside.next c = some .inside := by
  rw [Side.next, if_neg hquote, if_neg hbackslash]

/-- No quote and no backslash is a digit. -/
theorem inside_next_of_digitOf? {c : Char} {d : Nat}
    (h : digitOf? 16 c = some d ∨ digitOf? 16 c.toLower = some d) :
    Side.inside.next c = some .inside := by
  refine inside_next_of_ne ?_ ?_ <;> rintro rfl <;> rcases h with h | h <;> cases h

/-- The reader changes sides with what it reads. -/
theorem Mode.side_of_step {mode next : Mode} {c : Char} {bs : Bytes}
    (h : mode.step c = some (bs, next)) : mode.side.next c = some next.side := by
  cases mode with
  | outside =>
    simp only [Mode.step] at h
    split_ifs at h with hquote
    cases h
    exact if_pos hquote
  | inside =>
    simp only [Mode.step] at h
    split_ifs at h with hquote hbackslash <;> cases h
    · exact if_pos hquote
    · change Side.inside.next c = some .escaped
      rw [Side.next, if_neg hquote, if_pos hbackslash]
    · exact inside_next_of_ne hquote hbackslash
  | escape =>
    simp only [Mode.step] at h
    split_ifs at h
    · cases h
      rfl
    · cases h
      rfl
    · obtain ⟨d, -, heq⟩ := Option.map_eq_some_iff.1 h
      cases heq
      rfl
  | brace =>
    simp only [Mode.step] at h
    split_ifs at h with hbrace
    cases h
    rw [hbrace]
    rfl
  | code n =>
    simp only [Mode.step] at h
    split_ifs at h with hbrace
    · cases h
      rw [hbrace]
      rfl
    · obtain ⟨d, hd, heq⟩ := Option.map_eq_some_iff.1 h
      cases heq
      exact inside_next_of_digitOf? (.inl hd)
  | high | low =>
    obtain ⟨d, hd, heq⟩ := Option.map_eq_some_iff.1 h
    cases heq
    exact inside_next_of_digitOf? (.inr hd)
  | closed => cases h

/-- What is read as a quoted text leads outside, to where its rest starts. -/
theorem follow_of_read {mode : Mode} {cs rest : List Char} {bs : Bytes}
    (h : read mode cs = some (bs, rest)) : mode.side.follow cs = Side.outside.follow rest := by
  fun_induction read mode cs generalizing bs with
  | case1 cs =>
    cases h
    rfl
  | case2 => cases h
  | case3 mode c cs _ ih =>
    obtain ⟨⟨first, next⟩, hstep, h⟩ := Option.bind_eq_some_iff.1 h
    obtain ⟨⟨more, left⟩, hread, heq⟩ := Option.map_eq_some_iff.1 h
    cases heq
    rw [Side.follow_cons (Mode.side_of_step hstep), ih next hread]

/-- What is read as tokens leads from outside to outside. -/
theorem follow_of_tokens? {cs rest : List Char} {tokens : List Bytes}
    (h : tokens? cs = some (tokens, rest)) : Side.outside.follow cs = Side.outside.follow rest := by
  fun_induction tokens? cs generalizing tokens with
  | case1 cs bs rest hread =>
    cases h
    exact (follow_of_read hread).trans (Side.follow_cons rfl _)
  | case2 cs bs more hread _ ih =>
    obtain ⟨⟨tokens, rest⟩, htokens, heq⟩ := Option.map_eq_some_iff.1 h
    cases heq
    have hfollow : Side.outside.follow cs = Side.outside.follow (',' :: ' ' :: more) :=
      follow_of_read hread
    rw [hfollow, Side.follow_cons rfl, Side.follow_cons rfl, ih htokens]
  | case3 => cases h

/-- What is read as a vector starts with a bracket. -/
theorem exists_of_vector? {cs rest : List Char} {tokens : List Bytes}
    (h : vector? cs = some (tokens, rest)) : ∃ ds, cs = '[' :: ds := by
  unfold vector? at h
  split at h
  · exact ⟨_, rfl⟩
  · exact ⟨_, rfl⟩
  · cases h

/-- **What is read as a vector leads from outside to outside.** -/
theorem follow_of_vector? {cs rest : List Char} {tokens : List Bytes}
    (h : vector? cs = some (tokens, rest)) : Side.outside.follow cs = Side.outside.follow rest := by
  unfold vector? at h
  split at h
  · cases h
    rw [Side.follow_cons rfl, Side.follow_cons rfl]
  · rw [Side.follow_cons rfl, follow_of_tokens? h]
  · cases h

/-! ## What is written -/

/-- On a side of the quotes a text cannot stand, or it leads to this side again. -/
def Side.Keeps (s : Side) (cs : List Char) : Prop :=
  s.follow cs = none ∨ s.follow cs = some s

namespace Side.Keeps

variable {s : Side}

/-- No text leads to the same side. -/
theorem nil : s.Keeps [] := .inr rfl

/-- One text behind another leads to the same side if both do. -/
theorem append {cs ds : List Char} (h : s.Keeps cs) (h' : s.Keeps ds) : s.Keeps (cs ++ ds) := by
  unfold Side.Keeps
  rw [follow_append]
  rcases h with h | h <;> rw [h]
  · exact .inl rfl
  · exact h'

/-- What is written piece by piece leads to the same side if every piece does. -/
theorem flatMap {α : Type} {write : α → List Char} (h : ∀ x, s.Keeps (write x)) (xs : List α) :
    s.Keeps (xs.flatMap write) := by
  induction xs with
  | nil => exact .nil
  | cons x xs ih => exact (h x).append ih

end Side.Keeps

/-- An escape cannot stand outside quotes. -/
theorem keeps_escape (cs : List Char) : Side.outside.Keeps ('\\' :: cs) :=
  .inl (Side.follow_cons_of_none (by decide) cs)

/-- A character that is no quote cannot stand outside quotes, or does not open them. -/
theorem keeps_singleton {c : Char} (h : c ≠ '"') : Side.outside.Keeps [c] := by
  by_cases houter : c ∈ outer
  · exact .inr (Side.follow_cons (by rw [Side.next, if_neg h, if_pos houter]) [])
  · exact .inl (Side.follow_cons_of_none (by rw [Side.next, if_neg h, if_neg houter]) [])

section
variable (hidden : Char → Bool)

/-- What stands between quotes has no quote without a backslash in front of it. -/
theorem keeps_quotePiece (p : Utf8.Piece) : Side.outside.Keeps (quotePiece hidden p) := by
  cases p with
  | char c =>
    obtain ⟨d, -, h⟩ | h | ⟨⟨hquote, -, -⟩, h⟩ := quoteChar_cases hidden c <;> rw [quotePiece, h]
    · exact keeps_escape _
    · exact keeps_escape _
    · exact keeps_singleton hquote
  | broken bytes => exact .flatMap (fun _ => keeps_escape _) bytes

/-- Inside other quotes, those around a token close and open them. -/
theorem keeps_quoteBytes (bs : Bytes) : Side.inside.Keeps (quoteBytes hidden bs).toList := by
  have hpieces := Side.Keeps.flatMap (keeps_quotePiece hidden) (Utf8.pieces bs)
  unfold Side.Keeps
  rw [quoteBytes, String.toList_ofList, List.cons_append, Side.follow_cons rfl, Side.follow_append]
  rcases hpieces with h | h <;> rw [h]
  · exact .inl rfl
  · exact .inr rfl

/-- So do those around all tokens of a list. -/
theorem keeps_joinedTokens (tokens : List Bytes) :
    Side.inside.Keeps (joinedTokens hidden tokens) := by
  induction tokens with
  | nil => exact .nil
  | cons token tokens ih =>
    have hcomma : Side.inside.Keeps [',', ' '] := .inr rfl
    rw [joinedTokens_cons]
    refine (keeps_quoteBytes hidden token).append ?_
    split
    · exact .nil
    · exact hcomma.append ih

/-- **A quoted vector that is entered inside quotes does not lead out of them.** -/
theorem keeps_quoteVector (tokens : List Bytes) :
    Side.inside.Keeps (quoteVector hidden tokens).toList := by
  have hopen : Side.inside.Keeps ['['] := .inr rfl
  have hclose : Side.inside.Keeps [']'] := .inr rfl
  rw [toList_quoteVector, ← List.singleton_append]
  exact hopen.append ((keeps_joinedTokens hidden tokens).append hclose)

end

end KctlProbe.Text
