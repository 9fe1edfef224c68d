import KctlProbe.Proofs.Json.Grammar
import KctlProbe.Proofs.Text.Utf8
import KctlProbe.Json.Value

/-!
# Tokens are read as they are spelled

Each reader of a token, on the text of that token in front of any `rest`, gives what the token means
and leaves `rest`. Blanks and strings end by themselves. A number ends where a byte follows that
cannot go on with it, so its lemmas ask that the rest `EndsValue`.
-/

namespace KctlProbe.Json

@[simp] theorem Source.prepend_nil (s : Source) : Source.prepend [] s = s := rfl
@[simp] theorem Source.prepend_cons (b : UInt8) (bs : Bytes) (s : Source) :
    Source.prepend (b :: bs) s = .byte b (Source.prepend bs s) := rfl
@[simp] theorem Source.prepend_append (as bs : Bytes) (s : Source) :
    Source.prepend (as ++ bs) s = Source.prepend as (Source.prepend bs s) := by
  simp [Source.prepend]

/-- What is left starts with a byte that can stand after a value: a blank, a comma or a closing
bracket. -/
def Source.EndsValue : Source → Prop
  | .byte b _ => isSpace b ∨ b = 0x2C ∨ b = 0x5D ∨ b = 0x7D
  | _ => False

/-- A bracket that closes an array ends a value. -/
theorem Source.endsValue_bracket (s : Source) : (Source.byte 0x5D s).EndsValue :=
  .inr (.inr (.inl rfl))

/-- A bracket that closes an object ends a value. -/
theorem Source.endsValue_brace (s : Source) : (Source.byte 0x7D s).EndsValue :=
  .inr (.inr (.inr rfl))

/-! ## Blanks -/

@[simp] theorem isSpace_byte (b : Blank) : isSpace b.byte = true := by
  cases b <;> rfl

@[simp] theorem skipSpace_blanks (bs : Blanks) (s : Source) :
    skipSpace (s.prepend (bs.map Blank.byte)) = skipSpace s := by
  induction bs with
  | nil => rfl
  | cons b bs ih => simp [skipSpace, ih]

/-- A byte that is no blank is not passed over. -/
theorem skipSpace_of_not_isSpace {b : UInt8} (h : isSpace b = false) (rest : Source) :
    skipSpace (.byte b rest) = .byte b rest := by
  simp [skipSpace, h]

/-- What ends a value ends it behind blanks as well. -/
theorem Source.EndsValue.blanks {s : Source} (h : s.EndsValue) (bs : Blanks) :
    (s.prepend (bs.map Blank.byte)).EndsValue := by
  cases bs with
  | nil => exact h
  | cons b bs => exact .inl (isSpace_byte b)

/-! ## Strings -/

section
variable (rest : Source)

/-- A hexadecimal digit is read in either case. -/
theorem hexValue?_byte (d : HexDigit) : hexValue? d.byte = some d.value.val := by
  obtain ⟨v, u⟩ := d
  revert v u
  decide

@[simp] theorem hexFour_bytes (u : CodeUnit) :
    hexFour (rest.prepend u.bytes) = .ok (u.value, rest) := by
  simp [CodeUnit.bytes, hexFour, hexValue?_byte, CodeUnit.value]

/-- The letter of a short escape stands for a character of one byte. -/
theorem shortEscape?_letter (m : Mark) :
    ∃ b, shortEscape? m.letter = some b ∧ String.utf8EncodeChar m.char = [b] := by
  cases m <;> exact ⟨_, rfl, by decide⟩

/-- An escape of one letter gives the one byte of its character. -/
theorem escape_short (m : Mark) :
    escape (.byte m.letter rest) = .ok (String.utf8EncodeChar m.char, rest) := by
  obtain ⟨b, hb, hc⟩ := shortEscape?_letter m
  simp [escape, hb, hc]

/-- A numeric escape that is no half of a surrogate pair gives its character. -/
theorem escape_unit {u : CodeUnit} (hh : isHighSurrogate u.value = false)
    (hl : isLowSurrogate u.value = false) :
    escape (.byte 0x75 (rest.prepend u.bytes)) =
      .ok (String.utf8EncodeChar (Char.ofNat u.value), rest) := by
  have : shortEscape? 0x75 = none := rfl
  simp [escape, this, hh, hl]

/-- Two numeric escapes that are the halves of a surrogate pair give one character. -/
theorem escape_pair {u v : CodeUnit} (hh : isHighSurrogate u.value = true)
    (hl : isLowSurrogate v.value = true) :
    escape (.byte 0x75 ((rest.prepend (Letter.unit v).bytes).prepend u.bytes)) =
      .ok (String.utf8EncodeChar (pairChar u.value v.value), rest) := by
  have hs : shortEscape? 0x75 = none := rfl
  have hn : isLowSurrogate u.value = false := by
    simp only [isHighSurrogate, isLowSurrogate, Bool.and_eq_true, decide_eq_true_eq] at hh ⊢
    simp only [Bool.and_eq_false_iff, decide_eq_false_iff_not]
    omega
  simp [escape, hs, hh, hn, lowHalf, Letter.bytes, hl, pairChar]

/-- A numeric escape is passed over whatever it gives. -/
theorem skipEscape_unit (u : CodeUnit) :
    skipEscape (.byte 0x75 (rest.prepend u.bytes)) = .ok rest := by
  have : shortEscape? 0x75 = none := rfl
  simp [skipEscape, this, Except.map]

/-- A short escape is skipped. -/
theorem skipEscape_short (m : Mark) : skipEscape (.byte m.letter rest) = .ok rest := by
  obtain ⟨b, hb, -⟩ := shortEscape?_letter m
  simp [skipEscape, hb]

end

/-- Whether a byte goes on with a string and starts no escape. -/
def Ordinary (b : UInt8) : Prop :=
  b ≠ 0x22 ∧ b ≠ 0x5C ∧ ¬ b < 0x20

/-- A byte beyond ASCII is ordinary. -/
theorem ordinary_of_le {b : UInt8} (h : 0x80 ≤ b.toNat) : Ordinary b := by
  refine ⟨?_, ?_, ?_⟩
  · rintro rfl; exact absurd h (by decide)
  · rintro rfl; exact absurd h (by decide)
  · intro hb
    have := UInt8.lt_iff_toNat_lt.1 hb
    have : (0x20 : UInt8).toNat = 0x20 := rfl
    omega

/-- No byte of a plain character ends the string or starts an escape. -/
theorem ordinary_of_plain {c : Char} (h : Plain c) {b : UInt8}
    (hb : b ∈ String.utf8EncodeChar c) : Ordinary b := by
  rcases Nat.lt_or_ge c.toNat 0x80 with hc | hc
  · obtain ⟨hl, hq, hs⟩ := h
    rw [← Char.ofNat_toNat c, Utf8.utf8EncodeChar_of_lt_80 hc, List.mem_singleton] at hb
    have hn : b.toNat = c.toNat := by rw [hb, UInt8.toNat_ofNat']; omega
    have hne : ∀ d : Char, c ≠ d → b.toNat ≠ d.toNat := fun d hd he =>
      hd (Char.toNat_inj.1 (hn ▸ he))
    refine ⟨?_, ?_, ?_⟩
    · rintro rfl; exact hne _ hq rfl
    · rintro rfl; exact hne _ hs rfl
    · intro hlt
      have : b.toNat < 0x20 := UInt8.lt_iff_toNat_lt.1 hlt
      omega
  · exact ordinary_of_le (Utf8.le_of_mem_utf8EncodeChar hc hb)

/-- A string is read byte by byte and escape by escape. -/
theorem text_byte (done : Bytes) (b : UInt8) (s : Source) :
    text done (.byte b s) =
      if b = 0x22 then .ok (done.reverse, s)
      else if b = 0x5C then
        match escape s with
        | .ok (bs, s) => text (bs.reverse ++ done) s
        | .error f => .error f
      else if b < 0x20 then .error .malformed
      else text (b :: done) s := by
  conv_lhs => rw [text]
  grind

/-- A string is passed over byte by byte and escape by escape. -/
theorem skipText_byte (b : UInt8) (s : Source) :
    skipText (.byte b s) =
      if b = 0x22 then .ok s
      else if b = 0x5C then
        match skipEscape s with
        | .ok s => skipText s
        | .error f => .error f
      else if b < 0x20 then .error .malformed
      else skipText s := by
  conv_lhs => rw [skipText]
  grind

/-- Ordinary bytes are taken as they are. -/
theorem text_ordinary {bs : Bytes} (h : ∀ b ∈ bs, Ordinary b) (done : Bytes) (s : Source) :
    text done (s.prepend bs) = text (bs.reverse ++ done) s := by
  induction bs generalizing done with
  | nil => rfl
  | cons b bs ih =>
    obtain ⟨hq, hs, hc⟩ := h b (by simp)
    rw [Source.prepend_cons, text, if_neg hq, if_neg hs, if_neg hc,
      ih fun c hc => h c (by simp [hc])]
    simp

/-- Ordinary bytes are passed over. -/
theorem skipText_ordinary {bs : Bytes} (h : ∀ b ∈ bs, Ordinary b) (s : Source) :
    skipText (s.prepend bs) = skipText s := by
  induction bs with
  | nil => rfl
  | cons b bs ih =>
    obtain ⟨hq, hs, hc⟩ := h b (by simp)
    rw [Source.prepend_cons, skipText, if_neg hq, if_neg hs, if_neg hc,
      ih fun c hc => h c (by simp [hc])]

/-- An escape gives its bytes. -/
theorem text_escape {s rest : Source} {bs : Bytes} (h : escape s = .ok (bs, rest)) (done : Bytes) :
    text done (.byte 0x5C s) = text (bs.reverse ++ done) rest := by
  rw [text_byte, if_neg (by decide), if_pos rfl, h]

/-- A text is skipped behind an escape in it. -/
theorem skipText_escape {s rest : Source} (h : skipEscape s = .ok rest) :
    skipText (.byte 0x5C s) = skipText rest := by
  rw [skipText_byte, if_neg (by decide), if_pos rfl, h]

section
variable (done : Bytes) (s : Source)

/-- A character that stands for itself is read as its bytes. -/
theorem text_plain {c : Char} (isPlain : Plain c) :
    text done (s.prepend (Letter.plain c isPlain).bytes) =
      text ((String.utf8EncodeChar c).reverse ++ done) s :=
  text_ordinary (fun _ hb => ordinary_of_plain isPlain hb) done s

/-- A short escape is read as its character. -/
theorem text_short (m : Mark) :
    text done (s.prepend (Letter.short m).bytes) =
      text ((String.utf8EncodeChar m.char).reverse ++ done) s :=
  text_escape (escape_short s m) done

/-- A code unit that is no surrogate is read as its character. -/
theorem text_unit {u : CodeUnit} (hh : isHighSurrogate u.value = false)
    (hl : isLowSurrogate u.value = false) :
    text done (s.prepend (Letter.unit u).bytes) =
      text ((String.utf8EncodeChar (Char.ofNat u.value)).reverse ++ done) s :=
  text_escape (escape_unit s hh hl) done

/-- Two surrogates are read as the character that they stand for together. -/
theorem text_pair {u v : CodeUnit} (hh : isHighSurrogate u.value = true)
    (hl : isLowSurrogate v.value = true) :
    text done ((s.prepend (Letter.unit v).bytes).prepend (Letter.unit u).bytes) =
      text ((String.utf8EncodeChar (pairChar u.value v.value)).reverse ++ done) s :=
  text_escape (escape_pair s hh hl) done

end

/-- **Strings are read.** Up to the closing quote, a spelling gives the bytes of its characters. -/
theorem text_spelling {ls : Spelling} {cs : List Char} (h : chars? ls = some cs) (done : Bytes)
    (rest : Source) :
    text done (Source.prepend (ls.flatMap Letter.bytes) (.byte 0x22 rest)) =
      .ok (done.reverse ++ cs.flatMap String.utf8EncodeChar, rest) := by
  fun_induction chars? ls generalizing cs done with
  | case1 =>
    cases h
    simp [text]
  | case2 c isPlain ls ih =>
    obtain ⟨cs, hcs, rfl⟩ := Option.map_eq_some_iff.1 h
    simp [text_plain, ih hcs]
  | case3 m ls ih =>
    obtain ⟨cs, hcs, rfl⟩ := Option.map_eq_some_iff.1 h
    simp [text_short, ih hcs]
  | case4 u v ls hh hl ih =>
    obtain ⟨cs, hcs, rfl⟩ := Option.map_eq_some_iff.1 h
    simp [text_pair _ _ hh hl, ih hcs]
  | case7 u v ls hh hl ih =>
    obtain ⟨cs, hcs, rfl⟩ := Option.map_eq_some_iff.1 h
    rw [Bool.not_eq_true] at hh hl
    rw [List.flatMap_cons, Source.prepend_append, text_unit _ _ hh hl, ih hcs]
    simp
  | case9 u ls _ hn ih =>
    obtain ⟨cs, hcs, rfl⟩ := Option.map_eq_some_iff.1 h
    rw [Bool.not_eq_true, Bool.or_eq_false_iff] at hn
    simp [text_unit _ _ hn.1 hn.2, ih hcs]
  | case5 | case6 | case8 => cases h

/-- Every spelling is passed over, whatever it gives. -/
theorem skipText_spelling (ls : Spelling) (rest : Source) :
    skipText (Source.prepend (ls.flatMap Letter.bytes) (.byte 0x22 rest)) = .ok rest := by
  induction ls with
  | nil => simp [skipText]
  | cons l ls ih =>
    cases l with
    | plain c isPlain =>
      have ordinary : ∀ b ∈ String.utf8EncodeChar c, Ordinary b := fun b hb =>
        ordinary_of_plain isPlain hb
      simp [Letter.bytes, skipText_ordinary ordinary, ih]
    | short m => simp [Letter.bytes, skipText_escape (skipEscape_short _ m), ih]
    | unit u => simp [Letter.bytes, skipText_escape (skipEscape_unit _ u), ih]

/-- A string is read as the text that its spelling stands for. -/
theorem textString_spelling {ls : Spelling} {t : String} (h : text? ls = some t) (rest : Source) :
    textString (Source.prepend (ls.flatMap Letter.bytes) (.byte 0x22 rest)) = .ok (t, rest) := by
  obtain ⟨cs, hcs, rfl⟩ := Option.map_eq_some_iff.1 h
  have : Utf8.decode? (cs.flatMap String.utf8EncodeChar) = some (String.ofList cs) :=
    Utf8.decode?_eq_some_iff.2 (by simp [Utf8.encode])
  simp [textString, text_spelling hcs, this]

end KctlProbe.Json
