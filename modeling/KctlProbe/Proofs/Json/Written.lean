import KctlProbe.Json.Writer
import KctlProbe.Proofs.Json.Figures
import KctlProbe.Proofs.Text.Utf8

/-!
# What is written is spelled

The writer puts a text together from characters, and a tree is a text with all its choices. Here the
two meet: what is written for a string, an integer, a truth value or a missing value is the text of
a tree that means just that. A string is spelled with as few escapes as can be (`spell`).
-/

namespace KctlProbe.Json

/-- The bytes of characters. -/
abbrev encoded (cs : List Char) : Bytes :=
  cs.flatMap String.utf8EncodeChar

/-- The bytes of two texts follow each other. -/
theorem encoded_append (as bs : List Char) : encoded (as ++ bs) = encoded as ++ encoded bs :=
  List.flatMap_append

/-! ## Strings -/

/-- The digits of a control character. -/
def controlUnit (c : Char) : CodeUnit where
  first := .ofNat 0
  second := .ofNat 0
  third := .ofNat (c.toNat / 16)
  fourth := .ofNat c.toNat

/-- How a character is spelled when it is written. -/
def spellChar (c : Char) : Letter :=
  if c = '"' then .short .quote
  else if c = '\\' then .short .backslash
  else if c = '\x08' then .short .backspace
  else if c = '\x0C' then .short .formFeed
  else if c = '\n' then .short .lineFeed
  else if c = '\r' then .short .carriageReturn
  else if c = '\t' then .short .tab
  else if h : Plain c then .plain c h
  else .unit (controlUnit c)

/-- How a text is spelled when it is written. -/
def spell (s : String) : Spelling :=
  s.toList.map spellChar

/-- The bytes and the value of the escape of every control character. -/
theorem controlUnit_all : ∀ n < 0x20,
    encoded (['\\', 'u'] ++ Text.padded 16 4 n) =
        (Letter.unit (controlUnit (Char.ofNat n))).bytes ∧
      (controlUnit (Char.ofNat n)).value = n := by
  decide

section
variable {c : Char} (h : c.toNat < 0x20)
include h

/-- A control character is written as its numeric escape. -/
theorem encoded_control :
    encoded (['\\', 'u'] ++ Text.padded 16 4 c.toNat) = (Letter.unit (controlUnit c)).bytes := by
  have := (controlUnit_all c.toNat h).1
  rwa [Char.ofNat_toNat] at this

/-- The numeric escape of a control character gives it. -/
theorem value_controlUnit : (controlUnit c).value = c.toNat := by
  have := (controlUnit_all c.toNat h).2
  rwa [Char.ofNat_toNat] at this

end

/-- A character is written as it is spelled. -/
theorem encoded_escapeChar (c : Char) : encoded (escapeChar c) = (spellChar c).bytes := by
  unfold escapeChar spellChar
  split
  · decide
  next hquote =>
  split
  · decide
  next hbackslash =>
  iterate 5
    split
    · decide
  split
  · next hc =>
    have hp : ¬ Plain c := fun hp => absurd hp.1 (by omega)
    rw [dif_neg hp, encoded_control hc]
  · next hc =>
    rw [dif_pos ⟨by omega, hquote, hbackslash⟩]
    simp [Letter.bytes]

/-- A numeric escape that is no half of a pair gives its character, whatever follows. -/
theorem chars?_unit_cons {u : CodeUnit} (hh : isHighSurrogate u.value = false)
    (hl : isLowSurrogate u.value = false) (ls : Spelling) :
    chars? (.unit u :: ls) = (chars? ls).map (Char.ofNat u.value :: ·) := by
  rcases ls with _ | ⟨l, ls⟩
  · simp [chars?, hh, hl]
  · cases l <;> simp [chars?, hh, hl]

/-- A spelled character stands for itself. -/
theorem chars?_spellChar_cons (c : Char) (ls : Spelling) :
    chars? (spellChar c :: ls) = (chars? ls).map (c :: ·) := by
  unfold spellChar
  split
  · next h => subst h; rfl
  next hquote =>
  split
  · next h => subst h; rfl
  next hbackslash =>
  iterate 5
    split
    · next h => subst h; rfl
  split
  · rfl
  · next hp =>
    have hc : c.toNat < 0x20 := by
      by_contra hc
      exact hp ⟨by omega, hquote, hbackslash⟩
    have hv := value_controlUnit hc
    have hh : isHighSurrogate (controlUnit c).value = false := by
      simp only [isHighSurrogate, hv, Bool.and_eq_false_iff, decide_eq_false_iff_not]
      omega
    have hl : isLowSurrogate (controlUnit c).value = false := by
      simp only [isLowSurrogate, hv, Bool.and_eq_false_iff, decide_eq_false_iff_not]
      omega
    rw [chars?_unit_cons hh hl, hv, Char.ofNat_toNat]

/-- A spelled text stands for itself. -/
theorem text?_spell (s : String) : text? (spell s) = some s := by
  have : ∀ cs : List Char, chars? (cs.map spellChar) = some cs := by
    intro cs
    induction cs with
    | nil => rfl
    | cons c cs ih => rw [List.map_cons, chars?_spellChar_cons, ih, Option.map_some]
  rw [text?, spell, this, Option.map_some, String.ofList_toList]

/-- A text is written as it is spelled. -/
theorem encoded_writeString (s : String) : encoded (writeString s) = quoted (spell s) := by
  have : ∀ cs : List Char,
      encoded (cs.flatMap escapeChar) = (cs.map spellChar).flatMap Letter.bytes := by
    intro cs
    induction cs with
    | nil => rfl
    | cons c cs ih =>
      rw [List.flatMap_cons, encoded_append, encoded_escapeChar, ih, List.map_cons,
        List.flatMap_cons]
  have hquote : String.utf8EncodeChar '"' = [0x22] := by decide
  simp [writeString, quoted, spell, hquote, ← this]

/-! ## Numbers -/

/-- A digit is one byte. -/
theorem utf8EncodeChar_digitChar (d : Fin 10) :
    String.utf8EncodeChar (Nat.digitChar d.val) = [digitByte d] := by
  revert d; decide

/-- Digits below ten, as digits of that type. -/
theorem exists_fin_digits {ds : List Nat} (h : ∀ d ∈ ds, d < 10) :
    ∃ fs : List (Fin 10), fs.map Fin.val = ds := by
  refine ⟨ds.map (Fin.ofNat 10), ?_⟩
  rw [List.map_map]
  exact (List.map_congr_left fun d hd => Nat.mod_eq_of_lt (h d hd)).trans (List.map_id ds)

/-- Digits are written as the bytes of digits. -/
theorem encoded_map_digitChar (fs : List (Fin 10)) :
    encoded ((fs.map Fin.val).map Nat.digitChar) = fs.map digitByte := by
  induction fs with
  | nil => rfl
  | cons f fs ih =>
    rw [List.map_cons, List.map_cons, encoded, List.flatMap_cons, ← encoded, ih,
      utf8EncodeChar_digitChar]
    rfl

/-- The digits of a number can stand before the point. -/
theorem exists_whole (n : Nat) :
    ∃ w : Whole, w.digits.map digitByte = encoded (Nat.toDigits 10 n) ∧ w.value = n := by
  obtain ⟨ds, hds, hlt, hvalue, hne, hzero⟩ := Text.exists_digits (by decide : 1 < 10) n
  obtain ⟨fs, rfl⟩ := exists_fin_digits hlt
  have hbytes : encoded (Nat.toDigits 10 n) = fs.map digitByte := by
    rw [hds, encoded_map_digitChar]
  rcases fs with _ | ⟨f, fs⟩
  · exact absurd rfl hne
  · by_cases hf : f = 0
    · subst hf
      have hfs : fs = [] := by simpa using hzero rfl
      subst hfs
      exact ⟨.zero, hbytes.symm, hvalue⟩
    · exact ⟨.leading f hf fs, hbytes.symm, hvalue⟩

/-- The digits before the point are canonical. -/
theorem Whole.canonical (w : Whole) : Text.Canonical (w.digits.map Fin.val) := by
  cases w with
  | zero => exact ⟨by simp [digits], fun _ => rfl⟩
  | leading first isLeading rest =>
    refine ⟨by simp [digits], fun h => ?_⟩
    have hzero : first.val = 0 := by simpa [digits] using h
    exact absurd (Fin.ext hzero) isLeading

/-- The digits before the point are those of their value. -/
theorem Whole.bytes_eq (w : Whole) :
    w.digits.map digitByte = encoded (Nat.toDigits 10 w.value) := by
  have hlt : ∀ d ∈ w.digits.map Fin.val, d < 10 := by
    intro d hd
    obtain ⟨f, -, rfl⟩ := List.mem_map.1 hd
    exact f.isLt
  rw [Whole.value, Text.toDigits_value (by decide) hlt w.canonical, encoded_map_digitChar]

/-- A number that denotes an integer is spelled as the integer is written. -/
theorem Figure.bytes_of_integer? {f : Figure} {z : Int} (h : f.integer? = some z) :
    f.bytes = encoded (writeInteger z) := by
  obtain ⟨hfraction, hpower, hzero, rfl⟩ := Figure.integer?_eq_some_iff.1 h
  rw [Figure.bytes, hfraction, hpower, f.whole.bytes_eq, Figure.value]
  cases hn : f.negative with
  | false => simp [fractionBytes, powerBytes, writeInteger, Text.signedDecimal, Text.decimal]
  | true =>
    obtain ⟨n, hvalue⟩ := Nat.exists_eq_succ_of_ne_zero (mt (And.intro hn) hzero)
    have hminus : String.utf8EncodeChar '-' = [0x2D] := by decide
    rw [hvalue, if_pos rfl, show -((n.succ : Nat) : Int) = .negSucc n from rfl]
    simp [fractionBytes, powerBytes, writeInteger, Text.signedDecimal, Text.decimal, hminus]

/-- A written integer is the text of a number that denotes it. -/
theorem exists_figure (z : Int) :
    ∃ f : Figure, f.bytes = encoded (writeInteger z) ∧ f.integer? = some z := by
  cases z with
  | ofNat n =>
    obtain ⟨w, hbytes, hvalue⟩ := exists_whole n
    refine ⟨⟨false, w, none, none⟩, ?_, ?_⟩
    · simp [Figure.bytes, fractionBytes, powerBytes, hbytes, writeInteger, Text.signedDecimal,
        Text.decimal]
    · simp [Figure.integer?, hvalue]
  | negSucc n =>
    obtain ⟨w, hbytes, hvalue⟩ := exists_whole (n + 1)
    have hminus : String.utf8EncodeChar '-' = [0x2D] := by decide
    refine ⟨⟨true, w, none, none⟩, ?_, ?_⟩
    · simp [Figure.bytes, fractionBytes, powerBytes, hbytes, writeInteger, Text.signedDecimal,
        Text.decimal, hminus]
    · simp [Figure.integer?, hvalue, Int.negSucc_eq]

/-! ## Values -/

/-- `cs` is the text of a tree with property `P`. -/
def Writes (cs : List Char) (P : Tree → Prop) : Prop :=
  ∃ t : Tree, t.bytes = encoded cs ∧ P t

/-- A text of a tree is one of a tree with a weaker property. -/
theorem Writes.imp {cs : List Char} {P Q : Tree → Prop} (h : Writes cs P) (hpq : ∀ t, P t → Q t) :
    Writes cs Q := by
  obtain ⟨t, hbytes, ht⟩ := h
  exact ⟨t, hbytes, hpq t ht⟩

/-- A text is written as a tree that means it. -/
theorem writes_string (s : String) : Writes (writeString s) fun t => t.text? = some s :=
  ⟨.string (spell s), (encoded_writeString s).symm, text?_spell s⟩

/-- An integer is written as a tree that means it. -/
theorem writes_integer {low high z : Int} (hlow : low ≤ z) (hhigh : z ≤ high) :
    Writes (writeInteger z) fun t => t.integer? low high = some z := by
  obtain ⟨f, hbytes, hz⟩ := exists_figure z
  refine ⟨.number f, hbytes, ?_⟩
  simp [Tree.integer?, hz, hlow, hhigh]

/-- A truth value is written as a tree that means it. -/
theorem writes_boolean (b : Bool) : Writes (writeBoolean b) fun t => t.boolean? = some b := by
  refine ⟨.boolean b, ?_, rfl⟩
  cases b <;> decide

/-- A value that may be missing, if a value that is there is not written as `null`. -/
theorem writes_nullable {α : Type} {write : α → List Char} {value? : Tree → Option α}
    (hw : ∀ x, Writes (write x) fun t => value? t = some x) (hnull : value? .null = none)
    (x : Option α) : Writes (writeNullable write x) fun t => t.nullable? value? = some x := by
  cases x with
  | none => exact ⟨.null, (by decide : Tree.null.bytes = encoded ['n', 'u', 'l', 'l']), rfl⟩
  | some x =>
    obtain ⟨t, hbytes, hx⟩ := hw x
    refine ⟨t, hbytes, ?_⟩
    cases t with
    | null => rw [hnull] at hx; cases hx
    | _ => exact congrArg (Option.map some) hx

/-! ## Members -/

/-- A member without blanks. -/
def compact (name : String) (t : Tree) : Entry Tree where
  before := []
  name := spell name
  middle := []
  gap := []
  value := t
  after := []

/-- A member is written without blanks. -/
theorem encoded_writeMember (name : String) {cs : List Char} {t : Tree}
    (h : t.bytes = encoded cs) :
    encoded (writeMember (name, cs)) = (compact name t).head ++ t.bytes := by
  have hname : (writeString name).flatMap String.utf8EncodeChar = quoted (spell name) :=
    encoded_writeString name
  have hcolon : String.utf8EncodeChar ':' = [0x3A] := by decide
  simp [writeMember, compact, Entry.head, Entry.link, hname, hcolon, h]

/-- Members one after the other, with a comma in front of all but the first. -/
def joined : Bool → List Member → List Char
  | _, [] => []
  | isFirst, m :: ms => (if isFirst then [] else [',']) ++ writeMember m ++ joined false ms

/-- Members are written with commas between them. -/
theorem intercalate_eq_joined (ms : List Member) :
    List.intercalate [','] (ms.map writeMember) = joined true ms := by
  induction ms with
  | nil => rfl
  | cons m ms ih =>
    cases ms with
    | nil => simp [joined, List.intercalate_singleton]
    | cons m' ms =>
      rw [List.map_cons, List.map_cons, List.intercalate_cons_cons, ← List.map_cons, ih]
      simp [joined]

end KctlProbe.Json
