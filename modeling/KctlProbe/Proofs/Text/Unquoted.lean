import KctlProbe.Text.Quoted
import KctlProbe.Proofs.Text.Digits
import KctlProbe.Proofs.Text.Utf8

/-!
# Quoted text is read back

A quoted text is read by a machine with one step for each character (`Mode.step`). It starts at the
opening quote, gives out bytes whenever a character or an escape is complete, and is done at the
closing quote. Each thing that is written between the quotes takes it from between two characters
back to there and gives out the bytes of that thing, whatever follows (`Reads`), so by induction it
reads back what was quoted and leaves the rest (`unquote?_quoteBytes`). It need not know which
characters are hidden: a character that is shown stands for itself, and one that is hidden says in
its escape which one it is.

A vector is read token by token, up to the bracket behind a token (`vector?_quoteVector`). Nothing
that is quoted goes over to another line, since a line feed always has an escape
(`lineFeed_notMem_quoteVector`).
-/

namespace KctlProbe.Text

/-! ## The reader -/

/-- Where the reader of a quoted text stands. -/
inductive Mode where
  /-- In front of the opening quote. -/
  | outside
  /-- Between two characters. -/
  | inside
  /-- Behind a backslash. -/
  | escape
  /-- In front of the brace that opens a code point. -/
  | brace
  /-- Inside the digits of a code point, which stand for a number so far. -/
  | code (number : Nat)
  /-- In front of the first digit of a byte. -/
  | high
  /-- In front of the second digit of a byte. -/
  | low (high : Nat)
  /-- Behind the closing quote. -/
  | closed
  deriving DecidableEq, Repr

/-- The character that an escape of one letter stands for. -/
def letterEscape? (c : Char) : Option Char :=
  [('0', '\x00'), ('t', '\t'), ('r', '\r'), ('n', '\n'), ('\\', '\\'), ('"', '"')].lookup c

/-- One character: the bytes that it completes, and the mode after it. -/
def Mode.step (c : Char) : Mode → Option (Bytes × Mode)
  | .outside => if c = '"' then some ([], .inside) else none
  | .inside =>
    if c = '"' then some ([], .closed)
    else if c = '\\' then some ([], .escape)
    else some (String.utf8EncodeChar c, .inside)
  | .escape =>
    if c = 'u' then some ([], .brace)
    else if c = 'x' then some ([], .high)
    else (letterEscape? c).map fun d => (String.utf8EncodeChar d, .inside)
  | .brace => if c = '\x7b' then some ([], .code 0) else none
  | .code n =>
    if c = '\x7d' then some (String.utf8EncodeChar (Char.ofNat n), .inside)
    else (digitOf? 16 c).map fun d => ([], .code (n * 16 + d))
  | .high => (digitOf? 16 c.toLower).map fun d => ([], .low d)
  | .low h => (digitOf? 16 c.toLower).map fun d => ([UInt8.ofNat (h * 16 + d)], .inside)
  | .closed => none

/-- Bytes in front of what is read. -/
def emit (bs : Bytes) : Bytes × List Char → Bytes × List Char
  | (more, rest) => (bs ++ more, rest)

/-- Reads on in a quoted text up to its closing quote: the bytes that it stands for, and what is
left. -/
def read : Mode → List Char → Option (Bytes × List Char)
  | .closed, cs => some ([], cs)
  | _, [] => none
  | mode, c :: cs => (mode.step c).bind fun (bs, next) => (read next cs).map (emit bs)

/-- Reads a quoted text. -/
def unquote? (cs : List Char) : Option (Bytes × List Char) :=
  read .outside cs

/-! ## What stands between quotes -/

@[simp] theorem emit_nil : emit [] = id := rfl

/-- Bytes can be emitted in two steps. -/
theorem emit_append (as bs : Bytes) (p : Bytes × List Char) :
    emit (as ++ bs) p = emit as (emit bs p) := by
  simp [emit]

/-- Behind the closing quote nothing is read. -/
theorem read_closed (cs : List Char) : read .closed cs = some ([], cs) := by
  cases cs <;> rfl

/-- The reader goes on with the next character. -/
theorem read_cons {mode next : Mode} {c : Char} {bs : Bytes} (h : mode.step c = some (bs, next))
    (cs : List Char) : read mode (c :: cs) = (read next cs).map (emit bs) := by
  cases mode <;> first | cases h | simp [read, h]

/-- The reader passes over a character that completes nothing. -/
theorem read_cons_of_nil {mode next : Mode} {c : Char} (h : mode.step c = some ([], next))
    (cs : List Char) : read mode (c :: cs) = read next cs := by
  rw [read_cons h, emit_nil, Option.map_id]
  rfl

/-- Between two characters, `cs` is read as `bs`. -/
def Reads (cs : List Char) (bs : Bytes) : Prop :=
  ∀ rest, read .inside (cs ++ rest) = (read .inside rest).map (emit bs)

/-- No characters are read as no bytes. -/
theorem Reads.nil : Reads [] [] := by
  intro rest
  rw [emit_nil, Option.map_id]
  rfl

/-- Characters behind others are read as bytes behind theirs. -/
theorem Reads.append {cs ds : List Char} {as bs : Bytes} (h : Reads cs as) (h' : Reads ds bs) :
    Reads (cs ++ ds) (as ++ bs) := by
  intro rest
  rw [List.append_assoc, h, h', Option.map_map]
  exact congrArg (Option.map · _) (funext fun p => (emit_append as bs p).symm)

/-- What is written piece by piece is read piece by piece. -/
theorem Reads.flatMap {α : Type} {write : α → List Char} {bytes : α → Bytes}
    (h : ∀ x, Reads (write x) (bytes x)) (xs : List α) :
    Reads (xs.flatMap write) (xs.flatMap bytes) := by
  induction xs with
  | nil => exact .nil
  | cons x xs ih => exact (h x).append ih

/-- An escape of one letter. -/
theorem reads_letter {c d : Char} (h : letterEscape? c = some d) (hu : c ≠ 'u') (hx : c ≠ 'x') :
    Reads ['\\', c] (String.utf8EncodeChar d) := by
  intro rest
  have hstep : Mode.escape.step c = some (String.utf8EncodeChar d, .inside) := by
    simp only [Mode.step, if_neg hu, if_neg hx, h, Option.map_some]
  exact (read_cons_of_nil rfl _).trans (read_cons hstep rest)

/-- The digits of a code point up to the brace behind them. -/
theorem read_code {ds : List Nat} (h : ∀ d ∈ ds, d < 16) (n : Nat) (rest : List Char) :
    read (.code n) (ds.map Nat.digitChar ++ '\x7d' :: rest) =
      (read .inside rest).map
        (emit (String.utf8EncodeChar (Char.ofNat (ds.foldl (fun v d => v * 16 + d) n)))) := by
  induction ds generalizing n with
  | nil => exact read_cons rfl rest
  | cons d ds ih =>
    rw [List.forall_mem_cons] at h
    have hbrace : Nat.digitChar d ≠ '\x7d' := by
      have : ∀ d < 16, Nat.digitChar d ≠ '\x7d' := by decide
      exact this d h.1
    have hstep : (Mode.code n).step (Nat.digitChar d) = some ([], .code (n * 16 + d)) := by
      simp only [Mode.step, if_neg hbrace, digitOf?_digitChar (Nat.le_refl _) h.1, Option.map_some]
    rw [List.map_cons, List.cons_append, read_cons_of_nil hstep, ih h.2, List.foldl_cons]

/-- A hidden character. -/
theorem reads_codePoint (c : Char) :
    Reads (['\\', 'u', '\x7b'] ++ Nat.toDigits 16 c.toNat ++ ['\x7d']) (String.utf8EncodeChar c) := by
  intro rest
  obtain ⟨ds, hds, hlt, hvalue, -⟩ := exists_digits (by decide : 1 < 16) c.toNat
  have hcode := read_code hlt 0 rest
  rw [show ds.foldl (fun v d => v * 16 + d) 0 = c.toNat from hvalue, Char.ofNat_toNat] at hcode
  rw [hds, List.append_assoc, List.append_assoc, List.singleton_append]
  simp only [List.cons_append, List.nil_append]
  rw [read_cons_of_nil rfl, read_cons_of_nil rfl, read_cons_of_nil rfl, hcode]

/-- A character stands between quotes with an escape of one letter, with its code point or as it
is. -/
theorem quoteChar_cases (hidden : Char → Bool) (c : Char) :
    (∃ d, (letterEscape? d = some c ∧ d ≠ 'u' ∧ d ≠ 'x' ∧ d ≠ '\n') ∧
      quoteChar hidden c = ['\\', d]) ∨
    quoteChar hidden c = ['\\', 'u', '\x7b'] ++ Nat.toDigits 16 c.toNat ++ ['\x7d'] ∨
    (c ≠ '"' ∧ c ≠ '\\' ∧ c ≠ '\n') ∧ quoteChar hidden c = [c] := by
  by_cases hletter : c = '\x00' ∨ c = '\t' ∨ c = '\r' ∨ c = '\n' ∨ c = '\\' ∨ c = '"'
  · left
    rcases hletter with rfl | rfl | rfl | rfl | rfl | rfl <;>
      exact ⟨_, ⟨rfl, by decide, by decide, by decide⟩, rfl⟩
  · right
    simp only [not_or] at hletter
    obtain ⟨hzero, htab, hreturn, hfeed, hbackslash, hquote⟩ := hletter
    rw [quoteChar, if_neg hzero, if_neg htab, if_neg hreturn, if_neg hfeed, if_neg hbackslash,
      if_neg hquote]
    split
    · exact .inl rfl
    · exact .inr ⟨⟨hquote, hbackslash, hfeed⟩, rfl⟩

/-- **Characters between quotes are read back**, whichever are hidden. -/
theorem reads_quoteChar (hidden : Char → Bool) (c : Char) :
    Reads (quoteChar hidden c) (String.utf8EncodeChar c) := by
  obtain ⟨d, ⟨hletter, hu, hx, -⟩, h⟩ | h | ⟨⟨hquote, hbackslash, -⟩, h⟩ :=
    quoteChar_cases hidden c <;> rw [h]
  · exact reads_letter hletter hu hx
  · exact reads_codePoint c
  · intro rest
    exact read_cons (by simp only [Mode.step, if_neg hquote, if_neg hbackslash]) rest

/-- **Bytes between quotes are read back.** -/
theorem reads_quoteByte (b : UInt8) : Reads (quoteByte b) [b] := by
  intro rest
  obtain ⟨ds, hds, hlt, hvalue, -, hlength⟩ := exists_padded (by decide : 1 < 16) 2 b.toNat
  obtain ⟨h, l, rfl⟩ := List.length_eq_two.1 (hlength (by decide) b.toNat_lt)
  have hcase : ∀ d < 16, (Nat.digitChar d).toUpper.toLower = Nat.digitChar d := by decide
  have hh : h < 16 := hlt h (by simp)
  have hl : l < 16 := hlt l (by simp)
  have hhigh : Mode.high.step (Nat.digitChar h).toUpper = some ([], .low h) := by
    simp only [Mode.step, hcase h hh, digitOf?_digitChar (Nat.le_refl _) hh, Option.map_some]
  have hlow : (Mode.low h).step (Nat.digitChar l).toUpper = some ([b], .inside) := by
    have hb : UInt8.ofNat (h * 16 + l) = b := by
      rw [show h * 16 + l = b.toNat by simpa [value] using hvalue, UInt8.ofNat_toNat]
    simp only [Mode.step, hcase l hl, digitOf?_digitChar (Nat.le_refl _) hl, Option.map_some, hb]
  rw [quoteByte, hds]
  simp only [List.map_cons, List.map_nil, List.cons_append, List.nil_append]
  rw [read_cons_of_nil rfl, read_cons_of_nil rfl, read_cons_of_nil hhigh, read_cons hlow]

/-- A quoted piece is read as the bytes of the piece. -/
theorem reads_quotePiece (hidden : Char → Bool) (p : Utf8.Piece) :
    Reads (quotePiece hidden p) p.bytes := by
  cases p with
  | char c => exact reads_quoteChar hidden c
  | broken bytes =>
    have h := Reads.flatMap reads_quoteByte bytes
    rwa [List.flatMap_singleton' bytes] at h

/-! ## Quoted texts -/

/-- What is read between quotes is read with them. -/
theorem unquote?_of_reads {cs : List Char} {bs : Bytes} (h : Reads cs bs) (rest : List Char) :
    unquote? ('"' :: cs ++ ['"'] ++ rest) = some (bs, rest) := by
  rw [unquote?, List.append_assoc, List.cons_append, read_cons_of_nil rfl, h,
    List.singleton_append, read_cons_of_nil rfl, read_closed, Option.map_some, emit,
    List.append_nil]

/-- **A quoted text is read back**, and what follows it is left. -/
theorem unquote?_quote (hidden : Char → Bool) (s : String) (rest : List Char) :
    unquote? ((quote hidden s).toList ++ rest) = some (Utf8.encode s, rest) := by
  rw [quote, String.toList_ofList]
  exact unquote?_of_reads (.flatMap (reads_quoteChar hidden) s.toList) rest

/-- **A quoted byte string is read back**, and what follows it is left. -/
theorem unquote?_quoteBytes (hidden : Char → Bool) (bs : Bytes) (rest : List Char) :
    unquote? ((quoteBytes hidden bs).toList ++ rest) = some (bs, rest) := by
  rw [quoteBytes, String.toList_ofList]
  have h := Reads.flatMap (reads_quotePiece hidden) (Utf8.pieces bs)
  rw [Utf8.flatMap_bytes_pieces] at h
  exact unquote?_of_reads h rest

/-! ## Vectors -/

/-- What is left is not longer than what there was. -/
theorem read_length_le {mode : Mode} {cs rest : List Char} {bs : Bytes}
    (h : read mode cs = some (bs, rest)) : rest.length ≤ cs.length := by
  fun_induction read mode cs generalizing bs with
  | case1 cs =>
    cases h
    exact Nat.le_refl _
  | case2 => cases h
  | case3 mode c cs _ ih =>
    obtain ⟨⟨first, next⟩, -, h⟩ := Option.bind_eq_some_iff.1 h
    obtain ⟨⟨more, left⟩, hread, heq⟩ := Option.map_eq_some_iff.1 h
    cases heq
    exact Nat.le_succ_of_le (ih next hread)

/-- Reads the tokens of a vector up to the bracket that closes it. -/
def tokens? (cs : List Char) : Option (List Bytes × List Char) :=
  match h : unquote? cs with
  | some (bs, ']' :: rest) => some ([bs], rest)
  | some (bs, ',' :: ' ' :: more) =>
    have := read_length_le h
    (tokens? more).map fun (tokens, rest) => (bs :: tokens, rest)
  | _ => none
termination_by cs.length
decreasing_by simp only [List.length_cons] at *; omega

/-- Reads a vector. -/
def vector? : List Char → Option (List Bytes × List Char)
  | '[' :: ']' :: cs => some ([], cs)
  | '[' :: cs => tokens? cs
  | _ => none

section
variable {cs rest more : List Char} {bs : Bytes}

/-- A token in front of the closing bracket is the last one. -/
theorem tokens?_last (h : unquote? cs = some (bs, ']' :: rest)) :
    tokens? cs = some ([bs], rest) := by
  rw [tokens?]
  grind

/-- A token in front of a comma is followed by others. -/
theorem tokens?_more (h : unquote? cs = some (bs, ',' :: ' ' :: more)) :
    tokens? cs = (tokens? more).map fun (tokens, rest) => (bs :: tokens, rest) := by
  rw [tokens?]
  grind

end

section
variable (hidden : Char → Bool)

/-- The tokens of a vector as they are written, with commas between them. -/
def joinedTokens (tokens : List Bytes) : List Char :=
  [',', ' '].intercalate (tokens.map fun bs => (quoteBytes hidden bs).toList)

/-- The first token, and what follows it. -/
theorem joinedTokens_cons (token : Bytes) (tokens : List Bytes) :
    joinedTokens hidden (token :: tokens) = (quoteBytes hidden token).toList ++
      if tokens = [] then [] else ',' :: ' ' :: joinedTokens hidden tokens := by
  cases tokens with
  | nil => simp [joinedTokens, List.intercalate_singleton]
  | cons next tokens => simp [joinedTokens, List.intercalate_cons_cons]

/-- Tokens are read back up to the bracket behind them. -/
theorem tokens?_joinedTokens (token : Bytes) (tokens : List Bytes) (rest : List Char) :
    tokens? (joinedTokens hidden (token :: tokens) ++ ']' :: rest) =
      some (token :: tokens, rest) := by
  induction tokens generalizing token with
  | nil =>
    rw [joinedTokens_cons, if_pos rfl, List.append_nil]
    exact tokens?_last (unquote?_quoteBytes hidden token _)
  | cons next tokens ih =>
    rw [joinedTokens_cons, if_neg (List.cons_ne_nil _ _), List.append_assoc, List.cons_append,
      List.cons_append, tokens?_more (unquote?_quoteBytes hidden token _), ih next]
    rfl

/-- A vector is its tokens in brackets. -/
theorem toList_quoteVector (tokens : List Bytes) :
    (quoteVector hidden tokens).toList = '[' :: (joinedTokens hidden tokens ++ [']']) := by
  rw [quoteVector, String.toList_append, String.toList_append, String.toList_intercalate,
    List.map_map]
  rfl

/-- **A quoted vector is read back**, token by token, and what follows it is left. -/
theorem vector?_quoteVector (tokens : List Bytes) (rest : List Char) :
    vector? ((quoteVector hidden tokens).toList ++ rest) = some (tokens, rest) := by
  rw [toList_quoteVector, List.cons_append, List.append_assoc, List.singleton_append]
  cases tokens with
  | nil => rfl
  | cons token tokens =>
    -- The first token starts with a quote, so the bracket is not that of an empty vector.
    have hquote : ∃ cs, joinedTokens hidden (token :: tokens) ++ ']' :: rest = '"' :: cs := by
      rw [joinedTokens_cons, quoteBytes, String.toList_ofList]
      exact ⟨_, rfl⟩
    have htokens := tokens?_joinedTokens hidden token tokens rest
    obtain ⟨cs, hcs⟩ := hquote
    rw [hcs] at htokens ⊢
    exact htokens

end

-- A byte that is no text, an apostrophe, and a token that looks like the end of another.
example : quoteVector (fun _ => false) [[0xFF], Utf8.encode "it's", Utf8.encode "\", \""] =
    "[\"\\xFF\", \"it's\", \"\\\", \\\"\"]" := by decide

/-! ## One line -/

section
variable {base : Nat}

/-- No digit is a line feed. -/
theorem lineFeed_notMem_digits (hb : base ≤ 16) {ds : List Nat} (h : ∀ d ∈ ds, d < base) :
    '\n' ∉ ds.map Nat.digitChar ∧ '\n' ∉ (ds.map Nat.digitChar).map Char.toUpper := by
  have hupper : ∀ d < 16, '\n' ≠ (Nat.digitChar d).toUpper := by decide
  refine ⟨notMem_map_digitChar (by decide) hb h, ?_⟩
  rw [List.map_map, List.mem_map]
  rintro ⟨d, hd, heq⟩
  exact hupper d (Nat.lt_of_lt_of_le (h d hd) hb) heq.symm

/-- The digits of a number are on one line. -/
theorem lineFeed_notMem_toDigits (hl : 1 < base) (hb : base ≤ 16) (n : Nat) :
    '\n' ∉ Nat.toDigits base n := by
  obtain ⟨ds, hds, hlt, -⟩ := exists_digits hl n
  exact hds ▸ (lineFeed_notMem_digits hb hlt).1

/-- Digits with zeros in front are on one line, in small and in capital letters. -/
theorem lineFeed_notMem_padded (hl : 1 < base) (hb : base ≤ 16) (width n : Nat) :
    '\n' ∉ padded base width n ∧ '\n' ∉ (padded base width n).map Char.toUpper := by
  obtain ⟨ds, hds, hlt, -⟩ := exists_padded hl width n
  exact hds ▸ lineFeed_notMem_digits hb hlt

end

/-- A decimal number is on one line. -/
theorem lineFeed_notMem_decimal (n : Nat) : '\n' ∉ (decimal n).toList := by
  rw [decimal, String.toList_ofList]
  exact lineFeed_notMem_toDigits (by decide) (by decide) n

section
variable (hidden : Char → Bool)

/-- A quoted character is on one line. -/
theorem lineFeed_notMem_quoteChar (c : Char) : '\n' ∉ quoteChar hidden c := by
  obtain ⟨d, ⟨-, -, -, hd⟩, h⟩ | h | ⟨⟨-, -, hfeed⟩, h⟩ := quoteChar_cases hidden c <;> rw [h]
  · simpa using Ne.symm hd
  · have hdigits : '\n' ∉ Nat.toDigits 16 c.toNat :=
      lineFeed_notMem_toDigits (by decide) (by decide) c.toNat
    simp [hdigits]
  · simpa using Ne.symm hfeed

/-- A quoted byte is on one line. -/
theorem lineFeed_notMem_quoteByte (b : UInt8) : '\n' ∉ quoteByte b := by
  have hdigits : '\n' ∉ (padded 16 2 b.toNat).map Char.toUpper :=
    (lineFeed_notMem_padded (by decide) (by decide) 2 b.toNat).2
  rw [quoteByte, List.mem_append, not_or]
  exact ⟨by decide, hdigits⟩

/-- A quoted piece is on one line. -/
theorem lineFeed_notMem_quotePiece (p : Utf8.Piece) : '\n' ∉ quotePiece hidden p := by
  cases p with
  | char c => exact lineFeed_notMem_quoteChar hidden c
  | broken bytes =>
    rw [quotePiece, List.mem_flatMap]
    rintro ⟨b, -, hb⟩
    exact lineFeed_notMem_quoteByte b hb

/-- A quoted text is on one line. -/
theorem lineFeed_notMem_quote (s : String) : '\n' ∉ (quote hidden s).toList := by
  rw [quote, String.toList_ofList]
  simp [lineFeed_notMem_quoteChar]

/-- Quoted bytes are on one line. -/
theorem lineFeed_notMem_quoteBytes (bs : Bytes) : '\n' ∉ (quoteBytes hidden bs).toList := by
  rw [quoteBytes, String.toList_ofList]
  simp [lineFeed_notMem_quotePiece]

/-- The tokens of a vector are on one line. -/
theorem lineFeed_notMem_joinedTokens (tokens : List Bytes) :
    '\n' ∉ joinedTokens hidden tokens := by
  induction tokens with
  | nil => exact List.not_mem_nil
  | cons token tokens ih =>
    rw [joinedTokens_cons]
    split <;> simp [lineFeed_notMem_quoteBytes, ih]

/-- A quoted vector is on one line. -/
theorem lineFeed_notMem_quoteVector (tokens : List Bytes) :
    '\n' ∉ (quoteVector hidden tokens).toList := by
  simp [toList_quoteVector, lineFeed_notMem_joinedTokens]

end

end KctlProbe.Text
