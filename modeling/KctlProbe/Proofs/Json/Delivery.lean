import KctlProbe.Proofs.Json.Values

/-!
# Readers and the delivery of a text

A reader is given a text of which some bytes are known, and what follows them may be anything: more
bytes, the end of the file, or an error of the operating system. Its `Verdict` on the known bytes is
one of three. They are enough and a value is read, they are enough to refuse the text, or the reader
asks for what follows; then an error of the operating system is its result, unchanged.

Every reader has a verdict on all bytes. The induction is on the bytes, along the recursion of the
reader, and `Verdict.andThen` is the step from one reader to the next.
-/

namespace KctlProbe.Json

/-- The fault lies in the text and not in its delivery. -/
def Fault.OfText (f : Fault) : Prop :=
  ∀ e, f ≠ .unreadable e

/-- That a text is malformed is a fault of the text. -/
theorem Fault.ofText_malformed : Fault.malformed.OfText := nofun

/-- That a text is cut off is a fault of the text. -/
theorem Fault.ofText_truncated : Fault.truncated.OfText := nofun

/-- That a value has the wrong type is a fault of the text. -/
theorem Fault.ofText_mistyped : Fault.mistyped.OfText := nofun

/-- The result of a reader that leaves nothing but the rest. -/
def bare (_ : Unit) (s : Source) : Source := s

section
variable {α β γ δ : Type} {m n : Nat}

/-! ## Verdicts -/

/-- How a reader may end at the end of a file: nothing is left, or the text is at fault. -/
def Ends (leave : α → Source → β) : Except Fault β → Prop
  | .ok y => ∃ x, y = leave x .finished
  | .error f => f.OfText

/-- What a reader makes of `n` known bytes, where `r` is its result for each text that may follow
them and `leave` puts together a value and the rest. -/
inductive Verdict (leave : α → Source → β) (n : Nat) (r : Source → Except Fault β) : Prop
  /-- The bytes are enough. A value is read, and some of the bytes may be left. -/
  | taken (x : α) (rest : Bytes) (hle : rest.length ≤ n)
      (eq : ∀ t, r t = .ok (leave x (t.prepend rest)))
  /-- The bytes are enough to refuse the text. -/
  | refused (f : Fault) (ofText : f.OfText) (eq : ∀ t, r t = .error f)
  /-- The reader asks for what follows. -/
  | asks (failed : ∀ e, r (.failed e) = .error (.unreadable e))
      (finished : Ends leave (r .finished))

namespace Verdict

variable {leave : α → Source → β} {leave' : γ → Source → δ} {r : Source → Except Fault β}

/-- A verdict on fewer known bytes is one on more of them. -/
theorem mono (h : Verdict leave m r) (hle : m ≤ n) : Verdict leave n r := by
  cases h with
  | taken x rest hrest eq => exact .taken x rest (by omega) eq
  | refused f ofText eq => exact .refused f ofText eq
  | asks failed finished => exact .asks failed finished

/-- A verdict stands if one more byte was known. -/
theorem cons (b : UInt8) {bs : Bytes} (h : Verdict leave bs.length r) :
    Verdict leave (b :: bs).length r :=
  h.mono (Nat.le_succ _)

/-- A value that is read with no look at what follows is taken. -/
theorem yields (x : α) (rest : Bytes) :
    Verdict leave rest.length fun t => .ok (leave x (t.prepend rest)) :=
  .taken x rest (Nat.le_refl _) fun _ => rfl

/-- Bytes that no text begins with are refused. -/
theorem malformed : Verdict leave n fun _ => .error .malformed :=
  .refused _ Fault.ofText_malformed fun _ => rfl

/-- Bytes that begin a value of another type are refused. -/
theorem mistyped : Verdict leave n fun _ => .error .mistyped :=
  .refused _ Fault.ofText_mistyped fun _ => rfl

/-- A choice that does not depend on what follows has the verdict of its branch. -/
theorem ite {c : Prop} [Decidable c] {r' : Source → Except Fault β}
    (h : c → Verdict leave n r) (h' : ¬c → Verdict leave n r') :
    Verdict leave n fun t => if c then r t else r' t := by
  by_cases hc : c
  · simpa only [if_pos hc] using h hc
  · simpa only [if_neg hc] using h' hc

/-- With no byte known, the end of the file is all that a reader sees of a finished file. -/
theorem ends (h : Verdict leave 0 r) : Ends leave (r .finished) := by
  cases h with
  | taken x rest hrest eq =>
    obtain rfl := List.eq_nil_of_length_eq_zero (Nat.le_zero.1 hrest)
    rw [eq]
    exact ⟨x, rfl⟩
  | refused f ofText eq =>
    rw [eq]
    exact ofText
  | asks failed finished => exact finished

/-- **One reader after another.** `r'` hands on the faults of `r` and goes on with the values of
`r`. What it goes on with needs a verdict on the bytes that `r` leaves. -/
theorem andThen (h : Verdict leave n r) {r' : Source → Except Fault δ}
    (err : ∀ t f, r t = .error f → r' t = .error f)
    (ok : ∀ x rest, rest.length ≤ n →
      ∃ q, (∀ t, r t = .ok (leave x (t.prepend rest)) → r' t = q t) ∧
        Verdict leave' rest.length q) :
    Verdict leave' n r' := by
  cases h with
  | taken x rest hrest eq =>
    obtain ⟨q, hq, hv⟩ := ok x rest hrest
    rw [funext fun t => hq t (eq t)]
    exact hv.mono hrest
  | refused f ofText eq => exact .refused f ofText fun t => err t f (eq t)
  | asks failed finished =>
    refine .asks (fun e => err _ _ (failed e)) ?_
    cases hr : r .finished with
    | error f =>
      rw [hr] at finished
      rw [err _ f hr]
      exact finished
    | ok y =>
      rw [hr] at finished
      obtain ⟨x, rfl⟩ := finished
      obtain ⟨q, hq, hv⟩ := ok x [] (Nat.zero_le n)
      rw [hq _ hr]
      exact hv.ends

/-- The values of a reader are turned into others. -/
theorem map (h : Verdict leave n r) {f : β → δ} (g : α → γ)
    (hf : ∀ x s, f (leave x s) = leave' (g x) s) : Verdict leave' n fun t => (r t).map f :=
  h.andThen (fun _ _ h => by rw [h]; rfl) fun x rest _ =>
    ⟨_, fun _ h => by rw [h, Except.map, hf], .yields (g x) rest⟩

end Verdict

/-! ## What is left of a run of bytes -/

/-- What is left of `n` known bytes behind a run of blanks or digits, where `σ` gives it for each
text that may follow them: a byte that ends the run, or nothing. -/
inductive Remains (into : Source → γ) (n : Nat) (σ : Source → γ) : Prop
  | byte (b : UInt8) (rest : Bytes) (hlt : rest.length < n)
      (eq : ∀ t, σ t = into (.byte b (t.prepend rest)))
  | nothing (failed : ∀ e, σ (.failed e) = into (.failed e))
      (finished : σ .finished = into .finished)

namespace Remains

variable {into : Source → γ} {σ : Source → γ}

/-- What is left of fewer known bytes is left of more of them. -/
theorem mono (h : Remains into m σ) (hle : m ≤ n) : Remains into n σ := by
  cases h with
  | byte b rest hlt eq => exact .byte b rest (by omega) eq
  | nothing failed finished => exact .nothing failed finished

/-- What remains is handed on. -/
theorem map (h : Remains into n σ) (f : γ → δ) : Remains (f ∘ into) n fun t => f (σ t) := by
  cases h with
  | byte b rest hlt eq => exact .byte b rest hlt fun t => congrArg f (eq t)
  | nothing failed finished =>
    exact .nothing (fun e => congrArg f (failed e)) (congrArg f finished)

/-- Where nothing is dropped, all bytes remain. -/
theorem prepend (bs : Bytes) : Remains id bs.length fun t => t.prepend bs := by
  cases bs with
  | nil => exact .nothing (fun _ => rfl) rfl
  | cons b bs => exact .byte b bs (by simp) fun _ => rfl

/-- A run of the bytes that satisfy `p` is dropped. -/
theorem dropRun {p : UInt8 → Bool} {drop : Source → Source}
    (byte : ∀ b s, drop (.byte b s) = if p b then drop s else .byte b s)
    (failed : ∀ e, drop (.failed e) = .failed e) (finished : drop .finished = .finished)
    (bs : Bytes) : Remains id bs.length fun t => drop (t.prepend bs) := by
  induction bs with
  | nil => exact .nothing failed finished
  | cons b bs ih =>
    simp only [Source.prepend_cons, byte]
    by_cases hb : p b
    · simp only [if_pos hb]
      exact ih.mono (Nat.le_succ _)
    · simp only [if_neg hb]
      exact .byte b bs (Nat.lt_succ_self _) fun _ => rfl

/-- What is left behind blanks. -/
theorem skipSpace (bs : Bytes) : Remains id bs.length fun t => Json.skipSpace (t.prepend bs) :=
  dropRun (fun _ _ => rfl) (fun _ => rfl) rfl bs

/-- What is left behind digits that are skipped. -/
theorem skipDigits (bs : Bytes) : Remains id bs.length fun t => Json.skipDigits (t.prepend bs) :=
  dropRun (fun _ _ => rfl) (fun _ => rfl) rfl bs

/-- What is left behind digits, which are those of the known bytes. -/
theorem digits (bs : Bytes) :
    ∃ ds, Remains (Prod.mk ds) bs.length fun t => Json.digits (t.prepend bs) := by
  induction bs with
  | nil => exact ⟨[], .nothing (fun _ => rfl) rfl⟩
  | cons b bs ih =>
    simp only [Source.prepend_cons, Json.digits]
    by_cases hb : isDigit b
    · obtain ⟨ds, ih⟩ := ih
      simp only [if_pos hb]
      exact ⟨(b.toNat - 0x30) :: ds,
        (ih.map fun p => ((b.toNat - 0x30) :: p.1, p.2)).mono (by simp)⟩
    · simp only [if_neg hb]
      exact ⟨[], .byte b bs (by simp) fun _ => rfl⟩

/-- What is left behind the sign of an exponent, if there is one. -/
theorem exponentSign (bs : Bytes) :
    ∃ negative, Remains (Prod.mk negative) bs.length fun t =>
      Json.exponentSign (t.prepend bs) := by
  cases bs with
  | nil => exact ⟨false, .nothing (fun _ => rfl) rfl⟩
  | cons b bs =>
    have hrest (negative : Bool) :=
      ((Remains.prepend bs).map (Prod.mk negative)).mono (n := (b :: bs).length) (by simp)
    simp only [Source.prepend_cons, Json.exponentSign]
    by_cases hplus : b = 0x2B
    · simp only [if_pos hplus]
      exact ⟨false, hrest false⟩
    by_cases hminus : b = 0x2D
    · simp only [if_neg hplus, if_pos hminus]
      exact ⟨true, hrest true⟩
    · simp only [if_neg hplus, if_neg hminus]
      exact ⟨false, .byte b bs (by simp) fun _ => rfl⟩

end Remains

section
variable {leave : α → Source → β} {σ : Source → Source} {k : UInt8 → Source → Except Fault β}

/-- A reader that looks at the byte behind a run asks for it where nothing is left. -/
theorem Verdict.atByte (h : Remains id n σ)
    (hk : ∀ b (rest : Bytes), rest.length < n → Verdict leave m fun t => k b (t.prepend rest)) :
    Verdict leave m fun t => match σ t with | .byte b s => k b s | s => .error s.shortage := by
  cases h with
  | byte b rest hlt eq =>
    simp only [eq]
    exact hk b rest hlt
  | nothing failed finished =>
    refine .asks (fun e => ?_) ?_
    · simp only [failed]
      rfl
    · simp only [finished]
      exact Fault.ofText_truncated

/-- The byte behind a run may be left together with what follows it. -/
theorem Verdict.onByte (h : Remains id n σ)
    (hk : ∀ b (rest : Bytes), rest.length < n →
      Verdict leave (b :: rest).length fun t => k b (t.prepend rest)) :
    Verdict leave n fun t => match σ t with | .byte b s => k b s | s => .error s.shortage :=
  .atByte h fun b rest hlt => (hk b rest hlt).mono hlt

/-- The byte behind a run is taken. -/
theorem Verdict.pastByte (h : Remains id n σ)
    (hk : ∀ b (rest : Bytes), rest.length < n →
      Verdict leave rest.length fun t => k b (t.prepend rest)) :
    Verdict leave (n - 1) fun t => match σ t with | .byte b s => k b s | s => .error s.shortage :=
  .atByte h fun b rest hlt => (hk b rest hlt).mono (Nat.le_sub_one_of_lt hlt)

end

end

/-! ## Tokens -/

/-- The rest of a literal is compared byte by byte. -/
theorem literal_verdict (cs bs : Bytes) :
    Verdict bare bs.length fun t => literal cs (t.prepend bs) := by
  induction cs generalizing bs with
  | nil => exact .taken () bs (Nat.le_refl _) fun t => by rw [literal]; rfl
  | cons c cs ih =>
    cases bs with
    | nil => exact .asks (fun _ => rfl) Fault.ofText_truncated
    | cons b bs =>
      simp only [Source.prepend_cons, literal]
      exact .ite (fun _ => (ih bs).cons b) fun _ => .malformed

/-- Four hexadecimal digits are read one after the other. -/
theorem hexFour_verdict (bs : Bytes) :
    Verdict Prod.mk bs.length fun t => hexFour (t.prepend bs) := by
  match bs with
  | [] | [_] | [_, _] | [_, _, _] => exact .asks (fun _ => rfl) Fault.ofText_truncated
  | a :: b :: c :: d :: rest =>
    simp only [Source.prepend_cons, hexFour]
    split
    · exact .taken _ rest (by simp; omega) fun _ => rfl
    · exact .malformed

/-- The second half of a surrogate pair is an escape and four digits. -/
theorem lowHalf_verdict (high : Nat) (bs : Bytes) :
    Verdict Prod.mk bs.length fun t => lowHalf high (t.prepend bs) := by
  match bs with
  | [] => exact .asks (fun _ => rfl) Fault.ofText_truncated
  | [b] =>
    -- The second byte is asked for only behind a backslash.
    by_cases hb : b = 0x5C
    · subst hb
      exact .asks (fun _ => rfl) Fault.ofText_truncated
    · refine .refused .malformed Fault.ofText_malformed fun t => ?_
      cases t <;> simp [lowHalf, hb]
  | b :: c :: rest =>
    simp only [Source.prepend_cons, lowHalf]
    refine .ite (fun _ => .mono (m := rest.length) ?_ (by simp; omega)) fun _ => .malformed
    exact (hexFour_verdict rest).andThen (fun _ _ h => by rw [h]) fun low rest _ =>
      ⟨_, fun _ h => by rw [h], .ite (fun _ => .yields _ rest) fun _ => .malformed⟩

/-- An escape is decided by its letter, or by the digits behind that. -/
theorem escape_verdict (bs : Bytes) :
    Verdict Prod.mk bs.length fun t => escape (t.prepend bs) := by
  refine .onByte (.prepend bs) fun c rest _ => .cons c ?_
  cases shortEscape? c with
  | some b => exact .yields [b] rest
  | none =>
    refine .ite (fun _ => ?_) fun _ => .malformed
    exact (hexFour_verdict rest).andThen (fun _ _ h => by rw [h]) fun n rest _ =>
      ⟨_, fun _ h => by rw [h], .ite (fun _ => .malformed) fun _ =>
        .ite (fun _ => lowHalf_verdict n rest) fun _ => .yields _ rest⟩

/-- An escape that is skipped is decided by its letter, or by the digits behind that. -/
theorem skipEscape_verdict (bs : Bytes) :
    Verdict bare bs.length fun t => skipEscape (t.prepend bs) := by
  refine .onByte (.prepend bs) fun c rest _ => .cons c ?_
  cases shortEscape? c with
  | some b => exact .yields () rest
  | none =>
    exact .ite (fun _ => (hexFour_verdict rest).map (fun _ => ()) fun _ _ => rfl) fun _ =>
      .malformed

/-- A text is read up to its closing quote, by induction on the known bytes. -/
theorem text_verdict (done bs : Bytes) :
    Verdict Prod.mk bs.length fun t => text done (t.prepend bs) := by
  -- An escape may leave any of the bytes behind its backslash, so the recursion is on their number.
  match bs with
  | [] =>
    refine .asks (fun _ => ?_) ?_ <;> simp only [Source.prepend_nil, text]
    · rfl
    · exact Fault.ofText_truncated
  | b :: bs =>
    simp only [Source.prepend_cons, text_byte]
    refine .cons b ?_
    refine .ite (fun _ => .yields _ bs) fun _ => .ite (fun _ => ?_) fun _ =>
      .ite (fun _ => .malformed) fun _ => text_verdict _ bs
    exact (escape_verdict bs).andThen (fun _ _ h => by rw [h]) fun _ rest _ =>
      ⟨_, fun _ h => by rw [h], text_verdict _ rest⟩
termination_by bs.length
decreasing_by all_goals simp only [List.length_cons]; omega

/-- A text that is skipped ends at its closing quote, too. -/
theorem skipText_verdict (bs : Bytes) :
    Verdict bare bs.length fun t => skipText (t.prepend bs) := by
  match bs with
  | [] =>
    refine .asks (fun _ => ?_) ?_ <;> simp only [Source.prepend_nil, skipText]
    · rfl
    · exact Fault.ofText_truncated
  | b :: bs =>
    simp only [Source.prepend_cons, skipText_byte]
    refine .cons b ?_
    refine .ite (fun _ => .yields () bs) fun _ => .ite (fun _ => ?_) fun _ =>
      .ite (fun _ => .malformed) fun _ => skipText_verdict bs
    exact (skipEscape_verdict bs).andThen (fun _ _ h => by rw [h]) fun _ rest _ =>
      ⟨_, fun _ h => by rw [h]; rfl, skipText_verdict rest⟩
termination_by bs.length
decreasing_by all_goals simp only [List.length_cons]; omega

/-! ## Numbers -/

/-- To ask whether the next byte is delivered takes nothing. -/
theorem delivered_verdict {n : Nat} {σ : Source → Source} (h : Remains id n σ) :
    Verdict bare n fun t => delivered (σ t) := by
  cases h with
  | byte b rest hlt eq =>
    exact .taken () (b :: rest) hlt fun t => by rw [eq]; rfl
  | nothing failed finished =>
    exact .asks (fun e => by rw [failed]; rfl) (by rw [finished]; exact ⟨(), rfl⟩)

/-- The digits of an exponent are read until one is missing or they are too many. -/
theorem exponentDigits_verdict (bounded : Bool) (value : Nat) (bs : Bytes) :
    Verdict Prod.mk bs.length fun t => exponentDigits bounded value (t.prepend bs) := by
  induction bs generalizing value with
  | nil => exact .asks (fun _ => rfl) ⟨_, rfl⟩
  | cons b bs ih =>
    simp only [Source.prepend_cons, exponentDigits]
    refine .ite (fun _ => .ite (fun _ => .malformed) fun _ => .cons b ?_) fun _ =>
      .yields [] (b :: bs)
    exact (ih _).map ((b.toNat - 0x30) :: ·) fun _ _ => rfl

/-- An exponent has a sign, if any, and at least one digit. -/
theorem exponent_verdict (isZero : Bool) (bs : Bytes) :
    Verdict Prod.mk bs.length fun t => exponent isZero (t.prepend bs) := by
  cases bs with
  | nil => exact .asks (fun _ => rfl) Fault.ofText_truncated
  | cons b bs =>
    have hsign := Remains.exponentSign (b :: bs)
    simp only [exponent, Source.prepend_cons, delivered_byte, bind, Except.bind] at hsign ⊢
    obtain ⟨negative, ⟨c, rest, hlt, eq⟩ | ⟨failed, finished⟩⟩ := hsign
    · simp only [eq]
      refine .ite (fun _ => .mono (m := rest.length) ?_ (Nat.le_of_lt hlt)) fun _ => .malformed
      exact (exponentDigits_verdict _ _ rest).andThen (fun _ _ h => by rw [h]) fun ds left _ =>
        ⟨_, fun _ h => by rw [h], .yields (negative, (c.toNat - 0x30) :: ds) left⟩
    · refine .asks (fun e => ?_) ?_
      · simp only [failed]
        rfl
      · simp only [finished]
        exact Fault.ofText_truncated

/-- Behind the whole part there is a fraction, an exponent, or the end of the number. -/
theorem afterWhole_verdict (negative : Bool) (whole : List Nat) (bs : Bytes) :
    Verdict Prod.mk bs.length fun t => afterWhole negative whole (t.prepend bs) := by
  -- An exponent ends the number, with or without a fraction before it.
  have hpower (isZero : Bool) (ds : Option (List Nat)) (bs : Bytes) :
      Verdict Prod.mk bs.length fun t => (exponent isZero (t.prepend bs)).bind fun p =>
        .ok (({ negative, whole, fraction := ds, exponent := some p.1 } : Numeral), p.2) :=
    (exponent_verdict isZero bs).andThen (fun _ _ h => by rw [h]; rfl) fun e rest _ =>
      ⟨_, fun _ h => by rw [h]; rfl,
        .yields (Numeral.mk negative whole ds (some e)) rest⟩
  cases bs with
  | nil => exact .asks (fun _ => rfl) ⟨_, rfl⟩
  | cons b bs =>
    simp only [afterWhole, Source.prepend_cons, delivered_byte, bind, Except.bind]
    refine .ite (fun _ => .cons b ?_) fun _ =>
      .ite (fun _ => (hpower _ none bs).cons b) fun _ => .yields _ (b :: bs)
    obtain ⟨ds, ⟨d, left, hleft, eq⟩ | ⟨failed, finished⟩⟩ := Remains.digits bs
    · simp only [eq, delivered_byte]
      refine .mono (m := (d :: left).length) ?_ hleft
      exact .ite (fun _ => .malformed) fun _ =>
        .ite (fun _ => (hpower _ ds left).cons d) fun _ => .yields _ (d :: left)
    · refine .asks (fun e => ?_) ?_
      · simp only [failed]
        split <;> rfl
      · simp only [finished]
        split
        · exact Fault.ofText_truncated
        · exact ⟨_, rfl⟩

/-- The first digit decides whether others may follow. -/
theorem unsigned_verdict (negative : Bool) (b : UInt8) (bs : Bytes) :
    Verdict Prod.mk bs.length fun t => unsigned negative (.byte b (t.prepend bs)) := by
  refine .ite (fun _ => ?_) fun _ => .ite (fun _ => ?_) fun _ => .malformed
  · cases bs with
    | nil => exact .asks (fun _ => rfl) ⟨_, rfl⟩
    | cons d bs =>
      exact .ite (fun _ => .malformed) fun _ => afterWhole_verdict negative [0] (d :: bs)
  · obtain ⟨ds, ⟨d, left, hleft, eq⟩ | ⟨failed, finished⟩⟩ := Remains.digits bs
    · have := afterWhole_verdict negative ((b.toNat - 0x30) :: ds) (d :: left)
      simp only [eq]
      exact this.mono hleft
    · refine .asks (fun e => ?_) ?_
      · simp only [failed]
        rfl
      · simp only [finished]
        exact ⟨_, rfl⟩

/-- A number begins with its sign or with its first digit. -/
theorem numeral_verdict (b : UInt8) (bs : Bytes) :
    Verdict Prod.mk bs.length fun t => numeral (.byte b (t.prepend bs)) := by
  refine .ite (fun _ => ?_) fun _ => unsigned_verdict false b bs
  cases bs with
  | nil => exact .asks (fun _ => rfl) Fault.ofText_truncated
  | cons d bs => exact (unsigned_verdict true d bs).cons d

/-- A number that exceeds every double is a fault of the text. -/
theorem ofText_of_number {v : Numeral} {f : Fault} (h : v.number = .error f) : f.OfText := by
  simp only [Numeral.number] at h
  split at h
  · cases h
  · split at h <;> cases h
    exact Fault.ofText_malformed

/-- A number takes its first byte at least, like every value. -/
theorem number_verdict (b : UInt8) (bs : Bytes) :
    Verdict Prod.mk bs.length fun t => number (.byte b (t.prepend bs)) := by
  refine (numeral_verdict b bs).andThen (fun _ _ h => by rw [number, h]; rfl) fun v rest _ => ?_
  cases hv : v.number with
  | error f =>
    exact ⟨_, fun _ h => by rw [number, h]; simp only [bind, Except.bind, hv],
      .refused f (ofText_of_number hv) fun _ => rfl⟩
  | ok z =>
    exact ⟨_, fun _ h => by rw [number, h]; simp only [bind, Except.bind, hv], .yields z rest⟩

/-- Digits of which there must be one are skipped. -/
theorem skipSomeDigits_verdict (bs : Bytes) :
    Verdict bare bs.length fun t => skipSomeDigits (t.prepend bs) := by
  cases bs with
  | nil => exact .asks (fun _ => rfl) Fault.ofText_malformed
  | cons b bs =>
    simp only [skipSomeDigits, Source.prepend_cons, delivered_byte, bind, Except.bind]
    exact .ite (fun _ => (delivered_verdict (.skipDigits bs)).cons b) fun _ => .malformed

/-- An exponent that is skipped has a sign, if any, and at least one digit. -/
theorem skipExponent_verdict (bs : Bytes) :
    Verdict bare bs.length fun t => skipExponent (t.prepend bs) := by
  cases bs with
  | nil => exact .asks (fun _ => rfl) Fault.ofText_malformed
  | cons b bs =>
    simp only [skipExponent, Source.prepend_cons, delivered_byte, bind, Except.bind]
    exact .ite (fun _ => (skipSomeDigits_verdict bs).cons b) fun _ =>
      skipSomeDigits_verdict (b :: bs)

/-- Behind a whole part that is skipped there is a fraction, an exponent, or the end. -/
theorem skipAfterWhole_verdict (bs : Bytes) :
    Verdict bare bs.length fun t => skipAfterWhole (t.prepend bs) := by
  cases bs with
  | nil => exact .asks (fun _ => rfl) ⟨(), rfl⟩
  | cons b bs =>
    simp only [skipAfterWhole, Source.prepend_cons, delivered_byte, bind, Except.bind]
    refine .ite (fun _ => .cons b ?_) fun _ =>
      .ite (fun _ => (skipExponent_verdict bs).cons b) fun _ => .yields () (b :: bs)
    cases bs with
    | nil => exact .asks (fun _ => rfl) Fault.ofText_malformed
    | cons d bs =>
      -- `skipSomeDigits` is opened here: its verdict does not say that a byte is left, and without
      -- one the end of the number would not be reported.
      simp only [skipSomeDigits, Source.prepend_cons, delivered_byte, bind, Except.bind]
      by_cases hd : isDigit d
      · simp only [if_pos hd]
        rcases Remains.skipDigits bs with ⟨c, rest, hlt, eq⟩ | ⟨failed, finished⟩
        · simp only [eq]
          refine .cons d (.mono (m := (c :: rest).length) ?_ hlt)
          exact .ite (fun _ => (skipExponent_verdict rest).cons c) fun _ =>
            .yields () (c :: rest)
        · refine .asks (fun e => ?_) ?_
          · simp only [failed]
            rfl
          · simp only [finished]
            exact ⟨(), rfl⟩
      · simp only [if_neg hd]
        exact .malformed

/-- Of a number that is skipped, the first digit decides whether others may follow. -/
theorem skipUnsigned_verdict (b : UInt8) (bs : Bytes) :
    Verdict bare bs.length fun t => skipUnsigned (.byte b (t.prepend bs)) := by
  simp only [skipUnsigned, delivered_byte, bind, Except.bind]
  refine .ite (fun _ => ?_) fun _ => .ite (fun _ => ?_) fun _ => .malformed
  · cases bs with
    | nil => exact .asks (fun _ => rfl) ⟨(), rfl⟩
    | cons d bs => exact .ite (fun _ => .malformed) fun _ => skipAfterWhole_verdict (d :: bs)
  · rcases Remains.skipDigits bs with ⟨c, rest, hlt, eq⟩ | ⟨failed, finished⟩
    · have := skipAfterWhole_verdict (c :: rest)
      simp only [eq]
      exact this.mono hlt
    · refine .asks (fun e => ?_) ?_
      · simp only [failed]
        rfl
      · simp only [finished]
        exact ⟨(), rfl⟩

/-- A number that is skipped begins with its sign or with its first digit. -/
theorem skipNumeral_verdict (b : UInt8) (bs : Bytes) :
    Verdict bare bs.length fun t => skipNumeral (.byte b (t.prepend bs)) := by
  refine .ite (fun _ => ?_) fun _ => skipUnsigned_verdict b bs
  cases bs with
  | nil => exact .asks (fun _ => rfl) Fault.ofText_malformed
  | cons d bs => exact (skipUnsigned_verdict d bs).cons d

/-! ## Values that are passed over -/

/-- What a scalar is that is skipped is decided by its first byte. -/
theorem skipScalar_verdict (b : UInt8) (bs : Bytes) :
    Verdict bare bs.length fun t => skipScalar (.byte b (t.prepend bs)) :=
  .ite (fun _ => literal_verdict _ bs) fun _ =>
  .ite (fun _ => literal_verdict _ bs) fun _ =>
  .ite (fun _ => literal_verdict _ bs) fun _ =>
  .ite (fun _ => skipText_verdict bs) fun _ =>
  .ite (fun _ => skipNumeral_verdict b bs) fun _ => .malformed

/-- A value is skipped whatever is still to be closed, by induction on the known bytes. -/
theorem skip_verdict (expecting : Expecting) (unclosed : List Frame) (bs : Bytes) :
    Verdict bare bs.length fun t => skip expecting unclosed (t.prepend bs) := by
  -- More may be open after a step than before it, but every step takes a byte.
  match expecting, unclosed with
  | .value, unclosed =>
    simp only [skip_value_eq unclosed (.prepend bs _)]
    refine .onByte (.skipSpace bs) fun b rest hrest => ?_
    refine .ite (fun _ => .cons b ?_) fun _ => .ite (fun _ => .cons b ?_) fun _ => ?_
    · exact .onByte (.skipSpace rest) fun c r hr =>
        .ite (fun _ => .cons c (skip_verdict .next unclosed r)) fun _ =>
          skip_verdict .value (.array :: unclosed) (c :: r)
    · exact .onByte (.skipSpace rest) fun c r hr =>
        .ite (fun _ => .cons c (skip_verdict .next unclosed r)) fun _ =>
          skip_verdict .member (.object :: unclosed) (c :: r)
    · exact .cons b ((skipScalar_verdict b rest).andThen (fun _ _ h => by rw [h]) fun _ r hr =>
        ⟨_, fun _ h => by rw [h]; rfl, skip_verdict .next unclosed r⟩)
  | .member, unclosed =>
    simp only [skip_member_eq unclosed (.prepend bs _)]
    refine .onByte (.skipSpace bs) fun b rest hrest => .cons b ?_
    refine .ite (fun _ => ?_) fun _ => .malformed
    exact (skipText_verdict rest).andThen (fun _ _ h => by rw [h]) fun _ r hr =>
      ⟨_, fun _ h => by rw [h]; rfl, .onByte (.skipSpace r) fun c r' hr' =>
        .cons c (.ite (fun _ => skip_verdict .value unclosed r') fun _ => .malformed)⟩
  | .next, [] =>
    exact .taken () bs (Nat.le_refl _) fun t => by rw [skip]; rfl
  | .next, frame :: unclosed =>
    simp only [skip_next_eq unclosed (.prepend bs _)]
    refine .onByte (.skipSpace bs) fun b rest hrest => .cons b ?_
    refine .ite (fun _ => ?_) fun _ =>
      .ite (fun _ => skip_verdict .next unclosed rest) fun _ => .malformed
    cases frame with
    | array => exact skip_verdict .value (.array :: unclosed) rest
    | object => exact skip_verdict .member (.object :: unclosed) rest
termination_by bs.length
decreasing_by all_goals simp only [List.length_cons] at *; omega

/-! ## Typed values -/

/-- A text is read and must be UTF-8. -/
theorem textString_verdict (bs : Bytes) :
    Verdict Prod.mk bs.length fun t => textString (t.prepend bs) := by
  refine (text_verdict [] bs).andThen (fun _ _ h => by rw [textString, h]) fun cs rest _ => ?_
  cases hcs : Utf8.decode? cs with
  | some x => exact ⟨_, fun _ h => by simp only [textString, h, hcs], .yields x rest⟩
  | none => exact ⟨_, fun _ h => by simp only [textString, h, hcs], .malformed⟩

section
variable {α β : Type} {n : Nat} {leave : α → Source → β}

/-- A value of the wrong kind is refused where its kind is decided, or earlier for its own fault. -/
theorem Verdict.refusal {r : Source → Except Fault Unit}
    (h : Verdict (fun (_ : Unit) _ => ()) n r) :
    Verdict leave n fun t =>
      .error (match r t with | .ok () => .mistyped | .error f => f) := by
  cases h with
  | taken x rest _ eq =>
    simp only [eq]
    exact .mistyped
  | refused f ofText eq =>
    simp only [eq]
    exact .refused f ofText fun _ => rfl
  | asks failed finished =>
    refine .asks (fun e => by simp only [failed]) ?_
    cases hr : r .finished with
    | ok y => exact Fault.ofText_mistyped
    | error f =>
      rw [hr] at finished
      exact finished

/-- A value of another type is refused, with the fault that its first byte decides. -/
theorem mismatch_verdict (b : UInt8) (bs : Bytes) :
    Verdict leave bs.length fun t => .error (mismatch (.byte b (t.prepend bs))) := by
  have hliteral (cs : Bytes) :
      Verdict (fun (_ : Unit) _ => ()) bs.length fun t =>
        (literal cs (t.prepend bs)).map fun _ => () :=
    (literal_verdict cs bs).map id fun _ _ => rfl
  refine .refusal ?_
  refine .ite (fun _ => hliteral _) fun _ => .ite (fun _ => hliteral _) fun _ =>
    .ite (fun _ => hliteral _) fun _ => .ite (fun _ => ?_) fun _ => .ite (fun _ => ?_) fun _ =>
    .ite (fun _ => ?_) fun _ => .malformed
  · exact (number_verdict b bs).map (fun _ => ()) fun _ _ => rfl
  · exact (textString_verdict bs).map (fun _ => ()) fun _ _ => rfl
  · exact .yields () bs

end

/-- A string is refused by another first byte. -/
theorem string_verdict (bs : Bytes) :
    Verdict Prod.mk (bs.length - 1) fun t => string (t.prepend bs) :=
  .pastByte (.skipSpace bs) fun b rest _ =>
    .ite (fun _ => textString_verdict rest) fun _ => mismatch_verdict b rest

/-- A truth value is refused by another first byte. -/
theorem boolean_verdict (bs : Bytes) :
    Verdict Prod.mk (bs.length - 1) fun t => boolean (t.prepend bs) :=
  .pastByte (.skipSpace bs) fun b rest _ =>
    .ite (fun _ => (literal_verdict _ rest).map (fun _ => true) fun _ _ => rfl) fun _ =>
    .ite (fun _ => (literal_verdict _ rest).map (fun _ => false) fun _ _ => rfl) fun _ =>
      mismatch_verdict b rest

/-- An integer is read as a number and must be in bounds. -/
theorem integer_verdict (low high : Int) (bs : Bytes) :
    Verdict Prod.mk (bs.length - 1) fun t => integer low high (t.prepend bs) := by
  refine .pastByte (.skipSpace bs) fun b rest _ =>
    .ite (fun _ => ?_) fun _ => mismatch_verdict b rest
  refine (number_verdict b rest).andThen (fun _ _ h => by rw [h]) fun z left _ => ?_
  cases z with
  | real => exact ⟨_, fun _ h => by rw [h], .mistyped⟩
  | integer z =>
    exact ⟨_, fun _ h => by rw [h], .ite (fun _ => .yields z left) fun _ => .mistyped⟩

/-- What may be null has a verdict if what it is else has one. -/
theorem nullable_verdict {α : Type} {read : Source → Except Fault (α × Source)}
    (hread : ∀ bs : Bytes, Verdict Prod.mk (bs.length - 1) fun t => read (t.prepend bs))
    (bs : Bytes) :
    Verdict Prod.mk (bs.length - 1) fun t => nullable read (t.prepend bs) :=
  .pastByte (.skipSpace bs) fun b rest _ =>
    .ite (fun _ => (literal_verdict _ rest).map (fun _ => none) fun _ _ => rfl) fun _ =>
      (hread (b :: rest)).map some fun _ _ => rfl

/-- A colon is read behind white space. -/
theorem colon_verdict (bs : Bytes) : Verdict bare bs.length fun t => colon (t.prepend bs) :=
  .onByte (.skipSpace bs) fun b rest _ =>
    .cons b (.ite (fun _ => .yields () rest) fun _ => .malformed)

/-- The next item, from the byte that it starts with, if there is one. -/
def Item.ofStart : Option UInt8 → Source → Item
  | none, s => .closed s
  | some b, s => .starts b s

/-- An item begins, or the bracket is closed. -/
theorem nextItem_verdict (close : UInt8) (isFirst : Bool) (bs : Bytes) :
    Verdict Item.ofStart (bs.length - 1) fun t => nextItem close isFirst (t.prepend bs) := by
  refine .pastByte (.skipSpace bs) fun b rest _ => ?_
  refine .ite (fun _ => .yields none rest) fun _ => .ite (fun _ => .yields (some b) rest) fun _ =>
    .ite (fun _ => ?_) fun _ => .malformed
  exact .onByte (.skipSpace rest) fun c rest _ =>
    .cons c (.ite (fun _ => .malformed) fun _ => .yields (some c) rest)

end KctlProbe.Json
