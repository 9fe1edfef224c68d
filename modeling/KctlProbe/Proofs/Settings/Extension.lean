import KctlProbe.Proofs.Settings.Delivery

/-!
# Cut and extended configurations

An array or object shows its own end: it is read with its last bracket, and what follows is not
looked at (`SelfDelimiting`). A number does not, but it can only stand inside an array or object,
and a reader that comes to the end of the file there asks for more. So the bytes of an accepted
configuration hold its outermost value whole, and what may follow them is what may follow that value
(`ofSource_prepend`): blanks and the end of the file.

The induction is on the bytes, along the loop over elements or members. `SelfDelimiting.andThen` is
the step behind an element or a member, which need not show its own end.
-/

namespace KctlProbe.Json

/-! ## Blanks -/

section
variable {bs : Bytes}

/-- Blanks are passed over. -/
theorem skipSpace_of_forall_isSpace (h : ∀ b ∈ bs, isSpace b = true) (s : Source) :
    skipSpace (s.prepend bs) = skipSpace s := by
  induction bs with
  | nil => rfl
  | cons b bs ih =>
    rw [List.forall_mem_cons] at h
    rw [Source.prepend_cons, skipSpace, if_pos h.1, ih h.2]

/-- A byte that is no blank is not passed over. -/
theorem exists_skipSpace_eq_byte (h : ∃ b ∈ bs, isSpace b = false) (s : Source) :
    ∃ b rest, skipSpace (s.prepend bs) = .byte b rest := by
  induction bs with
  | nil =>
    obtain ⟨b, hb, -⟩ := h
    cases hb
  | cons b bs ih =>
    cases hspace : isSpace b with
    | true =>
      rw [Source.prepend_cons, skipSpace, if_pos hspace]
      refine ih ?_
      obtain ⟨c, hc, hcs⟩ := h
      rcases List.mem_cons.1 hc with rfl | hc
      · rw [hspace] at hcs
        cases hcs
      · exact ⟨c, hc, hcs⟩
    | false => exact ⟨b, _, skipSpace_of_not_isSpace hspace _⟩

/-- Either all bytes are blanks or one is none. -/
theorem forall_isSpace_or (bs : Bytes) :
    (∀ b ∈ bs, isSpace b = true) ∨ ∃ b ∈ bs, isSpace b = false := by
  by_cases h : ∀ b ∈ bs, isSpace b = true
  · exact .inl h
  · exact .inr (by simpa using h)

end

/-! ## Readers that see the end of what they read -/

/-- What is read up to the end of a file is read without asking for that end: the reader reads as
well where the operating system fails instead. -/
def SelfDelimiting {β : Type} (r : Source → Except Fault β) : Prop :=
  ∀ y, r .finished = .ok y → ∀ e, ∃ z, r (.failed e) = .ok z

namespace SelfDelimiting

variable {α β δ : Type} {n : Nat} {leave : α → Source → β} {r : Source → Except Fault β}

/-- What succeeds whatever follows is self-delimiting. -/
theorem reads (f : Source → β) : SelfDelimiting fun t => .ok (f t) :=
  fun _ _ _ => ⟨_, rfl⟩

/-- What fails whatever follows is self-delimiting. -/
theorem fails (f : Source → Fault) : SelfDelimiting fun t => (.error (f t) : Except Fault β) :=
  nofun

/-- A choice that does not depend on what follows is self-delimiting if both branches are. -/
theorem ite {c : Prop} [Decidable c] {r' : Source → Except Fault β} (h : SelfDelimiting r)
    (h' : SelfDelimiting r') : SelfDelimiting fun t => if c then r t else r' t := by
  by_cases hc : c
  · simpa only [if_pos hc] using h
  · simpa only [if_neg hc] using h'

/-- A reader that looks at the byte behind a run fails where nothing is left. -/
theorem atByte {σ : Source → Source} {k : UInt8 → Source → Except Fault β} (h : Remains id n σ)
    (hk : ∀ b (rest : Bytes), SelfDelimiting fun t => k b (t.prepend rest)) :
    SelfDelimiting fun t => match σ t with | .byte b s => k b s | s => .error s.shortage := by
  cases h with
  | byte b rest _ eq =>
    simp only [eq]
    exact hk b rest
  | nothing failed finished =>
    intro y hy
    simp only [finished] at hy
    cases hy

/-- A reader that asks for what follows does not read up to the end of a file. -/
theorem ne_ok (h : SelfDelimiting r) (failed : ∀ e, r (.failed e) = .error (.unreadable e))
    (y : β) : r .finished ≠ .ok y := by
  intro hy
  obtain ⟨z, hz⟩ := h y hy .other
  rw [failed] at hz
  cases hz

/-- **One reader after another.** `r'` hands on the faults of `r` and goes on with its values. It
shows its own end if it does so behind each value of `r`, and fails where `r` has read to the end of
the file. -/
theorem andThen (h : Verdict leave n r) {r' : Source → Except Fault δ}
    (err : ∀ f, r .finished = .error f → r' .finished = .error f)
    (ok : ∀ x rest, rest.length ≤ n → (∀ t, r t = .ok (leave x (t.prepend rest))) →
      SelfDelimiting r')
    (last : (∀ e, r (.failed e) = .error (.unreadable e)) →
      ∀ x, r .finished = .ok (leave x .finished) → ∃ f, r' .finished = .error f) :
    SelfDelimiting r' := by
  cases h with
  | taken x rest hle eq => exact ok x rest hle eq
  | refused f _ eq =>
    intro y hy
    rw [err f (eq _)] at hy
    cases hy
  | asks failed finished =>
    intro y hy
    cases hr : r .finished with
    | error f =>
      rw [err f hr] at hy
      cases hy
    | ok z =>
      rw [hr] at finished
      obtain ⟨x, rfl⟩ := finished
      obtain ⟨f, hf⟩ := last failed x hr
      rw [hf] at hy
      cases hy

end SelfDelimiting

/-- What is read up to the end of a file by a reader that shows its own end is read whatever
follows. -/
theorem Verdict.exists_taken {α β : Type} {n : Nat} {leave : α → Source → β}
    {r : Source → Except Fault β} (h : Verdict leave n r) (hr : SelfDelimiting r) {y : β}
    (hy : r .finished = .ok y) : ∃ x rest, ∀ t, r t = .ok (leave x (t.prepend rest)) := by
  cases h with
  | taken x rest _ eq => exact ⟨x, rest, eq⟩
  | refused f _ eq =>
    rw [eq] at hy
    cases hy
  | asks failed => exact absurd hy (hr.ne_ok failed y)

/-- A closing bracket, or the first byte of an element or member, is the last byte looked at. -/
theorem nextItem_selfDelimiting (close : UInt8) (isFirst : Bool) (bs : Bytes) :
    SelfDelimiting fun t => nextItem close isFirst (t.prepend bs) := by
  refine .atByte (.skipSpace bs) fun b rest =>
    .ite (.reads _) (.ite (.reads _) (.ite ?_ (.fails _)))
  exact .atByte (.skipSpace rest) fun c rest => .ite (.fails _) (.reads _)

end KctlProbe.Json

namespace KctlProbe.Settings

open Json (Source Fault Verdict SelfDelimiting)

/-! ## Configurations -/

/-- The closing bracket ends the elements. -/
theorem readElements_selfDelimiting (isFirst : Bool) (c : Settings) (fields : List Field)
    (bs : Bytes) : SelfDelimiting fun t => readElements isFirst c fields (t.prepend bs) := by
  induction fields generalizing isFirst c bs with
  | nil =>
    simp only [readElements]
    exact .atByte (.skipSpace bs) fun b rest => .ite (.reads _) (.fails _)
  | cons field fields ih =>
    refine .andThen (Json.nextItem_verdict 0x5D isFirst bs) (fun _ h => by rw [readElements, h])
      (fun item rest _ eq => ?_) fun failed item h =>
        absurd h ((Json.nextItem_selfDelimiting 0x5D isFirst bs).ne_ok failed _)
    simp only [readElements, eq]
    cases item with
    | none => exact .reads _
    | some b =>
      refine .andThen (field.read_verdict (b :: rest))
        (fun _ h => by simp only [Json.Item.ofStart, ← Source.prepend_cons, h])
        (fun a rest _ eq => ?_) fun _ a h => ?_
      · simp only [Json.Item.ofStart, ← Source.prepend_cons, eq]
        exact ih false (c.assign a) rest
      · -- A value ends with the file, and its array has no bracket.
        refine ⟨.truncated, ?_⟩
        simp only [Json.Item.ofStart, ← Source.prepend_cons, h]
        cases fields <;> rfl

/-- The closing brace ends the members. -/
theorem readMembers_selfDelimiting (given : List Field) (isFirst : Bool) (c : Settings)
    (bs : Bytes) : SelfDelimiting fun t => readMembers given isFirst c (t.prepend bs) := by
  have open_end {given isFirst c} : readMembers given isFirst c .finished = .error .truncated := by
    rw [readMembers_eq]
    rfl
  cases bs with
  | nil =>
    intro y hy
    cases open_end.symm.trans hy
  | cons b bs =>
    refine .andThen (Json.nextItem_verdict 0x7D isFirst (b :: bs))
      (fun _ h => by rw [readMembers_eq, h]) (fun item rest hle eq => ?_) fun failed item h =>
        absurd h ((Json.nextItem_selfDelimiting 0x7D isFirst (b :: bs)).ne_ok failed _)
    simp only [readMembers_eq _ _ _ (Source.prepend _ _), eq]
    cases item with
    | none => exact .reads _
    | some q =>
      refine .ite ?_ (.fails _)
      refine .andThen (readMember_verdict given rest) (fun _ h => by rw [h])
        (fun m rest hle' eq => ?_) fun _ m h => ?_
      · simp only [eq]
        cases m with
        | assigns field a =>
          exact readMembers_selfDelimiting (field :: given) false (c.assign a) rest
        | ignored => exact readMembers_selfDelimiting given false c rest
      · -- A member ends with the file, and its object has no bracket.
        refine ⟨.truncated, ?_⟩
        rw [h]
        cases m <;> exact open_end
termination_by bs.length
decreasing_by all_goals simp only [List.length_cons] at *; omega

/-- The bracket that closes a configuration ends it. -/
theorem readDocument_selfDelimiting (bs : Bytes) :
    SelfDelimiting fun t => readDocument (t.prepend bs) :=
  .atByte (.skipSpace bs) fun _ rest =>
    .ite (readElements_selfDelimiting true .default Field.all rest)
      (.ite (readMembers_selfDelimiting [] true .default rest) (.fails _))

section
variable {b : Bytes} {c : Settings} (h : ofSource (.ofBytes b) = .ok c)
include h

/-- **The bytes of an accepted configuration hold it whole.** Only the first byte behind them that
is no blank is looked at, and there must be none. -/
theorem ofSource_prepend (t : Source) :
    ofSource (t.prepend b) =
      match Json.skipSpace t with
      | .byte _ _ => .error .malformed
      | .finished => .ok c
      | .failed e => .error (.unreadable e) := by
  cases hd : readDocument (.ofBytes b) with
  | error f =>
    rw [ofSource, hd] at h
    cases h
  | ok p =>
    obtain ⟨d, rest, eq⟩ :=
      (readDocument_verdict b).exists_taken (readDocument_selfDelimiting b) hd
    -- What is left of the bytes behind the value can only be blanks.
    have hrest : ∀ y ∈ rest, Json.isSpace y = true := by
      refine (Json.forall_isSpace_or rest).resolve_right fun hne => ?_
      obtain ⟨y, left, hy⟩ := Json.exists_skipSpace_eq_byte hne .finished
      rw [ofSource, Source.ofBytes, eq] at h
      simp only [hy] at h
      cases h
    rw [ofSource, Source.ofBytes, eq] at h
    simp only [Json.skipSpace_of_forall_isSpace hrest, Json.skipSpace] at h
    cases h
    rw [ofSource, eq]
    cases ht : Json.skipSpace t <;> simp only [Json.skipSpace_of_forall_isSpace hrest, ht]

/-- Blanks may follow an accepted configuration, and nothing else. -/
theorem ofSource_append_iff {x : Bytes} {c' : Settings} :
    ofSource (.ofBytes (b ++ x)) = .ok c' ↔ (∀ y ∈ x, Json.isSpace y = true) ∧ c' = c := by
  rw [Source.ofBytes, Source.prepend_append, ofSource_prepend h]
  rcases Json.forall_isSpace_or x with hx | hx
  · rw [Json.skipSpace_of_forall_isSpace hx]
    simp only [Json.skipSpace, Except.ok.injEq]
    exact ⟨fun hc => ⟨hx, hc.symm⟩, fun hc => hc.2.symm⟩
  · obtain ⟨y, left, hy⟩ := Json.exists_skipSpace_eq_byte hx .finished
    simp only [hy]
    constructor
    · intro hc
      cases hc
    · rintro ⟨hblank, -⟩
      obtain ⟨z, hz, hne⟩ := hx
      rw [hblank z hz] at hne
      cases hne

end

/-- **A cut or extended configuration is never another one.** If a file is loaded, then with more
bytes behind it it is loaded if and only if these are blanks, and as the same settings; with any
other bytes it is malformed. Cut in front of a byte that is no blank, it is refused for a fault of
its text. -/
theorem loads_append {b : Bytes} {c : Settings} (h : Loads (.ofBytes b) (.ok c)) :
    (∀ (x : Bytes) (c' : Settings), Loads (.ofBytes (b ++ x)) (.ok c') ↔
      (∀ y ∈ x, Json.isSpace y = true) ∧ c' = c) ∧
    (∀ x : Bytes, (∃ y ∈ x, Json.isSpace y = false) →
      Loads (.ofBytes (b ++ x)) (.error (.ofFault .malformed))) ∧
    ∀ start cut : Bytes, b = start ++ cut → (∃ y ∈ cut, Json.isSpace y = false) →
      ∃ f : Fault, f.OfText ∧ Loads (.ofBytes start) (.error (.ofFault f)) := by
  have hread := loads_ok_iff.1 h
  refine ⟨fun x c' => loads_ok_iff.trans (ofSource_append_iff hread), fun x hx => ?_, ?_⟩
  · obtain ⟨y, left, hy⟩ := Json.exists_skipSpace_eq_byte hx .finished
    refine loads_of_error ?_
    rw [Source.ofBytes, Source.prepend_append, ofSource_prepend hread]
    simp only [hy]
  · rintro start cut rfl ⟨y, hy, hne⟩
    cases hstart : ofSource (.ofBytes start) with
    | error f => exact ⟨f, ofText_of_ofSource hstart, loads_of_error hstart⟩
    | ok d =>
      -- The cut bytes would be what follows an accepted configuration.
      have hblank := ((ofSource_append_iff hstart).1 hread).1 y hy
      rw [hblank] at hne
      cases hne

/-- A document is loaded with a line feed behind it, is malformed with a second bracket, and is
refused if it is cut inside an escape. -/
theorem loads_append_escapedName :
    Loads (.ofBytes escapedName.bytes) (.ok escapedName.settings) ∧
      Loads (.ofBytes (escapedName.bytes ++ [0x0A])) (.ok escapedName.settings) ∧
      Loads (.ofBytes (escapedName.bytes ++ [0x7D])) (.error (.ofFault .malformed)) ∧
      ∃ f : Fault, f.OfText ∧
        Loads (.ofBytes (escapedName.bytes.take 9)) (.error (.ofFault f)) := by
  have hload : Loads (.ofBytes escapedName.bytes) (.ok escapedName.settings) :=
    loads_of_ok (ofSource_document ⟨by decide, by decide⟩)
  obtain ⟨hblank, hother, hcut⟩ := loads_append hload
  exact ⟨hload, (hblank _ _).2 ⟨List.forall_mem_singleton.2 rfl, rfl⟩,
    hother _ ⟨0x7D, List.mem_singleton_self _, rfl⟩,
    hcut _ _ (List.take_append_drop 9 _).symm ⟨0x75, by decide, rfl⟩⟩

end KctlProbe.Settings
