import KctlProbe.Proofs.Json.Delivery
import KctlProbe.Proofs.Settings.Document

/-!
# What the delivery of a configuration decides

`decides` says how the reading of a configuration ends on the bytes that could be read: they are
refused whatever follows, or everything up to the end of the file is needed, and an error of the
operating system is the result. From this `load_outcomes` tells the results of loading apart by what
the operating system did and what the bytes say.

An error of the operating system is the failure itself only if the file could not be opened. One
that ends the reading is a fault of the configuration, like everything that the reader reports.
-/

namespace KctlProbe.Settings

open Json (Source Fault Verdict Remains)

/-! ## Fields and members -/

/-- An integer of 64 bits is read as an integer with its bounds. -/
theorem integer64_verdict (bs : Bytes) :
    Verdict Prod.mk (bs.length - 1) fun t => integer64 (t.prepend bs) :=
  (Json.integer_verdict _ _ bs).map Int64.ofInt fun _ _ => rfl

/-- A whole number of 16 bits is read as an integer with its bounds. -/
theorem integer16_verdict (bs : Bytes) :
    Verdict Prod.mk (bs.length - 1) fun t => integer16 (t.prepend bs) :=
  (Json.integer_verdict _ _ bs).map (fun z => UInt16.ofNat z.toNat) fun _ _ => rfl

/-- The value of a field is read by its type. -/
theorem Field.read_verdict (field : Field) (bs : Bytes) :
    Verdict Prod.mk (bs.length - 1) fun t => field.read (t.prepend bs) := by
  cases field with
  | program =>
    exact (Json.string_verdict bs).map (fun x => .program (Utf8.encode x)) fun _ _ => rfl
  | host => exact (Json.string_verdict bs).map .host fun _ _ => rfl
  | port => exact (integer16_verdict bs).map .port fun _ _ => rfl
  | user => exact (Json.nullable_verdict integer64_verdict bs).map .user fun _ _ => rfl
  | hmacKey => exact (Json.nullable_verdict Json.string_verdict bs).map .hmacKey fun _ _ => rfl
  | tls => exact (Json.boolean_verdict bs).map .tls fun _ _ => rfl
  | clusterVersion =>
    exact (Json.nullable_verdict integer64_verdict bs).map .clusterVersion fun _ _ => rfl
  | quiet => exact (Json.boolean_verdict bs).map .quiet fun _ _ => rfl
  | terse => exact (Json.boolean_verdict bs).map .terse fun _ _ => rfl
  | verbose => exact (Json.boolean_verdict bs).map .verbose fun _ _ => rfl
  | yes => exact (Json.boolean_verdict bs).map .yes fun _ _ => rfl

/-- A member is its name, a colon, and a value that is assigned or skipped. -/
theorem readMember_verdict (given : List Field) (bs : Bytes) :
    Verdict Prod.mk bs.length fun t => readMember given (t.prepend bs) := by
  refine (Json.textString_verdict bs).andThen (fun _ _ h => by rw [readMember, h])
    fun name rest _ => ?_
  cases hfield : Field.ofName? name with
  | some field =>
    by_cases hgiven : field ∈ given
    · exact ⟨_, fun _ h => by simp only [readMember, h, hfield, if_pos hgiven], .mistyped⟩
    · refine ⟨_, fun _ h => by simp only [readMember, h, hfield, if_neg hgiven]; rfl, ?_⟩
      exact (Json.colon_verdict rest).andThen (fun _ _ h => by rw [h]) fun _ rest _ =>
        ⟨_, fun _ h => by rw [h]; rfl,
          ((field.read_verdict rest).map (.assigns field) fun _ _ => rfl).mono (Nat.sub_le _ _)⟩
  | none =>
    refine ⟨_, fun _ h => by simp only [readMember, h, hfield]; rfl, ?_⟩
    exact (Json.colon_verdict rest).andThen (fun _ _ h => by rw [h]) fun _ rest _ =>
      ⟨_, fun _ h => by rw [h]; rfl,
        (Json.skip_verdict .value [] rest).map (fun _ => .ignored) fun _ _ => rfl⟩

/-- Members are read up to the closing brace, by induction on the known bytes. -/
theorem readMembers_verdict (given : List Field) (isFirst : Bool) (c : Settings) (bs : Bytes) :
    Verdict Prod.mk bs.length fun t => readMembers given isFirst c (t.prepend bs) := by
  -- The recursion is on the bytes: the next item takes one of them, whatever the member leaves.
  cases bs with
  | nil =>
    refine .asks (fun _ => ?_) ?_ <;> rw [readMembers_eq]
    · rfl
    · exact Json.Fault.ofText_truncated
  | cons b bs =>
    refine .cons b ((Json.nextItem_verdict 0x7D isFirst (b :: bs)).andThen
      (fun _ _ h => by rw [readMembers_eq, h]) fun item rest _ => ?_)
    cases item with
    | none => exact ⟨_, fun _ h => by rw [readMembers_eq, h]; rfl, .yields c rest⟩
    | some q =>
      refine ⟨_, fun _ h => by rw [readMembers_eq, h]; rfl, .ite (fun _ => ?_) fun _ => .malformed⟩
      refine (readMember_verdict given rest).andThen (fun _ _ h => by rw [h]) fun m rest _ => ?_
      cases m with
      | assigns field a =>
        exact ⟨_, fun _ h => by rw [h],
          readMembers_verdict (field :: given) false (c.assign a) rest⟩
      | ignored => exact ⟨_, fun _ h => by rw [h], readMembers_verdict given false c rest⟩
termination_by bs.length
decreasing_by all_goals simp only [List.length_cons] at *; omega

/-- Elements are read for the fields in turn, by induction on the known bytes. -/
theorem readElements_verdict (isFirst : Bool) (c : Settings) (fields : List Field) (bs : Bytes) :
    Verdict Prod.mk bs.length fun t => readElements isFirst c fields (t.prepend bs) := by
  induction fields generalizing isFirst c bs with
  | nil =>
    simp only [readElements]
    exact .onByte (.skipSpace bs) fun b rest _ =>
      .cons b (.ite (fun _ => .yields c rest) fun _ => .malformed)
  | cons field fields ih =>
    refine .mono (m := bs.length - 1) ?_ (Nat.sub_le _ _)
    refine (Json.nextItem_verdict 0x5D isFirst bs).andThen
      (fun _ _ h => by rw [readElements, h]) fun item rest _ => ?_
    cases item with
    | none => exact ⟨_, fun _ h => by rw [readElements, h]; rfl, .yields c rest⟩
    | some b =>
      refine ⟨_, fun _ h => by simp only [readElements, h, Json.Item.ofStart]; rfl, ?_⟩
      exact (field.read_verdict (b :: rest)).andThen
        (fun _ _ h => by rw [← Source.prepend_cons, h]) fun a rest _ =>
          ⟨_, fun _ h => by rw [← Source.prepend_cons, h], ih false (c.assign a) rest⟩

/-- A configuration is an object or an array, as its first byte decides. -/
theorem readDocument_verdict (bs : Bytes) :
    Verdict Prod.mk bs.length fun t => readDocument (t.prepend bs) :=
  .onByte (.skipSpace bs) fun b rest _ =>
    .ite (fun _ => .cons b (readElements_verdict true .default Field.all rest)) fun _ =>
    .ite (fun _ => .cons b (readMembers_verdict [] true .default rest)) fun _ =>
      .cons b (Json.mismatch_verdict b rest)

/-! ## Configurations -/

/-- The bytes are refused for the fault `f`, whatever follows them. -/
def Refused (bs : Bytes) (f : Fault) : Prop :=
  ∀ rest : Source, ofSource (rest.prepend bs) = .error f

/-- **The bytes that are read decide, or their end does.** Bytes are refused for what they say,
whatever follows them, or the reader comes to their end. Then an error of the operating system that
is met there is the result, and the end of the file is at most a fault of the text. -/
theorem decides (bs : Bytes) :
    (∃ f : Fault, f.OfText ∧ Refused bs f) ∨
      (∀ e, ofSource (Source.prepend bs (.failed e)) = .error (.unreadable e)) ∧
        ∀ f, ofSource (.ofBytes bs) = .error f → f.OfText := by
  rcases readDocument_verdict bs with ⟨c, rest, -, eq⟩ | ⟨f, ofText, eq⟩ | ⟨failed, finished⟩
  · -- The outermost value is complete, and only blanks may follow it.
    rcases Remains.skipSpace rest with ⟨b, left, -, hspace⟩ | ⟨failed, finished⟩
    · exact .inl ⟨.malformed, Json.Fault.ofText_malformed, fun t => by
        simp only [ofSource, eq, hspace, id]⟩
    · refine .inr ⟨fun e => by simp only [ofSource, eq, failed, id], fun f h => ?_⟩
      simp only [ofSource, Source.ofBytes, eq, finished, id] at h
      cases h
  · exact .inl ⟨f, ofText, fun t => by simp only [ofSource, eq]⟩
  · refine .inr ⟨fun e => by simp only [ofSource, failed], fun f h => ?_⟩
    rw [ofSource, Source.ofBytes] at h
    cases hd : readDocument (Source.prepend bs .finished) with
    | error f' =>
      rw [hd] at finished h
      cases h
      exact finished
    | ok p =>
      rw [hd] at finished h
      obtain ⟨c, rfl⟩ := finished
      cases h

/-- What is wrong with a file that is read to its end is a fault of its text. -/
theorem ofText_of_ofSource {bs : Bytes} {f : Fault} (h : ofSource (.ofBytes bs) = .error f) :
    f.OfText := by
  rcases decides bs with ⟨f', ofText, hf⟩ | ⟨-, hfinished⟩
  · cases (hf .finished).symm.trans h
    exact ofText
  · exact hfinished f h

/-- What is read of a file ends with the file or with an error of the operating system. -/
theorem exists_prepend (s : Source) :
    ∃ bs, s = .ofBytes bs ∨ ∃ e, s = Source.prepend bs (.failed e) := by
  induction s with
  | byte b rest ih =>
    obtain ⟨bs, rfl | ⟨e, rfl⟩⟩ := ih
    · exact ⟨b :: bs, .inl rfl⟩
    · exact ⟨b :: bs, .inr ⟨e, rfl⟩⟩
  | finished => exact ⟨[], .inl rfl⟩
  | failed e => exact ⟨[], .inr ⟨e, rfl⟩⟩

section
variable {s : Source}

/-- Settings are read only from a file that is read to its end. -/
theorem ofSource_eq_ok_iff {c : Settings} :
    ofSource s = .ok c ↔ ∃ bs, s = .ofBytes bs ∧ ofSource (.ofBytes bs) = .ok c := by
  constructor
  · intro h
    obtain ⟨bs, rfl | ⟨e, rfl⟩⟩ := exists_prepend s
    · exact ⟨bs, rfl, h⟩
    · rcases decides bs with ⟨f, -, hf⟩ | ⟨hfailed, -⟩
      · rw [hf] at h
        cases h
      · rw [hfailed] at h
        cases h
  · rintro ⟨bs, rfl, h⟩
    exact h

/-- An error of the operating system ends the reading if the bytes before it are not refused. -/
theorem ofSource_eq_unreadable_iff {e : OsError} :
    ofSource s = .error (.unreadable e) ↔
      ∃ bs, s = Source.prepend bs (.failed e) ∧ ∀ f, ¬Refused bs f := by
  constructor
  · intro h
    obtain ⟨bs, rfl | ⟨e', rfl⟩⟩ := exists_prepend s
    · rcases decides bs with ⟨f, ofText, hf⟩ | ⟨-, hfinished⟩
      · cases (hf .finished).symm.trans h
        exact absurd rfl (ofText e)
      · exact absurd rfl (hfinished _ h e)
    · rcases decides bs with ⟨f, ofText, hf⟩ | ⟨hfailed, hfinished⟩
      · cases (hf _).symm.trans h
        exact absurd rfl (ofText e)
      · cases (hfailed e').symm.trans h
        refine ⟨bs, rfl, fun f hf => ?_⟩
        cases (hf _).symm.trans (hfailed e)
        exact hfinished _ (hf .finished) e rfl
  · rintro ⟨bs, rfl, h⟩
    rcases decides bs with ⟨f, -, hf⟩ | ⟨hfailed, -⟩
    · exact absurd hf (h f)
    · exact hfailed e

/-- A fault of the text is found in a file that is read to its end, or before its reading fails. -/
theorem ofSource_eq_error_iff {f : Fault} (ofText : f.OfText) :
    ofSource s = .error f ↔
      ∃ bs, s = .ofBytes bs ∧ ofSource (.ofBytes bs) = .error f ∨
        ∃ e, s = Source.prepend bs (.failed e) ∧ Refused bs f := by
  constructor
  · intro h
    obtain ⟨bs, rfl | ⟨e, rfl⟩⟩ := exists_prepend s
    · exact ⟨bs, .inl ⟨rfl, h⟩⟩
    · rcases decides bs with ⟨f', -, hf⟩ | ⟨hfailed, -⟩
      · cases (hf _).symm.trans h
        exact ⟨bs, .inr ⟨e, rfl, hf⟩⟩
      · cases (hfailed e).symm.trans h
        exact absurd rfl (ofText e)
  · rintro ⟨bs, ⟨rfl, h⟩ | ⟨e, rfl, h⟩⟩
    · exact h
    · exact h _

end

/-! ## Files -/

/-- **What a file is loaded as.** An error of the operating system is the failure if the file could
not be opened, and only then. Settings come only from a file that was read to its end. An error of
the operating system that ends the reading is a fault of the configuration, if the bytes before it
are not refused whatever follows them, and every other fault of the configuration lies in bytes that
were read. So the kind of a failure says whether the file was opened, and no more. -/
theorem load_outcomes {σ : Type} (host : Host σ) (path : Bytes) (state : σ) :
    (∀ e, load host path state = .error (.ofOsError e) ↔ host.openFile path state = .error e) ∧
    (∀ c, load host path state = .ok c ↔
      ∃ bs, host.openFile path state = .ok (.ofBytes bs) ∧ ofSource (.ofBytes bs) = .ok c) ∧
    (∀ e, load host path state = .error (.ofFault (.unreadable e)) ↔
      ∃ bs, host.openFile path state = .ok (Source.prepend bs (.failed e)) ∧
        ∀ f, ¬Refused bs f) ∧
    (∀ f : Fault, f.OfText → (load host path state = .error (.ofFault f) ↔
      ∃ bs, host.openFile path state = .ok (.ofBytes bs) ∧ ofSource (.ofBytes bs) = .error f ∨
        ∃ e, host.openFile path state = .ok (Source.prepend bs (.failed e)) ∧ Refused bs f)) ∧
    (∀ failure, load host path state = .error failure →
      (failure.kind = .unreadable ↔ ∃ e, host.openFile path state = .error e) ∧
      (failure.kind = .badJson ↔ ∃ s, host.openFile path state = .ok s) ∧
      ∀ e, failure.osError? = some e ↔ host.openFile path state = .error e) := by
  refine ⟨fun e => load_eq_ofOsError_iff, fun c => ?_, fun e => ?_, fun f ofText => ?_,
    fun failure h => ?_⟩
  · rw [load_eq_ok_iff]
    constructor
    · rintro ⟨s, hopen, hs⟩
      obtain ⟨bs, rfl, hread⟩ := ofSource_eq_ok_iff.1 hs
      exact ⟨bs, hopen, hread⟩
    · rintro ⟨bs, hopen, hread⟩
      exact ⟨_, hopen, hread⟩
  · rw [load_eq_ofFault_iff]
    constructor
    · rintro ⟨s, hopen, hs⟩
      obtain ⟨bs, rfl, hread⟩ := ofSource_eq_unreadable_iff.1 hs
      exact ⟨bs, hopen, hread⟩
    · rintro ⟨bs, hopen, hread⟩
      exact ⟨_, hopen, ofSource_eq_unreadable_iff.2 ⟨bs, rfl, hread⟩⟩
  · rw [load_eq_ofFault_iff]
    constructor
    · rintro ⟨s, hopen, hs⟩
      obtain ⟨bs, ⟨rfl, hread⟩ | ⟨e, rfl, hread⟩⟩ := (ofSource_eq_error_iff ofText).1 hs
      · exact ⟨bs, .inl ⟨hopen, hread⟩⟩
      · exact ⟨bs, .inr ⟨e, hopen, hread⟩⟩
    · rintro ⟨bs, ⟨hopen, hread⟩ | ⟨e, hopen, hread⟩⟩
      · exact ⟨_, hopen, hread⟩
      · exact ⟨_, hopen, hread _⟩
  · obtain ⟨e, rfl, hopen⟩ | ⟨f, s, rfl, hopen, -⟩ := load_eq_error h
    · simp [hopen, Failure.ofOsError, Failure.osError?, Cause.osError?]
    · simp [hopen, Failure.ofFault, Failure.osError?, Cause.osError?]

/-- A host of which every file has the bytes `bs`, and then the reading fails. -/
def interrupted (bs : Bytes) (e : OsError) : Host Unit where
  spawn _ _ _ state := (.error .notFound, state)
  openFile _ _ := .ok (Source.prepend bs (.failed e))
  clock _ := 0

/-- A file that starts with a letter is refused for it, although its reading fails later. -/
theorem load_outcomes_letter :
    Json.Fault.malformed.OfText ∧
      load (interrupted [0x78] .other) [0x66] () = .error (.ofFault .malformed) := by
  have ofText := Json.Fault.ofText_malformed
  obtain ⟨-, -, -, htext, -⟩ := load_outcomes (interrupted [0x78] .other) [0x66] ()
  exact ⟨ofText, (htext .malformed ofText).2 ⟨[0x78], .inr ⟨.other, rfl, fun _ => rfl⟩⟩⟩

/-- A directory can be opened, and its reading fails at once. The failure is of the kind of a bad
configuration and does not give the error of the operating system. -/
theorem load_directory :
    (interrupted [] .isADirectory).openFile [0x64] () = .ok (.failed .isADirectory) ∧
      ∃ failure, load (interrupted [] .isADirectory) [0x64] () = .error failure ∧
        failure.kind = .badJson ∧ failure.kind ≠ .unreadable ∧ failure.osError? = none :=
  ⟨rfl, _, rfl, rfl, by decide, rfl⟩

end KctlProbe.Settings
