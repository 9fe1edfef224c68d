import KctlProbe.Proofs.Json.Outcomes
import KctlProbe.Proofs.Settings.Document

/-!
# Only acceptable documents are read

`readMembers_entries` follows the reader through acceptable members. Here is the way back: each
step that the reader takes behind a member says that the member has a meaning and gives no field
twice (`meaning?_of_readMember`), and by induction on the members all of them are acceptable
(`acceptable_of_readMembers`). For a member of a known field this rests on what the reader of the
field makes of a value of any kind (`Field.recognises`). So a document is read if and only if it is
acceptable (`ofSource_document_iff`).
-/

namespace KctlProbe.Settings

open Json (Source Fault Blank Blanks Tree Entry Letter Settles entriesBytes)

/-! ## Fields -/

/-- Integers of 64 bits are read, and nothing else is. -/
theorem integer64_recognises : Json.Recognises integer64 Field.value?.integer64? :=
  (Json.recognises_integer (by decide) (by decide)).map Int64.ofInt

/-- Whole numbers of 16 bits are read, and nothing else is. -/
theorem integer16_recognises :
    Json.Recognises integer16 fun t => (t.integer? 0 65535).map fun z => UInt16.ofNat z.toNat :=
  (Json.recognises_integer (by decide) (by decide)).map fun z => UInt16.ofNat z.toNat

/-- A value is read for a field as what it means for the field. -/
theorem Field.recognises (field : Field) : Json.Recognises field.read field.value? := by
  cases field with
  | program => exact Json.recognises_string.map fun x => Assignment.program (Utf8.encode x)
  | host => exact Json.recognises_string.map Assignment.host
  | port =>
    intro t
    obtain ⟨o, ho, hvalue⟩ := integer16_recognises.map Assignment.port t
    exact ⟨o, ho, hvalue.trans (Option.map_map _ _ _)⟩
  | user => exact integer64_recognises.nullable.map Assignment.user
  | hmacKey => exact Json.recognises_string.nullable.map Assignment.hmacKey
  | clusterVersion => exact integer64_recognises.nullable.map Assignment.clusterVersion
  | tls => exact Json.recognises_boolean.map Assignment.tls
  | quiet => exact Json.recognises_boolean.map Assignment.quiet
  | terse => exact Json.recognises_boolean.map Assignment.terse
  | verbose => exact Json.recognises_boolean.map Assignment.verbose
  | yes => exact Json.recognises_boolean.map Assignment.yes

/-! ## Acceptable members -/

section
variable {e : Entry Tree} {es es' : List (Entry Tree)} {field : Field} {a : Assignment}

/-- A member that assigns a field names that field. -/
theorem fields_cons (h : assignment? e = some a) : fields (e :: es) = a.field :: fields es := by
  simp [fields, assignments, h]

/-- A member that assigns nothing names no field. -/
theorem fields_cons_of_none (h : assignment? e = none) : fields (e :: es) = fields es := by
  simp [fields, assignments, h]

/-- The order of members does not matter. -/
theorem Acceptable.perm (h : Acceptable es) (hp : es'.Perm es) : Acceptable es' where
  meaningful e he := h.meaningful e (hp.mem_iff.1 he)
  once := ((hp.filterMap assignment?).map Assignment.field).nodup_iff.2 h.once

/-- A member of a known field is acceptable in front of others if its value fits the field and no
other member names it. -/
theorem acceptable_cons_iff (hname : Json.text? e.name = some field.name) :
    Acceptable (e :: es) ↔ (field.value? e.value).isSome ∧ Acceptable es ∧
      ∀ e' ∈ es, Json.text? e'.name ≠ some field.name := by
  constructor
  · rintro ⟨hmean, honce⟩
    obtain ⟨he, hmean⟩ := List.forall_mem_cons.1 hmean
    obtain ⟨a, hvalue, ha, rfl⟩ := exists_assignment he hname
    rw [fields_cons ha] at honce
    obtain ⟨hnew, honce⟩ := List.nodup_cons.1 honce
    exact ⟨by rw [hvalue]; rfl, ⟨hmean, honce⟩,
      fun e' he' hname' => hnew ((mem_fields_iff hmean).2 ⟨e', he', hname'⟩)⟩
  · rintro ⟨hvalue, ⟨hmean, honce⟩, hother⟩
    obtain ⟨a, ha⟩ := Option.isSome_iff_exists.1 hvalue
    obtain rfl := field_of_value? ha
    have hassigns := meaning?_eq_assigns_iff.2 ⟨hname, ha⟩
    refine ⟨List.forall_mem_cons.2 ⟨by rw [hassigns]; rfl, hmean⟩, ?_⟩
    rw [fields_cons (assignment?_eq_some_iff.2 hassigns)]
    refine List.nodup_cons.2 ⟨fun hf => ?_, honce⟩
    obtain ⟨e', he', hname'⟩ := (mem_fields_iff hmean).1 hf
    exact hother e' he' hname'

end

/-! ## One member -/

section
variable {s : Source} {e : Entry Tree} {given : List Field}

/-- A member without a meaning is refused. -/
theorem readMember_meaningless (h : meaning? e = none) (hs : s.EndsValue) (given : List Field) :
    ∃ f, readMember given ((Source.byte 0x22 ((s.prepend e.value.bytes).prepend e.link)).prepend
      (e.name.flatMap Letter.bytes)) = .error f := by
  rw [readMember, Json.textString_letters]
  cases hname : Json.text? e.name with
  | none => exact ⟨_, rfl⟩
  | some name =>
    rw [meaning?, hname, Option.bind_some] at h
    cases hfield : Field.ofName? name with
    | none =>
      rw [hfield] at h
      cases h
    | some field =>
      rw [hfield] at h
      by_cases hg : field ∈ given
      · exact ⟨.mistyped, by simp only [hfield, if_pos hg]⟩
      · obtain ⟨o, ho, hvalue⟩ := field.recognises e.value
        rw [Option.map_eq_none_iff.1 h] at hvalue
        cases o with
        | error f =>
          exact ⟨f, by simp only [hfield, if_neg hg, Json.colon_link, ho s hs e.gap, Except.map]⟩
        | ok a => cases hvalue

/-- A member is read only as what it means, and only if it gives no field that was given before. -/
theorem meaning?_of_readMember {m : Member} {r : Source} (hs : s.EndsValue)
    (h : readMember given ((Source.byte 0x22 ((s.prepend e.value.bytes).prepend e.link)).prepend
      (e.name.flatMap Letter.bytes)) = .ok (m, r)) :
    meaning? e = some m ∧ r = s ∧ ∀ a, assignment? e = some a → a.field ∉ given := by
  cases hmean : meaning? e with
  | none =>
    obtain ⟨f, hf⟩ := readMember_meaningless hmean hs given
    cases hf.symm.trans h
  | some m' =>
    have hnew : ∀ a, assignment? e = some a → a.field ∉ given := by
      intro a ha hg
      have hname := (meaning?_eq_assigns_iff.1 (assignment?_eq_some_iff.1 ha)).1
      cases (readMember_repeated hname hg).symm.trans h
    cases (readMember_entry hmean hnew hs).symm.trans h
    exact ⟨rfl, rfl, hnew⟩

end

/-! ## All members -/

/-- **The reader follows only acceptable members.** Members that are read have meanings, and give
no field twice and none that was given before. -/
theorem acceptable_of_readMembers {es : List (Entry Tree)} {given : List Field} {isFirst : Bool}
    {c c' : Settings} {s r : Source} (hs : s.EndsValue)
    (h : readMembers given isFirst c (s.prepend (entriesBytes isFirst es)) = .ok (c', r)) :
    Acceptable es ∧ ∀ field ∈ fields es, field ∉ given := by
  induction es generalizing given isFirst c with
  | nil => exact ⟨⟨by simp, List.nodup_nil⟩, fun _ hf => absurd hf List.not_mem_nil⟩
  | cons e es ih =>
    have hends := Json.endsValue_entries hs es e.after
    simp only [entriesBytes, Source.prepend_append] at h
    rw [readMembers_eq, Json.nextItem_quote _ isFirst (Json.skipSpace_head _ e)] at h
    simp only [if_pos] at h
    split at h
    · cases h
    · next field a rest hread =>
      obtain ⟨hmean, rfl, hnew⟩ := meaning?_of_readMember hends hread
      obtain rfl := field_of_value? (meaning?_eq_assigns_iff.1 hmean).2
      have ha := assignment?_eq_some_iff.2 hmean
      rw [readMembers_blanks] at h
      obtain ⟨hrest, hg⟩ := ih h
      refine ⟨⟨List.forall_mem_cons.2 ⟨by rw [hmean]; rfl, hrest.meaningful⟩, ?_⟩, ?_⟩ <;>
        rw [fields_cons ha]
      · exact List.nodup_cons.2 ⟨fun hf => hg _ hf List.mem_cons_self, hrest.once⟩
      · exact List.forall_mem_cons.2 ⟨hnew a ha,
          fun field hf hgiven => hg field hf (List.mem_cons_of_mem _ hgiven)⟩
    · next rest hread =>
      obtain ⟨hmean, rfl, -⟩ := meaning?_of_readMember hends hread
      have ha : assignment? e = none := by rw [assignment?, hmean]
      rw [readMembers_blanks] at h
      obtain ⟨hrest, hg⟩ := ih h
      refine ⟨⟨List.forall_mem_cons.2 ⟨by rw [hmean]; rfl, hrest.meaningful⟩, ?_⟩, ?_⟩ <;>
        rw [fields_cons_of_none ha]
      · exact hrest.once
      · exact hg

/-! ## Documents -/

/-- The first bracket of an object opens it. -/
theorem readDocument_object (d : Document) :
    readDocument (.ofBytes d.bytes) =
      readMembers [] true .default
        ((Source.byte 0x7D (.ofBytes (d.after.map Blank.byte))).prepend
          (entriesBytes true d.entries)) := by
  rw [Document.bytes, Source.ofBytes, Source.prepend_append, readDocument_start, readMembers_blanks]
  rfl

/-- **A document is read if and only if it is acceptable**, as what its members mean. -/
theorem ofSource_document_iff {d : Document} {c : Settings} :
    ofSource (.ofBytes d.bytes) = .ok c ↔ Acceptable d.entries ∧ d.settings = c := by
  constructor
  · intro h
    have hacc : Acceptable d.entries := by
      cases hread : readDocument (.ofBytes d.bytes) with
      | error f =>
        rw [ofSource, hread] at h
        cases h
      | ok p =>
        rw [readDocument_object] at hread
        exact (acceptable_of_readMembers (Source.endsValue_brace _) hread).1
    exact ⟨hacc, Except.ok.inj ((ofSource_document hacc).symm.trans h)⟩
  · rintro ⟨hacc, rfl⟩
    exact ofSource_document hacc

/-- A document is loaded if and only if it is acceptable. -/
theorem exists_loads_iff {d : Document} :
    (∃ c, Loads (.ofBytes d.bytes) (.ok c)) ↔ Acceptable d.entries := by
  simp only [loads_ok_iff, ofSource_document_iff, exists_and_left, exists_eq', and_true]

end KctlProbe.Settings
