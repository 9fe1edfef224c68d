import KctlProbe.Settings.File
import KctlProbe.Proofs.Json.Values
import KctlProbe.Proofs.Settings.Fields

/-!
# A configuration means its known members

A `Document` is an object as it is spelled, with blanks around it. Its members mean what their
names and values mean, and nothing else of the text has a meaning: `readMembers_entries` follows the
reader through any number of members, and `ofSource_document` says what comes out.

A document is acceptable if every name is a text, the value of a known field has the type and range
of the field, and no field is given twice. The reader has a list of the fields `given` so far, so it
is at the second name of a field that it stops, before anything of the value is read.
-/

namespace KctlProbe.Settings

open Json (Source Fault Blank Blanks Spelling Tree Entry Letter entriesBytes comma)

/-! ## What members mean -/

/-- What a value means for a field, if it is of the field's type and range. -/
def Field.value? : Field → Tree → Option Assignment
  | .program, t => t.text?.map fun x => .program (Utf8.encode x)
  | .host, t => t.text?.map .host
  | .port, t => (t.integer? 0 65535).map fun z => .port (UInt16.ofNat z.toNat)
  | .user, t => (t.nullable? integer64?).map .user
  | .hmacKey, t => (t.nullable? Tree.text?).map .hmacKey
  | .tls, t => t.boolean?.map .tls
  | .clusterVersion, t => (t.nullable? integer64?).map .clusterVersion
  | .quiet, t => t.boolean?.map .quiet
  | .terse, t => t.boolean?.map .terse
  | .verbose, t => t.boolean?.map .verbose
  | .yes, t => t.boolean?.map .yes
where
  /-- The integer of 64 bits that a tree is. -/
  integer64? (t : Tree) : Option Int64 :=
    (t.integer? (-9223372036854775808) 9223372036854775807).map Int64.ofInt

/-- What a member means: a field and its value if its name is the name of a field, nothing if it is
another text. A member whose name is no text, or whose value is not of its field's type and range,
has no meaning. -/
def meaning? (e : Entry Tree) : Option Member :=
  (Json.text? e.name).bind fun name =>
    match Field.ofName? name with
    | some field => (field.value? e.value).map (.assigns field)
    | none => some .ignored

/-- The assignment that a member makes. -/
def assignment? (e : Entry Tree) : Option Assignment :=
  match meaning? e with
  | some (.assigns _ a) => some a
  | _ => none

/-- The assignments that members make, in order. -/
def assignments (es : List (Entry Tree)) : List Assignment :=
  es.filterMap assignment?

/-- The fields that members give, in order. -/
def fields (es : List (Entry Tree)) : List Field :=
  (assignments es).map Assignment.field

/-- Every member has a meaning, and no field is given twice. -/
structure Acceptable (es : List (Entry Tree)) : Prop where
  meaningful : ∀ e ∈ es, (meaning? e).isSome
  once : (fields es).Nodup

/-! ## One member -/

/-- What a field is assigned is a value of that field. -/
theorem field_of_value? {field : Field} {t : Tree} {a : Assignment}
    (h : field.value? t = some a) : a.field = field := by
  cases field <;> obtain ⟨x, -, rfl⟩ := Option.map_eq_some_iff.1 h <;> rfl

/-- A member assigns a field if its name is the field's and its value means something for it. -/
theorem meaning?_eq_assigns_iff {e : Entry Tree} {field : Field} {a : Assignment} :
    meaning? e = some (.assigns field a) ↔
      Json.text? e.name = some field.name ∧ field.value? e.value = some a := by
  constructor
  · intro h
    obtain ⟨name, hname, hm⟩ := Option.bind_eq_some_iff.1 h
    split at hm
    · next f hf =>
      obtain ⟨b, hb, heq⟩ := Option.map_eq_some_iff.1 hm
      cases heq
      exact ⟨by rw [hname, Field.ofName?_eq_some_iff.1 hf], hb⟩
    · cases hm
  · rintro ⟨hname, ha⟩
    simp [meaning?, hname, ha]

/-- The assignment of a member is about the field that names it. -/
theorem assignment?_eq_some_iff {e : Entry Tree} {a : Assignment} :
    assignment? e = some a ↔ meaning? e = some (.assigns a.field a) := by
  constructor
  · intro h
    rw [assignment?] at h
    split at h
    · next field b hmean =>
      cases h
      rw [field_of_value? (meaning?_eq_assigns_iff.1 hmean).2, hmean]
    · cases h
  · intro h
    rw [assignment?, h]

/-- A member with a meaning that is named by a field has a value for it, and assigns it. -/
theorem exists_assignment {e : Entry Tree} {field : Field} (hm : (meaning? e).isSome)
    (hname : Json.text? e.name = some field.name) :
    ∃ a, field.value? e.value = some a ∧ assignment? e = some a ∧ a.field = field := by
  rw [meaning?, hname, Option.bind_some, Field.ofName?_name, Option.isSome_map] at hm
  obtain ⟨a, ha⟩ := Option.isSome_iff_exists.1 hm
  obtain rfl := field_of_value? ha
  exact ⟨a, ha, assignment?_eq_some_iff.2 (meaning?_eq_assigns_iff.2 ⟨hname, ha⟩), rfl⟩

/-- The fields that members give are those that their names name. -/
theorem mem_fields_iff {es : List (Entry Tree)} (h : ∀ e ∈ es, (meaning? e).isSome)
    {field : Field} : field ∈ fields es ↔ ∃ e ∈ es, Json.text? e.name = some field.name := by
  simp only [fields, assignments, List.mem_map, List.mem_filterMap]
  constructor
  · rintro ⟨a, ⟨e, he, ha⟩, rfl⟩
    exact ⟨e, he, (meaning?_eq_assigns_iff.1 (assignment?_eq_some_iff.1 ha)).1⟩
  · rintro ⟨e, he, hname⟩
    obtain ⟨a, -, ha, hfield⟩ := exists_assignment (h e he) hname
    exact ⟨a, ⟨e, he, ha⟩, hfield⟩

namespace Acceptable

variable {es : List (Entry Tree)} {field : Field}

/-- A field has the value of the member that names it. -/
theorem value_of_mem (h : Acceptable es) {e : Entry Tree} (he : e ∈ es)
    (hname : Json.text? e.name = some field.name) (c : Settings) :
    field.value? e.value = some (((assignments es).foldl assign c).value field) := by
  obtain ⟨a, hvalue, ha, rfl⟩ := exists_assignment (h.meaningful e he) hname
  rw [hvalue, value_foldl_assign_of_mem h.once (List.mem_filterMap.2 ⟨e, he, ha⟩)]

/-- A field that no member names is left as it is. -/
theorem value_of_forall_ne (h : Acceptable es)
    (hnone : ∀ e ∈ es, Json.text? e.name ≠ some field.name) (c : Settings) :
    ((assignments es).foldl assign c).value field = c.value field := by
  refine value_foldl_assign_of_notMem fun hf => ?_
  obtain ⟨e, he, hname⟩ := (mem_fields_iff h.meaningful).1 hf
  exact hnone e he hname

end Acceptable

section
variable {s : Source} {t : Tree} {e : Entry Tree} {field : Field} {given : List Field}

/-- An integer of 64 bits is read. -/
theorem integer64_tree {n : Int64} (h : Field.value?.integer64? t = some n) (hs : s.EndsValue)
    (bs : Blanks) :
    integer64 ((s.prepend t.bytes).prepend (bs.map Blank.byte)) = .ok (n, s) := by
  obtain ⟨z, hz, rfl⟩ := Option.map_eq_some_iff.1 h
  rw [integer64, Json.integer_tree bs hz (by decide) (by decide) hs]
  rfl

/-- A value is read as what it means for its field. -/
theorem read_value? {a : Assignment} (h : field.value? t = some a) (hs : s.EndsValue)
    (bs : Blanks) :
    field.read ((s.prepend t.bytes).prepend (bs.map Blank.byte)) = .ok (a, s) := by
  cases field <;> obtain ⟨x, hx, rfl⟩ := Option.map_eq_some_iff.1 h
  case program | host => rw [Field.read, Json.string_tree bs hx]; rfl
  case port =>
    rw [Field.read, integer16, Json.integer_tree bs hx (by decide) (by decide) hs]
    rfl
  case user | clusterVersion =>
    rw [Field.read, Json.nullable_tree bs hx fun n hn => integer64_tree hn hs []]
    rfl
  case hmacKey =>
    rw [Field.read, Json.nullable_tree bs hx fun x hx => Json.string_tree [] hx]
    rfl
  case tls | quiet | terse | verbose | yes => rw [Field.read, Json.boolean_tree bs hx]; rfl

/-- A member is read as what it means, unless it gives a field that was given before. -/
theorem readMember_entry {m : Member} (h : meaning? e = some m)
    (hg : ∀ a, assignment? e = some a → a.field ∉ given) (hs : s.EndsValue) :
    readMember given ((Source.byte 0x22 ((s.prepend e.value.bytes).prepend e.link)).prepend
      (e.name.flatMap Letter.bytes)) = .ok (m, s) := by
  obtain ⟨name, hname, hm⟩ := Option.bind_eq_some_iff.1 h
  rw [readMember, Json.textString_spelling hname]
  cases hfield : Field.ofName? name with
  | some field =>
    simp only [hfield] at hm ⊢
    obtain ⟨a, ha, rfl⟩ := Option.map_eq_some_iff.1 hm
    have hnew : field ∉ given := field_of_value? ha ▸ hg a (by rw [assignment?, h])
    simp only [if_neg hnew, Json.colon_link, read_value? ha hs, Except.map]
  | none =>
    simp only [hfield] at hm ⊢
    cases hm
    have hskip : Json.skip .next [] s = .ok s := by rw [Json.skip]
    simp only [Json.colon_link, Json.skipValue, Json.skip_value_blanks, Json.skip_tree e.value hs,
      hskip, Except.map]

/-- A second name of a field is refused, whatever follows it. -/
theorem readMember_repeated {ls : Spelling} (hname : Json.text? ls = some field.name)
    (hg : field ∈ given) :
    readMember given ((Source.byte 0x22 s).prepend (ls.flatMap Letter.bytes)) =
      .error .mistyped := by
  simp [readMember, Json.textString_spelling hname, hg]

end

/-! ## All members -/

/-- The members of an object are read one after the other. -/
theorem readMembers_eq (given : List Field) (isFirst : Bool) (c : Settings) (s : Source) :
    readMembers given isFirst c s =
      match Json.nextItem 0x7D isFirst s with
      | .error f => .error f
      | .ok (.closed rest) => .ok (c, rest)
      | .ok (.starts b rest) =>
        if b = 0x22 then
          match readMember given rest with
          | .error f => .error f
          | .ok (.assigns field a, rest') => readMembers (field :: given) false (c.assign a) rest'
          | .ok (.ignored, rest') => readMembers given false c rest'
        else .error .malformed := by
  conv_lhs => rw [readMembers]
  grind

section
variable {given : List Field} {isFirst : Bool} {c : Settings} {s : Source}

/-- Blanks between members do not matter. -/
@[simp] theorem readMembers_blanks (bs : Blanks) :
    readMembers given isFirst c (s.prepend (bs.map Blank.byte)) =
      readMembers given isFirst c s := by
  rw [readMembers_eq, readMembers_eq, Json.nextItem_blanks]

/-- **The reader follows the members.** Behind acceptable members of which none gives a field that
was given before, it has made their assignments and knows their fields. -/
theorem readMembers_entries {es : List (Entry Tree)} (hm : ∀ e ∈ es, (meaning? e).isSome)
    (hn : (fields es).Nodup) (hg : ∀ field ∈ fields es, field ∉ given) (hs : s.EndsValue) :
    readMembers given isFirst c (s.prepend (entriesBytes isFirst es)) =
      readMembers ((fields es).reverse ++ given) (isFirst && es.isEmpty)
        ((assignments es).foldl assign c) s := by
  induction es generalizing given isFirst c with
  | nil => simp [entriesBytes, fields, assignments]
  | cons e es ih =>
    have hends := Json.endsValue_entries hs es e.after
    obtain ⟨m, hmean⟩ := Option.isSome_iff_exists.1 (hm e (by simp))
    have hrest : ∀ e ∈ es, (meaning? e).isSome := fun e' he' => hm e' (by simp [he'])
    have hnew : ∀ a, assignment? e = some a → a.field ∉ given := fun a ha =>
      hg a.field (by simp [fields, assignments, ha])
    have hread := readMember_entry hmean hnew hends
    simp only [entriesBytes, Source.prepend_append]
    rw [readMembers_eq, Json.nextItem_quote _ isFirst (Json.skipSpace_head _ e)]
    simp only [if_pos, hread]
    cases m with
    | assigns field a =>
      obtain rfl := field_of_value? (meaning?_eq_assigns_iff.1 hmean).2
      have ha := assignment?_eq_some_iff.2 hmean
      simp only [fields, assignments, List.filterMap_cons, ha, List.map_cons, List.nodup_cons,
        List.mem_cons, forall_eq_or_imp] at hn hg ⊢
      rw [readMembers_blanks, ih hrest hn.2 fun field hf => ?_]
      · simp [fields, assignments]
      · rw [List.mem_cons, not_or]
        exact ⟨fun h => hn.1 (h ▸ hf), hg.2 field hf⟩
    | ignored =>
      have ha : assignment? e = none := by rw [assignment?, hmean]
      simp only [fields, assignments, List.filterMap_cons, ha] at hn hg ⊢
      rw [readMembers_blanks, ih hrest hn hg]
      simp [fields, assignments]

/-- Acceptable members up to the bracket that closes the object. -/
theorem readMembers_closed {es : List (Entry Tree)} (h : Acceptable es) (inside : Blanks)
    (rest : Source) :
    readMembers [] true .default
        (((Source.byte 0x7D rest).prepend (entriesBytes true es)).prepend
          (inside.map Blank.byte)) =
      .ok ((assignments es).foldl assign .default, rest) := by
  have hclose : (Source.byte 0x7D rest).EndsValue := .inr (.inr (.inr rfl))
  rw [readMembers_blanks, readMembers_entries h.meaningful h.once (fun _ _ => List.not_mem_nil)
    hclose, readMembers_eq, Json.nextItem_close rest 0x7D _ rfl]

/-- Acceptable members up to a second name of one of their fields. -/
theorem readMembers_repeated {es : List (Entry Tree)} (h : Acceptable es) (inside before : Blanks)
    {field : Field} (hf : field ∈ fields es) {ls : Spelling}
    (hname : Json.text? ls = some field.name) (rest : Source) :
    readMembers [] true .default
        (((Source.byte 0x2C ((rest.prepend (Json.quoted ls)).prepend
          (before.map Blank.byte))).prepend (entriesBytes true es)).prepend
            (inside.map Blank.byte)) = .error .mistyped := by
  have hcomma : ∀ r, (Source.byte 0x2C r).EndsValue := fun r => .inr (.inl rfl)
  have hquote : Json.skipSpace ((rest.prepend (Json.quoted ls)).prepend (before.map Blank.byte)) =
      .byte 0x22 ((Source.byte 0x22 rest).prepend (ls.flatMap Letter.bytes)) := by
    rw [Json.skipSpace_blanks, Json.quoted_prepend, Json.skipSpace_of_not_isSpace rfl]
  have hne : es ≠ [] := by rintro rfl; cases hf
  rw [readMembers_blanks, readMembers_entries h.meaningful h.once (fun _ _ => List.not_mem_nil)
    (hcomma _), readMembers_eq, List.isEmpty_eq_false_iff.2 hne]
  have hitem := Json.nextItem_quote _ false hquote
  rw [Json.comma_false, Source.prepend_cons, Source.prepend_nil] at hitem
  rw [Bool.true_and, hitem]
  simp only [if_pos, readMember_repeated hname (List.mem_append_left [] (List.mem_reverse.2 hf))]

end

/-! ## Files -/

section
variable {σ : Type} {host : Host σ} {path : Bytes} {state : σ}

/-- Loading fails where the file is not opened, or where the reader fails. -/
theorem load_eq_error {failure : Failure} (h : load host path state = .error failure) :
    (∃ e, failure = .ofOsError e ∧ host.openFile path state = .error e) ∨
      ∃ f s, failure = .ofFault f ∧ host.openFile path state = .ok s ∧
        ofSource s = .error f := by
  rw [load] at h
  split at h
  · next e hopen =>
    cases h
    exact .inl ⟨e, rfl, hopen⟩
  · next s hopen =>
    split at h
    · next f hs =>
      cases h
      exact .inr ⟨f, s, rfl, hopen, hs⟩
    · cases h

/-- Loading fails with an error of the system if and only if the file is not opened. -/
theorem load_eq_ofOsError_iff {e : OsError} :
    load host path state = .error (.ofOsError e) ↔ host.openFile path state = .error e := by
  constructor
  · intro h
    obtain ⟨e', he, hopen⟩ | ⟨f, s, hf, -⟩ := load_eq_error h
    · cases he
      exact hopen
    · cases hf
  · intro hopen
    simp only [load, hopen]

/-- Loading fails with a fault if and only if what is in the file is read with that fault. -/
theorem load_eq_ofFault_iff {f : Fault} :
    load host path state = .error (.ofFault f) ↔
      ∃ s, host.openFile path state = .ok s ∧ ofSource s = .error f := by
  constructor
  · intro h
    obtain ⟨e, he, -⟩ | ⟨f', s, hf, hopen, hs⟩ := load_eq_error h
    · cases he
    · cases hf
      exact ⟨s, hopen, hs⟩
  · rintro ⟨s, hopen, hs⟩
    simp only [load, hopen, hs]

/-- Settings are loaded if and only if what is in the file is read as them. -/
theorem load_eq_ok_iff {c : Settings} :
    load host path state = .ok c ↔
      ∃ s, host.openFile path state = .ok s ∧ ofSource s = .ok c := by
  constructor
  · intro h
    rw [load] at h
    split at h
    · cases h
    · next s hopen =>
      split at h
      · cases h
      · next hs =>
        cases h
        exact ⟨s, hopen, hs⟩
  · rintro ⟨s, hopen, hs⟩
    simp only [load, hopen, hs]

end

/-! ## Documents -/

/-- An object as it is spelled, with blanks around it. -/
structure Document where
  before : Blanks
  inside : Blanks
  entries : List (Entry Tree)
  after : Blanks
  deriving Repr

/-- The bytes of a document up to the bracket that closes it. -/
def Document.start (d : Document) : Bytes :=
  d.before.map Blank.byte ++ 0x7B :: d.inside.map Blank.byte ++ entriesBytes true d.entries

/-- The bytes of a document. -/
def Document.bytes (d : Document) : Bytes :=
  d.start ++ 0x7D :: d.after.map Blank.byte

/-- What a document means. -/
def Document.settings (d : Document) : Settings :=
  (assignments d.entries).foldl assign .default

/-- A file with this content is loaded with this result, wherever it is. -/
def Loads (content : Source) (result : Except Failure Settings) : Prop :=
  ∀ (σ : Type) (host : Host σ) (path : Bytes) (state : σ),
    host.openFile path state = .ok content → load host path state = result

/-- A host on which every file has this content. -/
def holding (content : Source) : Host Unit where
  spawn _ _ _ state := (.error .notFound, state)
  openFile _ _ := .ok content
  clock _ := 0

section
variable {content : Source} {c : Settings}

/-- What is read is loaded. -/
theorem loads_of_ok (h : ofSource content = .ok c) : Loads content (.ok c) := by
  intro σ host path state hopen
  exact load_eq_ok_iff.2 ⟨content, hopen, h⟩

/-- What is refused by the reader is not loaded. -/
theorem loads_of_error {f : Fault} (h : ofSource content = .error f) :
    Loads content (.error (.ofFault f)) := by
  intro σ host path state hopen
  exact load_eq_ofFault_iff.2 ⟨content, hopen, h⟩

/-- A file is loaded as what is read of it. -/
theorem loads_ofSource (content : Source) :
    Loads content ((ofSource content).mapError .ofFault) := by
  cases h : ofSource content with
  | error f => exact loads_of_error h
  | ok c => exact loads_of_ok h

/-- Settings are loaded only if they are read. -/
theorem loads_ok_iff : Loads content (.ok c) ↔ ofSource content = .ok c := by
  refine ⟨fun h => ?_, loads_of_ok⟩
  obtain ⟨s, hopen, hs⟩ := load_eq_ok_iff.1 (h Unit (holding content) [] () rfl)
  cases hopen
  exact hs

/-- A file is loaded with one result. -/
theorem Loads.unique {r r' : Except Failure Settings} (h : Loads content r)
    (h' : Loads content r') : r = r' :=
  (h Unit (holding content) [] () rfl).symm.trans (h' Unit (holding content) [] () rfl)

/-- The first bracket of a document opens its object. -/
theorem readDocument_start (d : Document) (s : Source) :
    readDocument (s.prepend d.start) =
      readMembers [] true .default
        ((s.prepend (entriesBytes true d.entries)).prepend (d.inside.map Blank.byte)) := by
  simp [readDocument, Document.start, Json.skipSpace_of_not_isSpace (b := 0x7B) rfl]

/-- **A document is read as what its members mean.** -/
theorem ofSource_document {d : Document} (h : Acceptable d.entries) :
    ofSource (.ofBytes d.bytes) = .ok d.settings := by
  have hend : Json.skipSpace (Source.finished.prepend (d.after.map Blank.byte)) = .finished := by
    rw [Json.skipSpace_blanks]
    rfl
  rw [ofSource, Source.ofBytes, Document.bytes, Source.prepend_append, readDocument_start,
    Source.prepend_cons, readMembers_closed h]
  simp only [hend, Document.settings]

end

/-- **A configuration means its known members and nothing else.** An acceptable document is loaded:
a field has the value of the member that names it, or its default if no member does. So documents
with the same assignments in any order are loaded alike, whatever else is in them. A second name of a
field is refused, whatever follows it. -/
theorem loads_document {d : Document} (h : Acceptable d.entries) :
    (∃ c, Loads (.ofBytes d.bytes) (.ok c) ∧
      (∀ e ∈ d.entries, ∀ field : Field, Json.text? e.name = some field.name →
        field.value? e.value = some (c.value field)) ∧
      (∀ field : Field, (∀ e ∈ d.entries, Json.text? e.name ≠ some field.name) →
        c.value field = default.value field) ∧
      ∀ d' : Document, (∀ e ∈ d'.entries, (meaning? e).isSome) →
        (assignments d'.entries).Perm (assignments d.entries) → Loads (.ofBytes d'.bytes) (.ok c)) ∧
    (∀ field : Field, (∃ e ∈ d.entries, Json.text? e.name = some field.name) →
      ∀ (before : Blanks) (ls : Spelling) (rest : Source), Json.text? ls = some field.name →
        Loads (rest.prepend (d.start ++ 0x2C :: before.map Blank.byte ++ Json.quoted ls))
          (.error (.ofFault .mistyped))) := by
  refine ⟨⟨d.settings, loads_of_ok (ofSource_document h),
    fun e he field hname => h.value_of_mem he hname .default,
    fun field hnone => h.value_of_forall_ne hnone .default, ?_⟩, ?_⟩
  · intro d' hmean hperm
    have hd' : Acceptable d'.entries := ⟨hmean, (hperm.map _).nodup_iff.2 h.once⟩
    have hsame : d'.settings = d.settings := foldl_assign_perm h.once hperm
    exact hsame ▸ loads_of_ok (ofSource_document hd')
  · intro field hf before ls rest hname
    refine loads_of_error ?_
    have := readMembers_repeated h d.inside before ((mem_fields_iff h.meaningful).2 hf) hname rest
    simp only [ofSource, Source.prepend_append, Source.prepend_cons, readDocument_start, this]

/-- A document that spells the name of the field `yes` with numeric escapes and has a member that
names no field. -/
def escapedName : Document where
  before := []
  inside := []
  entries := [
    { before := []
      name := [
        .unit ⟨.ofNat 0, .ofNat 0, .ofNat 7, .ofNat 9⟩,
        .unit ⟨.ofNat 0, .ofNat 0, .ofNat 6, .ofNat 5⟩,
        .unit ⟨.ofNat 0, .ofNat 0, .ofNat 7, .ofNat 3⟩]
      middle := []
      gap := [.space]
      value := .boolean true
      after := [] },
    { before := []
      name := []
      middle := []
      gap := []
      value := .array [] [⟨[], .null, []⟩]
      after := [] }]
  after := []

example : escapedName.bytes =
    Utf8.encode "\x7b\"\\u0079\\u0065\\u0073\": true,\"\":[null]\x7d" := by decide

/-- The escaped name is the name of its field. -/
theorem loads_document_escapedName :
    Acceptable escapedName.entries ∧
      ∃ c, Loads (.ofBytes escapedName.bytes) (.ok c) ∧ c.yes = true ∧ c.port = 8123 := by
  have hacc : Acceptable escapedName.entries := ⟨by decide, by decide⟩
  obtain ⟨⟨c, hc, hgiven, hdefault, -⟩, -⟩ := loads_document hacc
  refine ⟨hacc, c, hc, ?_, ?_⟩
  · have hyes := hgiven _ (List.mem_cons_self ..) .yes (by decide)
    have hvalue : Field.yes.value? (.boolean true) = some (.yes true) := rfl
    exact Assignment.yes.inj (Option.some.inj (hyes.symm.trans hvalue))
  · exact Assignment.port.inj (hdefault .port (by decide))

end KctlProbe.Settings
