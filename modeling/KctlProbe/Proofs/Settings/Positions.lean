import KctlProbe.Proofs.Json.Written
import KctlProbe.Proofs.Settings.Acceptance
import KctlProbe.Proofs.Settings.Delivery

/-!
# A configuration by position

An array gives the fields by position and an object gives them by name. The two are read by
different loops, which have only the readers of the fields in common. What such a reader makes of a
value is up to the value (`Field.recognises`), so both loops take the same step at every value:
they go on with the same assignment or stop with the same fault (`readElements_cons`,
`readMembers_cons`). So `Agree` is kept by every step, and by induction on the values the loops end
alike (`Names.exists_agree`). With more values than fields the first loop ends with a fault
(`readElements_surplus`).
-/

namespace KctlProbe.Settings

open Json (Source Fault Blank Blanks Tree Element Entry Settles elementsBytes entriesBytes comma)

/-! ## Elements and members -/

section
variable {field : Field} {fields given : List Field} {isFirst : Bool} {c : Settings} {s : Source}

/-- Blanks between elements do not matter. -/
@[simp] theorem readElements_blanks (bs : Blanks) :
    readElements isFirst c fields (s.prepend (bs.map Blank.byte)) =
      readElements isFirst c fields s := by
  cases fields <;> simp [readElements]

/-- An element is read into the first field, and the others into the fields after it. -/
theorem readElements_cons {x : Element Tree} {o : Except Fault Assignment}
    (ho : Settles field.read x.value o) (hs : s.EndsValue) (xs : List (Element Tree)) :
    readElements isFirst c (field :: fields) (s.prepend (elementsBytes isFirst (x :: xs))) =
      o.bind fun a =>
        readElements false (c.assign a) fields (s.prepend (elementsBytes false xs)) := by
  have hends := Json.endsValue_elements hs xs x.after
  obtain ⟨b, rest, hb, -, hclose, -⟩ := x.value.exists_byte
    ((s.prepend (elementsBytes false xs)).prepend (x.after.map Blank.byte))
  have hread := ho _ hends []
  have hskip := Json.skipSpace_tree
    ((s.prepend (elementsBytes false xs)).prepend (x.after.map Blank.byte)) x.value x.before
  rw [hb] at hskip
  simp only [List.map_nil, Source.prepend_nil, hb] at hread
  simp only [elementsBytes, Source.prepend_append]
  rw [readElements, hb, Json.nextItem_starts rest isFirst hskip hclose (by decide)]
  simp only [hread]
  cases o with
  | error f => rfl
  | ok a => exact readElements_blanks x.after

/-- A member that names a field is read into it, and the others after it. -/
theorem readMembers_cons {e : Entry Tree} {o : Except Fault Assignment}
    (hname : Json.text? e.name = some field.name) (hg : field ∉ given)
    (ho : Settles field.read e.value o) (hs : s.EndsValue) (es : List (Entry Tree)) :
    readMembers given isFirst c (s.prepend (entriesBytes isFirst (e :: es))) =
      o.bind fun a =>
        readMembers (field :: given) false (c.assign a) (s.prepend (entriesBytes false es)) := by
  have hread := ho _ (Json.endsValue_entries hs es e.after) e.gap
  simp only [entriesBytes, Source.prepend_append]
  rw [readMembers_eq, Json.nextItem_quote _ isFirst (Json.skipSpace_head _ e)]
  simp only [if_pos, readMember, Json.textString_spelling hname, Field.ofName?_name, if_neg hg,
    Json.colon_link, hread]
  cases o with
  | error f => rfl
  | ok a => exact readMembers_blanks e.after

end

/-! ## All values -/

/-- The members name the fields, one each and in order, and have the values of the elements. -/
inductive Names : List Field → List (Element Tree) → List (Entry Tree) → Prop
  | nil {fields : List Field} : Names fields [] []
  | cons {field : Field} {fields : List Field} {x : Element Tree} {xs : List (Element Tree)}
      {e : Entry Tree} {es : List (Entry Tree)} (name : Json.text? e.name = some field.name)
      (value : e.value = x.value) (rest : Names fields xs es) :
      Names (field :: fields) (x :: xs) (e :: es)

/-- As many values as there are fields, or fewer, can be given by name. -/
theorem exists_names {fields : List Field} {xs : List (Element Tree)}
    (h : xs.length ≤ fields.length) : ∃ es, Names fields xs es := by
  induction xs generalizing fields with
  | nil => exact ⟨[], .nil⟩
  | cons x xs ih =>
    cases fields with
    | nil => cases h
    | cons field fields =>
      obtain ⟨es, hes⟩ := ih (Nat.le_of_succ_le_succ h)
      exact ⟨Json.compact field.name x.value :: es, .cons (Json.text?_spell field.name) rfl hes⟩

/-- Values are read into settings `c` with the outcome `o`, by position into `fields` and by name if
none of the fields was given before. -/
structure Agree (fields : List Field) (xs : List (Element Tree)) (es : List (Entry Tree))
    (c : Settings) (o : Except Fault Settings) : Prop where
  /-- The outcome of the elements. -/
  elements : ∀ isFirst s,
    readElements isFirst c fields ((Source.byte 0x5D s).prepend (elementsBytes isFirst xs)) =
      o.map (·, s)
  /-- The outcome of the members. -/
  members : ∀ given isFirst s, (∀ field ∈ fields, field ∉ given) →
    readMembers given isFirst c ((Source.byte 0x7D s).prepend (entriesBytes isFirst es)) =
      o.map (·, s)
  /-- The fields behind the values are left as they are. -/
  behind : ∀ d, o = .ok d → ∀ field, field ∉ fields.take xs.length →
    d.value field = c.value field
  /-- Values that mean something for their fields are read as what they mean. -/
  values : (∀ p ∈ fields.zip xs, (p.1.value? p.2.value).isSome) →
    ∃ d, o = .ok d ∧ ∀ p ∈ fields.zip xs, p.1.value? p.2.value = some (d.value p.1)

namespace Agree

variable {field : Field} {fields : List Field} {x : Element Tree} {xs : List (Element Tree)}
  {e : Entry Tree} {es : List (Entry Tree)} {c : Settings}

/-- Without elements and members the settings stay as they are. -/
theorem nil (fields : List Field) (c : Settings) : Agree fields [] [] c (.ok c) where
  elements isFirst s := by
    cases fields with
    | nil => simp [elementsBytes, readElements, Json.skipSpace, Json.isSpace, Except.map]
    | cons field fields =>
      simp [elementsBytes, readElements, Json.nextItem_close s 0x5D isFirst rfl, Except.map]
  members given isFirst s _ := by
    rw [entriesBytes, Source.prepend_nil, readMembers_eq, Json.nextItem_close s 0x7D isFirst rfl]
    rfl
  behind d hd field _ := by
    cases hd
    rfl
  values _ := ⟨c, rfl, by simp⟩

section
variable (hname : Json.text? e.name = some field.name) (hvalue : e.value = x.value)
include hname hvalue

/-- A value that is refused ends both loops. -/
theorem refused {f : Fault} (ho : Settles field.read x.value (.error f)) :
    Agree (field :: fields) (x :: xs) (e :: es) c (.error f) where
  elements isFirst s := by
    rw [readElements_cons ho s.endsValue_bracket]
    rfl
  members given isFirst s hg := by
    rw [readMembers_cons hname (hg field List.mem_cons_self) (hvalue ▸ ho) s.endsValue_brace]
    rfl
  behind d hd := by cases hd
  values hall := by
    obtain ⟨a, ha⟩ := Option.isSome_iff_exists.1 (hall (field, x) List.mem_cons_self)
    cases ho.unique (field.recognises.settles_ok_iff.2 ha)

/-- A value that is read is assigned by both loops. -/
theorem assigned {a : Assignment} {o : Except Fault Settings} (hnew : field ∉ fields)
    (ho : Settles field.read x.value (.ok a)) (h : Agree fields xs es (c.assign a) o) :
    Agree (field :: fields) (x :: xs) (e :: es) c o where
  elements isFirst s := by
    rw [readElements_cons ho s.endsValue_bracket]
    exact h.elements false s
  members given isFirst s hg := by
    rw [readMembers_cons hname (hg field List.mem_cons_self) (hvalue ▸ ho) s.endsValue_brace]
    refine h.members (field :: given) false s fun f hf => ?_
    rw [List.mem_cons, not_or]
    exact ⟨fun heq => hnew (heq ▸ hf), hg f (List.mem_cons_of_mem _ hf)⟩
  behind d hd other hother := by
    have hfield := field_of_value? (field.recognises.settles_ok_iff.1 ho)
    rw [List.length_cons, List.take_succ_cons, List.mem_cons, not_or] at hother
    rw [h.behind d hd other hother.2, value_assign_of_ne (hfield ▸ Ne.symm hother.1)]
  values hall := by
    have ha := field.recognises.settles_ok_iff.1 ho
    obtain ⟨d, hd, hvalues⟩ := h.values fun p hp => hall p (List.mem_cons_of_mem _ hp)
    refine ⟨d, hd, fun p hp => ?_⟩
    rcases List.mem_cons.1 hp with rfl | hp
    · have hleft := h.behind d hd field fun hf => hnew (List.mem_of_mem_take hf)
      obtain rfl := field_of_value? ha
      rw [ha, hleft, value_assign_field]
    · exact hvalues p hp

end

end Agree

/-- **Values are read by position as they are by name.** -/
theorem Names.exists_agree {fields : List Field} {xs : List (Element Tree)}
    {es : List (Entry Tree)} (h : Names fields xs es) (hn : fields.Nodup) (c : Settings) :
    ∃ o, Agree fields xs es c o := by
  induction h generalizing c with
  | nil => exact ⟨_, .nil _ c⟩
  | @cons field fields x xs e es hname hvalue _ ih =>
    obtain ⟨hnew, hn⟩ := List.nodup_cons.1 hn
    obtain ⟨o, ho, -⟩ := field.recognises x.value
    cases o with
    | error f => exact ⟨.error f, .refused hname hvalue ho⟩
    | ok a =>
      obtain ⟨o, h⟩ := ih hn (c.assign a)
      exact ⟨o, .assigned hname hvalue hnew ho h⟩

/-- With more elements than fields the reader ends with a fault. -/
theorem readElements_surplus {fields : List Field} {xs : List (Element Tree)}
    (h : fields.length < xs.length) (isFirst : Bool) (c : Settings) (s : Source) :
    ∃ f, readElements isFirst c fields ((Source.byte 0x5D s).prepend (elementsBytes isFirst xs)) =
      .error f := by
  induction fields generalizing xs isFirst c with
  | nil =>
    -- No field is left, so the bracket is needed where the next element or its comma stands.
    obtain ⟨x, xs, rfl⟩ := List.exists_cons_of_length_pos h
    refine ⟨.malformed, ?_⟩
    simp only [elementsBytes, Source.prepend_append]
    cases isFirst with
    | true =>
      obtain ⟨b, rest, hb, -, hclose, -⟩ := x.value.exists_byte
        (((Source.byte 0x5D s).prepend (elementsBytes false xs)).prepend (x.after.map Blank.byte))
      rw [readElements, Json.comma_true, Source.prepend_nil, Json.skipSpace_tree, hb]
      simp only [if_neg hclose]
    | false =>
      rw [readElements, Json.comma_false, Source.prepend_cons,
        Json.skipSpace_of_not_isSpace rfl]
      simp
  | cons field fields ih =>
    obtain ⟨x, xs, rfl⟩ := List.exists_cons_of_length_pos (Nat.zero_lt_of_lt h)
    obtain ⟨o, ho, -⟩ := field.recognises x.value
    rw [readElements_cons ho s.endsValue_bracket]
    cases o with
    | error f => exact ⟨f, rfl⟩
    | ok a => exact ih (Nat.lt_of_succ_lt_succ h) false (c.assign a)

/-! ## Arrays -/

/-- An array as it is spelled, with blanks around it. -/
structure ArrayDocument where
  before : Blanks
  inside : Blanks
  elements : List (Element Tree)
  after : Blanks
  deriving Repr

/-- The bytes of an array. -/
def ArrayDocument.bytes (a : ArrayDocument) : Bytes :=
  a.before.map Blank.byte ++ (Tree.array a.inside a.elements).bytes ++ a.after.map Blank.byte

/-- What is read of the outermost value is read of the text if only blanks follow. -/
theorem ofSource_of_readDocument {s : Source} {o : Except Fault Settings} {after : Blanks}
    (h : readDocument s = o.map (·, .ofBytes (after.map Blank.byte))) : ofSource s = o := by
  have hend : Json.skipSpace (.ofBytes (after.map Blank.byte)) = .finished :=
    Json.skipSpace_blanks after .finished
  rw [ofSource, h]
  cases o with
  | error f => rfl
  | ok c => simp only [Except.map, hend]

/-- The first bracket of an array opens it. -/
theorem readDocument_array (a : ArrayDocument) :
    readDocument (.ofBytes a.bytes) =
      readElements true .default Field.all
        ((Source.byte 0x5D (.ofBytes (a.after.map Blank.byte))).prepend
          (elementsBytes true a.elements)) := by
  simp [readDocument, ArrayDocument.bytes, Source.ofBytes, Tree.bytes,
    Json.skipSpace_of_not_isSpace (b := 0x5B) rfl]

section
variable {a : ArrayDocument} {d : Document}

/-- An array is read as an object that names its fields. -/
theorem exists_agree_of_names (h : Names Field.all a.elements d.entries) :
    Agree Field.all a.elements d.entries .default (ofSource (.ofBytes a.bytes)) ∧
      ofSource (.ofBytes d.bytes) = ofSource (.ofBytes a.bytes) := by
  obtain ⟨o, ho⟩ := h.exists_agree Field.nodup_all .default
  have harray : ofSource (.ofBytes a.bytes) = o :=
    ofSource_of_readDocument (by rw [readDocument_array, ho.elements])
  have hobject : ofSource (.ofBytes d.bytes) = o :=
    ofSource_of_readDocument
      (by rw [readDocument_object, ho.members _ _ _ fun _ _ => List.not_mem_nil])
  exact ⟨harray.symm ▸ ho, hobject.trans harray.symm⟩

/-- An array with more elements than fields is refused. -/
theorem exists_ofSource_eq_error (h : Field.all.length < a.elements.length) :
    ∃ f, ofSource (.ofBytes a.bytes) = .error f := by
  obtain ⟨f, hf⟩ := readElements_surplus h true .default (.ofBytes (a.after.map Blank.byte))
  exact ⟨f, by rw [ofSource, readDocument_array, hf]⟩

end

/-- **Arrays agree with objects.** Loading an array has the same outcome as loading any object that
names the first fields, in the order of declaration, with its values: the same settings, in which
the fields behind the values have their defaults, or the same fault. Up to eleven values can be
given by name, and values of the types and ranges of their fields are loaded as what they mean. An
array with more values is refused. -/
theorem loads_array (a : ArrayDocument) :
    (∃ o : Except Fault Settings,
      Loads (.ofBytes a.bytes) (o.mapError .ofFault) ∧
      (∀ d : Document, Names Field.all a.elements d.entries →
        Loads (.ofBytes d.bytes) (o.mapError .ofFault)) ∧
      (∀ f, o = .error f → f.OfText) ∧
      ∀ c, o = .ok c → ∀ field ∈ Field.all.drop a.elements.length,
        c.value field = default.value field) ∧
    (a.elements.length ≤ 11 →
      (∃ d : Document, Names Field.all a.elements d.entries) ∧
      ((∀ p ∈ Field.all.zip a.elements, (p.1.value? p.2.value).isSome) →
        ∃ c, Loads (.ofBytes a.bytes) (.ok c) ∧
          ∀ p ∈ Field.all.zip a.elements, p.1.value? p.2.value = some (c.value p.1))) ∧
    (11 < a.elements.length →
      ∃ f : Fault, f.OfText ∧ Loads (.ofBytes a.bytes) (.error (.ofFault f))) := by
  have hnamed (h : a.elements.length ≤ 11) :
      ∃ d : Document, Names Field.all a.elements d.entries := by
    obtain ⟨es, hes⟩ : ∃ es, Names Field.all a.elements es := exists_names h
    exact ⟨⟨[], [], es, []⟩, hes⟩
  refine ⟨⟨ofSource (.ofBytes a.bytes), loads_ofSource _, fun d hd => ?_,
    fun f hf => ofText_of_ofSource hf, fun c hc field hfield => ?_⟩,
    fun h => ⟨hnamed h, fun hvalues => ?_⟩, fun h => ?_⟩
  · rw [← (exists_agree_of_names hd).2]
    exact loads_ofSource _
  · by_cases h : a.elements.length ≤ 11
    · obtain ⟨d, hd⟩ := hnamed h
      refine (exists_agree_of_names hd).1.behind c hc field fun htake => ?_
      exact List.disjoint_take_drop Field.nodup_all (Nat.le_refl _) htake hfield
    · rw [List.drop_eq_nil_of_le (Nat.le_of_not_le h)] at hfield
      cases hfield
  · obtain ⟨d, hd⟩ := hnamed h
    obtain ⟨c, hc, hmeans⟩ := (exists_agree_of_names hd).1.values hvalues
    exact ⟨c, loads_of_ok hc, hmeans⟩
  · obtain ⟨f, hf⟩ := exists_ofSource_eq_error h
    exact ⟨f, ofText_of_ofSource hf, loads_of_error hf⟩

/-- An array that gives the first three fields. -/
def portArray : ArrayDocument where
  before := []
  inside := []
  elements := [
    ⟨[], .string [], []⟩,
    ⟨[.space], .string [], []⟩,
    ⟨[.space], .number ⟨false, .zero, none, none⟩, []⟩]
  after := []

example : portArray.bytes = Utf8.encode "[\"\", \"\", 0]" := by decide

/-- The object that gives the same fields by name. -/
def portObject : Document where
  before := []
  inside := []
  entries := (Field.all.zip portArray.elements).map fun (field, x) =>
    Json.compact field.name x.value
  after := []

/-- Three elements give the program, the host and the port, as the object with the same values does,
and one more than all is too many. -/
theorem loads_array_port :
    portArray.elements.length ≤ 11 ∧
      (∃ c, Loads (.ofBytes portArray.bytes) (.ok c) ∧
        Loads (.ofBytes portObject.bytes) (.ok c) ∧ c.host = "" ∧ c.port = 0 ∧ c.user = none) ∧
      ∃ f : Fault, f.OfText ∧
        Loads (.ofBytes (ArrayDocument.mk [] [] (List.replicate 12 ⟨[], .null, []⟩) []).bytes)
          (.error (.ofFault f)) := by
  have hnames : Names Field.all portArray.elements portObject.entries :=
    .cons (Json.text?_spell _) rfl (.cons (Json.text?_spell _) rfl
      (.cons (Json.text?_spell _) rfl .nil))
  obtain ⟨⟨o, harray, hobject, -, hdefault⟩, hfew, -⟩ := loads_array portArray
  obtain ⟨-, -, hsurplus⟩ :=
    loads_array (ArrayDocument.mk [] [] (List.replicate 12 ⟨[], .null, []⟩) [])
  have hlen : portArray.elements.length ≤ 11 := by decide
  have hmean : ∀ p ∈ Field.all.zip portArray.elements, (p.1.value? p.2.value).isSome :=
    List.forall_mem_cons.2 ⟨by decide, List.forall_mem_cons.2 ⟨by decide,
      List.forall_mem_cons.2 ⟨by decide, List.forall_mem_nil _⟩⟩⟩
  obtain ⟨c, hc, hvalues⟩ := (hfew hlen).2 hmean
  obtain rfl : o = .ok c := by
    have heq := harray.unique hc
    cases o with
    | error f => cases heq
    | ok d =>
      cases heq
      rfl
  obtain ⟨-, hvalues⟩ := List.forall_mem_cons.1 hvalues
  obtain ⟨hhost, hvalues⟩ := List.forall_mem_cons.1 hvalues
  obtain ⟨hport, -⟩ := List.forall_mem_cons.1 hvalues
  have hhost : "" = c.host := Assignment.host.inj (Option.some.inj hhost)
  have hport : 0 = c.port := Assignment.port.inj (Option.some.inj hport)
  have huser : c.user = none := Assignment.user.inj (hdefault c rfl .user (.head _))
  exact ⟨hlen, ⟨c, hc, hobject portObject hnames, hhost.symm, hport.symm, huser⟩,
    hsurplus (by decide)⟩

end KctlProbe.Settings
