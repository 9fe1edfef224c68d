import KctlProbe.Settings.Writer
import KctlProbe.Proofs.Json.Written
import KctlProbe.Proofs.Settings.Document

/-!
# Written settings are loaded back

What `toJson` writes is the text of an acceptable document whose members assign every field its
value, so it is loaded as the settings that were written (`ofSource_encode_of_toJson`). Only the path
of the program can prevent writing. The reader takes that path from a text, so settings that were
loaded can always be written, and rewriting a loaded file changes nothing any more.
-/

namespace KctlProbe.Settings

open Json (Source Fault Blank Blanks Spelling Tree Entry Letter entriesBytes comma encoded Writes)

/-! ## The written document -/

/-- An integer of 64 bits is written as a number that means it. -/
theorem writes_integer64 (n : Int64) :
    Writes (Json.writeInteger n.toInt) fun t => Field.value?.integer64? t = some n := by
  have hhigh : n.toInt ≤ 9223372036854775807 := by have := n.toInt_lt; omega
  refine (Json.writes_integer n.le_toInt hhigh).imp fun t ht => ?_
  rw [Field.value?.integer64?]
  exact ht ▸ congrArg some (Int64.ofInt_toInt n)

/-- The value of every field is written as a tree that means it. -/
theorem writes_writtenValue {c : Settings} {field : Field} {cs : List Char}
    (h : c.writtenValue? field = some cs) :
    Writes cs fun t => field.value? t = some (c.value field) := by
  cases field
  case program =>
    obtain ⟨s, hs, rfl⟩ := Option.map_eq_some_iff.1 h
    refine (Json.writes_string s).imp fun t ht => ?_
    rw [Field.value?, ht, Option.map_some, Utf8.decode?_eq_some_iff.1 hs, value]
  all_goals cases h
  case host =>
    refine (Json.writes_string c.host).imp fun t ht => ?_
    rw [Field.value?, ht, Option.map_some, value]
  case port =>
    have hhigh : (c.port.toNat : Int) ≤ 65535 := by have := c.port.toNat_lt; omega
    refine (Json.writes_integer (Int.natCast_nonneg _) hhigh).imp fun t ht => ?_
    rw [Field.value?, ht, Option.map_some, Int.toNat_natCast, UInt16.ofNat_toNat, value]
  case hmacKey =>
    refine (Json.writes_nullable Json.writes_string rfl c.hmacKey).imp fun t ht => ?_
    rw [Field.value?, ht, Option.map_some, value]
  case user | clusterVersion =>
    refine (Json.writes_nullable writes_integer64 rfl _).imp fun t ht => ?_
    rw [Field.value?, ht, Option.map_some, value]
  case tls | quiet | terse | verbose | yes =>
    refine (Json.writes_boolean _).imp fun t ht => ?_
    rw [Field.value?, ht, Option.map_some, value]

/-- Fields are written as members without blanks that assign the fields their values. -/
theorem exists_entries {c : Settings} {fs : List Field} {ms : List Json.Member}
    (h : fs.mapM (fun field => (c.writtenValue? field).map fun value => (field.name, value)) =
      some ms) :
    ∃ es : List (Entry Tree),
      (∀ isFirst, entriesBytes isFirst es = encoded (Json.joined isFirst ms)) ∧
      (∀ e ∈ es, (meaning? e).isSome) ∧ assignments es = fs.map c.value := by
  induction fs generalizing ms with
  | nil =>
    cases h
    exact ⟨[], fun _ => rfl, fun _ he => absurd he List.not_mem_nil, rfl⟩
  | cons field fs ih =>
    simp only [List.mapM_cons, Option.bind_eq_bind, Option.bind_eq_some_iff, Option.pure_def,
      Option.some.injEq] at h
    obtain ⟨m, hm, ms, hms, rfl⟩ := h
    obtain ⟨cs, hcs, rfl⟩ := Option.map_eq_some_iff.1 hm
    obtain ⟨t, hbytes, ht⟩ := writes_writtenValue hcs
    obtain ⟨es, hes, hmean, hassign⟩ := ih hms
    have hmeaning : meaning? (Json.compact field.name t) = some (.assigns field (c.value field)) :=
      meaning?_eq_assigns_iff.2 ⟨Json.text?_spell field.name, ht⟩
    refine ⟨Json.compact field.name t :: es, fun isFirst => ?_, ?_, ?_⟩
    · have hcomma : encoded (if isFirst then [] else [',']) = comma isFirst := by
        cases isFirst <;> decide
      have hmember := Json.encoded_writeMember field.name hbytes
      rw [entriesBytes, hes false, Json.joined, Json.encoded_append, Json.encoded_append, hcomma,
        hmember]
      simp [Json.compact]
    · intro e he
      rcases List.mem_cons.1 he with rfl | he
      · rw [hmeaning]
        rfl
      · exact hmean e he
    · have hassignment : assignment? (Json.compact field.name t) = some (c.value field) := by
        rw [assignment?, hmeaning]
      rw [assignments, List.filterMap_cons, hassignment, ← assignments, hassign, List.map_cons]

/-- Assigning every field its value gives the settings. -/
theorem foldl_assign_all (c d : Settings) : (Field.all.map c.value).foldl assign d = c := by
  have hfields : (Field.all.map c.value).map Assignment.field = Field.all := by
    rw [List.map_map]
    exact (List.map_congr_left fun field _ => field_value field).trans (List.map_id _)
  refine ext_value fun field => ?_
  have hmem : c.value field ∈ Field.all.map c.value :=
    List.mem_map_of_mem (Field.mem_all field)
  have := value_foldl_assign_of_mem (c := d) (hfields ▸ Field.nodup_all) hmem
  rwa [field_value] at this

/-- **What is written is loaded back.** -/
theorem ofSource_encode_of_toJson {c : Settings} {t : String} (h : c.toJson = .ok t) :
    ofSource (.ofBytes (Utf8.encode t)) = .ok c := by
  rw [toJson] at h
  split at h
  · next ms hms =>
    cases h
    obtain ⟨es, hbytes, hmean, hassign⟩ := exists_entries hms
    have hfields : fields es = Field.all := by
      rw [fields, hassign, List.map_map]
      exact (List.map_congr_left fun field _ => field_value field).trans (List.map_id _)
    have hacc : Acceptable es := ⟨hmean, hfields ▸ Field.nodup_all⟩
    have hopen : String.utf8EncodeChar '\x7b' = [0x7B] := by decide
    have hclose : String.utf8EncodeChar '\x7d' = [0x7D] := by decide
    have htext : Utf8.encode (String.ofList (Json.writeObject ms)) =
        (⟨[], [], es, []⟩ : Document).bytes := by
      rw [Utf8.encode, String.toList_ofList, Json.writeObject, Json.intercalate_eq_joined]
      simp [Document.bytes, Document.start, hbytes true, hopen, hclose]
    rw [htext, ofSource_document hacc, Document.settings, hassign, foldl_assign_all]
  · cases h

/-! ## When settings can be written -/

/-- Only the path of the program can be no text. -/
theorem exists_toJson_iff (c : Settings) :
    (∃ t, c.toJson = .ok t) ↔ ∃ s, Utf8.encode s = c.program := by
  cases hd : Utf8.decode? c.program with
  | none =>
    have hnone : c.members? = none := by simp [members?, Field.all, writtenValue?, hd]
    constructor
    · rintro ⟨t, ht⟩
      rw [toJson, hnone] at ht
      cases ht
    · rintro ⟨s, hs⟩
      rw [Utf8.decode?_eq_some_iff.2 hs] at hd
      cases hd
  | some s =>
    have hsome : ∃ ms, c.members? = some ms := by simp [members?, Field.all, writtenValue?, hd]
    obtain ⟨ms, hms⟩ := hsome
    exact ⟨fun _ => ⟨s, Utf8.decode?_eq_some_iff.1 hd⟩, fun _ => ⟨_, by rw [toJson, hms]⟩⟩

/-! ## Loaded settings -/

/-- The path of the program is a text. -/
def TextProgram (c : Settings) : Prop :=
  ∃ s, Utf8.encode s = c.program

/-- A mapped result comes from a result. -/
theorem exists_of_map_eq_ok {ε α β : Type} {e : Except ε α} {f : α → β} {y : β}
    (h : e.map f = .ok y) : ∃ x, e = .ok x ∧ f x = y := by
  cases e with
  | error => cases h
  | ok x => exact ⟨x, rfl, Except.ok.inj h⟩

section
variable {s r : Source} {c d : Settings}

/-- What is read for a field leaves the path of the program a text. -/
theorem TextProgram.assign_of_read (hc : TextProgram c) {field : Field} {a : Assignment}
    (h : field.read s = .ok (a, r)) : TextProgram (c.assign a) := by
  cases field <;> obtain ⟨x, -, hx⟩ := exists_of_map_eq_ok h <;> cases hx
  case program => exact ⟨_, rfl⟩
  all_goals exact hc

/-- A member that assigns a field has been read for that field. -/
theorem exists_read_of_readMember {given : List Field} {field : Field} {a : Assignment}
    (h : readMember given s = .ok (.assigns field a, r)) : ∃ t, field.read t = .ok (a, r) := by
  rw [readMember] at h
  split at h
  · cases h
  split at h
  · split at h
    · cases h
    split at h
    · cases h
    · obtain ⟨⟨b, rest⟩, hread, heq⟩ := exists_of_map_eq_ok h
      cases heq
      exact ⟨_, hread⟩
  · split at h
    · cases h
    · obtain ⟨rest, -, heq⟩ := exists_of_map_eq_ok h
      cases heq

/-- The members of an object keep the path of the program a text. -/
theorem TextProgram.of_readMembers {given : List Field} {isFirst : Bool} (hc : TextProgram c)
    (h : readMembers given isFirst c s = .ok (d, r)) : TextProgram d := by
  fun_induction readMembers given isFirst c s with
  | case2 =>
    cases h
    exact hc
  | case4 given isFirst c s rest field a rest' hm _ _ _ ih =>
    obtain ⟨t, ht⟩ := exists_read_of_readMember hm
    exact ih (hc.assign_of_read ht) h
  | case5 given isFirst c s rest rest' hm _ _ _ ih => exact ih hc h
  | case1 | case3 | case6 => cases h

/-- The elements of an array keep the path of the program a text. -/
theorem TextProgram.of_readElements {isFirst : Bool} {fs : List Field} (hc : TextProgram c)
    (h : readElements isFirst c fs s = .ok (d, r)) : TextProgram d := by
  fun_induction readElements isFirst c fs s with
  | case1 | case5 =>
    cases h
    exact hc
  | case7 isFirst c field fields s b rest hitem a rest' hread ih =>
    exact ih (hc.assign_of_read hread) h
  | case2 | case3 | case4 | case6 => cases h

/-- Settings that were read have a program whose path is a text. -/
theorem TextProgram.of_ofSource (h : ofSource s = .ok c) : TextProgram c := by
  have hdefault : TextProgram .default := ⟨"kctl", rfl⟩
  rw [ofSource] at h
  split at h
  · cases h
  next d rest hdoc =>
  have hd : TextProgram d := by
    rw [readDocument] at hdoc
    split at hdoc
    · split at hdoc
      · exact hdefault.of_readElements hdoc
      split at hdoc
      · exact hdefault.of_readMembers hdoc
      · cases hdoc
    · cases hdoc
  split at h
  · cases h
  · cases h
    exact hd
  · cases h

/-- The path of the program of loaded settings is a text. -/
theorem TextProgram.of_load {σ : Type} {host : Host σ} {path : Bytes} {state : σ}
    (h : load host path state = .ok c) : TextProgram c := by
  obtain ⟨s, -, hs⟩ := load_eq_ok_iff.1 h
  exact TextProgram.of_ofSource hs

end

/-- **Configuration files are stable under rewriting.** Settings can be written exactly if the path
of the program is a text, and what is written is loaded back. Whatever a file holds, settings that
were loaded from it can be written, and the file written is loaded as the same settings. -/
theorem loads_toJson (c : Settings) :
    ((∃ t, c.toJson = .ok t) ↔ ∃ s, Utf8.encode s = c.program) ∧
    (∀ t, c.toJson = .ok t → Loads (.ofBytes (Utf8.encode t)) (.ok c)) ∧
    (∀ (σ : Type) (host : Host σ) (path : Bytes) (state : σ), load host path state = .ok c →
      ∃ t, c.toJson = .ok t ∧ Loads (.ofBytes (Utf8.encode t)) (.ok c)) := by
  refine ⟨exists_toJson_iff c, fun t ht => loads_of_ok (ofSource_encode_of_toJson ht), ?_⟩
  intro σ host path state hload
  obtain ⟨t, ht⟩ := (exists_toJson_iff c).2 (TextProgram.of_load hload)
  exact ⟨t, ht, loads_of_ok (ofSource_encode_of_toJson ht)⟩

end KctlProbe.Settings
