import KctlProbe.Proofs.Options

/-!
# Options as a tool reads them

Of the tool it is only known that it reads the tokens behind its sub-command as tools do: a token
with a dash and more behind it is an option, the next token is its value if the option takes one,
two dashes end the options, and the first other token is positional with all that follow
(`Conventional.read`). What a command gives as options is read back in front of any tokens
(`read_flatMap_tokens`), because every flag looks like an option and is followed by a value exactly
if it takes one (`Given.Fits`).

Nothing stands between the options and the positional arguments, so a positional argument is taken
for what it is exactly as long as the first one does not look like an option
(`read_argv_eq_given_iff`). A key that does is read as one more option.
-/

namespace KctlProbe

open Utf8 (encode)

/-- An option as a tool reads it, with its value if it takes one. -/
structure Given where
  flag : Bytes
  value : Option Bytes := none
  deriving DecidableEq, Repr

/-- The tokens that give an option. -/
def Given.tokens (g : Given) : List Bytes :=
  g.flag :: g.value.toList

/-- A text that starts with a dash and has more characters. -/
def Dashed (s : String) : Prop :=
  ∃ c cs, s.toList = '-' :: c :: cs

namespace Conventional

/-! ## The reader -/

/-- Two dashes, which end the options. -/
def stop : Bytes := encode "--"

/-- Whether a token starts with a dash and goes on. -/
def dashed : Bytes → Bool
  | b :: _ :: _ => b == 0x2D
  | _ => false

/-- Reads the options that stand in front, and gives them with the positional arguments. Nothing is
read if the value of an option is missing. -/
def read (takesValue : Bytes → Bool) : List Bytes → Option (List Given × List Bytes)
  | [] => some ([], [])
  | token :: tokens =>
    if token = stop then some ([], tokens)
    else if !dashed token then some ([], token :: tokens)
    else if takesValue token then
      match tokens with
      | [] => none
      | value :: tokens =>
        (read takesValue tokens).map fun r => (⟨token, some value⟩ :: r.1, r.2)
    else (read takesValue tokens).map fun r => (⟨token, none⟩ :: r.1, r.2)

/-- The options of a sub-command that take a value. -/
def valued : SubCommand → List String
  | .put => ["-p", "-s", "-z"]
  | .del => ["-p", "-n", "-s", "-S", "-e", "-E"]
  | .range => ["-n", "-s", "-S", "-e", "-E"]
  | .get | .getNext | .getPrev | .getVers | .info => []

/-- Whether a token is an option of a sub-command that takes a value. -/
def takesValue (c : SubCommand) (token : Bytes) : Bool :=
  ((valued c).map encode).contains token

/-! ## Tokens with dashes -/

/-- The token that ends the options looks like one. -/
theorem dashed_stop : dashed stop = true := by decide

/-- A text looks like an option if and only if its bytes do. -/
theorem dashed_encode_iff {s : String} : dashed (encode s) = true ↔ Dashed s := by
  unfold Dashed encode
  cases hs : s.toList with
  | nil => simp [dashed]
  | cons c cs =>
    by_cases hc : c = '-'
    · subst hc
      have hdash : String.utf8EncodeChar '-' = [0x2D] := by decide
      cases cs with
      | nil => simp [hdash, dashed]
      | cons d ds =>
        obtain ⟨b, bs, hb⟩ := List.exists_cons_of_ne_nil (@String.utf8EncodeChar_ne_nil d)
        simp [hdash, hb, dashed]
    · refine iff_of_false (fun h => ?_) (by simp [hc])
      obtain ⟨b, bs, hb⟩ := List.exists_cons_of_ne_nil (@String.utf8EncodeChar_ne_nil c)
      have hmem : b ∈ String.utf8EncodeChar c := by simp [hb]
      have hdash : b = 0x2D := by
        rw [List.flatMap_cons, hb] at h
        unfold dashed at h
        split at h
        · next heq => simp_all
        · cases h
      have hnat : c.toNat = b.toNat :=
        Utf8.toNat_eq_of_mem_utf8EncodeChar hmem (by rw [hdash]; decide)
      rw [hdash] at hnat
      exact hc (by rw [← Char.ofNat_toNat c, hnat]; rfl)

/-! ## Reading what was given -/

section
variable {takes : Bytes → Bool}

/-- Behind the token that ends the options there are none. -/
theorem read_stop (tokens : List Bytes) : read takes (stop :: tokens) = some ([], tokens) := by
  rw [read.eq_def]
  exact if_pos rfl

/-- At a token that does not look like an option there are no more options. -/
theorem read_of_not_dashed {token : Bytes} (h : dashed token = false) (tokens : List Bytes) :
    read takes (token :: tokens) = some ([], token :: tokens) := by
  have hne : token ≠ stop := by
    rintro rfl
    exact absurd dashed_stop (by rw [h]; decide)
  rw [read.eq_def]
  simp [hne, h]

section
variable {token : Bytes} (hd : dashed token = true) (hne : token ≠ stop)
include hd hne

/-- A switch is read without a value. -/
theorem read_switch (ht : takes token = false) (tokens : List Bytes) :
    read takes (token :: tokens) =
      (read takes tokens).map fun r => (⟨token, none⟩ :: r.1, r.2) := by
  rw [read.eq_def]
  simp [hd, hne, ht]

/-- An option that takes a value has the next token for it. -/
theorem read_valued (ht : takes token = true) (value : Bytes) (tokens : List Bytes) :
    read takes (token :: value :: tokens) =
      (read takes tokens).map fun r => (⟨token, some value⟩ :: r.1, r.2) := by
  rw [read.eq_def]
  simp [hd, hne, ht]

/-- An option that takes a value cannot be the last token. -/
theorem read_missing (ht : takes token = true) : read takes [token] = none := by
  rw [read.eq_def]
  simp [hd, hne, ht]

end

/-- An option that a tool reads as it was given: its flag looks like one and does not end the
options, and it has a value exactly if it takes one. -/
structure Fits (takes : Bytes → Bool) (g : Given) : Prop where
  dashed : dashed g.flag = true
  ne_stop : g.flag ≠ stop
  takes_eq : takes g.flag = g.value.isSome

/-- An option is read in front of any tokens. -/
theorem read_tokens {g : Given} (h : Fits takes g) (rest : List Bytes) :
    read takes (g.tokens ++ rest) = (read takes rest).map fun r => (g :: r.1, r.2) := by
  obtain ⟨flag, value⟩ := g
  cases value with
  | none => exact read_switch h.dashed h.ne_stop h.takes_eq rest
  | some value => exact read_valued h.dashed h.ne_stop h.takes_eq value rest

/-- Options are read in front of any tokens. -/
theorem read_flatMap_tokens {given : List Given} (h : ∀ g ∈ given, Fits takes g)
    (rest : List Bytes) :
    read takes (given.flatMap Given.tokens ++ rest) =
      (read takes rest).map fun r => (given ++ r.1, r.2) := by
  induction given with
  | nil => simp
  | cons g given ih =>
    rw [List.forall_mem_cons] at h
    rw [List.flatMap_cons, List.append_assoc, read_tokens h.1, ih h.2, Option.map_map]
    rfl

/-- What looks like an option is never read as positional: two dashes are dropped, an option is
read, or its value is missing. -/
theorem read_ne_positional {token : Bytes} (h : dashed token = true) (tokens : List Bytes) :
    read takes (token :: tokens) ≠ some ([], token :: tokens) := by
  by_cases hs : token = stop
  · rw [hs, read_stop]
    simp
  cases ht : takes token with
  | false =>
    rw [read_switch h hs ht, ne_eq, Option.map_eq_some_iff]
    rintro ⟨r, -, hr⟩
    cases congrArg Prod.fst hr
  | true =>
    cases tokens with
    | nil =>
      rw [read_missing h hs ht]
      exact nofun
    | cons value tokens =>
      rw [read_valued h hs ht, ne_eq, Option.map_eq_some_iff]
      rintro ⟨r, -, hr⟩
      cases congrArg Prod.fst hr

/-- Tokens are all positional exactly if the first one does not look like an option. -/
theorem read_eq_positional_iff {tokens : List Bytes} :
    read takes tokens = some ([], tokens) ↔ ∀ token ∈ tokens.head?, dashed token = false := by
  cases tokens with
  | nil => simp [read]
  | cons token tokens =>
    simp only [List.head?_cons, Option.mem_def, Option.some.injEq, forall_eq']
    refine ⟨fun h => ?_, fun h => read_of_not_dashed h tokens⟩
    rw [Bool.eq_false_iff]
    exact fun hd => read_ne_positional hd tokens h

/-- What is given is read with the positional arguments exactly if the first of these does not look
like an option. -/
theorem read_given_iff {given : List Given} (h : ∀ g ∈ given, Fits takes g)
    {rest : List Bytes} :
    read takes (given.flatMap Given.tokens ++ rest) = some (given, rest) ↔
      ∀ token ∈ rest.head?, dashed token = false := by
  rw [read_flatMap_tokens h, ← @read_eq_positional_iff takes, Option.map_eq_some_iff]
  constructor
  · rintro ⟨⟨given', rest'⟩, hread, heq⟩
    obtain ⟨hgiven, rfl⟩ := Prod.mk.inj heq
    obtain rfl : given' = [] := List.append_right_eq_self.1 hgiven
    exact hread
  · intro hread
    exact ⟨_, hread, by rw [List.append_nil]⟩

end

/-! ## What commands give -/

/-- An option with a value, or nothing. -/
def givenWith (flag : String) (v : Option String) : List Given :=
  v.toList.map fun s => ⟨encode flag, some (encode s)⟩

/-- An option without a value, if it is set. -/
def givenIf (flag : String) (isSet : Bool) : List Given :=
  if isSet then [⟨encode flag, none⟩] else []

/-- An end of a range. -/
def givenBound (letter : Char) : Option Bound → List Given
  | some (.inclusive key) => givenWith (String.ofList ['-', letter.toUpper]) (some key)
  | some (.exclusive key) => givenWith (String.ofList ['-', letter]) (some key)
  | none => []

/-- A print format, if there is one. -/
def givenFormat (f : Option PrintFormat) : List Given :=
  f.toList.map fun f => ⟨encode f.flag, none⟩

/-- What a put gives. -/
def givenPut (c : Put) : List Given :=
  givenIf "-c" c.compare ++ givenWith "-p" (c.policy.map CachePolicy.value) ++
    givenWith "-s" (c.checksum.map Put.checksumText) ++
    givenWith "-z" (c.zeros.map fun n => Text.decimal n.toNat)

/-- What a range gives. -/
def givenRange (r : DeleteRange) : List Given :=
  givenWith "-n" (r.count.map fun n => Text.decimal n.toNat) ++ givenBound 's' r.start ++
    givenBound 'e' r.stop

/-- What the target of a delete gives. -/
def givenTarget : Delete.Target → List Given
  | .key => []
  | .within range => givenRange range
  | .all => [⟨encode "-a", none⟩]

/-- The options that a command gives. -/
def given : Invocation → List Given
  | .get c => givenFormat c.format
  | .put c => givenPut c
  | .delete c =>
    givenIf "-c" c.compare ++ givenWith "-p" (c.policy.map CachePolicy.value) ++
      givenTarget c.target
  | .listing c => givenRange c.range ++ givenIf "-r" c.reverse ++ givenFormat c.format
  | .deviceInfo c => c.sections.map fun s => ⟨encode s.flag, none⟩

/-! ### Their tokens -/

@[simp] theorem flatMap_givenWith (flag : String) (v : Option String) :
    (givenWith flag v).flatMap Given.tokens = Settings.optionWith flag v := by
  cases v <;> rfl

@[simp] theorem flatMap_givenIf (flag : String) (b : Bool) :
    (givenIf flag b).flatMap Given.tokens = Settings.optionIf flag b := by
  cases b <;> rfl

@[simp] theorem flatMap_givenBound (letter : Char) (b : Option Bound) :
    (givenBound letter b).flatMap Given.tokens = Bound.optionsOf letter b := by
  match b with
  | none | some (.inclusive _) | some (.exclusive _) => rfl

@[simp] theorem flatMap_givenFormat (f : Option PrintFormat) :
    (givenFormat f).flatMap Given.tokens = Tokens.formatOption f := by
  match f with
  | none | some .chars | some .hex => rfl

@[simp] theorem flatMap_givenRange (r : DeleteRange) :
    (givenRange r).flatMap Given.tokens = r.options := by
  simp [givenRange, DeleteRange.options]

@[simp] theorem flatMap_givenTarget (t : Delete.Target) :
    (givenTarget t).flatMap Given.tokens = t.options := by
  cases t with
  | key | all => rfl
  | within range => exact flatMap_givenRange range

/-- The options of a command are the tokens of what it gives. -/
theorem flatMap_given (c : Invocation) : (given c).flatMap Given.tokens = Command.options c := by
  cases c with
  | get c => exact flatMap_givenFormat c.format
  | put c =>
    show (givenPut c).flatMap _ = c.options
    simp [givenPut, Put.options, CachePolicy.options]
  | delete c =>
    show _ = c.options
    simp [given, Delete.options, CachePolicy.options]
  | listing c =>
    show _ = c.options
    simp [given, Listing.options_eq]
  | deviceInfo c =>
    show _ = c.options
    rw [given, DeviceInfo.options, List.flatMap_map, List.map_eq_flatMap]
    rfl

/-! ### They fit -/

section
variable {takes : Bytes → Bool} {flag : String}

/-- An option with a value fits if its flag takes one. -/
theorem fits_givenWith {v : Option String} (hd : dashed (encode flag) = true)
    (hne : encode flag ≠ stop) (ht : takes (encode flag) = true) :
    ∀ g ∈ givenWith flag v, Fits takes g := by
  intro g hg
  obtain ⟨s, -, rfl⟩ := List.mem_map.1 hg
  exact ⟨hd, hne, ht⟩

/-- A switch fits if its flag takes no value. -/
theorem fits_givenIf {b : Bool} (hd : dashed (encode flag) = true) (hne : encode flag ≠ stop)
    (ht : takes (encode flag) = false) : ∀ g ∈ givenIf flag b, Fits takes g := by
  cases b with
  | false => exact fun g hg => absurd hg List.not_mem_nil
  | true =>
    intro g hg
    rw [List.mem_singleton.1 hg]
    exact ⟨hd, hne, ht⟩

/-- A print format fits where its two flags take no value. -/
theorem fits_givenFormat {f : Option PrintFormat} (hA : takes (encode "-A") = false)
    (hX : takes (encode "-X") = false) : ∀ g ∈ givenFormat f, Fits takes g := by
  intro g hg
  obtain ⟨f, -, rfl⟩ := List.mem_map.1 hg
  cases f with
  | chars => exact ⟨by decide, by decide, hA⟩
  | hex => exact ⟨by decide, by decide, hX⟩

end

/-- The bounds and the count of a range fit where sub-commands take ranges. -/
theorem fits_givenRange {c : SubCommand} (r : DeleteRange) (hc : c = .del ∨ c = .range) :
    ∀ g ∈ givenRange r, Fits (takesValue c) g := by
  have hvalued : ∀ flag ∈ ["-n", "-s", "-S", "-e", "-E"], dashed (encode flag) = true ∧
      encode flag ≠ stop ∧ takesValue c (encode flag) = true := by
    rcases hc with rfl | rfl <;> decide
  have hwith : ∀ flag ∈ ["-n", "-s", "-S", "-e", "-E"], ∀ v, ∀ g ∈ givenWith flag v,
      Fits (takesValue c) g := fun flag hf v =>
    fits_givenWith (hvalued flag hf).1 (hvalued flag hf).2.1 (hvalued flag hf).2.2
  rw [givenRange, List.forall_mem_append, List.forall_mem_append]
  refine ⟨⟨hwith "-n" (by decide) _, ?_⟩, ?_⟩
  · match r.start with
    | none => exact fun g hg => absurd hg List.not_mem_nil
    | some (.inclusive key) => exact hwith "-S" (by decide) (some key)
    | some (.exclusive key) => exact hwith "-s" (by decide) (some key)
  · match r.stop with
    | none => exact fun g hg => absurd hg List.not_mem_nil
    | some (.inclusive key) => exact hwith "-E" (by decide) (some key)
    | some (.exclusive key) => exact hwith "-e" (by decide) (some key)

/-- The target of `del` fits its options. -/
theorem fits_givenTarget (t : Delete.Target) : ∀ g ∈ givenTarget t, Fits (takesValue .del) g := by
  cases t with
  | key => exact fun g hg => absurd hg List.not_mem_nil
  | within range => exact fits_givenRange range (.inl rfl)
  | all =>
    intro g hg
    rw [List.mem_singleton.1 hg]
    exact ⟨by decide, by decide, by decide⟩

/-- What `put` is given fits its options. -/
theorem fits_givenPut (c : Put) : ∀ g ∈ givenPut c, Fits (takesValue .put) g := by
  rw [givenPut, List.forall_mem_append, List.forall_mem_append, List.forall_mem_append]
  refine ⟨⟨⟨?_, ?_⟩, ?_⟩, ?_⟩
  · exact fits_givenIf (by decide) (by decide) (by decide)
  · exact fits_givenWith (by decide) (by decide) (by decide)
  · exact fits_givenWith (by decide) (by decide) (by decide)
  · exact fits_givenWith (by decide) (by decide) (by decide)

/-- What a command gives is read by its sub-command as it was given. -/
theorem fits_given (c : Invocation) :
    ∀ g ∈ given c, Fits (takesValue (Command.subCommand c)) g := by
  cases c with
  | get c =>
    show ∀ g ∈ givenFormat c.format, Fits (takesValue c.lookup.subCommand) g
    cases c.lookup <;> exact fits_givenFormat (by decide) (by decide)
  | put c => exact fits_givenPut c
  | delete c =>
    show ∀ g ∈ _ ++ _ ++ _, Fits (takesValue .del) g
    rw [List.forall_mem_append, List.forall_mem_append]
    refine ⟨⟨?_, ?_⟩, fits_givenTarget c.target⟩
    · exact fits_givenIf (by decide) (by decide) (by decide)
    · exact fits_givenWith (by decide) (by decide) (by decide)
  | listing c =>
    show ∀ g ∈ _ ++ _ ++ _, Fits (takesValue .range) g
    rw [List.forall_mem_append, List.forall_mem_append]
    refine ⟨⟨fits_givenRange c.range (.inr rfl), ?_⟩, fits_givenFormat (by decide) (by decide)⟩
    exact fits_givenIf (by decide) (by decide) (by decide)
  | deviceInfo c =>
    intro g hg
    obtain ⟨s, -, rfl⟩ := List.mem_map.1 hg
    show Fits (takesValue .info) _
    cases s <;> exact ⟨by decide, by decide, by decide⟩

/-! ## Keys -/

/-- **When a key is data.** Behind the sub-command of a vector the tool reads exactly the options
of the command and exactly the positional arguments if the first positional argument, if there is
one, does not start with a dash or is a dash alone, and in no other case. -/
theorem read_argv_eq_given_iff (c : Invocation) (positional : List String) :
    ∃ tokens, c.argv positional =
        (Command.settings c).program :: (Command.settings c).commonOptions ++
          encode (Command.subCommand c).name :: tokens ∧
      (given c).flatMap Given.tokens = Command.options c ∧
      (read (takesValue (Command.subCommand c)) tokens =
          some (given c, positional.map encode) ↔
        ∀ key ∈ positional.head?, ¬ Dashed key) := by
  refine ⟨Command.options c ++ positional.map encode, ?_, flatMap_given c, ?_⟩
  · rw [Invocation.argv_eq_layout, layout]
    simp only [List.cons_append, List.append_assoc]
  · rw [← flatMap_given c, read_given_iff (fits_given c), List.head?_map]
    simp only [Option.mem_def, Option.map_eq_some_iff, forall_exists_index, and_imp,
      forall_apply_eq_imp_iff₂, ← dashed_encode_iff, Bool.not_eq_true]

/-- A key that is the flag of a print format is read as a second format, and no key is left. -/
theorem read_argv_formatKey :
    ∃ tokens, (Invocation.get (Get.new .default (some .chars))).argv ["-X"] =
        Settings.default.program :: Settings.default.commonOptions ++ encode "get" :: tokens ∧
      read (takesValue .get) tokens = some ([⟨encode "-A", none⟩, ⟨encode "-X", none⟩], []) ∧
      read (takesValue .get) tokens ≠
        some (given (.get (Get.new .default (some .chars))), ["-X"].map encode) :=
  ⟨[encode "-A", encode "-X"], by decide, by decide, by decide⟩

end Conventional

end KctlProbe
