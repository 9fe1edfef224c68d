import KctlProbe.Command.Delete
import KctlProbe.Command.DeviceInfo
import KctlProbe.Command.Get
import KctlProbe.Command.Listing
import KctlProbe.Command.Put
import KctlProbe.Proofs.Text.Digits
import KctlProbe.Proofs.Text.Utf8

/-!
# Argument vectors are read back

An argument vector determines the invocation that it stands for. `Invocation` is a command of any of
the five types, and `Invocation.decode` reads an argument vector: the program, the common options in
their order, the sub-command, its options in their order, and what is left as positional arguments.
The values of options are taken whatever they look like, so the reader stays in step with the writer
although values may look like options or sub-commands. Each reader of a part undoes the writer of
that part in front of any tokens that do not go on with the same option (`Avoids`).

The vector of a delete of a range without bounds and count is the vector of a delete of one key, so
`decode` gives the latter (`Invocation.canonical`).
-/

namespace KctlProbe

/-- A command of any type. -/
inductive Invocation where
  | get (c : Get)
  | put (c : Put)
  | delete (c : Delete)
  | listing (c : Listing)
  | deviceInfo (c : DeviceInfo)
  deriving DecidableEq, Repr

namespace Invocation

/-- The argument vector of an invocation. -/
def argv : Invocation → List String → List Bytes
  | .get c => Command.argv c
  | .put c => Command.argv c
  | .delete c => Command.argv c
  | .listing c => Command.argv c
  | .deviceInfo c => Command.argv c

end Invocation

namespace Tokens

/-! ## Readers of options -/

/-- Reads an option with a value, if it comes next. -/
def optional {α : Type} (flag : String) (read : String → Option α) :
    List Bytes → Option (Option α × List Bytes)
  | token :: value :: tokens =>
    if token = Utf8.encode flag then
      ((Utf8.decode? value).bind read).map fun x => (some x, tokens)
    else some (none, token :: value :: tokens)
  | tokens => some (none, tokens)

/-- Reads an option with a value, which must come next. -/
def required {α : Type} (flag : String) (read : String → Option α) (tokens : List Bytes) :
    Option (α × List Bytes) :=
  match optional flag read tokens with
  | some (some x, tokens) => some (x, tokens)
  | _ => none

/-- Reads an option without a value, if it comes next. -/
def switch (flag : String) : List Bytes → Bool × List Bytes
  | token :: tokens =>
    if token = Utf8.encode flag then (true, tokens) else (false, token :: tokens)
  | [] => (false, [])

/-- Reads an unsigned number below `limit` in base `base`. -/
def unsigned (base limit : Nat) (s : String) : Option Nat :=
  (Text.readNumber? base s.toList).filter (· < limit)

/-- Reads an integer of 64 bits. -/
def integer64 (s : String) : Option Int64 :=
  (Text.readSigned? s.toList).map Int64.ofInt

/-- Reads an integer of 32 bits without sign in base `base`. -/
def unsigned32 (base : Nat) (s : String) : Option UInt32 :=
  (unsigned base 4294967296 s).map UInt32.ofNat

/-- Reads the cache policy with the given value. -/
def policy (s : String) : Option CachePolicy :=
  (CachePolicy.parse s).toOption

/-- Reads an end of a range, if it comes next. -/
def bound (letter : Char) (tokens : List Bytes) : Option (Option Bound × List Bytes) := do
  let (i, tokens) ← optional (String.ofList ['-', letter.toUpper])
    (fun key => some (Bound.inclusive key)) tokens
  let (e, tokens) ← optional (String.ofList ['-', letter])
    (fun key => some (Bound.exclusive key)) tokens
  some (i.or e, tokens)

/-- Reads the option for a print format, if it comes next. -/
def format : List Bytes → Option PrintFormat × List Bytes
  | token :: tokens =>
    match PrintFormat.all.find? fun f => Utf8.encode f.flag = token with
    | some f => (some f, tokens)
    | none => (none, token :: tokens)
  | [] => (none, [])

/-- Every section of the device's log. -/
def allSections : List Section :=
  [.all, .configuration, .capacities, .limits, .most, .messages, .statistics, .temperatures,
    .utilizations]

/-- Reads the sections that come next. -/
def sections : List Bytes → List Section × List Bytes
  | token :: tokens =>
    match allSections.find? fun s => Utf8.encode s.flag = token with
    | some s => (s :: (sections tokens).1, (sections tokens).2)
    | none => ([], token :: tokens)
  | [] => ([], [])

/-! ## Readers of commands -/

/-- Reads the program and the common options. -/
def settings : List Bytes → Option (Settings × List Bytes)
  | [] => none
  | program :: tokens => do
    let (host, tokens) ← required "-h" some tokens
    let (port, tokens) ← required "-p" (unsigned 10 65536) tokens
    let (user, tokens) ← optional "-u" integer64 tokens
    let (hmacKey, tokens) ← optional "-m" some tokens
    let (tls, tokens) := switch "-s" tokens
    let (clusterVersion, tokens) ← optional "-c" integer64 tokens
    let (quiet, tokens) := switch "-q" tokens
    let (terse, tokens) := switch "-t" tokens
    let (verbose, tokens) := switch "-v" tokens
    let (yes, tokens) := switch "-y" tokens
    some ({ program, host, port := .ofNat port, user, hmacKey, tls, clusterVersion, quiet, terse,
            verbose, yes }, tokens)

/-- Reads the options of a put. -/
def put (settings : Settings) (tokens : List Bytes) : Option (Put × List Bytes) := do
  let (compare, tokens) := switch "-c" tokens
  let (policy, tokens) ← optional "-p" policy tokens
  let (checksum, tokens) ← optional "-s" (unsigned32 16) tokens
  let (zeros, tokens) ← optional "-z" (unsigned32 10) tokens
  some ({ settings, compare, policy, checksum, zeros }, tokens)

/-- Reads the options of a range. -/
def range (tokens : List Bytes) : Option (DeleteRange × List Bytes) := do
  let (count, tokens) ← optional "-n" (unsigned32 10) tokens
  let (start, tokens) ← bound 's' tokens
  let (stop, tokens) ← bound 'e' tokens
  some ({ start, stop, count }, tokens)

/-- The target that is read from the options of a target. -/
def canonicalTarget : Delete.Target → Delete.Target
  | .within range => if range = .new then .key else .within range
  | target => target

/-- Reads the options of the target of a delete. Without any it is one key. -/
def target (tokens : List Bytes) : Option (Delete.Target × List Bytes) :=
  match switch "-a" tokens with
  | (true, tokens) => some (.all, tokens)
  | (false, tokens) =>
    (range tokens).map fun (range, tokens) => (canonicalTarget (.within range), tokens)

/-- Reads the options of a delete. -/
def delete (settings : Settings) (tokens : List Bytes) : Option (Delete × List Bytes) := do
  let (compare, tokens) := switch "-c" tokens
  let (policy, tokens) ← optional "-p" policy tokens
  let (target, tokens) ← target tokens
  some ({ settings, target, compare, policy }, tokens)

/-- Reads the options of a listing. -/
def listing (settings : Settings) (tokens : List Bytes) : Option (Listing × List Bytes) := do
  let (r, tokens) ← range tokens
  let (reverse, tokens) := switch "-r" tokens
  let (format, tokens) := format tokens
  some ({ settings, start := r.start, stop := r.stop, count := r.count, reverse, format }, tokens)

/-- Reads the options of a sub-command. -/
def command (settings : Settings) (tokens : List Bytes) :
    SubCommand → Option (Invocation × List Bytes)
  | .get => lookup .exact
  | .getNext => lookup .next
  | .getPrev => lookup .previous
  | .getVers => lookup .version
  | .put => (put settings tokens).map fun (c, tokens) => (.put c, tokens)
  | .del => (delete settings tokens).map fun (c, tokens) => (.delete c, tokens)
  | .info => some (.deviceInfo { settings, sections := (sections tokens).1 }, (sections tokens).2)
  | .range => (listing settings tokens).map fun (c, tokens) => (.listing c, tokens)
where
  lookup (l : Lookup) : Option (Invocation × List Bytes) :=
    some (.get { settings, lookup := l, format := (format tokens).1 }, (format tokens).2)

/-! ## Each reader undoes its writer -/

/-- The next token is not the option `flag`. -/
def Avoids (flag : String) (tokens : List Bytes) : Prop :=
  tokens.head? ≠ some (Utf8.encode flag)

/-- The next token is a text that does not start like an option, or there is none. -/
def Plain (tokens : List Bytes) : Prop :=
  ∀ token ∈ tokens.head?, ∃ s, token = Utf8.encode s ∧ s.toList.head? ≠ some '-'

section
variable {flag other : String} {tokens : List Bytes}

/-- A flag is not the next token where no option can be. -/
theorem Plain.avoids (h : Plain tokens) (hf : flag.toList.head? = some '-') :
    Avoids flag tokens := by
  intro he
  obtain ⟨s, hs, hne⟩ := h _ he
  rw [Utf8.encode_inj] at hs
  exact hne (hs ▸ hf)

/-- The next token is not a flag if it is another text. -/
theorem avoids_cons_encode (h : flag ≠ other) : Avoids flag (Utf8.encode other :: tokens) := by
  intro he
  simp only [List.head?_cons, Option.some.injEq, Utf8.encode_inj] at he
  exact h he.symm

/-- An option with a value does not begin with another flag. -/
theorem avoids_optionWith {v : Option String} (h : flag ≠ other) (ht : Avoids flag tokens) :
    Avoids flag (Settings.optionWith other v ++ tokens) := by
  cases v with
  | none => exact ht
  | some s => exact avoids_cons_encode h

/-- A switch is not another flag. -/
theorem avoids_optionIf {b : Bool} (h : flag ≠ other) (ht : Avoids flag tokens) :
    Avoids flag (Settings.optionIf other b ++ tokens) := by
  cases b with
  | false => exact ht
  | true => exact avoids_cons_encode h

/-- An option that is not there is not read. -/
theorem optional_of_avoids {α : Type} {read : String → Option α} (ht : Avoids flag tokens) :
    optional flag read tokens = some (none, tokens) := by
  unfold optional
  split
  · next token value rest =>
    rw [if_neg]
    rintro rfl
    exact ht rfl
  · rfl

/-- An option that is there is read with its value. -/
theorem optional_cons {α : Type} (flag : String) (read : String → Option α)
    (tokens : List Bytes) {s : String} {x : α} (hread : read s = some x) :
    optional flag read (Utf8.encode flag :: Utf8.encode s :: tokens) = some (some x, tokens) := by
  rw [optional, if_pos rfl, Utf8.decode?_encode, Option.bind_some, hread]
  rfl

/-- An option with a value is read back. -/
theorem optional_optionWith {α : Type} {read : String → Option α} {v : Option α}
    {text : α → String} (hread : ∀ x, read (text x) = some x) (ht : Avoids flag tokens) :
    optional flag read (Settings.optionWith flag (v.map text) ++ tokens) = some (v, tokens) := by
  cases v with
  | none => exact optional_of_avoids ht
  | some x => exact optional_cons flag read tokens (hread x)

/-- An option with a text is read back. -/
theorem optional_some_optionWith {v : Option String} (ht : Avoids flag tokens) :
    optional flag some (Settings.optionWith flag v ++ tokens) = some (v, tokens) := by
  cases v with
  | none => exact optional_of_avoids ht
  | some s => exact optional_cons flag some tokens rfl

/-- An option that is always there is read back. -/
theorem required_optionWith {α : Type} {read : String → Option α} {s : String} {x : α}
    (hread : read s = some x) :
    required flag read (Settings.optionWith flag (some s) ++ tokens) = some (x, tokens) := by
  have h := optional_cons flag read tokens hread
  simp only [required, Settings.optionWith, List.cons_append, List.nil_append, h]

/-- An option without a value is read back. -/
theorem switch_optionIf {b : Bool} (ht : Avoids flag tokens) :
    switch flag (Settings.optionIf flag b ++ tokens) = (b, tokens) := by
  cases b with
  | true =>
    show switch flag (Utf8.encode flag :: tokens) = _
    rw [switch, if_pos rfl]
  | false =>
    show switch flag tokens = _
    unfold switch
    split
    · next token rest =>
      rw [if_neg]
      rintro rfl
      exact ht rfl
    · rfl

end

/-! ## Values of options -/

/-- Decimal digits are read as the number that they were written for. -/
theorem unsigned_decimal {limit n : Nat} (h : n < limit) :
    unsigned 10 limit (Text.decimal n) = some n := by
  rw [unsigned, Text.decimal, String.toList_ofList,
    Text.readNumber?_toDigits (by omega) (by omega)]
  simpa using h

/-- Every word of 32 bits is read of its decimal digits. -/
theorem unsigned32_decimal (n : UInt32) :
    unsigned32 10 (Text.decimal n.toNat) = some n := by
  rw [unsigned32, unsigned_decimal n.toNat_lt]
  simp

/-- A checksum is read of the text that `put` writes for it. -/
theorem unsigned32_checksumText (n : UInt32) :
    unsigned32 16 (Put.checksumText n) = some n := by
  rw [unsigned32, unsigned, Put.checksumText, String.toList_ofList,
    Text.readNumber?_padded (by omega) (by omega)]
  have := n.toNat_lt
  simp [Option.filter, this]

/-- Every signed word of 64 bits is read of its decimal text. -/
theorem integer64_signedDecimal (n : Int64) :
    integer64 (Text.signedDecimal n.toInt) = some n := by
  rw [integer64, Text.readSigned?_signedDecimal]
  simp

/-- A cache policy is read of its value. -/
theorem policy_value (p : CachePolicy) : policy p.value = some p := by
  cases p <;> rfl

/-! ## Parts of commands -/

section
variable {tokens : List Bytes}

/-- The capital letter of a bound makes another option. -/
theorem ofList_toUpper_ne {letter : Char} (h : letter.toUpper ≠ letter) :
    String.ofList ['-', letter.toUpper] ≠ String.ofList ['-', letter] := by
  intro he
  have := congrArg String.toList he
  simp only [String.toList_ofList, List.cons.injEq, and_true, true_and] at this
  exact h this

/-- An end of a range is read back. -/
theorem bound_optionsOf {letter : Char} {b : Option Bound} (hne : letter.toUpper ≠ letter)
    (hi : Avoids (String.ofList ['-', letter.toUpper]) tokens)
    (he : Avoids (String.ofList ['-', letter]) tokens) :
    bound letter (Bound.optionsOf letter b ++ tokens) = some (b, tokens) := by
  match b with
  | none =>
    simp only [bound, Bound.optionsOf, List.nil_append, optional_of_avoids hi,
      optional_of_avoids he, Option.bind_eq_bind, Option.bind_some, Option.or_none]
  | some (.inclusive key) =>
    have h := optional_cons (String.ofList ['-', letter.toUpper])
      (fun key => some (Bound.inclusive key)) tokens (s := key) rfl
    simp only [bound, Bound.optionsOf, Bound.options, List.cons_append, List.nil_append, h,
      optional_of_avoids he, Option.bind_eq_bind, Option.bind_some, Option.or_none]
  | some (.exclusive key) =>
    have h := optional_cons (String.ofList ['-', letter])
      (fun key => some (Bound.exclusive key)) tokens (s := key) rfl
    simp only [bound, Bound.optionsOf, Bound.options, List.cons_append, List.nil_append, h,
      optional_of_avoids (avoids_cons_encode (ofList_toUpper_ne hne)), Option.bind_eq_bind,
      Option.bind_some, Option.none_or]

/-- A bound begins with no flag but its own two. -/
theorem avoids_optionsOf (letter : Char) (b : Option Bound) {flag : String}
    (hi : flag ≠ String.ofList ['-', letter.toUpper]) (he : flag ≠ String.ofList ['-', letter])
    (ht : Avoids flag tokens) : Avoids flag (Bound.optionsOf letter b ++ tokens) := by
  match b with
  | none => exact ht
  | some (.inclusive _) => exact avoids_cons_encode hi
  | some (.exclusive _) => exact avoids_cons_encode he

/-- The option for a print format, if it needs one. -/
def formatOption (f : Option PrintFormat) : List Bytes :=
  if (PrintFormat.flagFor f).isEmpty then [] else [Utf8.encode (PrintFormat.flagFor f)]

/-- The option for a print format is read back. -/
theorem format_formatOption {f : Option PrintFormat} (ht : Plain tokens) :
    format (formatOption f ++ tokens) = (f, tokens) := by
  match f with
  | some .chars | some .hex => rfl
  | none =>
    show format tokens = _
    unfold format
    split
    · next token rest =>
      have hnone : PrintFormat.all.find? (fun f => Utf8.encode f.flag = token) = none := by
        rw [List.find?_eq_none]
        intro f _
        have hf : f.flag.toList.head? = some '-' := by cases f <;> rfl
        simpa using fun h => ht.avoids hf (congrArg some h.symm)
      rw [hnone]
    · rfl

/-- Every section is found by its option. -/
theorem find?_allSections (x : Section) :
    allSections.find? (fun s => Utf8.encode s.flag = Utf8.encode x.flag) = some x := by
  simp only [Utf8.encode_inj]
  cases x <;> decide

/-- Sections are read back. -/
theorem sections_map_flag (ss : List Section) (ht : Plain tokens) :
    sections (ss.map (fun s => Utf8.encode s.flag) ++ tokens) = (ss, tokens) := by
  induction ss with
  | nil =>
    show sections tokens = _
    unfold sections
    split
    · next token rest =>
      have hnone : allSections.find? (fun s => Utf8.encode s.flag = token) = none := by
        rw [List.find?_eq_none]
        intro s _
        have hs : s.flag.toList.head? = some '-' := by cases s <;> rfl
        simpa using fun h => ht.avoids hs (congrArg some h.symm)
      rw [hnone]
    · rfl
  | cons s ss ih =>
    rw [List.map_cons, List.cons_append, sections, find?_allSections, ih]

/-- The program and the common options are read back. -/
theorem settings_commonOptions (c : Settings) (ht : Plain tokens) :
    settings (c.program :: (c.commonOptions ++ tokens)) = some (c, tokens) := by
  have hhost : some c.host = some c.host := rfl
  have hport : unsigned 10 65536 (Text.decimal c.port.toNat) = some c.port.toNat :=
    unsigned_decimal c.port.toNat_lt
  simp (disch := repeat (first | exact ht.avoids rfl | refine avoids_optionWith (by decide) ?_ |
      refine avoids_optionIf (by decide) ?_)) only [settings, Settings.commonOptions,
    List.append_assoc, required_optionWith hhost, required_optionWith hport,
    optional_optionWith integer64_signedDecimal, optional_some_optionWith, switch_optionIf,
    Option.bind_eq_bind, Option.bind_some, UInt16.ofNat_toNat]

/-- The options of a put are read back. -/
theorem put_options (c : Put) (ht : Plain tokens) :
    put c.settings (c.options ++ tokens) = some (c, tokens) := by
  simp (disch := repeat (first | exact ht.avoids rfl | refine avoids_optionWith (by decide) ?_))
    only [put, Put.options, CachePolicy.options, List.append_assoc, switch_optionIf,
    optional_optionWith policy_value, optional_optionWith unsigned32_checksumText,
    optional_optionWith unsigned32_decimal, Option.bind_eq_bind, Option.bind_some]

/-- The options of a range are read back in front of tokens that are no bounds. -/
theorem range_options (r : DeleteRange) (hn : Avoids "-n" tokens) (hS : Avoids "-S" tokens)
    (hs : Avoids "-s" tokens) (hE : Avoids "-E" tokens) (he : Avoids "-e" tokens) :
    range (r.options ++ tokens) = some (r, tokens) := by
  have hstop : bound 'e' (Bound.optionsOf 'e' r.stop ++ tokens) = some (r.stop, tokens) :=
    bound_optionsOf (by decide) hE he
  have hstart : bound 's' (Bound.optionsOf 's' r.start ++ (Bound.optionsOf 'e' r.stop ++ tokens)) =
      some (r.start, Bound.optionsOf 'e' r.stop ++ tokens) :=
    bound_optionsOf (by decide) (avoids_optionsOf _ _ (by decide) (by decide) hS)
      (avoids_optionsOf _ _ (by decide) (by decide) hs)
  have hcount := optional_optionWith (v := r.count) unsigned32_decimal
    (avoids_optionsOf 's' r.start (by decide) (by decide)
      (avoids_optionsOf 'e' r.stop (by decide) (by decide) hn))
  simp only [range, DeleteRange.options, List.append_assoc, hcount, hstart, hstop,
    Option.bind_eq_bind, Option.bind_some]

/-- A range begins with no flag but those of its parts. -/
theorem avoids_range {flag : String} {r : DeleteRange} (hf : flag ∉ ["-n", "-S", "-s", "-E", "-e"])
    (ht : Avoids flag tokens) : Avoids flag (r.options ++ tokens) := by
  simp only [List.mem_cons, List.not_mem_nil, or_false, not_or] at hf
  obtain ⟨hn, hS, hs, hE, he⟩ := hf
  simp only [DeleteRange.options, List.append_assoc]
  exact avoids_optionWith hn (avoids_optionsOf 's' _ hS hs (avoids_optionsOf 'e' _ hE he ht))

/-- The options of a target are read back, but that a range without bounds and count is read as one
key. -/
theorem target_options (t : Delete.Target) (ht : Plain tokens) :
    target (t.options ++ tokens) = some (canonicalTarget t, tokens) := by
  have hrange : ∀ r : DeleteRange,
      target (r.options ++ tokens) = some (canonicalTarget (.within r), tokens) := by
    intro r
    have ha : Avoids "-a" (r.options ++ tokens) := avoids_range (by decide) (ht.avoids rfl)
    have ha := switch_optionIf (b := false) ha
    have hr := range_options r (ht.avoids rfl) (ht.avoids rfl) (ht.avoids rfl) (ht.avoids rfl)
      (ht.avoids rfl)
    simp only [Settings.optionIf, Bool.false_eq_true, if_false, List.nil_append] at ha
    simp only [target, ha, hr, Option.map_some]
  cases t with
  | key => exact hrange .new
  | within r => exact hrange r
  | all => rfl

/-- A target and the one that is read from its options differ only in a range without bounds and
count. -/
theorem canonicalTarget_eq (t : Delete.Target) :
    canonicalTarget t = t ∨ t = .within .new ∧ canonicalTarget t = .key := by
  cases t with
  | key | all => exact .inl rfl
  | within r =>
    by_cases h : r = .new
    · exact .inr ⟨by rw [h], by simp [canonicalTarget, h]⟩
    · exact .inl (by simp [canonicalTarget, h])

/-- A target and its canonical form have the same options. -/
theorem options_canonicalTarget (t : Delete.Target) : (canonicalTarget t).options = t.options := by
  rcases canonicalTarget_eq t with h | ⟨ht, hc⟩
  · rw [h]
  · rw [hc, ht]
    rfl

/-- The options of a delete are read back up to `canonicalTarget`. -/
theorem delete_options (c : Delete) (ht : Plain tokens) :
    delete c.settings (c.options ++ tokens) =
      some ({ c with target := canonicalTarget c.target }, tokens) := by
  have hflag : ∀ flag, flag ∉ ["-a", "-n", "-S", "-s", "-E", "-e"] →
      flag.toList.head? = some '-' → Avoids flag (c.target.options ++ tokens) := by
    intro flag hf hd
    rw [List.mem_cons, not_or] at hf
    cases c.target with
    | key => exact ht.avoids hd
    | within r => exact avoids_range hf.2 (ht.avoids hd)
    | all => exact avoids_cons_encode hf.1
  have hp : Avoids "-p" (c.target.options ++ tokens) := hflag _ (by decide) rfl
  have hc : Avoids "-c" (CachePolicy.options c.policy ++ (c.target.options ++ tokens)) :=
    avoids_optionWith (by decide) (hflag _ (by decide) rfl)
  have hpolicy := optional_optionWith (v := c.policy) policy_value hp
  rw [← CachePolicy.options] at hpolicy
  simp only [delete, Delete.options, List.append_assoc, switch_optionIf hc, hpolicy,
    target_options c.target ht, Option.bind_eq_bind, Option.bind_some]

/-- A print format begins with no flag but its own two. -/
theorem avoids_formatOption (f : Option PrintFormat) {flag : String} (hA : flag ≠ "-A")
    (hX : flag ≠ "-X") (ht : Avoids flag tokens) :
    Avoids flag (formatOption f ++ tokens) := by
  match f with
  | none => exact ht
  | some .chars => exact avoids_cons_encode hA
  | some .hex => exact avoids_cons_encode hX

/-- The options of a listing are read back. -/
theorem listing_options (c : Listing) (ht : Plain tokens) :
    listing c.settings (c.options ++ tokens) = some (c, tokens) := by
  have hoptions : c.options ++ tokens =
      DeleteRange.options { start := c.start, stop := c.stop, count := c.count } ++
        (Settings.optionIf "-r" c.reverse ++
          (formatOption c.format ++ tokens)) := by
    simp only [Listing.options, DeleteRange.options, formatOption, List.append_assoc]
  have hflag : ∀ flag : String, flag ∉ ["-r", "-A", "-X"] → flag.toList.head? = some '-' →
      Avoids flag (Settings.optionIf "-r" c.reverse ++
        (formatOption c.format ++ tokens)) := by
    intro flag hf hd
    simp only [List.mem_cons, List.not_mem_nil, or_false, not_or] at hf
    obtain ⟨hr, hA, hX⟩ := hf
    exact avoids_optionIf hr (avoids_formatOption c.format hA hX (ht.avoids hd))
  have hrange := range_options { start := c.start, stop := c.stop, count := c.count }
    (hflag "-n" (by decide) rfl) (hflag "-S" (by decide) rfl) (hflag "-s" (by decide) rfl)
    (hflag "-E" (by decide) rfl) (hflag "-e" (by decide) rfl)
  have hr : Avoids "-r" (formatOption c.format ++ tokens) :=
    avoids_formatOption c.format (by decide) (by decide) (ht.avoids rfl)
  rw [hoptions]
  simp only [listing, hrange, switch_optionIf hr, format_formatOption ht, Option.bind_eq_bind,
    Option.bind_some]

end

end Tokens

namespace Invocation

/-! ## The decoder -/

/-- Reads an argument vector: an invocation and its positional arguments. -/
def decode (tokens : List Bytes) : Option (Invocation × List String) := do
  let (settings, tokens) ← Tokens.settings tokens
  match tokens with
  | [] => none
  | token :: tokens => do
    let subCommand ← (Utf8.decode? token).bind fun name => (SubCommand.parse name).toOption
    let (c, tokens) ← Tokens.command settings tokens subCommand
    let positional ← tokens.mapM Utf8.decode?
    some (c, positional)

/-- The invocation that is read from the argument vector of an invocation. -/
def canonical : Invocation → Invocation
  | .delete c => .delete { c with target := Tokens.canonicalTarget c.target }
  | c => c

section
variable {settings : Settings} {positional : List String}

/-- Texts of which the first does not start like an option. -/
theorem plain_map_encode (h : ∀ key ∈ positional.head?, key.toList.head? ≠ some '-') :
    Tokens.Plain (positional.map Utf8.encode) := by
  intro token ht
  rw [List.head?_map, Option.mem_def, Option.map_eq_some_iff] at ht
  obtain ⟨key, hk, rfl⟩ := ht
  exact ⟨key, rfl, h key hk⟩

/-- Positional texts are decoded from their bytes. -/
theorem mapM_decode? (positional : List String) :
    (positional.map Utf8.encode).mapM Utf8.decode? = some positional := by
  induction positional with
  | nil => rfl
  | cons key keys ih =>
    rw [List.map_cons, List.mapM_cons, Utf8.decode?_encode, ih]
    rfl

/-- A subcommand is parsed from its name. -/
theorem parse_name (c : SubCommand) : SubCommand.parse c.name = .ok c := by
  cases c <;> rfl

/-- A vector of the shared layout is read back if the options of its sub-command are. -/
theorem decode_layout {subCommand : SubCommand} {options : List Bytes} {c : Invocation}
    (hc : Tokens.command settings (options ++ positional.map Utf8.encode) subCommand =
      some (c, positional.map Utf8.encode)) :
    decode (layout settings subCommand options positional) = some (c, positional) := by
  have hname : Tokens.Plain
      (Utf8.encode subCommand.name :: (options ++ positional.map Utf8.encode)) := by
    intro token ht
    cases ht
    exact ⟨subCommand.name, rfl, by cases subCommand <;> decide⟩
  have hsettings := Tokens.settings_commonOptions settings hname
  simp only [decode, layout, List.cons_append, List.append_assoc, hsettings,
    Utf8.decode?_encode, parse_name, Except.toOption, hc, mapM_decode?, Option.bind_eq_bind,
    Option.bind_some]

end

/-- **An argument vector determines its invocation.** For a command of any type with any settings
and options, and positional arguments of which the first does not start with a dash, `decode` gives
back the settings, the sub-command, all options and the positional arguments. It makes only one
identification, which the vectors leave no choice about: a delete of a range without bounds and
count is read as a delete of one key. -/
theorem decode_argv (c : Invocation) (positional : List String)
    (h : ∀ key ∈ positional.head?, key.toList.head? ≠ some '-') :
    decode (c.argv positional) = some (c.canonical, positional) ∧
      (c.canonical = c ∨ ∃ d : Delete, c = .delete { d with target := .within .new } ∧
        c.canonical = .delete { d with target := .key }) ∧
      c.canonical.argv positional = c.argv positional := by
  have hp := plain_map_encode h
  cases c with
  | get c =>
    refine ⟨decode_layout ?_, .inl rfl, rfl⟩
    have hformat : Tokens.format (c.options ++ positional.map Utf8.encode) =
        (c.format, positional.map Utf8.encode) := Tokens.format_formatOption hp
    show Tokens.command c.settings (c.options ++ _) c.lookup.subCommand = _
    obtain ⟨settings, lookup, format⟩ := c
    cases lookup <;>
      simp only [Lookup.subCommand, Tokens.command, Tokens.command.lookup, hformat] <;> rfl
  | put c =>
    refine ⟨decode_layout ?_, .inl rfl, rfl⟩
    show (Tokens.put c.settings (c.options ++ _)).map _ = _
    rw [Tokens.put_options c hp]
    rfl
  | delete c =>
    refine ⟨decode_layout ?_, ?_, ?_⟩
    · show (Tokens.delete c.settings (c.options ++ _)).map _ = _
      rw [Tokens.delete_options c hp]
      rfl
    · rcases Tokens.canonicalTarget_eq c.target with ht | ⟨ht, hk⟩
      · left
        simp only [canonical, ht]
      · right
        refine ⟨c, ?_, ?_⟩
        · rw [← ht]
        · simp only [canonical, hk]
    · show layout _ _ (Delete.options _) _ = layout _ _ c.options _
      simp only [Delete.options, Tokens.options_canonicalTarget]
  | listing c =>
    refine ⟨decode_layout ?_, .inl rfl, rfl⟩
    show (Tokens.listing c.settings (c.options ++ _)).map _ = _
    rw [Tokens.listing_options c hp]
    rfl
  | deviceInfo c =>
    refine ⟨decode_layout ?_, .inl rfl, rfl⟩
    show Tokens.command c.settings (c.options ++ _) .info = _
    have hsections : Tokens.sections (c.options ++ positional.map Utf8.encode) =
        (c.sections, positional.map Utf8.encode) := Tokens.sections_map_flag c.sections hp
    rw [Tokens.command, hsections]
    rfl

/-- A listing whose values look like options and sub-commands, with positional arguments that do so
from the second on. -/
theorem decode_argv_misleading :
    let c : Listing :=
      { settings := { program := [0xFF], host := "", user := some (-1), hmacKey := some "-q",
                      tls := true }
        start := some (.exclusive "-S"), stop := some (.inclusive "range"), count := some 7
        format := some .hex }
    (∀ key ∈ (["get", "-A"] : List String).head?, key.toList.head? ≠ some '-') ∧
      decode ((Invocation.listing c).argv ["get", "-A"]) = some (.listing c, ["get", "-A"]) :=
  ⟨by decide, (decode_argv _ _ (by decide)).1⟩

end Invocation

end KctlProbe
