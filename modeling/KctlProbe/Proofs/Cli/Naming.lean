import KctlProbe.Proofs.Cli.Session
import KctlProbe.Proofs.Cli.Values

/-!
# One set of names on every way in

A print format can be named to the registry, to the parser, to the constructors of a get, to a
single get, and on the command line; a lookup is chosen by name on the command line and is a
sub-command after that. All of them resolve a text in the same way, since each takes back what it
shows and nothing else (`KctlProbe.Proofs.Names`). What is left is to follow a name through the
command line: the value that is given is the one that is worked with (`format_of_gives`,
`op_of_gives`), and every process that is started is started for it (`exists_of_mem_starts`).
-/

namespace KctlProbe.Cli

open Utf8 (encode)

variable {σ : Type}

/-! ## What processes are started for -/

section
variable {host : Host σ} {a : Arguments} {state : σ}

/-- Without settings nothing is started. -/
theorem starts_of_unloaded (h : ∀ base, ¬ a.Base host state base) : starts host a state = [] := by
  obtain ⟨f, hf⟩ := settings_of_unloaded h
  exact (ends_of_failure hf).starts

/-- Without a format nothing is started, whatever the settings are. -/
theorem starts_of_unknown (h : ∀ format, ¬ a.Names format) : starts host a state = [] := by
  by_cases hbase : ∃ base, a.Base host state base
  · obtain ⟨base, hbase⟩ := hbase
    exact (ends_of_unknown hbase h).starts
  · exact starts_of_unloaded fun base hb => hbase ⟨base, hb⟩

/-- Everything is started for a get that the command line asks for. -/
theorem exists_of_mem_starts {start : Start} (h : start ∈ starts host a state) :
    ∃ base format, a.Base host state base ∧ a.Names format ∧
      start.argv = Command.argv (a.get base format) [a.key] := by
  by_cases hbase : ∃ base, a.Base host state base
  · by_cases hformat : ∃ format, a.Names format
    · obtain ⟨base, hbase⟩ := hbase
      obtain ⟨format, hformat⟩ := hformat
      exact ⟨base, format, hbase, hformat, (probe_starts hbase hformat).1 start h⟩
    · rw [starts_of_unknown fun format hf => hformat ⟨format, hf⟩] at h
      cases h
  · rw [starts_of_unloaded fun base hb => hbase ⟨base, hb⟩] at h
    cases h

end

/-! ## Print formats -/

/-- The option of a format stands where the options of a get are. -/
theorem argv_of_format (settings : Settings) (lookup : Lookup) (f : PrintFormat)
    (positional : List String) :
    Command.argv ((Get.new settings (some f)).withLookup lookup) positional =
      layout settings lookup.subCommand [encode f.flag] positional := by
  cases f <;> rfl

/-- A text selects one format on every way in. -/
structure TakesFormat (host : Host σ) (settings : Settings) (state : σ) (s : String)
    (f : PrintFormat) : Prop where
  ofName? : PrintFormat.ofName? s = some f
  parse : PrintFormat.parse s = .ok f
  named : Get.named settings (some s) = .ok (Get.new settings (some f))
  prepare : Get.prepare settings s = .ok (Get.new settings (some f))
  argv : ∀ positional, Command.argv (Get.new settings (some f)) positional =
    layout settings .get [encode f.flag] positional
  testGet : ∀ key, testGet host settings key s state =
    run host (Get.new settings (some f)) [key] true state
  accepted : ∃ a, Request.ofTokens [attached .format s] = .probe a
  commandLine : ∀ tokens a, Gives .format s tokens → Request.ofTokens tokens = .probe a →
    a.printFormat = .ok (some f) ∧
      ∀ start ∈ starts host a state, ∃ base, a.Base host state base ∧
        start.argv = layout (a.effective base) a.op.lookup.subCommand [encode f.flag] [a.key]

/-- A text selects no format on any way in, and every way ends before a process is started. On the
command line that leaves out the name of raw output. -/
structure RefusesFormat (host : Host σ) (settings : Settings) (state : σ) (s : String) : Prop where
  ofName? : PrintFormat.ofName? s = none
  parse : PrintFormat.parse s = .error .unknownFormat
  named : Get.named settings (some s) = .error .unknownFormat
  prepare : Get.prepare settings s = .error .unknownFormat
  testGet : ∀ key, testGet host settings key s state =
    { result := .error .unknownFormat, log := [], host := state }
  testGet_starts : ∀ key, (KctlProbe.testGet host.recording settings key s (state, [])).host.2 = []
  commandLine : s ≠ "plain" → ∀ tokens a, Gives .format s tokens →
    Request.ofTokens tokens = .probe a →
      a.printFormat = .error .unknownFormat ∧ starts host a state = [] ∧
        ∀ base, a.Base host state base → (probe host a state).1.code = 2 ∧
          (probe host a state).1.stdout = "" ∧
          (probe host a state).1.stderr = Failure.unknownFormat.message ++ ": " ++ s ++ "\n"

section
variable (host : Host σ) (settings : Settings) (state : σ)

/-- The name of a format selects it. -/
theorem takesFormat_name (f : PrintFormat) : TakesFormat host settings state f.name f := by
  have hfind : PrintFormat.ofName? f.name = some f := PrintFormat.ofName?_eq_some_iff.2 rfl
  have hnamed : Get.named settings (some f.name) = .ok (Get.new settings (some f)) := by
    rw [Get.named, hfind]
  refine ⟨hfind, PrintFormat.parse_eq_ok_iff.2 rfl, hnamed, hnamed,
    argv_of_format settings .exact f, fun key => ?_, exists_probe_of_format _,
    fun tokens a hgives hprobe => ?_⟩
  · rw [testGet, show Get.prepare settings f.name = _ from hnamed]
  have hname : a.Names (some f) := format_of_gives hgives hprobe
  refine ⟨printFormat_of_names hname, fun start hstart => ?_⟩
  -- That something was started shows that there are settings; the format is known already.
  obtain ⟨base, -, hbase, -, -⟩ := exists_of_mem_starts hstart
  refine ⟨base, hbase, ?_⟩
  rw [(probe_starts hbase hname).1 start hstart]
  exact argv_of_format _ _ f _

variable {s : String}

/-- What is not the name of a format selects none. -/
theorem refusesFormat_of_unknown (h : ∀ f : PrintFormat, f.name ≠ s) :
    RefusesFormat host settings state s := by
  have hfind : PrintFormat.ofName? s = none := PrintFormat.ofName?_of_unknown h
  have hnamed : Get.named settings (some s) = .error .unknownFormat := by rw [Get.named, hfind]
  have hprepare : Get.prepare settings s = .error .unknownFormat := hnamed
  refine ⟨hfind, PrintFormat.parse_of_unknown h, hnamed, hprepare, fun key => ?_, fun key => ?_,
    fun hplain tokens a hgives hprobe => ?_⟩
  · rw [testGet, hprepare]
  · rw [testGet, hprepare]
  have hformat : a.format = s := format_of_gives hgives hprobe
  have hunknown : ∀ format, ¬ a.Names format
    | none, hname => hplain (hformat.symm.trans hname)
    | some f, hname => h f (hname.symm.trans hformat)
  refine ⟨printFormat_of_unknown hunknown, starts_of_unknown hunknown, fun base hbase => ?_⟩
  obtain ⟨hcode, hstdout, hstderr, -⟩ := ends_of_unknown hbase hunknown
  exact ⟨hcode, hstdout, hstderr.trans (by rw [hformat]; rfl)⟩

end

/-! ## Lookups -/

/-- A text chooses one lookup on the command line, and is the sub-command that is run. -/
structure TakesOp (host : Host σ) (state : σ) (s : String) (op : Op) : Prop where
  parse : Op.parse s = .ok op
  subCommand : SubCommand.parse s = .ok op.lookup.subCommand
  accepted : ∃ a, Request.ofTokens [attached .op s] = .probe a
  commandLine : ∀ tokens a, Gives .op s tokens → Request.ofTokens tokens = .probe a →
    a.op = op ∧
      ∀ start ∈ starts host a state, ∃ base rest, a.Base host state base ∧
        start.argv = (a.effective base).program ::
          (a.effective base).commonOptions ++ encode s :: rest

/-- A text chooses no lookup, and no command line that gives it as one is accepted. -/
structure RefusesOp (s : String) : Prop where
  parse : Op.parse s = .error "Unsupported get operation"
  refused : Request.ofTokens [attached .op s] = .refused
  commandLine : ∀ tokens a, Gives .op s tokens → Request.ofTokens tokens ≠ .probe a

/-- The text that shows a lookup chooses it. -/
theorem takesOp_text (host : Host σ) (state : σ) (op : Op) : TakesOp host state op.text op := by
  refine ⟨Op.parse_eq_ok_iff.2 rfl, SubCommand.parse_eq_ok_iff.2 op.name_subCommand.symm,
    exists_probe_of_op op, fun tokens a hgives hprobe => ?_⟩
  have hop : a.op = op := by
    have hread := Op.parse_eq_ok_iff.2 (op_of_gives hgives hprobe).symm
    exact Except.ok.inj (hread.symm.trans (Op.parse_eq_ok_iff.2 rfl))
  refine ⟨hop, fun start hstart => ?_⟩
  obtain ⟨base, format, hbase, -, hargv⟩ := exists_of_mem_starts hstart
  refine ⟨base, (a.get base format).options ++ [encode a.key], hbase, ?_⟩
  rw [hargv, ← op.name_subCommand, ← hop, ← List.cons_append, ← List.append_assoc]
  rfl

/-- What shows no lookup chooses none. -/
theorem refusesOp_of_unknown {s : String} (h : ∀ op : Op, op.text ≠ s) : RefusesOp s :=
  ⟨Op.parse_of_unknown h, ofTokens_op_of_unknown h,
    fun _ a hgives hprobe => h a.op (op_of_gives hgives hprobe)⟩

/-- **All names are resolved alike.** The name of a print format selects it on every way in, and any
other text is refused on all of them before a process is started. What shows a lookup on the command
line is accepted there and is the name of the sub-command that every process is started with; every
lookup has such a text, and it is the name of its sub-command. Any other text, also the name of
another sub-command, is refused with a reason. Every reader of a name takes back what is shown, and
nothing else. -/
theorem names_resolve_alike (host : Host σ) (settings : Settings) (state : σ) (s : String) :
    (∀ f : PrintFormat, f.name = s → TakesFormat host settings state s f) ∧
    ((∀ f : PrintFormat, f.name ≠ s) → RefusesFormat host settings state s) ∧
    (∀ op : Op, op.text = s → TakesOp host state s op) ∧
    (∀ l : Lookup, l.subCommand.name = s → ∃ op : Op, op.lookup = l ∧ op.text = s) ∧
    ((∀ l : Lookup, l.subCommand.name ≠ s) → RefusesOp s) ∧
    (∀ f, PrintFormat.parse s = .ok f ↔ s = f.name) ∧
    (∀ c, SubCommand.parse s = .ok c ↔ s = c.name) ∧
    (∀ p, CachePolicy.parse s = .ok p ↔ s = p.value) ∧
    ∀ op, Op.parse s = .ok op ↔ s = op.text := by
  refine ⟨?_, refusesFormat_of_unknown host settings state, ?_, ?_, fun h => ?_,
    fun _ => PrintFormat.parse_eq_ok_iff, fun _ => SubCommand.parse_eq_ok_iff,
    fun _ => CachePolicy.parse_eq_ok_iff, fun _ => Op.parse_eq_ok_iff⟩
  · rintro f rfl
    exact takesFormat_name host settings state f
  · rintro op rfl
    exact takesOp_text host state op
  · rintro l rfl
    obtain ⟨op, rfl⟩ := Op.lookup_bijective.2 l
    exact ⟨op, rfl, op.name_subCommand.symm⟩
  · exact refusesOp_of_unknown fun op => op.name_subCommand ▸ h op.lookup

/-- Both names on one command line: the one process that is started gets the option of the one and
the other as its sub-command. -/
theorem names_resolve_alike_hexNext :
    ∃ (host : Host Unit) (a : Arguments) (start : Start) (base : Settings),
      Request.ofTokens [attached .op "getnext", attached .format "hex", encode "--show"] =
        .probe a ∧
      starts host a () = [start] ∧ a.Base host () base ∧ a.op = .next ∧
      start.argv = layout (a.effective base) .getNext [encode "-X"] [a.key] := by
  let host : Host Unit := {
    spawn := fun _ _ _ state => (.ok ⟨.code 0, [], []⟩, state)
    openFile := fun _ _ => .error .notFound
    clock := fun _ => 0 }
  have hformat := (names_resolve_alike host .default () "hex").1 .hex rfl
  have hop := (names_resolve_alike host .default () "getnext").2.2.1 .next rfl
  obtain ⟨a, hprobe, start, hstart⟩ : ∃ a,
      Request.ofTokens [attached .op "getnext", attached .format "hex", encode "--show"] =
        .probe a ∧ ∃ start, starts host a () = [start] := ⟨_, rfl, _, rfl⟩
  obtain ⟨hchosen, -⟩ := hop.commandLine _ a (.attached _) hprobe
  obtain ⟨-, hargv⟩ := hformat.commandLine _ a (.later (by decide) (.attached _)) hprobe
  obtain ⟨base, hbase, hargv⟩ := hargv start (by rw [hstart]; exact List.mem_singleton_self start)
  rw [hchosen] at hargv
  exact ⟨host, a, start, base, hprobe, hstart, hbase, hchosen, hargv⟩

end KctlProbe.Cli
