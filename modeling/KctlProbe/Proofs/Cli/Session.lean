import KctlProbe.Proofs.Cli.Layers
import KctlProbe.Proofs.Recording

/-!
# A whole run of the program

What a user relies on: which settings are in force, which exit code means what, which processes are
started and with which arguments, and what is printed. The contract is about `probe` on any host, so
about any content of the configuration file and whatever the processes do, and what is started is
read off the watched host.

The decisions are made in one order: the configuration is loaded, the format is looked up, and only
then is a process started. So each of the first two can end the program with its own exit code and
nothing started (`ends_of_failure`, `ends_of_unknown`), and everything started after them is started
for the same get (`probe_of_format`).
-/

namespace KctlProbe.Cli

variable {σ τ : Type}

/-! ## What the command line asks for -/

/-- The command line names a print format, or raw output. -/
def Arguments.Names (a : Arguments) : Option PrintFormat → Prop
  | none => a.format = "plain"
  | some format => a.format = format.name

/-- The get that the command line asks for. -/
def Arguments.get (a : Arguments) (base : Settings) (format : Option PrintFormat) : Get :=
  (Get.new (a.effective base) format).withLookup a.op.lookup

section
variable {a : Arguments}

/-- A name is looked up as what it names. -/
theorem printFormat_of_names {format : Option PrintFormat} (h : a.Names format) :
    a.printFormat = .ok format := by
  cases format with
  | none => exact if_pos h
  | some format =>
    rw [Arguments.printFormat, show a.format = format.name from h]
    cases format <;> decide

/-- A name that is neither that of raw output nor that of a format is refused. -/
theorem printFormat_of_unknown (h : ∀ format, ¬ a.Names format) :
    a.printFormat = .error .unknownFormat := by
  have hnone : PrintFormat.ofName? a.format = none := by
    rw [PrintFormat.ofName?, List.find?_eq_none]
    intro format _ hname
    exact h (some format) (beq_iff_eq.1 hname).symm
  have hplain : ¬ a.format = "plain" := h none
  rw [Arguments.printFormat, if_neg hplain, PrintFormat.parse, hnone]

end

/-! ## Watching the program -/

section
variable {watched : Host τ} {host : Host σ} {f : τ → σ} (h : Follows watched host f)
include h

/-- Only the content of the configuration file is asked for. -/
theorem settings_follows (a : Arguments) (t : τ) :
    a.settings host (f t) = a.settings watched t := by
  simp only [Arguments.settings, Settings.load, h.openFile]

/-- Showing a get on a watched host. -/
theorem showOnce_follows (command : Get) (key : String) (t : τ) :
    showOnce host command key (f t) =
      ((showOnce watched command key t).1, f (showOnce watched command key t).2) := by
  simp only [showOnce, run, h.execute, Trace.view]
  cases (execute watched (Command.argv command [key]) true t).result <;> rfl

/-- Timing a get on a watched host. -/
theorem timeGet_follows (command : Get) (key : String) (iterations : UInt32) (t : τ) :
    timeGet host command key iterations (f t) =
      ((timeGet watched command key iterations t).1,
        f (timeGet watched command key iterations t).2) := by
  simp only [timeGet, h.timeRuns, Trace.view]
  cases (timeRuns watched command [key] iterations t).result <;> rfl

/-- Watching the program does not change what it does. -/
theorem probe_follows (a : Arguments) (t : τ) :
    probe host a (f t) = ((probe watched a t).1, f (probe watched a t).2) := by
  simp only [probe, settings_follows h]
  cases a.settings watched t with
  | error e => rfl
  | ok c =>
    cases a.printFormat with
    | error e => rfl
    | ok format =>
      cases a.once
      · simp only [timeGet_follows h, Bool.false_eq_true, if_false]
      · simp only [showOnce_follows h, if_true]

end

/-- The processes that the program asks the host to start, in order. -/
def starts (host : Host σ) (a : Arguments) (state : σ) : List Start :=
  (probe host.recording a (state, [])).2.2

/-! ## The two modes -/

/-- What showing a get leaves: one process with its output kept, whose exit code is passed on, with
1 for a signal or a refused start. Only what the process wrote is printed. -/
def Shown (r : Report) (starts : List Start) : Prop :=
  ∃ s : Start, starts = [s] ∧ s.capture = true ∧
    match s.answer with
    | .ok child => r.code = child.exit.code?.getD 1 ∧ r.stdout = Utf8.lossy child.stdout
    | .error _ => r.code = 1 ∧ r.stdout = ""

/-- What timing a get leaves: as many processes as asked for, code 0 and the line about the time,
with a line about the failed runs if there are any; or processes up to the first one that is refused,
code 1 and the failure. No output is kept. -/
def Timed (a : Arguments) (r : Report) (starts : List Start) : Prop :=
  (∀ s ∈ starts, s.capture = false) ∧
    ((starts.length = a.iterations.toNat ∧ (∀ s ∈ starts, ∃ child, s.answer = .ok child) ∧
        r.code = 0 ∧ ∃ report : TimingReport, report.iterations = a.iterations ∧
          report.failures.toNat = starts.countP Start.failed ∧
          r.stdout = timingLine a.key report ∧ r.stderr = failedRunsLine report) ∨
      ∃ (done : List Start) (last : Start) (e : OsError), starts = done ++ [last] ∧
        starts.length ≤ a.iterations.toNat ∧ (∀ s ∈ done, ∃ child, s.answer = .ok child) ∧
        last.answer = .error e ∧ r.code = 1 ∧ r.stdout = "" ∧ r.stderr = failureLine (.spawn e))

section
variable (host : Host σ) {command : Get} {program : Bytes} {args : List Bytes} (state : σ)

/-- A shown get is one start, and its answer decides the exit code. -/
theorem showOnce_recording {key : String} (h : Command.argv command [key] = program :: args) :
    (∀ s ∈ (showOnce host.recording command key (state, [])).2.2, s.argv = program :: args) ∧
      Shown (showOnce host.recording command key (state, [])).1
        (showOnce host.recording command key (state, [])).2.2 := by
  obtain ⟨s, hargv, hcapture, hresult, hlist⟩ :=
    execute_recording host program args true (state, [])
  rw [List.nil_append] at hlist
  have hstarts : (showOnce host.recording command key (state, [])).2.2 = [s] := by
    rw [← hlist]
    simp only [showOnce, run, h]
    split <;> rfl
  rw [hstarts]
  refine ⟨by simpa using hargv, s, rfl, hcapture, ?_⟩
  cases hanswer : s.answer with
  | error e =>
    have houtcome : s.outcome = .error (.spawn e) := by simp [Start.outcome, hanswer]
    simp [showOnce, run, h, hresult, houtcome]
  | ok child =>
    have houtcome : s.outcome = .ok ⟨s.argv, child.exit,
        some ⟨Utf8.lossy child.stdout, Utf8.lossy child.stderr⟩⟩ := by
      simp [Start.outcome, hanswer, hcapture]
    simp [showOnce, run, h, hresult, houtcome, Outcome.code?, Outcome.stdout?]

/-- A timed get is repeated runs, and how they end decides the exit code. -/
theorem timeGet_recording {a : Arguments} (h : Command.argv command [a.key] = program :: args) :
    (∀ s ∈ (timeGet host.recording command a.key a.iterations (state, [])).2.2,
        s.argv = program :: args) ∧
      Timed a (timeGet host.recording command a.key a.iterations (state, [])).1
        (timeGet host.recording command a.key a.iterations (state, [])).2.2 := by
  obtain ⟨starts, hstarts, hlist, hend, hreport⟩ :=
    timeRuns_recording host command [a.key] a.iterations (state, []) h
  rw [List.nil_append] at hlist
  have heq : (timeGet host.recording command a.key a.iterations (state, [])).2.2 = starts := by
    rw [← hlist]
    simp only [timeGet]
    split <;> rfl
  rw [heq]
  refine ⟨fun s hs => (hstarts s hs).1, fun s hs => (hstarts s hs).2, ?_⟩
  cases hresult : (timeRuns host.recording command [a.key] a.iterations (state, [])).result with
  | error f =>
    rw [hresult] at hend
    cases hend with
    | refused done hsplit hlen hok hlast =>
      exact .inr ⟨done, _, _, hsplit, hlen, hok, hlast, by simp [timeGet, hresult]⟩
  | ok r =>
    rw [hresult] at hend
    obtain ⟨hiterations, hfailures⟩ := hreport r hresult
    cases hend with
    | finished hlen hok =>
      exact .inl ⟨hlen, hok, by simp [timeGet, hresult], r, hiterations, hfailures,
        by simp [timeGet, hresult]⟩

end

/-! ## The contract -/

/-- The program ends with a code and a line of explanation before it starts a process. -/
structure Ends (host : Host σ) (a : Arguments) (state : σ) (code : UInt8) (stderr : String) :
    Prop where
  code : (probe host a state).1.code = code
  stdout : (probe host a state).1.stdout = ""
  stderr : (probe host a state).1.stderr = stderr
  starts : starts host a state = []

/-- What the program does with the get that the command line asks for. -/
def Arguments.act (a : Arguments) (host : Host σ) (command : Get) (state : σ) : Report × σ :=
  if a.once then showOnce host command a.key state
  else timeGet host command a.key a.iterations state

section
variable {host : Host σ} {a : Arguments} {state : σ} {base : Settings}

/-- The configuration is loaded before anything else is looked at. -/
theorem ends_of_failure {f : Failure} (h : a.settings host state = .error f) :
    Ends host a state 1 (failureLine f) := by
  have hwatched : a.settings host.recording (state, []) = .error f :=
    (settings_follows (recording_follows host) a (state, [])).symm.trans h
  have hprobe : probe host a state =
      ({ code := 1, stderr := failureLine f, level := a.level }, state) := by
    simp only [probe, h]
  exact ⟨by rw [hprobe], by rw [hprobe], by rw [hprobe], by simp only [starts, probe, hwatched]⟩

/-- The print format is looked up before anything is started. -/
theorem ends_of_unknown (hbase : a.Base host state base) (h : ∀ format, ¬ a.Names format) :
    Ends host a state 2 ("Unknown print format: " ++ a.format ++ "\n") := by
  have hwatched : a.Base host.recording (state, []) base := hbase
  have hformat := printFormat_of_unknown h
  have hmessage : Failure.unknownFormat.message ++ ": " = "Unknown print format: " := rfl
  refine ⟨?_, ?_, ?_, ?_⟩
  · simp only [probe, settings_of_base hbase, hformat]
  · simp only [probe, settings_of_base hbase, hformat]
  · simp only [probe, settings_of_base hbase, hformat, hmessage]
  · simp only [starts, probe, settings_of_base hwatched, hformat]

/-- With settings and a format, the program does what the command line asks for. -/
theorem probe_of_format {format : Option PrintFormat} (hbase : a.Base host state base)
    (hformat : a.Names format) :
    ∃ log, probe host a state =
      ({ (a.act host (a.get base format) state).1 with log, level := a.level },
        (a.act host (a.get base format) state).2) := by
  simp only [probe, settings_of_base hbase, printFormat_of_names hformat]
  exact ⟨_, rfl⟩

/-- With settings and a format, everything is started for one get, and shown or timed. -/
theorem probe_starts {format : Option PrintFormat} (hbase : a.Base host state base)
    (hformat : a.Names format) :
    (∀ s ∈ starts host a state, s.argv = Command.argv (a.get base format) [a.key]) ∧
      (a.once = true → Shown (probe host a state).1 (starts host a state)) ∧
      (a.once = false → Timed a (probe host a state).1 (starts host a state)) := by
  -- The report is that of the watched run, so both are read off one run.
  have hreport : (probe host a state).1 = (probe host.recording a (state, [])).1 :=
    congrArg Prod.fst (probe_follows (recording_follows host) a (state, []))
  have hbase : a.Base host.recording (state, []) base := hbase
  obtain ⟨log, hprobe⟩ := probe_of_format hbase hformat
  rw [hreport, starts, hprobe]
  obtain ⟨program, args, hargv⟩ :
      ∃ program args, Command.argv (a.get base format) [a.key] = program :: args := ⟨_, _, rfl⟩
  rw [hargv, Arguments.act]
  cases a.once with
  | true =>
    obtain ⟨hstarts, hshown⟩ := showOnce_recording host state hargv
    exact ⟨hstarts, fun _ => hshown, nofun⟩
  | false =>
    obtain ⟨hstarts, htimed⟩ := timeGet_recording host state hargv
    exact ⟨hstarts, nofun, fun _ => htimed⟩

end

/-- **The contract of the program.** A configuration file that cannot be opened, or that gives no
settings, ends it with code 1, and after that a print format that nobody knows ends it with code 2,
both with nothing started and nothing printed but the reason. Otherwise every process is started for
the get that the command line asks for, and the program shows one run or times as many as asked for.
The file gives settings if and only if its members are acceptable, and in the settings in force every
field is what the command line gives for it, else what the member that names it says, else its
default. -/
theorem probe_contract (host : Host σ) (a : Arguments) (state : σ) :
    (∀ path e, a.config = some path →
      host.openFile (Utf8.encode path) state = .error e → Ends host a state 1 "Io Error\n") ∧
    (∀ path content, a.config = some path →
      host.openFile (Utf8.encode path) state = .ok content →
      (∀ base, ¬ a.Base host state base) → Ends host a state 1 "Json parsing error\n") ∧
    (∀ base, a.Base host state base → (∀ format, ¬ a.Names format) →
      Ends host a state 2 ("Unknown print format: " ++ a.format ++ "\n")) ∧
    (∀ base format, a.Base host state base → a.Names format →
      (∀ s ∈ starts host a state, s.argv = Command.argv (a.get base format) [a.key]) ∧
      (a.once = true → Shown (probe host a state).1 (starts host a state)) ∧
      (a.once = false → Timed a (probe host a state).1 (starts host a state))) ∧
    ∀ es, a.Configured host state es →
      ((∃ base, a.Base host state base) ↔ Settings.Acceptable es) ∧
      ∀ base, a.Base host state base → a.InForce es (a.effective base) := by
  refine ⟨fun path e hconfig hopen => ends_of_failure (settings_of_unopened hconfig hopen),
    fun path content hconfig hopen hnone => ?_, fun base => ends_of_unknown,
    fun base format => probe_starts, fun es => inForce_of_configured⟩
  obtain ⟨fault, hfault⟩ := settings_of_unread hconfig hopen hnone
  exact ends_of_failure hfault

/-- An object that gives the host, the port and one of the options. -/
def remote : Settings.Document where
  before := []
  inside := []
  entries := [
    Json.compact "host" (.string (Json.spell "db")),
    Json.compact "port" (.number ⟨false, .zero, none, none⟩),
    Json.compact "yes" (.boolean true)]
  after := []

example : remote.bytes = Utf8.encode "\x7b\"host\":\"db\",\"port\":0,\"yes\":true\x7d" := by decide

/-- A host with this file and no other, on which every process exits with code 3. -/
def remoteHost : Host Unit where
  spawn _ _ _ state := (.ok ⟨.code 3, [], []⟩, state)
  openFile path _ :=
    if path = Utf8.encode "c" then .ok (.ofBytes remote.bytes) else .error .notFound
  clock _ := 0

/-- A command line that names the file and gives another port. -/
def remoteArguments : Arguments where
  key := "k"
  config := some "c"
  program := none
  host := none
  port := some 2
  format := "chars"
  op := .get
  iterations := 1000
  once := true
  verbose := false

/-- The host and the option come from the file, the port from the command line, and everything else
is the default. The exit code is that of the process. -/
theorem probe_contract_remote :
    Request.ofTokens (["--config=c", "--port=2", "--show", "k"].map Utf8.encode) =
        .probe remoteArguments ∧
      remoteArguments.Configured remoteHost () remote.entries ∧
      (∀ s ∈ starts remoteHost remoteArguments (), s.argv =
        ["kctl", "-h", "db", "-p", "2", "-y", "get", "-A", "k"].map Utf8.encode) ∧
      (starts remoteHost remoteArguments ()).length = 1 ∧
      (probe remoteHost remoteArguments ()).1.code = 3 := by
  obtain ⟨-, -, -, hruns, hlayers⟩ := probe_contract remoteHost remoteArguments ()
  have hconfigured : remoteArguments.Configured remoteHost () remote.entries :=
    ⟨remote.bytes, by simp [remoteHost], .object remote⟩
  obtain ⟨hloads, hforce⟩ := hlayers remote.entries hconfigured
  obtain ⟨base, hbase⟩ := hloads.2 ⟨by decide, by decide⟩
  have heffective : remoteArguments.effective base =
      { Settings.default with host := "db", port := 2, yes := true } := by
    obtain ⟨hgiven, hmember, hdefault⟩ := hforce base hbase
    refine Settings.ext_value fun field => ?_
    cases field with
    | port => exact hgiven .port _ rfl
    | host => exact (Option.some.inj (hmember .host rfl _ (.head _) (by decide))).symm
    | yes =>
      exact (Option.some.inj (hmember .yes rfl _ (.tail _ (.tail _ (.head _))) (by decide))).symm
    | _ => exact hdefault _ rfl (by decide)
  have hformat : remoteArguments.Names (some .chars) := rfl
  obtain ⟨hargv, hshown, -⟩ := hruns base (some .chars) hbase hformat
  obtain ⟨start, hstart, -⟩ := hshown rfl
  obtain ⟨log, hprobe⟩ := probe_of_format hbase hformat
  refine ⟨by decide, hconfigured, fun s hs => ?_, by rw [hstart]; rfl, ?_⟩
  · rw [hargv s hs, Arguments.get, heffective]
    decide
  · rw [hprobe, Arguments.get, heffective]
    rfl

end KctlProbe.Cli
