import KctlProbe.Proofs.Recording

/-!
# What a run reports

A run asks the host once for the process of its argument vector, or not at all if the vector is
empty, and passes the answer on: a refusal as a failure, and every end of the process, also a death
by a signal, as an outcome (`run_of_cons`, `records_of_answer`). Capturing decides nothing but
whether the outcome holds the text that the process wrote. So two runs that differ in this alone
report the same (`alike_of_streams`), as long as the operating system refuses the process wherever
its output goes (`Host.RefusesAlike`) and the process does not mind where it goes
(`Host.ExitsAlike`).
-/

namespace KctlProbe

variable {σ : Type}

/-- The starts that a run asks a host for, with the answers. -/
def runStarts {α : Type} [Command α] (host : Host σ) (command : α) (positional : List String)
    (capture : Bool) (state : σ) : List Start :=
  (run host.recording command positional capture (state, [])).host.2

section
variable (host : Host σ) (program : Bytes) (args : List Bytes) (state : σ)

/-- A start is refused with the same error wherever the output is to go. -/
def Host.RefusesAlike : Prop :=
  ∀ e, (host.spawn program args true state).1 = .error e ↔
    (host.spawn program args false state).1 = .error e

/-- A process that is started ends in the same way wherever its output goes. -/
def Host.ExitsAlike : Prop :=
  ∀ kept discarded, (host.spawn program args true state).1 = .ok kept →
    (host.spawn program args false state).1 = .ok discarded → kept.exit = discarded.exit

end

/-- What an outcome says about the process of an argument vector. -/
structure Outcome.Records (o : Outcome) (argv : List Bytes) (capture : Bool) (child : Child) :
    Prop where
  argv : o.argv = argv
  code : ∀ n, o.code? = some n ↔ child.exit = .code n
  killed : o.code? = none ↔ ∃ n, child.exit = .signal n
  success : o.success = true ↔ child.exit = .code 0
  stdout : o.stdout? = if capture then some (Utf8.lossy child.stdout) else none
  stderr : o.stderr? = if capture then some (Utf8.lossy child.stderr) else none

/-- Two runs failed in the same way, or ended in the same way. -/
def Alike : Except Failure Outcome → Except Failure Outcome → Prop
  | .error f, .error g => f.kind = g.kind ∧ f.osError? = g.osError?
  | .ok o, .ok p => o.argv = p.argv ∧ o.code? = p.code? ∧ o.success = p.success
  | _, _ => False

/-! ## One start and its answer -/

section
variable {program : Bytes} {args : List Bytes} {capture : Bool}

/-- A refusal is passed on. -/
theorem outcome_of_error {e : OsError} :
    (Start.mk program args capture (.error e)).outcome = .error (.spawn e) := rfl

/-- Every end of a process is an outcome. -/
theorem records_of_answer (program : Bytes) (args : List Bytes) (capture : Bool) (child : Child) :
    ∃ o, (Start.mk program args capture (.ok child)).outcome = .ok o ∧
      o.Records (program :: args) capture child := by
  refine ⟨_, rfl, ?_⟩
  obtain ⟨exit, stdout, stderr⟩ := child
  refine ⟨rfl, fun n => ?_, ?_, ?_, ?_, ?_⟩
  · cases exit <;> simp [Outcome.code?, Exit.code?]
  · cases exit <;> simp [Outcome.code?, Exit.code?]
  · cases exit <;> simp [Outcome.success, Exit.success]
  · cases capture <;> rfl
  · cases capture <;> rfl

/-- Answers that refuse alike, and agree on how a process ends, make outcomes that are alike. -/
theorem alike_of_answers {a b : Except OsError Child} (hrefuses : ∀ e, a = .error e ↔ b = .error e)
    (hexits : ∀ c d, a = .ok c → b = .ok d → c.exit = d.exit) :
    Alike (Start.mk program args true a).outcome (Start.mk program args false b).outcome := by
  cases a with
  | error e =>
    rw [(hrefuses e).1 rfl]
    exact ⟨rfl, rfl⟩
  | ok c =>
    cases b with
    | error e => cases (hrefuses e).2 rfl
    | ok d =>
      have hexit := hexits c d rfl rfl
      exact ⟨rfl, congrArg Exit.code? hexit, congrArg Exit.success hexit⟩

end

/-! ## Runs of a command -/

section
variable {α : Type} [Command α] (host : Host σ) {command : α} {positional : List String}
  (capture : Bool) (state : σ)

/-- Without a program nothing is started. -/
theorem run_of_nil (h : Command.argv command positional = []) :
    runStarts host command positional capture state = [] ∧
      (run host command positional capture state).result = .error .invalidArgument := by
  simp only [runStarts, run, h, execute, and_self]

/-- With a program there is one start, and the result is what its answer comes to. -/
theorem run_of_cons {program : Bytes} {args : List Bytes}
    (h : Command.argv command positional = program :: args) :
    runStarts host command positional capture state =
        [⟨program, args, capture, (host.spawn program args capture state).1⟩] ∧
      (run host command positional capture state).result =
        (Start.mk program args capture (host.spawn program args capture state).1).outcome := by
  rcases hspawn : host.spawn program args capture state with ⟨answer, next⟩
  cases answer <;>
    simp [runStarts, run, h, execute, Host.recording, Start.outcome, Start.argv, hspawn]

/-- A run fails exactly if there is nothing to start or the start is refused. -/
theorem run_fails_iff :
    (∃ f, (run host command positional capture state).result = .error f) ↔
      Command.argv command positional = [] ∨
        ∃ s ∈ runStarts host command positional capture state, ∃ e, s.answer = .error e := by
  cases hargv : Command.argv command positional with
  | nil =>
    obtain ⟨-, hresult⟩ := run_of_nil host capture state hargv
    exact iff_of_true ⟨_, hresult⟩ (.inl rfl)
  | cons program args =>
    obtain ⟨hstarts, hresult⟩ := run_of_cons host capture state hargv
    rw [hstarts, hresult]
    simp only [List.mem_singleton, exists_eq_left, reduceCtorEq, false_or]
    cases (host.spawn program args capture state).1 with
    | error e => exact iff_of_true ⟨_, outcome_of_error⟩ ⟨e, rfl⟩
    | ok child =>
      obtain ⟨o, ho, -⟩ := records_of_answer program args capture child
      rw [ho]
      exact iff_of_false nofun nofun

/-- A zero byte in the vector is refused as input that is not valid. -/
theorem run_of_zero (h : ∃ token ∈ Command.argv command positional, 0 ∈ token) :
    (run host.guarded command positional capture state).result =
      .error (.spawn .invalidInput) := by
  cases hargv : Command.argv command positional with
  | nil =>
    obtain ⟨token, hmem, -⟩ := h
    rw [hargv] at hmem
    cases hmem
  | cons program args =>
    have hzero : (program :: args).any (0 ∈ ·) = true := by
      rw [hargv] at h
      simpa using h
    rw [(run_of_cons host.guarded capture state hargv).2, Host.guarded]
    simp only [hzero, if_true, outcome_of_error]

/-- Capturing does not change how a run ends if it changes neither whether the process is refused
nor how it ends. -/
theorem alike_of_streams
    (hrefuses : ∀ program args, Command.argv command positional = program :: args →
      host.RefusesAlike program args state)
    (hexits : ∀ program args, Command.argv command positional = program :: args →
      host.ExitsAlike program args state) :
    Alike (run host command positional true state).result
      (run host command positional false state).result := by
  cases hargv : Command.argv command positional with
  | nil =>
    rw [(run_of_nil host true state hargv).2, (run_of_nil host false state hargv).2]
    exact ⟨rfl, rfl⟩
  | cons program args =>
    rw [(run_of_cons host true state hargv).2, (run_of_cons host false state hargv).2]
    exact alike_of_answers (hrefuses program args hargv) (hexits program args hargv)

end

/-- **A run reports what the operating system reports.** For a command of any type, whatever its
argument vector is: without a program nothing is started, and otherwise one process is asked for,
with the rest of the vector as its arguments. A refusal is the failure, also that of a zero byte in
the vector; every end of the process is an outcome with the whole vector, and with what the process
wrote exactly if it was captured. Two runs that differ in capturing alone are alike, if the process
is refused alike and ends alike. -/
theorem run_reports {α : Type} [Command α] (host : Host σ) (command : α)
    (positional : List String) (state : σ) :
    (∀ capture, Command.argv command positional = [] →
      runStarts host command positional capture state = [] ∧
        (run host command positional capture state).result = .error .invalidArgument) ∧
    (∀ capture program args, Command.argv command positional = program :: args →
      runStarts host command positional capture state =
        [⟨program, args, capture, (host.spawn program args capture state).1⟩] ∧
      (∀ e, (host.spawn program args capture state).1 = .error e →
        (run host command positional capture state).result = .error (.spawn e)) ∧
      ∀ child, (host.spawn program args capture state).1 = .ok child →
        ∃ o, (run host command positional capture state).result = .ok o ∧
          o.Records (program :: args) capture child) ∧
    (∀ capture, (∃ f, (run host command positional capture state).result = .error f) ↔
      Command.argv command positional = [] ∨
        ∃ s ∈ runStarts host command positional capture state, ∃ e, s.answer = .error e) ∧
    (∀ capture, (∃ token ∈ Command.argv command positional, 0 ∈ token) →
      (run host.guarded command positional capture state).result =
        .error (.spawn .invalidInput)) ∧
    ((∀ program args, Command.argv command positional = program :: args →
        host.RefusesAlike program args state) →
      (∀ program args, Command.argv command positional = program :: args →
        host.ExitsAlike program args state) →
      Alike (run host command positional true state).result
        (run host command positional false state).result) := by
  refine ⟨fun capture => run_of_nil host capture state, fun capture program args hargv => ?_,
    fun capture => run_fails_iff host capture state,
    fun capture => run_of_zero host capture state, alike_of_streams host state⟩
  obtain ⟨hstarts, hresult⟩ := run_of_cons host capture state hargv
  refine ⟨hstarts, fun e he => ?_, fun child hchild => ?_⟩
  · rw [hresult, he, outcome_of_error]
  · rw [hresult, hchild]
    exact records_of_answer program args capture child

/-- A process that is killed wherever its output goes: a result both times. -/
theorem run_reports_killed :
    ∃ (host : Host Unit) (kept discarded : Outcome),
      (run host (Get.new .default none) ["k"] true ()).result = .ok kept ∧
      (run host (Get.new .default none) ["k"] false ()).result = .ok discarded ∧
      kept.code? = none ∧ kept.stdout? = some "k" ∧ discarded.stdout? = none ∧
      Alike (.ok kept) (.ok discarded) := by
  let host : Host Unit := {
    spawn := fun _ _ capture state =>
      (.ok ⟨.signal 9, if capture then Utf8.encode "k" else [], []⟩, state)
    openFile := fun _ _ => .error .notFound
    clock := fun _ => 0 }
  obtain ⟨-, hstart, -, -, halike⟩ := run_reports host (Get.new .default none) ["k"] ()
  obtain ⟨-, -, hkept⟩ := hstart true _ _ rfl
  obtain ⟨-, -, hdiscarded⟩ := hstart false _ _ rfl
  obtain ⟨kept, hkept, krecords⟩ := hkept _ rfl
  obtain ⟨discarded, hdiscarded, drecords⟩ := hdiscarded _ rfl
  have hsame := halike (fun _ _ _ _ => iff_of_false nofun nofun) fun _ _ _ _ _ hc hd => by
    rw [← Except.ok.inj hc, ← Except.ok.inj hd]
  rw [hkept, hdiscarded] at hsame
  exact ⟨host, kept, discarded, hkept, hdiscarded, krecords.killed.2 ⟨9, rfl⟩, krecords.stdout,
    drecords.stdout, hsame⟩

end KctlProbe
