import KctlProbe.Proofs.Recording

/-!
# Timing accounts for every run

The loop of repeated runs makes the starts that the host would answer up to the first refused one
(`repeatRuns_eq`). What timing comes to is read off these starts.

If no start is refused, all of them are made and there is a report, whose two numbers are the number
of starts and the number of those that failed. Otherwise the starts before the first refused one and
that one are made, and its refusal is the result. A command without a program has nothing to start,
so timing it fails as soon as there is a run to be made (`timeRuns_of_nil`).
-/

namespace KctlProbe

variable {σ : Type}

/-! ## The log -/

namespace Event

/-- Whether an event announces a start. -/
def isSpawning : Event → Bool
  | .spawning _ _ => true
  | _ => false

/-- Whether an event reports an exit. -/
def isExited : Event → Bool
  | .exited _ => true
  | _ => false

/-- Whether an event reports a timing. -/
def isTimed : Event → Bool
  | .timed _ _ _ _ => true
  | _ => false

end Event

/-- The numbers of starts, exits and timings in a log. -/
def Counts (log : List Event) (spawnings exits timings : Nat) : Prop :=
  log.countP Event.isSpawning = spawnings ∧ log.countP Event.isExited = exits ∧
    log.countP Event.isTimed = timings

/-- What two logs count adds up. -/
theorem Counts.append {log log' : List Event} {a b c a' b' c' : Nat} (h : Counts log a b c)
    (h' : Counts log' a' b' c') : Counts (log ++ log') (a + a') (b + b') (c + c') := by
  obtain ⟨ha, hb, hc⟩ := h
  obtain ⟨ha', hb', hc'⟩ := h'
  exact ⟨by rw [List.countP_append, ha, ha'], by rw [List.countP_append, hb, hb'],
    by rw [List.countP_append, hc, hc']⟩

/-- Starts that are not refused have an event of each kind. -/
theorem counts_flatMap_events {starts : List Start}
    (h : ∀ s ∈ starts, ∃ child, s.answer = .ok child) :
    Counts (starts.flatMap Start.events) starts.length starts.length 0 := by
  induction starts with
  | nil => exact ⟨rfl, rfl, rfl⟩
  | cons s starts ih =>
    obtain ⟨child, hs⟩ := h s (by simp)
    have hone : Counts s.events 1 1 0 := by
      rw [Start.events, hs]
      exact ⟨rfl, rfl, rfl⟩
    have := hone.append (ih fun s hs => h s (by simp [hs]))
    rwa [Nat.add_comm 1] at this

/-! ## Timing -/

/-- The starts that timing a command asks a host for, with the answers. -/
def timeStarts {α : Type} [Command α] (host : Host σ) (command : α) (positional : List String)
    (iterations : UInt32) (state : σ) : List Start :=
  (timeRuns host.recording command positional iterations (state, [])).host.2

/-- What timing comes to if every start was made: a report of their number and of the number of
those that did not exit with code 0, and a log that has an announcement and an exit of each and then
the two numbers. -/
structure Reported (t : Trace σ TimingReport) (subCommand : SubCommand) (asked : UInt32)
    (starts : List Start) (r : TimingReport) : Prop where
  result : t.result = .ok r
  iterations : r.iterations = asked
  number : starts.length = asked.toNat
  failures : r.failures.toNat = starts.countP Start.failed
  failures_le : r.failures ≤ asked
  log : t.log = starts.flatMap Start.events ++
    [.timed subCommand asked r.failures r.averageMicros]
  counts : Counts t.log asked.toNat asked.toNat 1

/-- What timing comes to if a start was refused after those that are `done`: the refusal, and a log
that has an announcement and an exit of each of these and then one more announcement. -/
structure Stopped (t : Trace σ TimingReport) (argv : List Bytes) (done : List Start)
    (e : OsError) : Prop where
  result : t.result = .error (.spawn e)
  log : t.log = done.flatMap Start.events ++ [.spawning argv false]
  counts : Counts t.log (done.length + 1) done.length 0

section
variable {α : Type} [Command α] (host : Host σ) {command : α} {positional : List String}
  {program : Bytes} {args : List Bytes} {iterations : UInt32} (state : σ)

/-- What timing comes to is what is seen of it on the watched host. -/
theorem timeRuns_eq_view :
    timeRuns host command positional iterations state =
      (timeRuns host.recording command positional iterations (state, [])).view Prod.fst :=
  (recording_follows host).timeRuns command positional iterations (state, [])

/-- The starts that are made are those of the loop. -/
theorem timeStarts_eq_madeOf (hargv : Command.argv command positional = program :: args) :
    timeStarts host command positional iterations state =
      madeOf (host.attempts program args iterations.toNat state) := by
  obtain ⟨next, hruns⟩ := repeatRuns_eq host program args iterations.toNat
    { failures := 0, log := [], host := (state, []) }
  simp only [timeStarts, timeRuns, hargv, hruns]
  cases endOf (host.attempts program args iterations.toNat state) <;> rfl

/-- If no start is refused, all are made and reported. -/
theorem reported_of_started (hargv : Command.argv command positional = program :: args)
    (h : ∀ s ∈ host.attempts program args iterations.toNat state, ∃ child, s.answer = .ok child) :
    ∃ r, Reported (timeRuns host command positional iterations state) (Command.subCommand command)
      iterations (host.attempts program args iterations.toNat state) r := by
  obtain ⟨next, hruns⟩ := repeatRuns_eq host program args iterations.toNat
    { failures := 0, log := [], host := (state, []) }
  rw [endOf_of_started h, madeOf_of_started h] at hruns
  rw [timeRuns_eq_view]
  simp only [timeRuns, hargv, hruns, Trace.view]
  -- The count fits 32 bits, since it is at most the number of starts.
  have hcount := countP_attempts_le host program args Start.failed iterations.toNat state
  have hsmall : (host.attempts program args iterations.toNat state).countP Start.failed <
      UInt32.size := Nat.lt_of_le_of_lt hcount iterations.toNat_lt
  have hfailures : (0 + UInt32.ofNat
      ((host.attempts program args iterations.toNat state).countP Start.failed)).toNat =
        (host.attempts program args iterations.toNat state).countP Start.failed := by
    rw [UInt32.zero_add, UInt32.toNat_ofNat_of_lt' hsmall]
  have hcounts : ∀ failures micros,
      Counts ((host.attempts program args iterations.toNat state).flatMap Start.events ++
        [.timed (Command.subCommand command) iterations failures micros])
        iterations.toNat iterations.toNat 1 := by
    intro failures micros
    have htimed : Counts [.timed (Command.subCommand command) iterations failures micros] 0 0 1 :=
      ⟨rfl, rfl, rfl⟩
    have := (counts_flatMap_events h).append htimed
    rwa [length_attempts] at this
  refine ⟨_, rfl, rfl, length_attempts .., hfailures, ?_, by simp, ?_⟩
  · rw [UInt32.le_iff_toNat_le, hfailures]
    exact hcount
  · simpa using hcounts _ _

/-- If a start is refused, it is the last one that is made, and its refusal is the result. -/
theorem stopped_of_refused (hargv : Command.argv command positional = program :: args)
    {done later : List Start} {last : Start} {e : OsError}
    (hsplit : host.attempts program args iterations.toNat state = done ++ last :: later)
    (h : ∀ s ∈ done, ∃ child, s.answer = .ok child) (hlast : last.answer = .error e) :
    Stopped (timeRuns host command positional iterations state) (program :: args) done e := by
  have hmem : last ∈ host.attempts program args iterations.toNat state := by simp [hsplit]
  have hevents : last.events = [.spawning (program :: args) false] := by
    obtain ⟨hlastArgv, hcapture⟩ := argv_of_mem_attempts host program args hmem
    rw [Start.events, hlast, hlastArgv, hcapture]
  have hspawning : Counts [.spawning (program :: args) false] 1 0 0 := ⟨rfl, rfl, rfl⟩
  obtain ⟨next, hruns⟩ := repeatRuns_eq host program args iterations.toNat
    { failures := 0, log := [], host := (state, []) }
  rw [hsplit, endOf_of_refused h hlast, madeOf_of_refused h hlast] at hruns
  have hlog : ((madeOf (done ++ last :: later)).flatMap Start.events).reverse.reverse =
      done.flatMap Start.events ++ [.spawning (program :: args) false] := by
    simp [madeOf_of_refused h hlast, hevents]
  rw [timeRuns_eq_view]
  simp only [timeRuns, hargv, hruns, Trace.view, List.append_nil]
  rw [madeOf_of_refused h hlast] at hlog
  exact ⟨rfl, hlog, hlog ▸ (counts_flatMap_events h).append hspawning⟩

/-- Without a run to be made, the report says so. -/
theorem reported_zero :
    ∃ r, Reported (timeRuns host command positional 0 state) (Command.subCommand command) 0 [] r :=
  ⟨_, rfl, rfl, rfl, rfl, UInt32.le_refl 0, rfl, rfl, rfl, rfl⟩

/-- Without a program, the first run that is to be made fails before anything happens. -/
theorem timeRuns_of_nil (hargv : Command.argv command positional = []) (h : iterations ≠ 0) :
    timeStarts host command positional iterations state = [] ∧
      (timeRuns host command positional iterations state).result = .error .invalidArgument ∧
      (timeRuns host command positional iterations state).log = [] := by
  obtain ⟨n, hn⟩ : ∃ n, iterations.toNat = n + 1 :=
    Nat.exists_eq_succ_of_ne_zero fun h0 => h (UInt32.toNat_inj.1 h0)
  simp [timeStarts, timeRuns, hargv, hn, repeatRuns, execute]

end

/-- **Timing accounts for every run.** For a command of any type and whatever the host answers to
start after start of its process: if it refuses none of the first `iterations`, these are the starts
that are made, and they are reported; otherwise the starts up to the first refused one are made, and
the refusal is the result. Every start has the vector of the command and is made without capture. A
command whose vector is empty has nothing to start, so it fails as soon as there is a run to be
made. -/
theorem timeRuns_accounts {α : Type} [Command α] (host : Host σ) (command : α)
    (positional : List String) (iterations : UInt32) (state : σ) :
    (∀ program args, Command.argv command positional = program :: args →
      (∀ s ∈ timeStarts host command positional iterations state,
        s.argv = program :: args ∧ s.capture = false) ∧
      ((∀ s ∈ host.attempts program args iterations.toNat state, ∃ child, s.answer = .ok child) →
        timeStarts host command positional iterations state =
          host.attempts program args iterations.toNat state ∧
        ∃ r, Reported (timeRuns host command positional iterations state)
          (Command.subCommand command) iterations
          (host.attempts program args iterations.toNat state) r) ∧
      ∀ done last later e,
        host.attempts program args iterations.toNat state = done ++ last :: later →
        (∀ s ∈ done, ∃ child, s.answer = .ok child) → last.answer = .error e →
        timeStarts host command positional iterations state = done ++ [last] ∧
        Stopped (timeRuns host command positional iterations state) (program :: args) done e) ∧
    (Command.argv command positional = [] →
      timeStarts host command positional iterations state = [] ∧
      (iterations = 0 → ∃ r, Reported (timeRuns host command positional iterations state)
        (Command.subCommand command) iterations [] r) ∧
      (iterations ≠ 0 →
        (timeRuns host command positional iterations state).result = .error .invalidArgument ∧
        (timeRuns host command positional iterations state).log = [])) := by
  refine ⟨fun program args hargv => ?_, fun hargv => ⟨?_, ?_, fun h => ?_⟩⟩
  · have hstarts : timeStarts host command positional iterations state =
        madeOf (host.attempts program args iterations.toNat state) :=
      timeStarts_eq_madeOf host state hargv
    refine ⟨fun s hs => ?_, fun hok => ⟨?_, reported_of_started host state hargv hok⟩, ?_⟩
    · exact argv_of_mem_attempts host program args (mem_of_mem_madeOf (hstarts ▸ hs))
    · rw [hstarts, madeOf_of_started hok]
    · intro done last later e hsplit hok hlast
      refine ⟨?_, stopped_of_refused host state hargv hsplit hok hlast⟩
      rw [hstarts, hsplit, madeOf_of_refused hok hlast]
  · by_cases h : iterations = 0
    · rw [h]
      rfl
    · exact (timeRuns_of_nil host state hargv h).1
  · rintro rfl
    exact reported_zero host state
  · exact (timeRuns_of_nil host state hargv h).2

/-- A host whose first process exits with code 1, whose second one is killed, and which then refuses
to start anything. -/
def failingHost : Host Nat where
  spawn _ _ _ n :=
    (match n with
      | 0 => .ok ⟨.code 1, [], []⟩
      | 1 => .ok ⟨.signal 9, [], []⟩
      | _ => .error .permissionDenied, n + 1)
  openFile _ _ := .error .notFound
  clock n := n

/-- A command that consists of its argument vector, whatever the positional arguments are. -/
structure Verbatim where
  argv : List Bytes

instance : Command Verbatim where
  settings _ := .default
  subCommand _ := .get
  argv c _ := c.argv

/-- Two failed runs are reported if no more are asked for; of five, the third is refused. -/
theorem timeRuns_accounts_thirdRefused :
    (∃ r, (timeRuns failingHost (Verbatim.mk [[0x6B]]) [] 2 0).result = .ok r ∧
      r.failures.toNat = 2) ∧
    (timeRuns failingHost (Verbatim.mk [[0x6B]]) [] 5 0).result =
      .error (.spawn .permissionDenied) ∧
    Counts (timeRuns failingHost (Verbatim.mk [[0x6B]]) [] 5 0).log 3 2 0 := by
  let code : Start := ⟨[0x6B], [], false, .ok ⟨.code 1, [], []⟩⟩
  let killed : Start := ⟨[0x6B], [], false, .ok ⟨.signal 9, [], []⟩⟩
  let refused : Start := ⟨[0x6B], [], false, .error .permissionDenied⟩
  have hstarted : ∀ s ∈ [code, killed], ∃ child, s.answer = .ok child := by
    simp [code, killed]
  obtain ⟨-, htwo, -⟩ := (timeRuns_accounts failingHost (Verbatim.mk [[0x6B]]) [] 2 0).1 _ _ rfl
  obtain ⟨-, -, hfive⟩ := (timeRuns_accounts failingHost (Verbatim.mk [[0x6B]]) [] 5 0).1 _ _ rfl
  obtain ⟨-, r, hr⟩ := htwo hstarted
  obtain ⟨-, hstopped⟩ := hfive [code, killed] refused [refused, refused] _ rfl hstarted rfl
  exact ⟨⟨r, hr.result, hr.failures⟩, hstopped.result, hstopped.counts⟩

/-- A host that would start every process once does not get to start a command with no vector, and
one run of it ends without a report. -/
theorem timeRuns_noVector :
    (∀ program args, ∃ child, (failingHost.spawn program args false 0).1 = .ok child) ∧
      timeStarts failingHost (Verbatim.mk []) [] 1 0 = [] ∧
      (timeStarts failingHost (Verbatim.mk []) [] 1 0).length ≠ (1 : UInt32).toNat ∧
      (timeRuns failingHost (Verbatim.mk []) [] 1 0).result = .error .invalidArgument := by
  have hargv : Command.argv (Verbatim.mk []) [] = [] := rfl
  have hone : (1 : UInt32) ≠ 0 := by decide
  obtain ⟨hstarts, hresult, -⟩ := timeRuns_of_nil failingHost 0 hargv hone
  exact ⟨fun _ _ => ⟨_, rfl⟩, hstarts, by simp [hstarts], hresult⟩

end KctlProbe
