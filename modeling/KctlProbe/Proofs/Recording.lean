import KctlProbe.Timing
import Mathlib.Tactic.Common

/-!
# Watching the operating system

Which processes a program starts is seen by its operating system, not by what the program says
about itself. `Host.recording` is a host that does what a given host does and keeps a list of the
starts that it was asked for, with the answers that it gave. It is a host like any other, so every
operation can be run on it, and the list can be read off its state.

Watching changes nothing: the operations on the watched host and on the host itself give the same
results (`Follows.execute`, `Follows.repeatRuns`, `Follows.timeRuns`).

What one run adds to the list is one start, whose answer decides the outcome (`execute_recording_eq`).
`Host.attempts` is what a host would answer to start after start of one process if nobody stopped
asking. Repeated runs make these starts up to the first one that is refused (`madeOf`), and whether
there is one decides how they end (`endOf`). That is the whole loop: its result, its count of the
runs that failed, its log and what it asked the host for are read off the same list
(`repeatRuns_eq`), and what timing adds to the list follows from it (`timeRuns_recording`).
-/

namespace KctlProbe

variable {σ τ : Type}

/-- A request to start a process, and the answer to it. -/
structure Start where
  program : Bytes
  args : List Bytes
  capture : Bool
  answer : Except OsError Child

namespace Start

/-- The argument vector that a process was to be started with. -/
def argv (s : Start) : List Bytes :=
  s.program :: s.args

/-- Whether the process was started and ended in another way than with code 0. -/
def failed (s : Start) : Bool :=
  match s.answer with
  | .ok child => !child.exit.success
  | .error _ => false

/-- What a run with this answer comes to. -/
def outcome (s : Start) : Except Failure Outcome :=
  match s.answer with
  | .error e => .error (.spawn e)
  | .ok child => .ok {
      argv := s.argv
      exit := child.exit
      output :=
        if s.capture then some ⟨Utf8.lossy child.stdout, Utf8.lossy child.stderr⟩ else none }

/-- The events of a start: it is announced, and its exit is reported if it was not refused. -/
def events (s : Start) : List Event :=
  .spawning s.argv s.capture ::
    match s.answer with
    | .ok child => [.exited child.exit]
    | .error _ => []

end Start

/-- A host that does what `host` does and lists the starts that it was asked for. -/
def Host.recording (host : Host σ) : Host (σ × List Start) where
  spawn program args capture state :=
    let (answer, next) := host.spawn program args capture state.1
    (answer, next, state.2 ++ [⟨program, args, capture, answer⟩])
  openFile path state := host.openFile path state.1
  clock state := host.clock state.1

/-! ## Watching changes nothing -/

/-- `watched` does what `host` does, in states of which `host` sees only a part. -/
structure Follows (watched : Host τ) (host : Host σ) (view : τ → σ) : Prop where
  spawn : ∀ program args capture t, host.spawn program args capture (view t) =
    ((watched.spawn program args capture t).1, view (watched.spawn program args capture t).2)
  openFile : ∀ path t, host.openFile path (view t) = watched.openFile path t
  clock : ∀ t, host.clock (view t) = watched.clock t

/-- The host that keeps the list does what the host does. -/
theorem recording_follows (host : Host σ) : Follows host.recording host Prod.fst where
  spawn _ _ _ _ := rfl
  openFile _ _ := rfl
  clock _ := rfl

/-- What is seen of an operation on a watched host. -/
def Trace.view {α : Type} (f : τ → σ) (t : Trace τ α) : Trace σ α :=
  { result := t.result, log := t.log, host := f t.host }

/-- What is seen of repeated runs on a watched host. -/
def Progress.view (f : τ → σ) (p : Progress τ) : Progress σ :=
  { failures := p.failures, log := p.log, host := f p.host }

section
variable {watched : Host τ} {host : Host σ} {f : τ → σ} (h : Follows watched host f)
include h

/-- One run on a watched host. -/
theorem Follows.execute (argv : List Bytes) (capture : Bool) (t : τ) :
    KctlProbe.execute host argv capture (f t) =
      (KctlProbe.execute watched argv capture t).view f := by
  cases argv with
  | nil => rfl
  | cons program args =>
    simp only [KctlProbe.execute, h.spawn]
    rcases watched.spawn program args capture t with ⟨answer, next⟩
    cases answer <;> rfl

/-- Repeated runs on a watched host. -/
theorem Follows.repeatRuns (argv : List Bytes) (n : Nat) (p : Progress τ) :
    KctlProbe.repeatRuns host argv n (p.view f) =
      ((KctlProbe.repeatRuns watched argv n p).1,
        (KctlProbe.repeatRuns watched argv n p).2.view f) := by
  induction n generalizing p with
  | zero => rfl
  | succ n ih =>
    have hrun := h.execute argv false p.host
    simp only [KctlProbe.repeatRuns, Progress.view] at ih ⊢
    rw [hrun]
    simp only [Trace.view]
    cases (KctlProbe.execute watched argv false p.host).result with
    | error e => rfl
    | ok o =>
      exact ih {
        failures := if o.success then p.failures else p.failures + 1
        log := (KctlProbe.execute watched argv false p.host).log.reverse ++ p.log
        host := (KctlProbe.execute watched argv false p.host).host }

/-- Timing on a watched host. -/
theorem Follows.timeRuns {α : Type} [Command α] (command : α) (positional : List String)
    (iterations : UInt32) (t : τ) :
    KctlProbe.timeRuns host command positional iterations (f t) =
      (KctlProbe.timeRuns watched command positional iterations t).view f := by
  have hruns := h.repeatRuns (Command.argv command positional) iterations.toNat
    { failures := 0, log := [], host := t }
  simp only [Progress.view] at hruns
  simp only [KctlProbe.timeRuns, hruns]
  rcases KctlProbe.repeatRuns watched (Command.argv command positional) iterations.toNat
    { failures := 0, log := [], host := t } with ⟨result, p⟩
  cases result with
  | error e => rfl
  | ok u => simp only [Trace.view, h.clock]

end

/-! ## What a host answers -/

/-- Start after start of one process without capture, with the answers of the host. -/
def Host.attempts (host : Host σ) (program : Bytes) (args : List Bytes) : Nat → σ → List Start
  | 0, _ => []
  | n + 1, state =>
    let (answer, next) := host.spawn program args false state
    ⟨program, args, false, answer⟩ :: host.attempts program args n next

/-- The starts that are made when nothing is started after a refusal. -/
def madeOf : List Start → List Start
  | [] => []
  | s :: rest =>
    match s.answer with
    | .ok _ => s :: madeOf rest
    | .error _ => [s]

/-- How runs end that stop at a refusal. -/
def endOf : List Start → Except Failure Unit
  | [] => .ok ()
  | s :: rest =>
    match s.answer with
    | .ok _ => endOf rest
    | .error e => .error (.spawn e)

section
variable (host : Host σ) (program : Bytes) (args : List Bytes)

@[simp] theorem length_attempts (n : Nat) (state : σ) :
    (host.attempts program args n state).length = n := by
  induction n generalizing state with
  | zero => rfl
  | succ n ih => simp only [Host.attempts, List.length_cons, ih]

/-- There are at most as many attempts as runs. -/
theorem countP_attempts_le (p : Start → Bool) (n : Nat) (state : σ) :
    (host.attempts program args n state).countP p ≤ n := by
  have h := List.countP_le_length (p := p) (l := host.attempts program args n state)
  rwa [length_attempts] at h

/-- Every attempt is one at the same program and arguments, with nothing kept. -/
theorem argv_of_mem_attempts {n : Nat} {state : σ} {s : Start}
    (h : s ∈ host.attempts program args n state) :
    s.argv = program :: args ∧ s.capture = false := by
  induction n generalizing state with
  | zero => cases h
  | succ n ih =>
    rcases List.mem_cons.1 h with rfl | h
    · exact ⟨rfl, rfl⟩
    · exact ih h

end

section
variable {starts done later : List Start} {last : Start} {e : OsError}

/-- If all are started, all starts are made. -/
theorem madeOf_of_started (h : ∀ s ∈ starts, ∃ child, s.answer = .ok child) :
    madeOf starts = starts := by
  induction starts with
  | nil => rfl
  | cons s starts ih =>
    obtain ⟨child, hs⟩ := h s (by simp)
    rw [madeOf, hs]
    simp only [ih fun s hs => h s (by simp [hs])]

/-- If all are started, the runs succeed. -/
theorem endOf_of_started (h : ∀ s ∈ starts, ∃ child, s.answer = .ok child) :
    endOf starts = .ok () := by
  induction starts with
  | nil => rfl
  | cons s starts ih =>
    obtain ⟨child, hs⟩ := h s (by simp)
    rw [endOf, hs]
    exact ih fun s hs => h s (by simp [hs])

/-- No start is made after one that is refused. -/
theorem madeOf_of_refused (h : ∀ s ∈ done, ∃ child, s.answer = .ok child)
    (hlast : last.answer = .error e) : madeOf (done ++ last :: later) = done ++ [last] := by
  induction done with
  | nil => rw [List.nil_append, madeOf, hlast]; rfl
  | cons s done ih =>
    obtain ⟨child, hs⟩ := h s (by simp)
    rw [List.cons_append, madeOf, hs]
    simp only [ih fun s hs => h s (by simp [hs]), List.cons_append]

/-- The runs end with the first refusal. -/
theorem endOf_of_refused (h : ∀ s ∈ done, ∃ child, s.answer = .ok child)
    (hlast : last.answer = .error e) : endOf (done ++ last :: later) = .error (.spawn e) := by
  induction done with
  | nil => rw [List.nil_append, endOf, hlast]
  | cons s done ih =>
    obtain ⟨child, hs⟩ := h s (by simp)
    rw [List.cons_append, endOf, hs]
    exact ih fun s hs => h s (by simp [hs])

/-- Every start that is made is one of the attempts. -/
theorem mem_of_mem_madeOf {s : Start} (h : s ∈ madeOf starts) : s ∈ starts := by
  induction starts with
  | nil => cases h
  | cons t starts ih =>
    rw [madeOf] at h
    split at h
    · rcases List.mem_cons.1 h with rfl | h
      · exact .head _
      · exact .tail _ (ih h)
    · exact List.mem_singleton.1 h ▸ .head _

end

/-! ## What is started -/

section
variable (host : Host σ) (program : Bytes) (args : List Bytes)

/-- One run on the watched host is one start, with its outcome and its events. -/
theorem execute_recording_eq (capture : Bool) (state : σ × List Start) :
    execute host.recording (program :: args) capture state =
      let (answer, next) := host.spawn program args capture state.1
      let s : Start := ⟨program, args, capture, answer⟩
      { result := s.outcome, log := s.events, host := (next, state.2 ++ [s]) } := by
  rcases hspawn : host.spawn program args capture state.1 with ⟨answer, next⟩
  cases answer <;> simp [execute, Host.recording, Start.outcome, Start.events, Start.argv, hspawn]

/-- A run is one start, and its answer decides the outcome. -/
theorem execute_recording (capture : Bool) (state : σ × List Start) :
    ∃ s : Start, s.argv = program :: args ∧ s.capture = capture ∧
      (execute host.recording (program :: args) capture state).result = s.outcome ∧
      (execute host.recording (program :: args) capture state).host.2 = state.2 ++ [s] := by
  rw [execute_recording_eq]
  exact ⟨⟨program, args, capture, (host.spawn program args capture state.1).1⟩, rfl, rfl, rfl, rfl⟩

/-- A run that is refused ends the loop. -/
theorem repeatRuns_of_error {n : Nat} {p : Progress (σ × List Start)} {e : OsError} {next : σ}
    (h : host.spawn program args false p.host.1 = (.error e, next)) :
    repeatRuns host.recording (program :: args) (n + 1) p =
      (.error (.spawn e),
        { failures := p.failures
          log := (Start.mk program args false (.error e)).events.reverse ++ p.log
          host := (next, p.host.2 ++ [⟨program, args, false, .error e⟩]) }) := by
  have hrun := execute_recording_eq host program args false p.host
  rw [h] at hrun
  rw [repeatRuns, hrun]
  rfl

/-- A run that is started is counted if it failed, and the loop goes on. -/
theorem repeatRuns_of_ok {n : Nat} {p : Progress (σ × List Start)} {child : Child} {next : σ}
    (h : host.spawn program args false p.host.1 = (.ok child, next)) :
    repeatRuns host.recording (program :: args) (n + 1) p =
      repeatRuns host.recording (program :: args) n
        { failures :=
            p.failures + .ofNat ([Start.mk program args false (.ok child)].countP Start.failed)
          log := (Start.mk program args false (.ok child)).events.reverse ++ p.log
          host := (next, p.host.2 ++ [⟨program, args, false, .ok child⟩]) } := by
  have hrun := execute_recording_eq host program args false p.host
  rw [h] at hrun
  have hcount : (if child.exit.success then p.failures else p.failures + 1) =
      p.failures + .ofNat ([Start.mk program args false (.ok child)].countP Start.failed) := by
    cases hs : child.exit.success <;> simp [Start.failed, hs]
  rw [repeatRuns, hrun, ← hcount]
  rfl

/-- **The loop.** Repeated runs make the starts up to the first refusal, in the order in which the
host answers them, and everything they leave behind is read off these starts. -/
theorem repeatRuns_eq (n : Nat) (p : Progress (σ × List Start)) :
    ∃ next, repeatRuns host.recording (program :: args) n p =
      (endOf (host.attempts program args n p.host.1),
        { failures := p.failures +
            .ofNat ((madeOf (host.attempts program args n p.host.1)).countP Start.failed)
          log :=
            ((madeOf (host.attempts program args n p.host.1)).flatMap Start.events).reverse ++ p.log
          host := (next, p.host.2 ++ madeOf (host.attempts program args n p.host.1)) }) := by
  induction n generalizing p with
  | zero => exact ⟨p.host.1, by simp [repeatRuns, Host.attempts, madeOf, endOf]⟩
  | succ n ih =>
    rcases hspawn : host.spawn program args false p.host.1 with ⟨answer, next⟩
    cases answer with
    | error e =>
      refine ⟨next, ?_⟩
      rw [repeatRuns_of_error host program args hspawn]
      simp [Host.attempts, hspawn, madeOf, endOf, Start.failed]
    | ok child =>
      obtain ⟨final, hfinal⟩ := ih {
        failures :=
          p.failures + .ofNat ([Start.mk program args false (.ok child)].countP Start.failed)
        log := (Start.mk program args false (.ok child)).events.reverse ++ p.log
        host := (next, p.host.2 ++ [⟨program, args, false, .ok child⟩]) }
      refine ⟨final, ?_⟩
      rw [repeatRuns_of_ok host program args hspawn, hfinal]
      simp [Host.attempts, hspawn, madeOf, endOf, List.countP_cons, UInt32.add_assoc,
        ← UInt32.ofNat_add, Nat.add_comm]

end

/-! ## How repeated runs end -/

/-- How repeated runs end, of which at most `n` were to be made and `starts` is the list: each was
started, or the last one in the list was refused. -/
inductive RunsEnd (n : Nat) (starts : List Start) : Except Failure Unit → Prop
  | finished : starts.length = n → (∀ s ∈ starts, ∃ child, s.answer = .ok child) →
      RunsEnd n starts (.ok ())
  | refused (done : List Start) {last : Start} {e : OsError} : starts = done ++ [last] →
      starts.length ≤ n → (∀ s ∈ done, ∃ child, s.answer = .ok child) →
      last.answer = .error e → RunsEnd n starts (.error (.spawn e))

/-- One more run in front, which was started. -/
theorem RunsEnd.cons {n : Nat} {s : Start} {starts : List Start} {result : Except Failure Unit}
    (h : RunsEnd n starts result) {child : Child} (hs : s.answer = .ok child) :
    RunsEnd (n + 1) (s :: starts) result := by
  cases h with
  | finished hlen hok =>
    refine .finished (by simp [hlen]) fun s' hs' => ?_
    rcases List.mem_cons.1 hs' with rfl | hs'
    · exact ⟨child, hs⟩
    · exact hok s' hs'
  | refused done heq hlen hok hlast =>
    refine .refused (s :: done) (by rw [heq]; rfl) (by simpa using hlen) (fun s' hs' => ?_) hlast
    rcases List.mem_cons.1 hs' with rfl | hs'
    · exact ⟨child, hs⟩
    · exact hok s' hs'

/-- The starts that are made end as the loop does. -/
theorem runsEnd_of_attempts (starts : List Start) :
    RunsEnd starts.length (madeOf starts) (endOf starts) := by
  induction starts with
  | nil => exact .finished rfl fun _ hs => absurd hs List.not_mem_nil
  | cons s starts ih =>
    cases hs : s.answer with
    | ok child =>
      simp only [madeOf, endOf, hs]
      exact ih.cons hs
    | error e =>
      simp only [madeOf, endOf, hs]
      exact .refused [] rfl (by simp) (fun _ hs => absurd hs List.not_mem_nil) hs

/-- What timing adds to the list. What is reported are the runs that were to be made, and the
number of those that failed. -/
theorem timeRuns_recording {α : Type} [Command α] (host : Host σ) (command : α)
    (positional : List String) (iterations : UInt32) (state : σ × List Start) {program : Bytes}
    {args : List Bytes} (h : Command.argv command positional = program :: args) :
    ∃ starts : List Start, (∀ s ∈ starts, s.argv = program :: args ∧ s.capture = false) ∧
      (timeRuns host.recording command positional iterations state).host.2 = state.2 ++ starts ∧
      RunsEnd iterations.toNat starts
        ((timeRuns host.recording command positional iterations state).result.map fun _ => ()) ∧
      ∀ r, (timeRuns host.recording command positional iterations state).result = .ok r →
        r.iterations = iterations ∧ r.failures.toNat = starts.countP Start.failed := by
  have hend := runsEnd_of_attempts (host.attempts program args iterations.toNat state.1)
  rw [length_attempts] at hend
  obtain ⟨next, hruns⟩ := repeatRuns_eq host program args iterations.toNat
    { failures := 0, log := [], host := state }
  simp only [timeRuns, h, hruns]
  refine ⟨madeOf (host.attempts program args iterations.toNat state.1), fun s hs =>
    argv_of_mem_attempts host program args (mem_of_mem_madeOf hs), ?_⟩
  generalize madeOf (host.attempts program args iterations.toNat state.1) = starts at hend ⊢
  generalize endOf (host.attempts program args iterations.toNat state.1) = result at hend ⊢
  cases hend with
  | finished hlen hok =>
    refine ⟨rfl, .finished hlen hok, ?_⟩
    rintro r ⟨⟩
    -- The count fits 32 bits, since it is at most the number of starts.
    have hcount : starts.countP Start.failed ≤ iterations.toNat := hlen ▸ List.countP_le_length
    have hsmall : starts.countP Start.failed < UInt32.size :=
      Nat.lt_of_le_of_lt hcount iterations.toNat_lt
    refine ⟨rfl, ?_⟩
    dsimp only
    rw [UInt32.zero_add, UInt32.toNat_ofNat_of_lt' hsmall]
  | refused done heq hlen hok hlast => exact ⟨rfl, .refused done heq hlen hok hlast, nofun⟩

end KctlProbe
