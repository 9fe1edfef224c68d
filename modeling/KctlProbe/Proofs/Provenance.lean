import KctlProbe.Command.Delete
import KctlProbe.Command.Listing
import KctlProbe.Proofs.Repetition
import KctlProbe.Proofs.Running
import KctlProbe.Proofs.Settings.Document

/-!
# Where failures come from

`Operation` lists what the library does that can fail. An operation fails in one of four ways
(`Operation.FailsWith`): what it was given does not pass a check, and then nothing was asked of the
host that the host refused; the host refuses to start a process, and that start is the last one; the
host refuses to open a file; or the content of the file is no configuration. Each operation is taken
apart once (`failsWith_run`, `failsWith_timeRuns` and so on), and what a failure says about its
reason is read off the four ways: it has a cause exactly if something outside went wrong, and the
cause is what went wrong (`meets_iff_of_failsWith`).
-/

namespace KctlProbe

variable {σ : Type}

/-! ## Operations -/

/-- An operation of the library that can fail. -/
inductive Operation : Type 1 where
  | parseFormat (name : String)
  | parseSubCommand (name : String)
  | parsePolicy (value : String)
  /-- Builds a get with a format given by name, or none. -/
  | nameGet (settings : Settings) (format : Option String)
  | prepareGet (settings : Settings) (format : String)
  | limitListing (c : Listing) (count : UInt32)
  | limitRange (r : DeleteRange) (count : UInt32)
  | load (path : Bytes)
  | run {α : Type} [Command α] (command : α) (positional : List String) (capture : Bool)
  | testGet (settings : Settings) (key format : String)
  | timeRuns {α : Type} [Command α] (command : α) (positional : List String)
      (iterations : UInt32)

/-- A result that was found without a request to the host that leaves a mark. -/
def settled {α : Type} (state : σ) (result : Except Failure α) : Trace σ α :=
  { result, log := [], host := state }

/-- An operation of which only success or failure matters. -/
def Trace.done {α : Type} (t : Trace σ α) : Trace σ Unit :=
  { result := t.result.map fun _ => (), log := t.log, host := t.host }

namespace Operation

/-- Does an operation on a host. -/
def perform (host : Host σ) (state : σ) : Operation → Trace σ Unit
  | .parseFormat name => (settled state (PrintFormat.parse name)).done
  | .parseSubCommand name => (settled state (SubCommand.parse name)).done
  | .parsePolicy value => (settled state (CachePolicy.parse value)).done
  | .nameGet settings format => (settled state (Get.named settings format)).done
  | .prepareGet settings format => (settled state (Get.prepare settings format)).done
  | .limitListing c count => (settled state (c.withCount count)).done
  | .limitRange r count => (settled state (r.withCount count)).done
  | .load path => (settled state (Settings.load host path state)).done
  | @Operation.run _ _ command positional capture =>
    (KctlProbe.run host command positional capture state).done
  | .testGet settings key format => (KctlProbe.testGet host settings key format state).done
  | @Operation.timeRuns _ _ command positional iterations =>
    (KctlProbe.timeRuns host command positional iterations state).done

/-- Whether an operation is one of those that start processes. -/
def startsProcesses : Operation → Bool
  | @Operation.run .. | .testGet .. | @Operation.timeRuns .. => true
  | _ => false

/-- The starts that an operation asks a host for, with the answers. -/
def starts (op : Operation) (host : Host σ) (state : σ) : List Start :=
  (op.perform host.recording (state, [])).host.2

/-- What goes wrong outside while an operation is done: the host refuses something, or a file that
it opens has a content that is no configuration. -/
inductive Meets (host : Host σ) (state : σ) (op : Operation) : Cause → Prop
  | refusedStart {s : Start} {e : OsError} : s ∈ op.starts host state → s.answer = .error e →
      Meets host state op (.os e)
  | refusedOpening {path : Bytes} {e : OsError} : op = .load path →
      host.openFile path state = .error e → Meets host state op (.os e)
  | badContent {path : Bytes} {source : Json.Source} {fault : Json.Fault} : op = .load path →
      host.openFile path state = .ok source → Settings.ofSource source = .error fault →
      Meets host state op (.json fault)

/-- The ways in which an operation fails. -/
inductive FailsWith (host : Host σ) (state : σ) (op : Operation) : Failure → Prop
  /-- What was given does not pass a check. -/
  | check {f : Failure} : f = .unknownFormat ∨ f = .unknownSubCommand ∨ f = .invalidArgument →
      op.starts host state = [] → (∀ path, op ≠ .load path) → FailsWith host state op f
  /-- A start is refused, and nothing is started after it. -/
  | start {done : List Start} {last : Start} {e : OsError} : op.startsProcesses = true →
      op.starts host state = done ++ [last] → (∀ s ∈ done, ∃ child, s.answer = .ok child) →
      last.answer = .error e → FailsWith host state op (.spawn e)
  /-- A file cannot be opened. -/
  | opening {path : Bytes} {e : OsError} : op = .load path →
      host.openFile path state = .error e → FailsWith host state op (.ofOsError e)
  /-- The content of a file is no configuration. -/
  | content {path : Bytes} {source : Json.Source} {fault : Json.Fault} : op = .load path →
      host.openFile path state = .ok source → Settings.ofSource source = .error fault →
      FailsWith host state op (.ofFault fault)

end Operation

open Operation (Meets FailsWith)

/-! ## Kinds and causes -/

/-- A failure has the sort of cause that its kind calls for, or none. -/
def Failure.Consistent (f : Failure) : Prop :=
  match f.kind, f.cause with
  | .unknownFormat, none | .unknownSubCommand, none | .invalidArgument, none => True
  | .spawn, some (.os _) | .unreadable, some (.os _) => True
  | .badJson, some (.json _) => True
  | _, _ => False

namespace Failure.Consistent

variable {f : Failure}

/-- A failure has no cause if and only if it says that what was asked for is wrong. -/
theorem cause_eq_none_iff (h : f.Consistent) :
    f.kind = .unknownFormat ∨ f.kind = .unknownSubCommand ∨ f.kind = .invalidArgument ↔
      f.cause = none := by
  obtain ⟨⟨kind, cause⟩⟩ := f
  cases kind <;> rcases cause with _ | _ | _ <;> simp_all [Failure.Consistent]

/-- A failure has a cause if and only if it says that a start or a configuration failed. -/
theorem isSome_cause_iff (h : f.Consistent) :
    f.cause.isSome ↔ f.kind = .spawn ∨ f.kind = .unreadable ∨ f.kind = .badJson := by
  obtain ⟨⟨kind, cause⟩⟩ := f
  cases kind <;> rcases cause with _ | _ | _ <;> simp_all [Failure.Consistent]

/-- A failure shows an error of the system if and only if the system refused a start or a file. -/
theorem isSome_osError?_iff (h : f.Consistent) :
    f.osError?.isSome ↔ f.kind = .spawn ∨ f.kind = .unreadable := by
  obtain ⟨⟨kind, cause⟩⟩ := f
  cases kind <;> rcases cause with _ | _ | _ <;>
    simp_all [Failure.Consistent, Failure.osError?, Cause.osError?]

end Failure.Consistent

/-- The error of the host is that of the cause. -/
theorem Failure.osError?_eq_some_iff {f : Failure} {e : OsError} :
    f.osError? = some e ↔ f.cause = some (.os e) := by
  obtain ⟨⟨kind, _ | _ | _⟩⟩ := f <;> simp [Failure.osError?, Cause.osError?]

/-! ## Chains of causes -/

/-- Walking down the causes of a failure, one meets the failure and then its cause, under which
there is no other. -/
theorem Link.chain_failure (f : Failure) :
    (Link.failure f).chain = .failure f :: f.cause.toList.map .cause := by
  cases hcause : f.cause with
  | none =>
    have hnone : (Link.failure f).cause? = none := by rw [Link.cause?, hcause]; rfl
    rw [Link.chain_of_none hnone]
    rfl
  | some c =>
    have hsome : (Link.failure f).cause? = some (.cause c) := by rw [Link.cause?, hcause]; rfl
    rw [Link.chain_of_cause hsome, Link.chain_of_none rfl]
    rfl

/-- The chain of a failure has a second link exactly if there is a cause. -/
theorem Failure.depth_eq_two_iff (f : Failure) : f.depth = 2 ↔ f.cause.isSome := by
  rw [Failure.depth, Link.chain_failure]
  cases f.cause <;> simp

section
variable {host : Host σ} {state : σ} {f : Failure}

/-- Only a failed result is mapped to a failed one. -/
theorem eq_error_of_map {α β ε : Type} {g : α → β} {result : Except ε α} {f : ε}
    (h : result.map g = .error f) : result = .error f := by
  cases result with
  | error f' => exact congrArg Except.error (Except.error.inj h)
  | ok x => cases h

/-! ## Checks -/

/-- A name that is no format is an unknown one. -/
theorem parse_format_failure {name : String} (h : PrintFormat.parse name = .error f) :
    f = .unknownFormat := by
  rw [PrintFormat.parse] at h
  split at h
  · cases h
  · exact (Except.error.inj h).symm

/-- A name that is no sub-command is an unknown one. -/
theorem parse_subCommand_failure {name : String} (h : SubCommand.parse name = .error f) :
    f = .unknownSubCommand := by
  rw [SubCommand.parse] at h
  split at h
  · cases h
  · exact (Except.error.inj h).symm

/-- A value that is no cache policy is an invalid argument. -/
theorem parse_policy_failure {value : String} (h : CachePolicy.parse value = .error f) :
    f = .invalidArgument := by
  unfold CachePolicy.parse at h
  split_ifs at h
  exact (Except.error.inj h).symm

/-- A `get` fails on the name of its format, as an unknown one. -/
theorem named_failure {settings : Settings} {format : Option String}
    (h : Get.named settings format = .error f) : f = .unknownFormat := by
  unfold Get.named at h
  split at h
  · split at h
    · cases h
    · exact (Except.error.inj h).symm
  · cases h

/-- A count that a listing refuses is an invalid argument. -/
theorem listing_withCount_failure {c : Listing} {count : UInt32}
    (h : c.withCount count = .error f) : f = .invalidArgument := by
  unfold Listing.withCount at h
  split at h
  · exact (Except.error.inj h).symm
  · cases h

/-- A count that a range refuses is an invalid argument. -/
theorem range_withCount_failure {r : DeleteRange} {count : UInt32}
    (h : r.withCount count = .error f) : f = .invalidArgument := by
  unfold DeleteRange.withCount at h
  split at h
  · exact (Except.error.inj h).symm
  · cases h

/-! ## Files and processes -/

/-- Loading settings fails because of the system or because of what is in the file. -/
theorem failsWith_load {path : Bytes} (h : Settings.load host path state = .error f) :
    FailsWith host state (.load path) f := by
  obtain ⟨e, rfl, hopen⟩ | ⟨fault, source, rfl, hopen, hread⟩ := Settings.load_eq_error h
  · exact .opening rfl hopen
  · exact .content rfl hopen hread

section
variable {α : Type} [Command α] {command : α} {positional : List String}

/-- A run fails because there is nothing to start or because its start is refused. -/
theorem failsWith_run {capture : Bool}
    (h : (run host command positional capture state).result = .error f) :
    FailsWith host state (.run command positional capture) f := by
  cases hargv : Command.argv command positional with
  | nil =>
    obtain ⟨hstarts, hresult⟩ := run_of_nil host capture state hargv
    rw [hresult] at h
    exact .check (.inr (.inr (Except.error.inj h).symm)) hstarts nofun
  | cons program args =>
    obtain ⟨hstarts, hresult⟩ := run_of_cons host capture state hargv
    rw [hresult] at h
    cases hanswer : (host.spawn program args capture state).1 with
    | error e =>
      rw [hanswer] at h hstarts
      obtain rfl := Except.error.inj h
      have hdone : ∀ s ∈ ([] : List Start), ∃ child, s.answer = .ok child := fun _ hs => nomatch hs
      exact .start rfl (hstarts.trans (List.nil_append _).symm) hdone rfl
    | ok child =>
      rw [hanswer] at h
      cases h

/-- Timed runs fail because there is nothing to start or because of the first refusal. -/
theorem failsWith_timeRuns {iterations : UInt32}
    (h : (timeRuns host command positional iterations state).result = .error f) :
    FailsWith host state (.timeRuns command positional iterations) f := by
  cases hargv : Command.argv command positional with
  | nil =>
    by_cases hzero : iterations = 0
    · subst hzero
      cases h
    · obtain ⟨hstarts, hresult, -⟩ := timeRuns_of_nil host state hargv hzero
      rw [hresult] at h
      exact .check (.inr (.inr (Except.error.inj h).symm)) hstarts nofun
  | cons program args =>
    obtain ⟨starts, -, hstarts, hend, -⟩ :=
      timeRuns_recording host command positional iterations (state, []) hargv
    rw [timeRuns_eq_view] at h
    rw [show (timeRuns host.recording command positional iterations (state, [])).result = .error f
      from h] at hend
    cases hend with
    | refused done hsplit hlen hok hlast =>
      exact .start rfl (hstarts.trans hsplit) hok hlast

end

/-- A test fails because of its format or because its start is refused. -/
theorem failsWith_testGet {settings : Settings} {key format : String}
    (h : (testGet host settings key format state).result = .error f) :
    FailsWith host state (.testGet settings key format) f := by
  cases hget : Get.prepare settings format with
  | error f' =>
    have hstarts : (Operation.testGet settings key format).starts host state = [] := by
      simp only [Operation.starts, Operation.perform, testGet, hget, Trace.done]
    rw [testGet, hget] at h
    obtain rfl := Except.error.inj h
    exact .check (.inl (named_failure hget)) hstarts nofun
  | ok command =>
    -- With a known format it is a run of the get that was built.
    have hstarts : (Operation.testGet settings key format).starts host state =
        (Operation.run command [key] true).starts host state := by
      simp only [Operation.starts, Operation.perform, testGet, hget]
    rw [testGet, hget] at h
    cases failsWith_run h with
    | check hf hnone _ => exact .check hf (hstarts.trans hnone) nofun
    | start _ hsplit hok hlast => exact .start rfl (hstarts.trans hsplit) hok hlast
    | opening hop _ => cases hop
    | content hop _ _ => cases hop

/-! ## Every operation -/

variable {op : Operation}

/-- **An operation fails in one of the four ways.** -/
theorem failsWith_of_error (h : (op.perform host state).result = .error f) :
    FailsWith host state op f := by
  cases op <;> replace h := eq_error_of_map h
  case parseFormat => exact .check (.inl (parse_format_failure h)) rfl nofun
  case parseSubCommand => exact .check (.inr (.inl (parse_subCommand_failure h))) rfl nofun
  case parsePolicy => exact .check (.inr (.inr (parse_policy_failure h))) rfl nofun
  case nameGet => exact .check (.inl (named_failure h)) rfl nofun
  case prepareGet settings name =>
    have hnamed : Get.named settings (some name) = .error f := h
    exact .check (.inl (named_failure hnamed)) rfl nofun
  case limitListing => exact .check (.inr (.inr (listing_withCount_failure h))) rfl nofun
  case limitRange => exact .check (.inr (.inr (range_withCount_failure h))) rfl nofun
  case load => exact failsWith_load h
  case run => exact failsWith_run h
  case testGet => exact failsWith_testGet h
  case timeRuns => exact failsWith_timeRuns h

/-- Each way to fail has the sort of cause that its kind calls for. -/
theorem consistent_of_failsWith (h : FailsWith host state op f) : f.Consistent := by
  cases h with
  | check hf _ _ => rcases hf with rfl | rfl | rfl <;> trivial
  | start | opening | content => trivial

/-- What goes wrong outside while a file is loaded has to do with the file. -/
theorem meets_load_iff {path : Bytes} {c : Cause} :
    Meets host state (.load path) c ↔
      (∃ e, host.openFile path state = .error e ∧ c = .os e) ∨
        ∃ source fault, host.openFile path state = .ok source ∧
          Settings.ofSource source = .error fault ∧ c = .json fault := by
  constructor
  · intro h
    cases h with
    | refusedStart hs _ => cases hs
    | refusedOpening hop hopen =>
      cases hop
      exact .inl ⟨_, hopen, rfl⟩
    | badContent hop hopen hread =>
      cases hop
      exact .inr ⟨_, _, hopen, hread, rfl⟩
  · rintro (⟨e, hopen, rfl⟩ | ⟨source, fault, hopen, hread, rfl⟩)
    · exact .refusedOpening rfl hopen
    · exact .badContent rfl hopen hread

/-- What goes wrong outside while anything else is done is a refused start. -/
theorem meets_iff_of_ne_load (hop : ∀ path, op ≠ .load path) {c : Cause} :
    Meets host state op c ↔ ∃ s ∈ op.starts host state, ∃ e, s.answer = .error e ∧ c = .os e := by
  constructor
  · intro h
    cases h with
    | refusedStart hs hanswer => exact ⟨_, hs, _, hanswer, rfl⟩
    | refusedOpening h _ => exact absurd h (hop _)
    | badContent h _ _ => exact absurd h (hop _)
  · rintro ⟨s, hs, e, hanswer, rfl⟩
    exact .refusedStart hs hanswer

/-- The cause of a failure is what goes wrong outside, and there is no more than that. -/
theorem meets_iff_of_failsWith (h : FailsWith host state op f) (c : Cause) :
    Meets host state op c ↔ f.cause = some c := by
  cases h with
  | check hf hnone hop =>
    have hcause : f.cause = none := by rcases hf with rfl | rfl | rfl <;> rfl
    rw [meets_iff_of_ne_load hop, hnone, hcause]
    simp
  | @start done last e hstarts hsplit hok hlast =>
    have hop : ∀ path, op ≠ .load path := by
      rintro path rfl
      cases hstarts
    rw [meets_iff_of_ne_load hop, hsplit]
    constructor
    · rintro ⟨s, hs, e', hanswer, rfl⟩
      rcases List.mem_append.1 hs with hs | hs
      · obtain ⟨child, hchild⟩ := hok s hs
        rw [hchild] at hanswer
        cases hanswer
      · rw [List.mem_singleton.1 hs, hlast] at hanswer
        cases hanswer
        rfl
    · intro hc
      cases hc
      exact ⟨last, by simp, e, hlast, rfl⟩
  | opening hop hopen =>
    subst hop
    rw [meets_load_iff, hopen]
    simp [Failure.ofOsError, eq_comm]
  | content hop hopen hread =>
    subst hop
    rw [meets_load_iff, hopen]
    simp [Failure.ofFault, hread, eq_comm]

end

/-- **Failures say where they come from.** Whatever the host does, an operation that fails meets at
most one thing that goes wrong outside, and that is the cause of the failure. The kinds without a
cause are those of checks; the others have one, and it is an error of the host exactly if a start
or the opening of a file was refused. A refused start is only reported by operations that start
processes, and it is the last start that was made. The wording depends on the kind alone, and
walking down the causes from the failure leads to its cause and no further. -/
theorem failure_provenance (host : Host σ) (state : σ) (op : Operation) {f : Failure}
    (h : (op.perform host state).result = .error f) :
    ((f.kind = .unknownFormat ∨ f.kind = .unknownSubCommand ∨ f.kind = .invalidArgument) ↔
      f.cause = none ∧ ∀ c, ¬ op.Meets host state c) ∧
    (f.cause.isSome ↔ f.kind = .spawn ∨ f.kind = .unreadable ∨ f.kind = .badJson) ∧
    (∀ c, op.Meets host state c ↔ f.cause = some c) ∧
    (f.osError?.isSome ↔ f.kind = .spawn ∨ f.kind = .unreadable) ∧
    (∀ e, f.osError? = some e ↔ op.Meets host state (.os e)) ∧
    (f.kind = .spawn → op.startsProcesses = true ∧
      ∃ done last e, op.starts host state = done ++ [last] ∧
        (∀ s ∈ done, ∃ child, s.answer = .ok child) ∧ last.answer = .error e ∧
        f.osError? = some e) ∧
    f.message = f.kind.message ∧
    (Link.failure f).chain = .failure f :: f.cause.toList.map .cause ∧
    (f.depth = 2 ↔ f.cause.isSome) := by
  have hfails := failsWith_of_error h
  have hmeets := meets_iff_of_failsWith hfails
  have hconsistent := consistent_of_failsWith hfails
  refine ⟨?_, hconsistent.isSome_cause_iff, hmeets, hconsistent.isSome_osError?_iff, ?_, ?_, rfl,
    Link.chain_failure f, f.depth_eq_two_iff⟩
  · rw [hconsistent.cause_eq_none_iff]
    refine ⟨fun hcause => ⟨hcause, fun c hc => ?_⟩, And.left⟩
    rw [hmeets, hcause] at hc
    cases hc
  · intro e
    rw [Failure.osError?_eq_some_iff, hmeets]
  · intro hkind
    cases hfails with
    | check hf _ _ => rcases hf with rfl | rfl | rfl <;> cases hkind
    | start hstarts hsplit hok hlast => exact ⟨hstarts, _, _, _, hsplit, hok, hlast, rfl⟩
    | opening | content => cases hkind

/-- Of five runs the third is refused, and the failure says so. -/
theorem failure_provenance_thirdRefused :
    ∃ f, ((Operation.timeRuns (Verbatim.mk [[0x6B]]) [] 5).perform failingHost 0).result =
        .error f ∧ f.kind = .spawn ∧ f.osError? = some .permissionDenied ∧
      f.message = "Cannot spawn kctl process" ∧ f.depth = 2 ∧
      (Operation.timeRuns (Verbatim.mk [[0x6B]]) [] 5).Meets failingHost 0
        (.os .permissionDenied) := by
  have h : ((Operation.timeRuns (Verbatim.mk [[0x6B]]) [] 5).perform failingHost 0).result =
      .error (.spawn .permissionDenied) := rfl
  obtain ⟨-, -, hmeets, -, -, -, hmessage, -, hdepth⟩ :=
    failure_provenance failingHost 0 (.timeRuns (Verbatim.mk [[0x6B]]) [] 5) h
  exact ⟨_, h, rfl, rfl, hmessage, hdepth.2 rfl, (hmeets _).2 rfl⟩

end KctlProbe
