import KctlProbe.Proofs.Cli.Layers
import KctlProbe.Proofs.Running
import KctlProbe.Proofs.Sandbox.Files
import KctlProbe.Proofs.Settings.RoundTrip

/-!
# The laws of a sandbox

What is proved about any host holds for a sandbox. This is what a sandbox adds. A start that it
refuses is refused wherever the output is to go (`refusesAlike_host`), and leaves the files as they
are (`spawn_refused`). What is started in the end is one of the programs of the system, with the
arguments that were given behind those of the interpreters on the way (`launch_ok`). Settings that
were put into a file are those that the program works with (`settings_withFile`).
-/

namespace KctlProbe.Sandbox

open Settings (Document)

/-! ## Programs -/

/-- A launch of a program of the system that may be started, with the arguments that were given. -/
structure Launch.OfSystem (l : Launch) (files : Files) (arguments : List Octets) : Prop where
  program : ∃ i, (files.node i).content = .tool l.tool ∧ (files.node i).allows 1 = true
  arguments : arguments <:+ l.arguments

namespace Files

variable {files : Files} {here : Nat} {path name : Octets} {arguments : List Octets} {l : Launch}

/-- A file starts a program of the system, by induction on how deep interpreters may be nested. -/
theorem launchFile_ok {depth : Nat} (h : files.launchFile here depth path name arguments = .ok l) :
    l.OfSystem files arguments := by
  induction depth generalizing path name arguments with
  | zero => cases h
  | succ depth ih =>
    rw [launchFile] at h
    cases hfind : files.find here path true with
    | error e =>
      rw [hfind] at h
      cases h
    | ok i =>
      rw [hfind] at h
      change (if _ then _ else if _ then _ else _) = _ at h
      split_ifs at h with hrun
      have hallows : (files.node i).allows 1 = true := by simp_all
      split at h
      · next tool hcontent =>
        cases h
        exact ⟨⟨i, hcontent, hallows⟩, List.suffix_refl _⟩
      · next bytes _ =>
        split at h
        · cases h
        · cases h
        · -- The interpreter is started with the script and its arguments behind its own.
          next interpreter argument _ _ =>
          obtain ⟨hprogram, hsuffix⟩ := ih h
          refine ⟨hprogram, .trans ?_ hsuffix⟩
          exact ((List.suffix_cons path arguments).trans (List.suffix_append _ _))
      · cases h

/-- What a path starts is what its file starts. -/
theorem launchAt_ok (h : files.launchAt here path name arguments = .ok l) :
    l.OfSystem files arguments := by
  rw [launchAt] at h
  split_ifs at h
  exact launchFile_ok h

/-- What some paths start is what one of them starts. -/
theorem launchFirst_ok {e : Errno} {paths : List Octets}
    (h : files.launchFirst here name arguments e paths = .ok l) : l.OfSystem files arguments := by
  induction paths generalizing e with
  | nil => cases h
  | cons path paths ih =>
    rw [launchFirst] at h
    split at h
    · exact ih h
    · exact ih h
    · exact ih h
    · exact launchAt_ok h

/-- **What is started is a program of the system**, which may be started, and it is given the
arguments that were asked for, with more in front if it is an interpreter. -/
theorem launch_ok (h : files.launch here name arguments = .ok l) : l.OfSystem files arguments := by
  rw [launch] at h
  split_ifs at h
  · exact launchAt_ok h
  · exact launchFirst_ok h

end Files

/-! ## Starts -/

/-- What comes of a start in a sandbox. -/
inductive Spawns (program : Bytes) (args : List Bytes) (w : World) :
    Except OsError Child × World → Prop
  /-- A zero byte keeps the start from the sandbox. -/
  | guarded (hzero : (program :: args).any (0 ∈ ·)) : Spawns program args w (.error .invalidInput, w)
  | refused (hzero : ¬ (program :: args).any (0 ∈ ·)) {e : Errno}
      (h : w.files.launch Files.scratch (Octets.ofBytes program) (args.map Octets.ofBytes) =
        .error e) :
      Spawns program args w (.error e.toOsError, { w with clock := w.clock + startTime })
  | started (hzero : ¬ (program :: args).any (0 ∈ ·)) {l : Launch}
      (h : w.files.launch Files.scratch (Octets.ofBytes program) (args.map Octets.ofBytes) = .ok l)
      (child : Child) (w' : World) : Spawns program args w (.ok child, w')

section
variable {program : Bytes} {args : List Bytes} {capture : Bool} {w : World}

/-- A start is kept back, refused or made, and its output does not matter for that. -/
theorem spawns_spawn (capture : Bool) :
    Spawns program args w (host.spawn program args capture w) := by
  dsimp only [host, Host.guarded]
  split_ifs with hzero
  · exact .guarded hzero
  · dsimp only [spawn]
    cases hlaunch : w.files.launch Files.scratch (Octets.ofBytes program)
        (args.map Octets.ofBytes) with
    | error e => exact .refused hzero hlaunch
    | ok l => exact .started hzero hlaunch _ _

/-- A sandbox refuses a start because of a zero byte, or because of its files. -/
theorem spawn_eq_error_iff {e : OsError} :
    (host.spawn program args capture w).1 = .error e ↔
      if (program :: args).any (0 ∈ ·) then e = .invalidInput
      else ∃ refusal, w.files.launch Files.scratch (Octets.ofBytes program)
        (args.map Octets.ofBytes) = .error refusal ∧ refusal.toOsError = e := by
  have h : Spawns program args w (host.spawn program args capture w) := spawns_spawn capture
  generalize host.spawn program args capture w = result at h ⊢
  cases h with
  | guarded hzero =>
    rw [if_pos hzero]
    exact ⟨fun h => (Except.error.inj h).symm, fun h => congrArg _ h.symm⟩
  | refused hzero h =>
    rw [if_neg hzero, h]
    simp
  | started hzero h =>
    rw [if_neg hzero, h]
    simp

/-- **Refused alike.** A sandbox refuses a start wherever the output is to go, or nowhere. -/
theorem refusesAlike_host (program : Bytes) (args : List Bytes) (w : World) :
    host.RefusesAlike program args w :=
  fun _ => spawn_eq_error_iff.trans spawn_eq_error_iff.symm

/-- **A start that is refused leaves the files as they are**, and at most takes its time. -/
theorem spawn_refused {e : OsError} (h : (host.spawn program args capture w).1 = .error e) :
    (host.spawn program args capture w).2.files = w.files ∧
      ((host.spawn program args capture w).2.clock = w.clock ∨
        (host.spawn program args capture w).2.clock = w.clock + startTime) := by
  have hspawns : Spawns program args w (host.spawn program args capture w) := spawns_spawn capture
  generalize host.spawn program args capture w = result at h hspawns ⊢
  cases hspawns with
  | guarded => exact ⟨rfl, .inl rfl⟩
  | refused => exact ⟨rfl, .inr rfl⟩
  | started => cases h

/-- **A start that is not refused** is that of a program of the system. -/
theorem launch_of_spawn {child : Child} (h : (host.spawn program args capture w).1 = .ok child) :
    ∃ l, w.files.launch Files.scratch (Octets.ofBytes program) (args.map Octets.ofBytes) = .ok l ∧
      l.OfSystem w.files (args.map Octets.ofBytes) := by
  have hspawns : Spawns program args w (host.spawn program args capture w) := spawns_spawn capture
  generalize host.spawn program args capture w = result at h hspawns
  cases hspawns with
  | guarded | refused => cases h
  | started _ hlaunch => exact ⟨_, hlaunch, Files.launch_ok hlaunch⟩

end

/-! ## Configurations -/

section
variable {a : Cli.Arguments} {path : String} {w : World} {s : Spot} {mode : Nat}
  (hconfig : a.config = some path)
  (hplace : (w.ready (Utf8.encode path)).files.Place (Octets.ofBytes (Utf8.encode path)) s)
  (hmode : Readable mode)
include hconfig hplace hmode

/-- A document that was put into the configuration file configures the program. -/
theorem configured_withFile (d : Document) :
    a.Configured host (w.withFile (Utf8.encode path) mode d.bytes) d.entries := by
  rw [Cli.Arguments.Configured, hconfig]
  exact ⟨d.bytes, (openFile_withFile hplace hmode d.bytes).1, .object d⟩

/-- **The program works with the settings that were put into its file**, and with what its command
line gives. -/
theorem settings_withFile {c : Settings} {t : String} (h : c.toJson = .ok t) :
    a.settings host (w.withFile (Utf8.encode path) mode (Utf8.encode t)) =
      .ok (a.effective c) := by
  refine Cli.settings_of_base ?_
  rw [Cli.Arguments.Base, hconfig]
  exact ⟨_, (openFile_withFile hplace hmode _).1, Settings.ofSource_encode_of_toJson h⟩

end

end KctlProbe.Sandbox
