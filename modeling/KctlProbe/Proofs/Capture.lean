import KctlProbe.Proofs.Cli.Session
import KctlProbe.Proofs.Running
import KctlProbe.Proofs.Text.Lossy

/-!
# Captured text

What a process writes reaches the caller as text. The two streams are decoded apart, each as a whole
(`stdout_stderr_of_answer`), and the program prints the text of each on its own stream when it shows
a run (`probe_shows`). Together with the laws of the decoder this says what can get lost on the way
to the user: bytes that are no text, and nothing else.
-/

namespace KctlProbe

variable {σ : Type}

section
variable {α : Type} [Command α] (host : Host σ) {command : α} {positional : List String} (state : σ)
  {program : Bytes} {args : List Bytes} {child : Child}

/-- A captured run has the text of each stream. -/
theorem stdout_stderr_of_answer (h : Command.argv command positional = program :: args)
    (hchild : (host.spawn program args true state).1 = .ok child) :
    ∃ o, (run host command positional true state).result = .ok o ∧
      o.stdout? = some (Utf8.lossy child.stdout) ∧ o.stderr? = some (Utf8.lossy child.stderr) := by
  obtain ⟨-, hresult⟩ := run_of_cons host true state h
  rw [hchild] at hresult
  obtain ⟨o, ho, hrecords⟩ := records_of_answer program args true child
  exact ⟨o, hresult.trans ho, hrecords.stdout, hrecords.stderr⟩

end

namespace Cli

section
variable {host : Host σ} {state : σ} {program : Bytes} {args : List Bytes} {child : Child}

/-- A shown run prints the text of each stream. -/
theorem showOnce_shows {command : Get} {key : String}
    (h : Command.argv command [key] = program :: args)
    (hchild : (host.spawn program args true state).1 = .ok child) :
    (showOnce host command key state).1.stdout = Utf8.lossy child.stdout ∧
      (showOnce host command key state).1.stderr = Utf8.lossy child.stderr := by
  obtain ⟨o, ho, hstdout, hstderr⟩ := stdout_stderr_of_answer host state h hchild
  simp only [showOnce, ho, hstdout, hstderr, Option.getD_some, and_self]

/-- The program prints the text of each stream when it shows a run. -/
theorem probe_shows {a : Arguments} {base : Settings} {format : Option PrintFormat}
    (hbase : a.Base host state base) (hformat : a.Names format) (honce : a.once = true)
    (h : Command.argv (a.get base format) [a.key] = program :: args)
    (hchild : (host.spawn program args true state).1 = .ok child) :
    (probe host a state).1.stdout = Utf8.lossy child.stdout ∧
      (probe host a state).1.stderr = Utf8.lossy child.stderr := by
  obtain ⟨log, hprobe⟩ := probe_of_format hbase hformat
  rw [hprobe, Arguments.act, if_pos honce]
  exact showOnce_shows h hchild

end

end Cli

/-- **Captured text loses nothing but bytes that are no text.** Bytes are those of their decoded
text exactly if they are those of some text. A complete text is decoded as itself whatever follows
it, and a byte that is no continuation byte starts anew whatever is broken in front of it. A
captured run of any command has the text of each stream, decoded apart from the other, and the
program prints these two texts on its own streams when it shows a run. -/
theorem captured_text :
    (∀ bytes, Utf8.encode (Utf8.lossy bytes) = bytes ↔ ∃ s, Utf8.encode s = bytes) ∧
    (∀ s bytes, Utf8.lossy (Utf8.encode s ++ bytes) = s ++ Utf8.lossy bytes) ∧
    (∀ front b bytes, ¬ Utf8.IsContinuation b →
      Utf8.lossy (front ++ b :: bytes) = Utf8.lossy front ++ Utf8.lossy (b :: bytes)) ∧
    (∀ (σ α : Type) [Command α] (host : Host σ) (command : α) (positional : List String) (state : σ)
      (program : Bytes) (args : List Bytes) (child : Child),
      Command.argv command positional = program :: args →
      (host.spawn program args true state).1 = .ok child →
      ∃ o, (run host command positional true state).result = .ok o ∧
        o.stdout? = some (Utf8.lossy child.stdout) ∧
        o.stderr? = some (Utf8.lossy child.stderr)) ∧
    ∀ (σ : Type) (host : Host σ) (a : Cli.Arguments) (state : σ) (base : Settings)
      (format : Option PrintFormat) (program : Bytes) (args : List Bytes) (child : Child),
      a.Base host state base → a.Names format → a.once = true →
      Command.argv (a.get base format) [a.key] = program :: args →
      (host.spawn program args true state).1 = .ok child →
      (Cli.probe host a state).1.stdout = Utf8.lossy child.stdout ∧
        (Cli.probe host a state).1.stderr = Utf8.lossy child.stderr := by
  refine ⟨fun bytes => Utf8.encode_lossy_eq_iff, Utf8.lossy_encode_append,
    fun front b bytes hb => Utf8.lossy_append_cons front hb bytes, ?_, ?_⟩
  · intro σ α _ host command positional state program args child h hchild
    exact stdout_stderr_of_answer host state h hchild
  · intro σ host a state base format program args child hbase hformat honce h hchild
    exact Cli.probe_shows hbase hformat honce h hchild

/-- A host of which every process writes these bytes. -/
def writing (stdout stderr : Bytes) : Host Unit where
  spawn _ _ _ state := (.ok ⟨.code 0, stdout, stderr⟩, state)
  openFile _ _ := .error .notFound
  clock _ := 0

/-- A character of three bytes breaks off in front of a letter: the program shows the letter, and
what is on the other stream as it is. -/
theorem captured_text_brokenOff :
    let a : Cli.Arguments :=
      { key := "k", config := none, program := none, host := none, port := none, format := "chars",
        op := .get, iterations := 1, once := true, verbose := false }
    let host := writing [0xE2, 0x82, 0x41] [0x0A]
    ¬ Utf8.IsContinuation 0x41 ∧ a.Base host () .default ∧ a.Names (some .chars) ∧
      a.once = true ∧ (Cli.probe host a ()).1.stdout = "\uFFFD" ++ "A" ∧
      (Cli.probe host a ()).1.stderr = "\n" := by
  intro a host
  obtain ⟨-, -, hcut, -, hprobe⟩ := captured_text
  have hb : ¬ Utf8.IsContinuation 0x41 := by decide
  have hbase : a.Base host () .default := rfl
  have hformat : a.Names (some .chars) := rfl
  obtain ⟨hstdout, hstderr⟩ :=
    hprobe Unit host a () .default (some .chars) _ _ _ hbase hformat rfl rfl rfl
  refine ⟨hb, hbase, hformat, rfl, hstdout.trans ?_, hstderr.trans ?_⟩
  · rw [show [0xE2, 0x82, 0x41] = [0xE2, 0x82] ++ [(0x41 : UInt8)] from rfl, hcut _ _ _ hb]
    decide
  · decide

end KctlProbe
