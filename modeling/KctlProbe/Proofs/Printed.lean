import KctlProbe.Proofs.Cli.Session
import KctlProbe.Proofs.Text.Sides

/-!
# What is printed is read back

Two lines show what others have chosen: the line about the runs for a key shows the key, and the
line about a process that is started shows its argument vector. Neither can be forged through what
it shows. Each is one line (`exists_timingLineWith_eq`, `lineFeed_notMem_spawning`), and what it
shows is read back from it (`readKey?_timingLineWith`, `readStart?_spawning`), whichever characters
the quotes hide.
-/

namespace KctlProbe

open Text (Side unquote? vector?)

/-! ## Readers -/

/-- What stands behind `start`. -/
def after? (start : String) (cs : List Char) : Option (List Char) :=
  cs.dropPrefix? start.toList

@[simp] theorem after?_append (start : String) (cs : List Char) :
    after? start (start.toList ++ cs) = some cs :=
  List.dropPrefix?_eq_some_iff.2 ⟨start.toList, rfl, beq_self_eq_true _⟩

/-- Reads the key in the line about the time that its runs took. -/
def readKey? (line : String) : Option String :=
  (after? "Get " line.toList).bind fun cs =>
    (unquote? cs).bind fun (bytes, _) => Utf8.decode? bytes

/-- How the line about a process that is started begins. -/
def spawningStart : String :=
  "DEBUG ktest::command::exec: spawning kctl args="

/-- Reads the argument vector in a text that is the line about a process that is started, and
whether its output is kept. -/
def startOf? (cs : List Char) : Option (List Bytes × Bool) :=
  (after? spawningStart cs).bind fun cs =>
    (vector? cs).bind fun (argv, cs) =>
      if cs = " capture=true".toList then some (argv, true)
      else if cs = " capture=false".toList then some (argv, false)
      else none

/-- Reads the line about a process that is started behind any front: from the first place from which
everything behind is such a line. -/
def readStart? (line : String) : Option (List Bytes × Bool) :=
  line.toList.tails.findSome? startOf?

/-! ## The line about the runs for a key -/

section
variable (hidden : Char → Bool) (key : String) (r : TimingReport)

/-- The line about the time that the runs for a key took, with any choice of what is hidden. -/
def timingLineWith : String :=
  "Get " ++ Text.quote hidden key ++ " runs in " ++ r.text ++ "\n"

/-- A report is one line. -/
theorem lineFeed_notMem_text : '\n' ∉ r.text.toList := by
  have hpoint : '\n' ∉ ".".toList := by simp
  have hseconds : '\n' ∉ " seconds, average over ".toList := by simp
  have hiterations : '\n' ∉ " iterations".toList := by simp
  have hpadded (n : Nat) : '\n' ∉ Text.padded 10 6 n :=
    (Text.lineFeed_notMem_padded (by decide) (by decide) 6 n).1
  unfold TimingReport.text TimingReport.measureText Duration.secondsText
  simp only [String.toList_append, String.toList_ofList, List.mem_append, not_or]
  exact ⟨⟨⟨Text.lineFeed_notMem_decimal _, hpoint⟩, hpadded _⟩,
    ⟨hseconds, Text.lineFeed_notMem_decimal _⟩, hiterations⟩

/-- The only line feed is at the end. -/
theorem exists_timingLineWith_eq :
    ∃ body, timingLineWith hidden key r = body ++ "\n" ∧ '\n' ∉ body.toList := by
  have hget : '\n' ∉ "Get ".toList := by simp
  have hruns : '\n' ∉ " runs in ".toList := by simp
  refine ⟨_, rfl, ?_⟩
  simp only [String.toList_append, List.mem_append, not_or]
  exact ⟨⟨⟨hget, Text.lineFeed_notMem_quote hidden key⟩, hruns⟩, lineFeed_notMem_text r⟩

/-- The key is read back. -/
theorem readKey?_timingLineWith : readKey? (timingLineWith hidden key r) = some key := by
  simp only [readKey?, timingLineWith, String.toList_append, List.append_assoc, after?_append,
    Text.unquote?_quote, Option.bind_some, Utf8.decode?_encode]

end

/-- A timing that succeeds prints the line about its key. -/
theorem Cli.exists_stdout_eq {σ : Type} {host : Host σ} {a : Arguments} {state : σ}
    (honce : a.once = false) (hcode : (probe host a state).1.code = 0) :
    ∃ r, (probe host a state).1.stdout = timingLine a.key r := by
  simp only [probe, honce, timeGet] at hcode ⊢
  cases hsettings : a.settings host state with
  | error f => simp [hsettings] at hcode
  | ok c =>
    cases hformat : a.printFormat with
    | error f => simp [hsettings, hformat] at hcode
    | ok format =>
      simp only [hsettings, hformat, Bool.false_eq_true, if_false] at hcode ⊢
      split at hcode
      · cases hcode
      · exact ⟨_, rfl⟩

/-! ## The line about a process that is started -/

section
variable (hidden : Char → Bool) (argv : List Bytes) (capture : Bool)

/-- The line is its start, the quoted vector and what is behind it. -/
theorem line_spawning :
    (Event.spawning argv capture).line hidden =
      spawningStart ++ (Text.quoteVector hidden argv ++
        if capture then " capture=true" else " capture=false") := by
  unfold Event.line Event.text Event.field spawningStart
  apply String.toList_inj.1
  cases capture <;> simp [Event.level, Level.label, Event.target]

/-- There is no line feed in it. -/
theorem lineFeed_notMem_spawning :
    '\n' ∉ ((Event.spawning argv capture).line hidden).toList := by
  have hstart : '\n' ∉ spawningStart.toList := by decide
  have hcapture : '\n' ∉ (if capture then " capture=true" else " capture=false").toList := by
    cases capture <;> simp
  rw [line_spawning, String.toList_append, String.toList_append, List.mem_append, List.mem_append,
    not_or, not_or]
  exact ⟨hstart, Text.lineFeed_notMem_quoteVector hidden argv, hcapture⟩

/-- The line is read. -/
theorem startOf?_spawning :
    startOf? ((Event.spawning argv capture).line hidden).toList = some (argv, capture) := by
  rw [line_spawning, startOf?, String.toList_append, String.toList_append, after?_append,
    Option.bind_some, Text.vector?_quoteVector, Option.bind_some]
  cases capture <;> simp

/-- A text that is read starts like the line, and from its bracket on it leads from outside quotes
to outside. -/
theorem exists_of_startOf? {cs : List Char} {result : List Bytes × Bool}
    (h : startOf? cs = some result) :
    ∃ ds, cs = spawningStart.toList ++ '[' :: ds ∧
      Side.outside.follow ('[' :: ds) = some .outside := by
  obtain ⟨xs, hafter, h⟩ := Option.bind_eq_some_iff.1 h
  obtain ⟨⟨argv, tail⟩, hvector, htail⟩ := Option.bind_eq_some_iff.1 h
  obtain ⟨ds, rfl⟩ := Text.exists_of_vector? hvector
  obtain ⟨start, hcs, hstart⟩ := List.dropPrefix?_eq_some_iff.1 hafter
  refine ⟨ds, by rw [hcs, beq_iff_eq.1 hstart], ?_⟩
  rw [Text.follow_of_vector? hvector]
  dsimp only at htail
  split_ifs at htail with htrue hfalse
  · rw [htrue]
    decide
  · rw [hfalse]
    decide

/-- On no side of quotes does the line lead outside. -/
theorem follow_spawning_ne (s : Side) :
    s.follow ((Event.spawning argv capture).line hidden).toList ≠ some .outside := by
  have hstart : s.follow spawningStart.toList = none ∨
      s.follow spawningStart.toList = some .inside := by
    cases s <;> decide
  have htail : Side.inside.follow
      (if capture then " capture=true" else " capture=false").toList = some .inside := by
    cases capture <;> decide
  rw [line_spawning, String.toList_append, String.toList_append, Side.follow_append]
  rcases hstart with h | h <;> rw [h]
  · nofun
  · rw [Option.bind_some, Side.follow_append]
    rcases Text.keeps_quoteVector hidden argv with h | h <;> rw [h]
    · nofun
    · rw [Option.bind_some, htail]
      nofun

/-- The line starts at no place in front of its start. -/
theorem startOf?_append (c : Char) (front : List Char) :
    startOf? (c :: front ++ ((Event.spawning argv capture).line hidden).toList) = none := by
  rw [Option.eq_none_iff_forall_not_mem]
  intro result h
  obtain ⟨ds, heq, hds⟩ := exists_of_startOf? h
  rcases List.append_eq_append_iff.1 heq with ⟨left, hleft, hline⟩ | ⟨left, hfront, hbracket⟩
  · -- The two starts overlap, but the bracket behind the first one is not in the second one.
    have hlength := congrArg List.length hleft
    simp only [List.length_append, List.length_cons] at hlength
    rw [line_spawning, String.toList_append] at hline
    rcases List.append_eq_append_iff.1 hline with ⟨more, hmore, -⟩ | ⟨more, hmore, hrest⟩
    · have := congrArg List.length hmore
      rw [List.length_append] at this
      omega
    · cases more with
      | nil =>
        rw [List.append_nil] at hmore
        rw [hmore] at hlength
        omega
      | cons d more =>
        have hnone : '[' ∉ spawningStart.toList := by decide
        cases hrest
        exact hnone (hmore ▸ by simp)
  · rw [hbracket, Side.follow_append, Option.bind_eq_some_iff] at hds
    obtain ⟨s, -, hs⟩ := hds
    exact follow_spawning_ne hidden argv capture s hs

/-- **The vector is read back**, and whether output is kept, whatever stands in front. -/
theorem readStart?_append (front : String) :
    readStart? (front ++ (Event.spawning argv capture).line hidden) = some (argv, capture) := by
  rw [readStart?, String.toList_append]
  induction front.toList with
  | nil =>
    have hread := startOf?_spawning hidden argv capture
    rw [List.nil_append]
    cases hline : ((Event.spawning argv capture).line hidden).toList with
    | nil =>
      rw [hline] at hread
      cases hread
    | cons c cs =>
      rw [hline] at hread
      rw [List.tails, List.findSome?_cons, hread]
  | cons c front ih =>
    rw [List.cons_append, List.tails, List.findSome?_cons, ← List.cons_append,
      startOf?_append hidden argv capture c front]
    exact ih

end

/-- A start is preceded by its event. -/
theorem exists_log_eq {σ : Type} (host : Host σ) (program : Bytes) (args : List Bytes)
    (capture : Bool) (state : σ) :
    ∃ log, (execute host (program :: args) capture state).log =
      .spawning (program :: args) capture :: log := by
  rw [execute]
  split <;> exact ⟨_, rfl⟩

/-- **What is printed about keys and vectors is read back.** The line about the runs for a key has
one line feed, at its end, and the key is read back from it, so different keys have different lines.
A timing that succeeds prints such a line about its key. The line about a process that is started
has no line feed, and none with a front that has none. Whatever the front, the whole vector is read
back, and whether output is kept, so lines about different starts are different behind any fronts.
The line is logged before the process is started. All this holds whichever characters are hidden. -/
theorem printed_read_back :
    (∀ (hidden : Char → Bool) (key : String) (r : TimingReport),
      (∃ body, timingLineWith hidden key r = body ++ "\n" ∧ '\n' ∉ body.toList) ∧
      readKey? (timingLineWith hidden key r) = some key) ∧
    (∀ (hidden hidden' : Char → Bool) (key key' : String) (r r' : TimingReport),
      timingLineWith hidden key r = timingLineWith hidden' key' r' → key = key') ∧
    (∀ (σ : Type) (host : Host σ) (a : Cli.Arguments) (state : σ), a.once = false →
      (Cli.probe host a state).1.code = 0 →
      ∃ r, (Cli.probe host a state).1.stdout = timingLineWith Text.isHidden a.key r) ∧
    (∀ (hidden : Char → Bool) (argv : List Bytes) (capture : Bool) (front : String),
      ('\n' ∉ front.toList →
        '\n' ∉ (front ++ (Event.spawning argv capture).line hidden).toList) ∧
      readStart? (front ++ (Event.spawning argv capture).line hidden) = some (argv, capture)) ∧
    (∀ (hidden hidden' : Char → Bool) (argv argv' : List Bytes) (capture capture' : Bool)
      (front front' : String),
      front ++ (Event.spawning argv capture).line hidden =
        front' ++ (Event.spawning argv' capture').line hidden' →
      argv = argv' ∧ capture = capture') ∧
    ∀ (σ : Type) (host : Host σ) (program : Bytes) (args : List Bytes) (capture : Bool) (state : σ),
      ∃ log, (execute host (program :: args) capture state).log =
        .spawning (program :: args) capture :: log := by
  refine ⟨fun hidden key r => ?_, fun hidden hidden' key key' r r' h => ?_,
    fun σ host a state honce hcode => Cli.exists_stdout_eq honce hcode,
    fun hidden argv capture front => ⟨fun hfront => ?_, readStart?_append hidden argv capture front⟩,
    fun hidden hidden' argv argv' capture capture' front front' h => ?_,
    fun σ host => exists_log_eq host⟩
  · exact ⟨exists_timingLineWith_eq hidden key r, readKey?_timingLineWith hidden key r⟩
  · have hread := readKey?_timingLineWith hidden key r
    rw [h, readKey?_timingLineWith] at hread
    exact (Option.some.inj hread).symm
  · rw [String.toList_append, List.mem_append, not_or]
    exact ⟨hfront, lineFeed_notMem_spawning hidden argv capture⟩
  · have hread := readStart?_append hidden argv capture front
    rw [h, readStart?_append] at hread
    cases hread
    exact ⟨rfl, rfl⟩

/-- A key that looks like the end of a report is read back from what the program prints. -/
theorem printed_read_back_forged :
    let a : Cli.Arguments :=
      { key := "k\" runs in 0\n", config := none, program := none, host := none, port := none,
        format := "plain", op := .get, iterations := 1, once := false, verbose := false }
    let host : Host Unit :=
      { spawn := fun _ _ _ state => (.ok ⟨.code 0, [], []⟩, state)
        openFile := fun _ _ => .error .notFound
        clock := fun _ => 0 }
    a.once = false ∧ (Cli.probe host a ()).1.code = 0 ∧
      readKey? (Cli.probe host a ()).1.stdout = some "k\" runs in 0\n" := by
  intro a host
  obtain ⟨hline, -, hprobe, -⟩ := printed_read_back
  have hcode : (Cli.probe host a ()).1.code = 0 := rfl
  obtain ⟨r, hstdout⟩ := hprobe Unit host a () rfl hcode
  exact ⟨rfl, hcode, hstdout ▸ (hline Text.isHidden a.key r).2⟩

end KctlProbe
