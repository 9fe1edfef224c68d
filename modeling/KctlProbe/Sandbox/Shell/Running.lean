import KctlProbe.Sandbox.Shell.Redirecting
import KctlProbe.Sandbox.Shell.Signal
import KctlProbe.Sandbox.Script.Grammar
import KctlProbe.Sandbox.Launch

/-!
# Running scripts

A script is run one complete command after the other, as it is read. How commands are run and how
programs are started is a parameter here, a `Runner`. A shell ends when its script does, when it is
told to or when it fails, and then it does what its trap for that says.
-/

namespace KctlProbe.Sandbox

open Script

/-- How a command is run. -/
structure Manner where
  /-- Its status is looked at, so that it may fail. -/
  tested : Bool := false
  /-- The shell ends with it. -/
  ending : Bool := false

/-- How commands are run and programs are started. A command has an exit status. -/
structure Runner where
  command : Command → Manner → Action Nat
  program : Launch → Action Exit

/-- Takes steps until one of them gives a result. -/
def iterateFrom {α β : Type} (step : α → Action (α ⊕ β)) :
    Nat → α → Machine → Except Stop β × Machine
  | 0, _, m => (.error .exhausted, m)
  | n + 1, a, m =>
    match (step a).run.run m with
    | (.ok (.inl a), m) => iterateFrom step n a m
    | (.ok (.inr b), m) => (.ok b, m)
    | (.error stop, m) => (.error stop, m)

/-- The number of steps that a loop is granted. -/
def roundsGranted : Nat := 100000000

/-- Takes steps until one of them gives a result. -/
def iterate {α β : Type} (step : α → Action (α ⊕ β)) (a : α) : Action β :=
  fun m => iterateFrom step roundsGranted a m

/-- Shows lines of a script that were read, if the shell is told to. -/
def showLines (lines : List Octets) : Action Unit := do
  if 'v' ∈ (← getShell).options then write 2 lines.flatten

/-- The text of a script that was not read yet. -/
def textLeft (r : Reader) : Octets :=
  match r.inputs.getLast? with
  | some input => input.text
  | none => []

/-- Reads the next complete command of a script, and shows its lines if it is from a file. -/
def readNext (isFile : Bool) (r : Reader) : Action (Reply × Reader) := do
  let s ← getShell
  let shows := isFile && 'v' ∈ s.options
  match readComplete { r with
      aliases := s.aliases, documents := [], nextDocument := s.documents.length } with
  | .ok (reply, after) =>
    if shows then
      let before := textLeft r
      showLines (Octets.lines (before.take (before.length - (textLeft after).length)))
    modifyShell fun s =>
      { s with lineRead := after.line, documents := after.documents ++ s.documents }
    return (reply, after)
  | .error refusal =>
    if shows then showLines ((Octets.lines (textLeft r)).take (refusal.line + 1 - r.line))
    modifyShell fun s => { s with lineRead := refusal.line }
    refuseScript refusal.message

/-- What can be read of a script after its text was used up. -/
def moreText (source : Option Nat) : Action Octets := do
  match source with
  | none => return []
  | some i =>
    match ← drainStream i with
    | .ok (text, _) => return text
    | .error _ => return []

/-- Runs a script, a text or what is in a file. A file is left where a command says so, with
everything that it asked for. -/
def runScript (run : Runner) (source : Option Nat) (manner : Manner) (text : Octets) :
    Action Nat := do
  let before := (← getShell).lineRead
  modifyShell fun s => { s with lineRead := 1 }
  let status ← iterate (fun ((r, status) : Reader × Nat) => do
    let (reply, r) ← readNext source.isSome r
    match reply with
    | .finished =>
      match ← moreText source with
      | [] => return .inr status
      | text => return .inl ({ inputs := [{ text }], line := r.line }, status)
    | .command c =>
      let atEnd := r.again && r.token = .endOfFile
      let status ← match c with
        | some c =>
          if 'n' ∈ (← getShell).options then pure status
          else run.command c { manner with ending := manner.ending && atEnd }
        | none => pure status
      match (← getShell).skip with
      | .nothing => return .inl (r, status)
      | .back _ =>
        if source.isSome then modifyShell fun s => { s with skip := .nothing }
        return .inr status
      | _ => return .inr status)
    ({ inputs := [{ text }] }, 0)
  modifyShell fun s => { s with lineRead := before }
  return status

/-- Runs a script that is a text. -/
def runText (run : Runner) (manner : Manner) (text : Octets) : Action Nat :=
  runScript run none manner text

/-- Runs a script that is in a file. -/
def runFile (run : Runner) (stream : Nat) : Action Nat :=
  runScript run (some stream) {} []

/-- Does what traps say for the signals that came. -/
def runTraps (run : Runner) : Action Unit := do
  let s ← getShell
  unless s.caught.isEmpty do
    let before := s.finalStatus
    let status := before.getD s.status
    modifyShell fun s => { s with caught := [], finalStatus := some status }
    for signal in s.caught.eraseDups.mergeSort do
      if (← getShell).skip ≠ .nothing then
        modifyShell fun s => { s with caught := s.caught ++ [signal] }
      else
        match (← getShell).traps.lookup signal with
        | none => pure ()
        | some action =>
          let _ ← runText run {} action
          if (← getShell).skip ≠ .back true then setStatus status
    modifyShell fun s => { s with finalStatus := before }

/-- Ends a shell. Its status is the one it chose to end with, if it did; and a trap for the end can
choose another one. -/
def conclude (run : Runner) (chosen : Bool) : Action Exit := do
  let reset := fun (chosen : Bool) => modifyShell fun s =>
    { s with
      status := if chosen then s.finalStatus.getD s.status else s.status
      finalStatus := none
      skip := .nothing
      loops := 0
      tracing := false
      title := none }
  reset chosen
  match (← getShell).traps.lookup 0 with
  | none => pure ()
  | some action =>
    modifyShell fun s =>
      { s with traps := s.traps.filter (·.1 ≠ 0), finalStatus := some s.status }
    let chosen ← tryCatch (do
      let _ ← runText run {} action
      return true) fun
      | .ended chosen => return chosen
      | .failed => return false
      | stop => throw stop
    reset chosen
  let _ ← releaseHeld
  return .code (UInt8.ofNat (← getShell).status)

/-- Does what a shell does until it ends. -/
def untilEnd (run : Runner) (body : Action Unit) : Action Exit :=
  tryCatch (do
    let chosen ← tryCatch (do body; return false) fun
      | .ended chosen => return chosen
      | .failed => return false
      | stop => throw stop
    conclude run chosen) fun
    | .replaced e => return e
    | .killed signal => return .signal signal
    | stop => throw stop

/-- Does something in a new process, which shares what it has open with the current one. -/
def inChild (body : Action Exit) : Action Exit := do
  let before ← get
  let number := before.lastNumber + 1
  set { before with
    lastNumber := number
    waiting := before.process.number :: before.waiting
    process := { before.process with number, parent := before.process.number } }
  let back := modify fun (m : Machine) =>
    { m with process := before.process, shell := before.shell, waiting := before.waiting }
  let e ← tryCatch body fun
    | .replaced e => return e
    | .killed signal => return .signal signal
    | stop => do
      back
      throw stop
  back
  receiveAll
  return e

/-- The state of a shell that another shell starts for some commands. Traps do not hold there, but
`trap` alone can still show them. -/
def Shell.forked (s : Shell) (body : Command) : Shell :=
  let shows := match body with
    | .simple _ _ (w :: _) _ => bareText? w == some "trap".toList
    | _ => false
  { s with
    traps := if shows then s.traps else s.traps.filter (·.2.isEmpty)
    caught := []
    jobs := if shows then s.jobs else []
    finalStatus := none }

/-- Runs a command in a shell of its own. -/
def inSubshell (run : Runner) (body : Command) (before : Action Unit) (manner : Manner) :
    Action Exit :=
  inChild do
    modifyShell (·.forked body)
    untilEnd run do
      before
      let _ ← run.command body { manner with ending := true }

/-- What the writer of a pipe has written to it, and whether it would have gone on. -/
def writtenTo (i : Nat) (cut : Bool) : Action Stream := do
  match (← get).streams[i]? with
  | some (.sink pieces _) =>
    setStream i (.sink [] 0)
    return .source pieces.reverse.flatten cut
  | _ => return .source [] cut

/-- The bytes that a script can write where its output is used. -/
def outputGranted : Nat := 67108864

/-- What a script writes. Its status is kept for a command without words. -/
def captureOutput (run : Runner) (script : Option Command) : Action Octets := do
  match script with
  | none => return []
  | some c =>
    let i ← newStream (.sink [] outputGranted)
    let e ← inSubshell run c (attach 1 i) {}
    announce e
    modifyShell fun s => { s with outputStatus := statusOf e }
    match ← writtenTo i false with
    | .source text _ => return text
    | _ => return []

end KctlProbe.Sandbox
