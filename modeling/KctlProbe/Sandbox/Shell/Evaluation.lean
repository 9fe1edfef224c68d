import KctlProbe.Sandbox.Shell.Builtin

/-!
# Running commands

What a shell does for each kind of command. The commands inside of one, and the programs, are run by
a `Runner`. Every command has an exit status, and the shell can end where one fails that nobody
tests.
-/

namespace KctlProbe.Sandbox

open Script

/-- The line of a command as complaints name it: within a function, from its first line on. -/
def noteLine (line : Nat) : Action Unit :=
  modifyShell fun s =>
    { s with line := if s.functionLine = 0 then line else line + 1 - s.functionLine }

/-- Ends the shell if a command failed where that is not allowed. -/
def checkStatus (manner : Manner) (status : Nat) : Action Unit := do
  if status ≠ 0 && !manner.tested && 'e' ∈ (← getShell).options then throw (.ended false)

/-- The value of a case's word, and the pattern that a case gives. -/
def patternOf (capture : Option Command → Action Octets) (w : Word) : Action (List Element) := do
  let e ← expandWord capture { tilde := true, pattern := true } w
  return elementsOf (patternText true e.glyphs.toList)

/-- Whether a text matches one of some patterns. -/
def matchesOne (capture : Option Command → Action Octets) (text : Octets) :
    List Word → Action Bool
  | [] => return false
  | w :: ws => do
    if accepts (← patternOf capture w) text then return true
    else matchesOne capture text ws

/-- The body of the first case with a pattern that a text matches. -/
def bodyFor (capture : Option Command → Action Octets) (text : Octets) :
    List (List Word × Option Command) → Action (Option Command)
  | [] => return none
  | (patterns, body) :: rest => do
    if ← matchesOne capture text patterns then return body
    else bodyFor capture text rest

/-- Counts a round of a loop that was left, and says where the shell goes on. -/
def loopSkip : Action Skip := do
  let inner := fun (again : Nat → Skip) (levels : Nat) (whole : Skip) => do
    if levels ≤ 1 then
      modifyShell fun s => { s with skip := .nothing }
      return whole
    else
      modifyShell fun s => { s with skip := again (levels - 1) }
      return .leave (levels - 1)
  match (← getShell).skip with
  | .nothing => return .nothing
  | .leave n => inner .leave n (.leave 0)
  | .again n => inner .again n (.again 0)
  | .back b => return .back b

/-- Whether a loop goes on after a round. -/
def Skip.goesOn : Skip → Bool
  | .nothing | .again _ => true
  | _ => false

/-- Runs the body of a loop for each of some values. -/
def runForEach (run : Runner) (manner : Manner) (name : Octets) (body : Command)
    (values : List Octets) : Action Nat := do
  modifyShell fun s => { s with loops := s.loops + 1 }
  let status ← iterate (fun ((values, status) : List Octets × Nat) => do
    match values with
    | [] => return .inr status
    | value :: rest =>
      assign name value
      let status ← run.command body { tested := manner.tested }
      if (← loopSkip).goesOn then return .inl (rest, status) else return .inr status)
    (values, 0)
  modifyShell fun s => { s with loops := s.loops - 1 }
  return status

/-- Runs the body of a loop as long as its condition holds, or does not hold. -/
def runLoop (run : Runner) (manner : Manner) (whileHolds : Bool) (condition body : Command) :
    Action Nat := do
  modifyShell fun s => { s with loops := s.loops + 1 }
  let status ← iterate (fun (status : Nat) => do
    let tested ← run.command condition { tested := true }
    match ← loopSkip with
    | .nothing =>
      if (tested = 0) ≠ whileHolds then return .inr status
      let status ← run.command body { tested := manner.tested }
      if (← loopSkip).goesOn then return .inl status else return .inr status
    | .again _ => return .inl status
    | .back _ => return .inr tested
    | .leave _ => return .inr status) 0
  modifyShell fun s => { s with loops := s.loops - 1 }
  return status

/-- Runs a command in a shell of its own. -/
def runSubshell (run : Runner) (manner : Manner) (body : Command) (rs : List Redirection) :
    Action Nat := do
  let openings ← expandOpenings (captureOutput run) rs
  let start := applyOpenings (captureOutput run) openings
  if manner.ending && !(← hasTraps) then
    start
    let _ ← run.command body manner
    throw (.ended false)
  else
    let e ← inSubshell run body start { tested := manner.tested }
    announce e
    return statusOf e

/-- What has become of a pipeline: how its last command ended, whether one of the others has more to
write, and when the last of them ended. -/
structure Flow where
  exit : Exit := .code 0
  more : Bool := false
  time : Nat

/-- Runs the commands of a pipeline, each of which reads what the one before has written. -/
def runStages (run : Runner) (manner : Manner) (start : Nat) (flow : Flow) (input : Option Nat) :
    List Command → Action Flow
  | [] => return flow
  | part :: rest => do
    setClock start
    let prepare := match input with
      | some i => attach 0 i
      | none => pure ()
    match rest with
    | [] =>
      let e ← tryCatch (inSubshell run part prepare { tested := manner.tested }) fun stop =>
        throw (if stop = .starved && !flow.more then .exhausted else stop)
      announce e
      return { flow with exit := e, time := max flow.time (← now) }
    | _ :: _ =>
      let output ← newStream (.sink [] (← get).patience)
      let prepare := do
        prepare
        attach 1 output
      let (cut, more) ← tryCatch (do
        let e ← inSubshell run part prepare { tested := manner.tested }
        announce e
        return (false, false)) fun
        | .blocked => return (true, true)
        | .starved => return (true, false)
        | stop => throw stop
      let text ← writtenTo output cut
      let next ← newStream text
      runStages run manner start
        { flow with more := flow.more || more, time := max flow.time (← now) } (some next) rest

/-- The number of bytes that the writer of a pipe is granted at most. -/
def greatestPatience : Nat := 67108864

/-- Runs a pipeline, again with more patience where the last command wants more to read. What it
wants from outside of the pipeline is not tried again. -/
def runPipeline (run : Runner) (manner : Manner) (parts : List Command) : Action Nat := do
  let before ← get
  let start := before.world.clock
  let flow ← iterate (fun (patience : Nat) => do
    set { before with patience }
    tryCatch (do return .inr (← runStages run manner start { time := start } none parts)) fun
      | .starved =>
        if patience < greatestPatience then return .inl (patience * 16) else throw .starved
      | .exhausted => throw .starved
      | stop => throw stop) before.patience
  modify fun m => { m with patience := before.patience }
  setClock (max flow.time (← now))
  return statusOf flow.exit

/-- The number of functions that can be called within each other. -/
def functionDepth : Nat := 1000

/-- Calls a function. -/
def callFunction (run : Runner) (manner : Manner) (line : Nat) (body : Command)
    (args : List Octets) : Action Nat := do
  let s ← getShell
  if functionDepth ≤ s.depth then
    fail ("Maximum function recursion depth (" ++ shown (Octets.ofNat functionDepth) ++ ") reached")
  modifyShell fun s =>
    { s with
      parameters := args
      optionIndex := 1
      optionOffset := none
      functionLine := line
      loops := 0
      depth := s.depth + 1 }
  let restore := modifyShell fun (after : Shell) =>
    { after with
      parameters := s.parameters
      optionIndex := s.optionIndex
      optionOffset := s.optionOffset
      functionLine := s.functionLine
      loops := s.loops
      depth := s.depth
      skip := match after.skip with
        | .back _ => .nothing
        | skip => skip }
  let _ ← tryCatch (run.command body { tested := manner.tested }) fun stop => do
    restore
    throw stop
  restore
  return (← getShell).status

/-- Does what a command of the shell itself does, and gives its status. An error in a special one
ends the shell. -/
def callBuiltin (run : Runner) (manner : Manner) (special : Bool) (word : Octets) (name : String)
    (args : List Octets) : Action Nat := do
  let title := (← getShell).title
  modifyShell fun s => { s with title := some word }
  let back := modifyShell fun (s : Shell) => { s with title }
  tryCatch (do
    let status ← runBuiltin run manner name args
    let written ← releaseHeld
    unless written do warn (shown word ++ ": I/O error")
    let status := if written then status else status ||| 1
    setStatus status
    back
    return status) fun
    | .failed => do
      let _ ← releaseHeld
      back
      if special then throw .failed else return (← getShell).status
    | stop => do
      back
      throw stop

/-- Writes a command before it is run. -/
def trace (run : Runner) (stream : Option Nat) (words : List Octets) : Action Unit := do
  let s ← getShell
  if 'x' ∈ s.options && !s.tracing then
    modifyShell fun s => { s with tracing := true }
    let text := (← valueOf? "PS4".toList).getD []
    let word ← match readText.run { inputs := [{ text }], aliases := s.aliases } with
      | .ok (w, _) => pure w
      | .error refusal =>
        modifyShell fun s => { s with lineRead := refusal.line }
        refuseScript refusal.message
    let start ← expandText (captureOutput run) { quoted := true } word
    modifyShell fun s => { s with tracing := false }
    match stream with
    | some i =>
      let _ ← writeStream i (start ++ Octets.join [' '] words ++ ['\n'])
    | none => pure ()

/-- Expands words until there is a field, and gives the words that are left. -/
def firstFields (capture : Option Command → Action Octets) :
    List Word → Action (List Octets × List Word)
  | [] => return ([], [])
  | w :: ws => do
    match ← expandFields capture w with
    | [] => firstFields capture ws
    | fields => return (fields, ws)

/-- The commands of the shell whose arguments are expanded as assignments where they are some. -/
def assigningBuiltins : List String :=
  ["alias", "export", "local", "readonly"]

/-- What the words at the start of a command say about it. -/
structure Headed where
  /-- The fields in front of the command's name. -/
  before : List Octets := []
  /-- The command's name, and the fields behind it so far. -/
  fields : List Octets := []
  /-- The words that are not expanded yet. -/
  rest : List Word := []
  /-- Whether it is a special command of the shell. -/
  special : Bool := false
  /-- Whether functions are left out. -/
  noFunction : Bool := false
  /-- Whether programs are looked for in the usual places. -/
  usual : Bool := false

/-- Reads the options of `command` in front of another command. Options that ask for something else
make it a command of its own. -/
def Headed.pass (capture : Option Command → Action Octets) :
    Nat → Headed → Action (Option Headed)
  | 0, _ => return none
  | fuel + 1, h => do
    match h.fields with
    | [] =>
      match ← firstFields capture h.rest with
      | ([], _) => return none
      | (fields, rest) => Headed.pass capture fuel { h with fields, rest }
    | field :: fields =>
      let onward := { h with before := h.before ++ [field], fields }
      match field with
      | ['-', '-'] =>
        if !fields.isEmpty then return some onward
        match ← firstFields capture h.rest with
        | ([], _) => return none
        | (fields, rest) => return some { onward with fields, rest }
      | '-' :: c :: cs =>
        if (c :: cs).all (· = 'p') then Headed.pass capture fuel { onward with usual := true }
        else return none
      | _ => return some h

/-- What a name stands for where functions may be left out. -/
def meaningWithout (noFunction : Bool) (name : Octets) : Action Meaning := do
  match ← meaningOf name with
  | .function line body =>
    if noFunction then
      match builtins.find? (·.1.toList = name) with
      | some (builtin, special) => return .builtin builtin special
      | none => return .program
    else return .function line body
  | other => return other

/-- Finds the name of a command behind `command` and its options. -/
def Headed.resolve (capture : Option Command → Action Octets) (first : Bool) :
    Nat → Headed → Action Headed
  | 0, h => return h
  | fuel + 1, h => do
    match h.fields with
    | [] => return h
    | name :: fields =>
      match ← meaningWithout h.noFunction name with
      | .builtin builtin special =>
        let h := if first then { h with special } else h
        if builtin ≠ "command" then return h
        let words := h.rest.length + h.fields.length
        match ← Headed.pass capture (2 * words + 4) { h with before := h.before ++ [name], fields } with
        | none =>
          return h
        | some h => Headed.resolve capture false fuel { h with noFunction := true }
      | _ => return h

/-- Expands the words that are left of a command. -/
def Headed.expand (capture : Option Command → Action Octets) (h : Headed) : Action Headed := do
  let assigning ← match h.fields with
    | [] => pure false
    | name :: _ =>
      match ← meaningWithout h.noFunction name with
      | .builtin builtin _ => pure (decide (builtin ∈ assigningBuiltins))
      | _ => pure false
  let others ← h.rest.mapM fun w => do
    if assigning && isAssignment w then
      return [← expandText capture { assignment := true } w]
    else expandFields capture w
  return { h with fields := h.fields ++ others.flatten, rest := [] }

/-- Runs the command of which the fields are known. -/
def runHeaded (run : Runner) (manner : Manner) (h : Headed) : Action Nat := do
  match h.fields with
  | [] => return (← getShell).outputStatus
  | name :: args =>
    match ← meaningWithout h.noFunction name with
    | .builtin builtin _ => callBuiltin run manner h.special name builtin args
    | .function line body => callFunction run manner line body args
    | .program =>
      let paths ← if h.usual then
          pure ((usualPath.split ':').map fun directory => Files.inDirectory directory name)
        else programPaths name
      let m ← get
      let found := if '/' ∈ name then .ok name
        else findProgram m.world.files m.process.directory .noEntry paths
      match found with
      | .error e =>
        warn (shown name ++ ": " ++ wordsToStart e)
        return 127
      | .ok path =>
        unless '/' ∈ name || h.usual do
          modifyShell fun s => { s with found := bind name path s.found }
        runProgram run manner (if '/' ∈ name then [name] else paths) name args

/-- Runs a command that consists of words. -/
def runSimple (run : Runner) (manner : Manner) (assignments words : List Word)
    (rs : List Redirection) : Action Nat := do
  let capture := captureOutput run
  modifyShell fun s => { s with outputStatus := 0 }
  let (fields, rest) ← firstFields capture words
  let h ← Headed.resolve capture true (words.length + 2) { fields, rest }
  let h ← h.expand capture
  let meaning ← match h.fields with
    | [] => pure none
    | name :: _ => some <$> meaningWithout h.noFunction name
  let replaces := match meaning with
    | some (.builtin "exec" _) => true
    | _ => false
  let hides := meaning.isSome && !h.special
  if hides then openScope
  let errors ← streamOf? 2
  let openings ← expandOpenings capture rs
  let before := (← getProcess).descriptors
  let opened ← tryOpenings capture openings
  let finish := fun (status : Nat) => do
    unless replaces do undoOpenings before openings
    if hides then closeScope
    return status
  if !opened then
    setStatus 2
    if h.special then throw .failed
    finish 2
  else
    let exported := replaces && 1 < h.fields.length
    let texts ← assignments.mapM fun w => do
      let text ← expandText capture { assignment := true } w
      if hides then hide text true
      else
        let (name, value) := parts text
        setVariable name value exported false
      return text
    trace run errors (texts ++ h.before ++ h.fields)
    finish (← runHeaded run manner h)

/-- Runs a command with redirections around it. -/
def runRedirected (run : Runner) (manner : Manner) (body : Command) (rs : List Redirection) :
    Action Nat := do
  let openings ← expandOpenings (captureOutput run) rs
  let before := (← getProcess).descriptors
  let status ←
    if ← tryOpenings (captureOutput run) openings then run.command body { tested := manner.tested }
    else pure 2
  undoOpenings before openings
  return status

/-- Runs a command, apart from what is done before and after every one. -/
def runKind (run : Runner) (manner : Manner) (c : Command) : Action Nat := do
  let keep := fun (status : Nat) => do
    setStatus status
    return status
  let inner : Manner := { tested := manner.tested }
  match c with
  | .simple line assignments words rs =>
    noteLine line
    let status ← runSimple run manner assignments words rs
    keep status
  | .pipeline parts inBackground =>
    if inBackground then
      startSleeper (.pipeline parts false) []
      keep 0
    else keep (← runPipeline run manner parts)
  | .subshell line body rs inBackground =>
    noteLine line
    if inBackground then
      startSleeper body (← expandOpenings (captureOutput run) rs)
      keep 0
    else keep (← runSubshell run manner body rs)
  | .redirected line body rs =>
    noteLine line
    keep (← runRedirected run manner body rs)
  | .negated body =>
    let status ← run.command body { tested := true }
    keep (if status = 0 then 1 else 0)
  | .andThen first second =>
    let status ← run.command first { tested := true }
    if status ≠ 0 || (← getShell).skip ≠ .nothing then return status
    keep (← run.command second manner)
  | .orElse first second =>
    let status ← run.command first { tested := true }
    if status = 0 || (← getShell).skip ≠ .nothing then return status
    keep (← run.command second manner)
  | .sequence first second =>
    let status ← run.command first inner
    if (← getShell).skip ≠ .nothing then return status
    keep (← run.command second manner)
  | .choice condition body otherwise =>
    let status ← run.command condition { tested := true }
    if (← getShell).skip ≠ .nothing then return status
    if status = 0 then keep (← run.command body manner)
    else
      match otherwise with
      | some c => keep (← run.command c manner)
      | none => keep 0
  | .loop whileHolds condition body => keep (← runLoop run manner whileHolds condition body)
  | .forEach line name words body =>
    noteLine line
    let values ← words.mapM (expandFields (captureOutput run))
    keep (← runForEach run manner name body values.flatten)
  | .select line word cases =>
    noteLine line
    let text ← expandText (captureOutput run) { tilde := true } word
    match ← bodyFor (captureOutput run) text cases with
    | some body => keep (← run.command body manner)
    | none => keep 0
  | .define line name body =>
    modifyShell fun s => { s with functions := bind name (line, body) s.functions }
    keep 0

/-- Whether the failure of a command can end the shell. -/
def isChecked : Command → Bool
  | .simple _ _ _ _ | .pipeline _ _ | .subshell _ _ _ _ => true
  | _ => false

/-- Runs a command. -/
def evaluate (run : Runner) (c : Command) (manner : Manner) : Action Nat := do
  runTraps run
  settle run
  let status ← runKind run manner c
  runTraps run
  if isChecked c then checkStatus manner status
  return status

end KctlProbe.Sandbox
