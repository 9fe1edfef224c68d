import KctlProbe.Sandbox.Files
import KctlProbe.Sandbox.Numeral
import KctlProbe.Sandbox.Script.Tree
import KctlProbe.Exit

/-!
# The state of a sandbox that runs

A machine is a sandbox with one process in it, and with the shell that the process runs if it runs
one. Descriptors refer to streams, which processes share, so two descriptors of one stream go on
where the other left off. An `Action` changes the machine and may stop the process.

Commands that would run at the same time run one after the other. What reads a pipe runs after what
writes to it, and the writer is granted a number of bytes, at which it stops as `blocked`. A reader
that wants more than that stops as `starved`, and then the pipe is tried again with more.
-/

namespace KctlProbe.Sandbox

open Script (Command Redirect)

/-- A sandbox: its files and its clock, in nanoseconds. -/
structure World where
  files : Files
  clock : Nat

/-- How a file is open. -/
structure Access where
  reads : Bool := false
  writes : Bool := false
  /-- Whether everything is written to its end. -/
  atEnd : Bool := false

/-- What a descriptor refers to. -/
inductive Stream where
  /-- The bytes that can be read, and whether more would have come. -/
  | source (rest : Octets) (cut : Bool)
  /-- The pieces that were written, the last one first, and how many bytes may follow. -/
  | sink (pieces : List Octets) (room : Nat)
  | device (d : Device)
  | file (node offset : Nat) (access : Access)
  deriving Inhabited

/-- What a program is given by the system. -/
structure Process where
  number : Nat
  parent : Nat := 0
  /-- The streams of the descriptors. -/
  descriptors : List (Nat × Nat)
  directory : Nat
  /-- The permissions that new files do not get. -/
  mask : Nat := 0o022
  environment : List (Octets × Octets) := []
  /-- The signals that do nothing to the process. -/
  ignored : List Nat := []

/-- A variable of a shell, which may have properties but no value. -/
structure Variable where
  value : Option Octets := none
  exported : Bool := false
  readOnly : Bool := false

/-- Where a shell goes on after `break`, `continue` or `return`. -/
inductive Skip where
  | nothing
  /-- After a number of loops. -/
  | leave (levels : Nat)
  /-- With the next round of a loop. -/
  | again (levels : Nat)
  /-- After the function. The status is that of `return` if it was given one. -/
  | back (withStatus : Bool)
  deriving DecidableEq, Repr

/-- The state of a shell. -/
structure Shell where
  /-- The name by which the script was started. -/
  name : Octets
  /-- The command of the shell itself that is done at present. -/
  title : Option Octets := none
  /-- The positional parameters. -/
  parameters : List Octets := []
  /-- The path by which the shell came to its working directory. -/
  place : Octets := ['/']
  bindings : List (Octets × Variable) := []
  /-- For each function that was called, the variables that it hides. -/
  scopes : List (List (Octets × Option Variable)) := []
  functions : List (Octets × Nat × Command) := []
  aliases : List (Octets × Octets) := []
  /-- The exit status of the last command. -/
  status : Nat := 0
  /-- The line that a complaint names. -/
  line : Nat := 0
  /-- The first line of the function that was called, if one was. -/
  functionLine : Nat := 0
  /-- The line up to which the script was read. -/
  lineRead : Nat := 1
  /-- The here documents of the commands that were read. -/
  documents : List (Nat × Script.Word) := []
  /-- Where programs were found. -/
  found : List (Octets × Octets) := []
  /-- The letters of the options that are set. -/
  options : List Char := []
  number : Nat
  /-- The number of the last process that was started in the background. -/
  background : Option Nat := none
  /-- What is done when a signal comes, and at the end of the shell, which counts as signal 0. -/
  traps : List (Nat × Octets) := []
  /-- Signals that came and have a trap. -/
  caught : List Nat := []
  skip : Skip := .nothing
  /-- The number of loops that are run. -/
  loops : Nat := 0
  /-- The exit status of the last script whose output was used. -/
  outputStatus : Nat := 0
  /-- The status with which the shell ends in any case. -/
  finalStatus : Option Nat := none
  /-- The argument at which options are read next, and the place in it. -/
  optionIndex : Nat := 1
  optionOffset : Option Nat := none
  /-- The processes that were started in the background. -/
  jobs : List Nat := []
  /-- Whether a command is being written before it is run. -/
  tracing : Bool := false
  /-- How many functions are called within each other. -/
  depth : Nat := 0
  /-- What a command of the shell itself has written, the last piece first. -/
  held : List Octets := []

/-- A redirection whose word was expanded. -/
structure Opening where
  descriptor : Nat
  action : Redirect
  text : Octets

/-- A command that was started in the background and did not run yet. -/
structure Sleeper where
  process : Process
  shell : Shell
  body : Command
  openings : List Opening
  started : Nat

/-- A signal that comes to a process at a time. -/
structure Alarm where
  time : Nat
  process : Nat
  signal : Nat
  /-- Whether it comes to everything as well that the process waits for. -/
  group : Bool := false

/-- A sandbox that runs. -/
structure Machine where
  world : World
  streams : Array Stream
  /-- The number that the last process got. -/
  lastNumber : Nat
  process : Process
  shell : Shell
  sleepers : List Sleeper := []
  /-- How the processes ended that nobody has waited for. -/
  finished : List (Nat × Exit) := []
  /-- The processes that wait for the current one to end. -/
  waiting : List Nat := []
  /-- The signals that came to them. -/
  signals : List (Nat × Nat) := []
  alarms : List Alarm := []
  /-- When it was last seen which of the sleepers had ended. -/
  settled : Nat := 0
  /-- The number of bytes that the writer of a pipe is granted. -/
  patience : Nat := 65536

/-- Why a process does not go on with its next command. -/
inductive Stop where
  /-- The shell ends, by its own will if `chosen` holds. -/
  | ended (chosen : Bool)
  /-- The shell cannot do what it was told. -/
  | failed
  /-- The process ends as another program that took its place did. -/
  | replaced (exit : Exit)
  /-- The process is killed by a signal. -/
  | killed (signal : Nat)
  /-- The process waits for what does not come. -/
  | starved
  /-- The process writes what nobody has read yet. -/
  | blocked
  /-- The process takes more steps than it is granted. -/
  | exhausted
  deriving DecidableEq, Repr

/-- A step of a process. -/
abbrev Action := ExceptT Stop (StateM Machine)

/-- The state of the process. -/
def getProcess : Action Process :=
  return (← get).process

/-- Changes the state of the process. -/
def modifyProcess (f : Process → Process) : Action Unit :=
  modify fun m => { m with process := f m.process }

/-- The state of the shell. -/
def getShell : Action Shell :=
  return (← get).shell

/-- Changes the state of the shell. -/
def modifyShell (f : Shell → Shell) : Action Unit :=
  modify fun m => { m with shell := f m.shell }

/-- The files of the sandbox. -/
def getFiles : Action Files :=
  return (← get).world.files

/-- Changes the files of the sandbox. -/
def modifyFiles (f : Files → Files) : Action Unit :=
  modify fun m => { m with world := { m.world with files := f m.world.files } }

/-- The time. -/
def now : Action Nat :=
  return (← get).world.clock

/-- The time as it is kept with a file. -/
def fileTime : Action Nat :=
  now

/-- Lets time pass. A signal that comes meanwhile kills the process, or waits for another one. -/
def pass (nanoseconds : Nat) : Action Unit := do
  let m ← get
  let after := m.world.clock + nanoseconds
  let own := fun (a : Alarm) =>
    a.time ≤ after && (a.process = m.process.number || a.group && a.process ∈ m.waiting) &&
      !(a.signal ∈ m.process.ignored)
  match m.alarms.find? own with
  | some a =>
    let others := if a.process = m.process.number then []
      else a.process :: m.waiting.takeWhile (· ≠ a.process)
    set { m with
      world := { m.world with clock := max m.world.clock a.time }
      alarms := if a.group then m.alarms.filter (·.process ≠ a.process) else m.alarms
      signals := m.signals ++ others.map fun n => (n, a.signal) }
    throw (.killed a.signal)
  | none =>
    let due := m.alarms.filter fun a => a.time ≤ after
    set { m with
      world := { m.world with clock := after }
      alarms := m.alarms.filter fun a => after < a.time
      signals := m.signals ++ due.map fun (a : Alarm) => (a.process, a.signal) }

/-- Makes a new stream. -/
def newStream (s : Stream) : Action Nat := do
  let m ← get
  set { m with streams := m.streams.push s }
  return m.streams.size

/-- Changes a stream. -/
def setStream (i : Nat) (s : Stream) : Action Unit :=
  modify fun m => { m with streams := m.streams.setIfInBounds i s }

/-- The number of the stream of a descriptor, if it is open. -/
def streamOf? (descriptor : Nat) : Action (Option Nat) :=
  return (← get).process.descriptors.lookup descriptor

/-- Makes a descriptor refer to a stream. -/
def attach (descriptor stream : Nat) : Action Unit :=
  modifyProcess fun p =>
    { p with descriptors := (descriptor, stream) :: p.descriptors.filter (·.1 ≠ descriptor) }

/-- Closes a descriptor. -/
def close (descriptor : Nat) : Action Unit :=
  modifyProcess fun p => { p with descriptors := p.descriptors.filter (·.1 ≠ descriptor) }

/-- Writes to a stream. The process is blocked if that is more than it is granted. -/
def writeStream (i : Nat) (data : Octets) : Action (Except Errno Unit) := do
  let m ← get
  match m.streams[i]? with
  | some (.sink pieces room) =>
    let size := data.length
    if size ≤ room then
      setStream i (.sink (data :: pieces) (room - size))
      return .ok ()
    else
      setStream i (.sink (data.take room :: pieces) 0)
      throw .blocked
  | some (.file node offset access) =>
    if !access.writes then return .error .badDescriptor
    let size := (m.world.files.node node).size
    let offset := if access.atEnd then size else offset
    let time ← fileTime
    set { m with
      streams := m.streams.setIfInBounds i (.file node (offset + data.length) access)
      world := { m.world with
        files := m.world.files.modify node fun n =>
          match n with
          | ⟨mode, .data bytes, own, _⟩ => ⟨mode, .data (overwrite bytes offset data), own, time⟩
          | n => n } }
    return .ok ()
  | some (.device .full) => return if data.isEmpty then .ok () else .error .noSpace
  | some (.device _) => return .ok ()
  | some (.source _ _) => return .error .badDescriptor
  | none => return .error .badDescriptor

/-- Writes to a descriptor. -/
def write? (descriptor : Nat) (data : Octets) : Action (Except Errno Unit) := do
  match ← streamOf? descriptor with
  | some i => writeStream i data
  | none => return .error .badDescriptor

/-- Writes to a descriptor, whether or not that succeeds. -/
def write (descriptor : Nat) (data : Octets) : Action Unit := do
  let _ ← write? descriptor data

/-- Writes a message to a descriptor. Each of its characters is an octet. -/
def say (descriptor : Nat) (text : String) : Action Unit :=
  write descriptor text.toList

/-- The next bytes of a stream up to a limit, and whether more may come after them. Nothing comes
after the end of a stream. -/
def readStream (i limit : Nat) : Action (Except Errno (Octets × Bool)) := do
  let m ← get
  match m.streams[i]? with
  | some (.source rest cut) =>
    let data := rest.take limit
    setStream i (.source (rest.drop limit) cut)
    return .ok (data, cut || !data.isEmpty)
  | some (.file node offset access) =>
    if !access.reads then return .error .badDescriptor
    match (m.world.files.node node).content with
    | .data bytes =>
      let data := bytesAt bytes offset limit
      setStream i (.file node (offset + data.length) access)
      return .ok (data, !data.isEmpty)
    | .directory _ _ => return .error .isDirectory
    | _ =>
      let data := ((m.world.files.node node).octets.drop offset).take limit
      setStream i (.file node (offset + data.length) access)
      return .ok (data, !data.isEmpty)
  | some (.device .zeros) | some (.device .full) =>
    return .ok (List.replicate (min limit m.patience) '\x00', true)
  | some (.device _) => return .ok ([], false)
  | some (.sink _ _) => return .error .badDescriptor
  | none => return .error .badDescriptor

/-- At most `limit` bytes from a descriptor, nothing only at the end. -/
def readSome (descriptor limit : Nat) : Action (Except Errno Octets) := do
  match ← streamOf? descriptor with
  | none => return .error .badDescriptor
  | some i =>
    match ← readStream i limit with
    | .error e => return .error e
    | .ok ([], true) => if limit = 0 then return .ok [] else throw .starved
    | .ok (data, _) => return .ok data

/-- More bytes than any stream has. -/
def everything : Nat := 4611686018427387904

/-- Everything that can be read from a stream, and whether more would have come. -/
def drainStream (i : Nat) : Action (Except Errno (Octets × Bool)) := do
  let m ← get
  let endless := match m.streams[i]? with
    | some (.source _ cut) => cut
    | some (.device .zeros) | some (.device .full) => true
    | _ => false
  match ← readStream i everything with
  | .error e => return .error e
  | .ok (data, _) => return .ok (data, endless)

/-- Everything that can be read from a descriptor, and whether more would have come. -/
def drain (descriptor : Nat) : Action (Except Errno (Octets × Bool)) := do
  match ← streamOf? descriptor with
  | some i => drainStream i
  | none => return .error .badDescriptor

/-- Puts bytes back that were read from a stream. -/
def unreadStream (i : Nat) (data : Octets) : Action Unit := do
  match (← get).streams[i]? with
  | some (.source rest cut) => setStream i (.source (data ++ rest) cut)
  | some (.file node offset access) => setStream i (.file node (offset - data.length) access)
  | _ => pure ()

/-- The number of bytes from `i` on up to the next newline. -/
def lineLength (bytes : ByteArray) : Nat → Nat → Nat → Nat
  | 0, _, n => n
  | fuel + 1, i, n => if bytes.get! i = 10 then n else lineLength bytes fuel (i + 1) (n + 1)

/-- The next line of a descriptor without its newline, and whether there was one. -/
def readLine (descriptor : Nat) : Action (Except Errno (Octets × Bool)) := do
  let m ← get
  match ← streamOf? descriptor with
  | none => return .error .badDescriptor
  | some i =>
    match m.streams[i]? with
    | some (.source rest cut) =>
      let line := rest.takeWhile (· ≠ '\n')
      match rest.drop line.length with
      | [] =>
        if cut then throw .starved
        setStream i (.source [] cut)
        return .ok (line, false)
      | _ :: rest =>
        setStream i (.source rest cut)
        return .ok (line, true)
    | some (.file node offset access) =>
      if !access.reads then return .error .badDescriptor
      match (m.world.files.node node).content with
      | .data bytes =>
        let n := lineLength bytes (bytes.size - offset) offset 0
        let ended := offset + n < bytes.size
        setStream i (.file node (offset + n + (if ended then 1 else 0)) access)
        return .ok (bytesAt bytes offset n, ended)
      | .directory _ _ => return .error .isDirectory
      | _ => return .ok ([], false)
    | some (.device .zeros) | some (.device .full) => throw .starved
    | some (.device _) => return .ok ([], false)
    | _ => return .error .badDescriptor

/-- What a path leads to from the working directory. -/
def spotOf (path : Octets) (through : Bool) : Action (Except Errno Spot) := do
  let m ← get
  return m.world.files.spot m.process.directory path through

/-- The number of the node at a path. -/
def find (path : Octets) : Action (Except Errno Nat) := do
  let m ← get
  return m.world.files.find m.process.directory path true

/-- How a file is opened. -/
structure Opener extends Access where
  /-- Whether it is made if it is not there. -/
  creates : Bool := false
  /-- Whether it must not be there. -/
  exclusive : Bool := false
  truncates : Bool := false
  mode : Nat := 0o666

/-- Opens a node. -/
def openNode (i : Nat) (how : Opener) : Action (Except Errno Nat) := do
  let m ← get
  let n := m.world.files.node i
  if (how.reads && !n.allows 4) || (how.writes && !n.allows 2) then return .error .denied
  match n.content with
  | .directory _ _ =>
    if how.writes || how.creates then return .error .isDirectory
    else return .ok (← newStream (.file i 0 how.toAccess))
  | .device .terminal => return .error .noDevice
  | .device (.descriptor d) =>
    match m.process.descriptors.lookup d with
    | none => return .error .noEntry
    | some s =>
      match m.streams[s]? with
      | some (.file node _ _) =>
        if how.truncates then
          modifyFiles fun files => files.modify node fun n => { n with content := .data .empty }
        return .ok (← newStream (.file node 0 how.toAccess))
      | _ => return .ok s
  | .device d => return .ok (← newStream (.device d))
  | .data _ =>
    if how.truncates then
      let time ← fileTime
      modifyFiles fun files => files.modify i fun n => { n with content := .data .empty, time }
    return .ok (← newStream (.file i 0 how.toAccess))
  | _ => return .ok (← newStream (.file i 0 how.toAccess))

/-- Makes a node under a name that is free. -/
def createAt (s : Spot) (mode : Nat) (content : Content) : Action (Except Errno Nat) := do
  let m ← get
  let around := m.world.files.node s.directory
  if !(around.allows 2 && around.allows 1) then return .error .denied
  let (files, i) := m.world.files.create s.directory s.name
    { mode := mode &&& (0o7777 ^^^ m.process.mask), content, time := m.world.clock }
  set { m with world := { m.world with files } }
  return .ok i

/-- A path without the slashes at its end, unless there is nothing else. -/
def withoutSlashes (path : Octets) : Octets :=
  let short := (path.reverse.dropWhile (· = '/')).reverse
  if short.isEmpty then path.take 1 else short

/-- Opens a file, and gives its stream. What is named as a directory cannot be made. -/
def openFileAt (path : Octets) (how : Opener) : Action (Except Errno Nat) := do
  let slash := how.creates && path.getLast? = some '/'
  match ← spotOf (if slash then withoutSlashes path else path) true with
  | .error e => return .error e
  | .ok s =>
    if slash then return .error .isDirectory
    match s.node with
    | some i => if how.exclusive then return .error .alreadyExists else openNode i how
    | none =>
      if !how.creates then return .error .noEntry
      else
        match ← createAt s how.mode (.data .empty) with
        | .error e => return .error e
        | .ok i => return .ok (← newStream (.file i 0 how.toAccess))

/-- Whether the names in a directory can be changed. -/
def canChange (directory : Nat) : Action Bool := do
  let n := (← getFiles).node directory
  return n.allows 2 && n.allows 1

/-- Takes a name away. What somebody else has put into a directory for everybody cannot be taken
away there. -/
def removeName (s : Spot) : Action (Except Errno Unit) := do
  let files ← getFiles
  let around := files.node s.directory
  let stays := around.mode &&& 0o1000 ≠ 0 && !around.own && (s.node.map fun i => (files.node i).own) = some false
  if !(← canChange s.directory) then return .error .denied
  else if stays then return .error .notPermitted
  else
    modifyFiles fun files => files.remove s
    return .ok ()

/-- Takes the name of something that is no directory away. -/
def removeFile (path : Octets) : Action (Except Errno Unit) := do
  match ← spotOf path false with
  | .error e => return .error e
  | .ok s =>
    match s.node with
    | none => return .error .noEntry
    | some i =>
      if ((← getFiles).node i).isDirectory then return .error .isDirectory else removeName s

/-- Takes an empty directory away. -/
def removeDirectory (path : Octets) : Action (Except Errno Unit) := do
  match ← spotOf path false with
  | .error e => return .error e
  | .ok s =>
    let files ← getFiles
    match s.node with
    | none => return .error .noEntry
    | some i =>
      if !(files.node i).isDirectory then return .error .notDirectory
      else if s.name.isEmpty then return .error (if i = 0 then .busy else .invalid)
      else if !(files.entries i).isEmpty then
        return .error (if ← canChange s.directory then .notEmpty else .denied)
      else removeName s

/-- Makes a directory. -/
def makeDirectory (path : Octets) (mode : Nat) : Action (Except Errno Unit) := do
  match ← spotOf path false with
  | .error e => return .error e
  | .ok s =>
    if s.node.isSome then return .error .alreadyExists
    match ← createAt s mode (.directory s.directory []) with
    | .ok _ => return .ok ()
    | .error e => return .error e

/-- Opens a file for reading. -/
def openToRead (path : Octets) : Action (Except Errno Nat) :=
  openFileAt path { reads := true }

/-- Opens a file for writing, and makes it if it is not there. -/
def openToWrite (path : Octets) (atEnd : Bool) : Action (Except Errno Nat) :=
  openFileAt path { writes := true, creates := true, atEnd, truncates := !atEnd }

/-- Does something with a stream that nobody keeps. -/
def withStream {α : Type} (opened : Except Errno Nat) (body : Nat → Action (Except Errno α)) :
    Action (Except Errno α) :=
  match opened with
  | .error e => return .error e
  | .ok i => body i

/-- Everything in the file at a path, and whether more would have come. -/
def drainFile (path : Octets) : Action (Except Errno (Octets × Bool)) := do
  withStream (← openToRead path) drainStream

/-- The exit status by which a shell knows how a process ended. -/
def statusOf : Exit → Nat
  | .code n => n.toNat
  | .signal n => n + 128

end KctlProbe.Sandbox
