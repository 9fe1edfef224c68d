import KctlProbe.Sandbox.Tool
import KctlProbe.Host

/-!
# A sandbox as a host

A sandbox in which programs can be started and files opened, so that the tool can be played by a
script. A process starts in the scratch directory, finds nothing to read, and ends before the next
one starts. A start takes a fixed time on the clock, so measured times are positive and repeatable.
-/

namespace KctlProbe.Sandbox

namespace World

/-- A sandbox in which nothing was made. -/
def empty : World := ⟨.empty, 0⟩

/-- Makes the directories on the way to a path, as far as there are none. -/
def makeWay (files : Files) (path : Octets) : Files :=
  let front := path.take (path.length - (path.reverse.takeWhile (· ≠ '/')).length)
  if front.isEmpty then files
  else
    let start := if path.head? = some '/' then 0 else Files.scratch
    (files.makeDirectories start (Octets.split '/' front)).1

/-- The sandbox with a file of the given permission bits. -/
def withFile (w : World) (path : Bytes) (mode : Nat) (data : Bytes) : World :=
  let path := Octets.ofBytes path
  let content := Content.data (bytesOf (Octets.ofBytes data))
  let files := makeWay w.files path
  match files.spot Files.scratch path true with
  | .error _ => w
  | .ok s =>
    match s.node with
    | some i =>
      if (files.node i).isDirectory then { w with files }
      else { w with files := files.modify i fun n => { n with mode, content, time := w.clock } }
    | none =>
      { w with files := (files.create s.directory s.name { mode, content, time := w.clock }).1 }

/-- The sandbox with a directory. -/
def withDirectory (w : World) (path : Bytes) : World :=
  let path := Octets.ofBytes path
  let start := if path.head? = some '/' then 0 else Files.scratch
  { w with files := (w.files.makeDirectories start (path.split '/')).1 }

/-- The sandbox without what is at a path. -/
def without (w : World) (path : Bytes) : World :=
  match w.files.spot Files.scratch (Octets.ofBytes path) false with
  | .error _ => w
  | .ok s => if s.name.isEmpty then w else { w with files := w.files.remove s }

/-- The data of a file. -/
def read? (w : World) (path : Bytes) : Option Bytes :=
  match w.files.find Files.scratch (Octets.ofBytes path) true with
  | .error _ => none
  | .ok i =>
    let n := w.files.node i
    match n.content with
    | .directory _ _ => none
    | .device .terminal => none
    | _ => if n.allows 4 then some (Octets.toBytes n.octets) else none

end World

/-- The number of nested steps that a process is granted. -/
def processFuel : Nat := 9000

/-- The number of a process that the host starts. -/
def firstNumber : Nat := 4242

/-- The number of the process that runs the host. -/
def hostNumber : Nat := 4241

/-- The bytes that a process can write. -/
def writingGranted : Nat := 268435456

/-- The environment of processes. -/
def firstEnvironment : List (Octets × Octets) :=
  [("PATH".toList, usualPath), ("HOME".toList, "/root".toList)]

/-- A process that has just been started, with nothing to read. -/
def newMachine (w : World) (capture : Bool) : Machine :=
  let output := if capture then Stream.sink [] writingGranted else .device .null
  { world := w
    streams := #[.device .null, output, output]
    lastNumber := firstNumber
    process := {
      number := firstNumber
      parent := hostNumber
      descriptors := [(0, 0), (1, 1), (2, 2)]
      directory := Files.scratch
      environment := firstEnvironment }
    shell := { name := [], number := firstNumber } }

/-- How a process ended that stopped for a reason. A process that does not end by itself is
killed. -/
def exitOf : Stop → Exit
  | .replaced e => e
  | .killed signal => .signal signal
  | .ended _ | .failed => .code 2
  | .starved | .blocked | .exhausted => .signal 9

/-- What was written to a stream. -/
def writtenBytes (m : Machine) (i : Nat) : Bytes :=
  match m.streams[i]? with
  | some (.sink pieces _) => Octets.toBytes pieces.reverse.flatten
  | _ => []

/-- Whether a command in the background can still write what is captured. -/
def holdsOutput (s : Sleeper) : Bool :=
  s.process.descriptors.any fun (_, i) => i = 1 || i = 2

/-- Runs the commands that are left in the background: those that can still write what is captured,
and those that have ended by then. -/
def runLeft (run : Runner) : Nat → Action Unit
  | 0 => pure ()
  | fuel + 1 => do
    match (← get).sleepers.find? holdsOutput with
    | some s =>
      let _ ← runSleeper run s
      runLeft run fuel
    | none => settleAll run (← get).sleepers

/-- The number of commands that are left in the background at most. -/
def leftGranted : Nat := 1000

/-- Starts a program and waits until it ends. -/
def spawn (program : Bytes) (args : List Bytes) (capture : Bool) (w : World) :
    Except OsError Child × World :=
  let name := Octets.ofBytes program
  match w.files.launch Files.scratch name (args.map Octets.ofBytes) with
  | .error e => (.error e.toOsError, { w with clock := w.clock + startTime })
  | .ok launch =>
    let run := runnerOf processFuel
    let (result, m) := (run.program launch).run.run (newMachine w capture)
    let exit := match result with
      | .ok e => e
      | .error stop => exitOf stop
    let (_, m) := (runLeft run leftGranted).run.run m
    (.ok { exit, stdout := writtenBytes m 1, stderr := writtenBytes m 2 }, m.world)

/-- Opens a file for reading. -/
def openFile (path : Bytes) (w : World) : Except OsError Json.Source :=
  match w.files.find Files.scratch (Octets.ofBytes path) true with
  | .error e => .error e.toOsError
  | .ok i =>
    let n := w.files.node i
    if !n.allows 4 then .error .permissionDenied
    else
      match n.content with
      | .directory _ _ => .ok (.failed .isADirectory)
      | .device .terminal => .error .other
      | .device .zeros | .device .full => .ok (.byte 0 .finished)
      | _ => .ok (Json.Source.ofBytes (Octets.toBytes n.octets))

/-- The sandbox as a host. -/
def host : Host World :=
  Host.guarded { spawn, openFile, clock := World.clock }

end KctlProbe.Sandbox
