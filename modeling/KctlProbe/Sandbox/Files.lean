import KctlProbe.Sandbox.Octets
import KctlProbe.Sandbox.Errno

/-!
# The files of a sandbox

Files are nodes that are kept under numbers. A directory names nodes, and one node can have many
names or none, as long as a process has it open. A path is followed name by name, through links, and
the first name that cannot be followed decides the error. What belongs to the system is in every
sandbox, and the user of the sandbox cannot change it.
-/

namespace KctlProbe.Sandbox

/-- A device of the system. -/
inductive Device where
  /-- It swallows everything and delivers nothing. -/
  | null
  /-- It swallows everything and delivers zero bytes without end. -/
  | zeros
  /-- It delivers zero bytes without end and has no room for anything. -/
  | full
  /-- The terminal, which a process of a sandbox does not have. -/
  | terminal
  /-- What a descriptor of the process that asks refers to. -/
  | descriptor (n : Nat)
  deriving DecidableEq, Repr

/-- What a node holds. -/
inductive Content where
  /-- The directory around it, and what it names. -/
  | directory (parent : Nat) (entries : List (Octets × Nat))
  | data (bytes : ByteArray)
  | link (target : Octets)
  /-- A program of the system. -/
  | tool (name : String)
  | device (d : Device)

/-- A node with its permission bits. -/
structure Node where
  mode : Nat
  content : Content
  /-- Whether it belongs to the user of the sandbox. -/
  own : Bool := true
  /-- When it was changed. -/
  time : Nat := 0

instance : Inhabited Node := ⟨{ mode := 0, content := .data .empty }⟩

/-- The files of a sandbox. The root has the number 0. -/
structure Files where
  nodes : Array Node

/-- What a path leads to. -/
structure Spot where
  /-- The directory in which the last name is looked up. -/
  directory : Nat
  /-- The last name, empty if the path ends with the directory itself. -/
  name : Octets
  /-- What has that name, if there is something. -/
  node : Option Nat
  /-- Whether a slash is at the end of the path. -/
  slash : Bool := false

/-- The bytes of a file from `start` on, `n` of them, in front of `rest`. -/
def bytesBefore (bytes : ByteArray) (start : Nat) : Nat → Octets → Octets
  | 0, rest => rest
  | n + 1, rest => bytesBefore bytes start n (Char.ofNat (bytes.get! (start + n)).toNat :: rest)

/-- The bytes of a file from `start` on, at most `n` of them. -/
def bytesAt (bytes : ByteArray) (start n : Nat) : Octets :=
  bytesBefore bytes start (min n (bytes.size - start)) []

/-- Bytes with octets behind them. -/
def pushOctets (bytes : ByteArray) (cs : Octets) : ByteArray :=
  cs.foldl (fun b c => b.push (UInt8.ofNat c.toNat)) bytes

/-- The bytes of octets. -/
def bytesOf (cs : Octets) : ByteArray :=
  pushOctets .empty cs

/-- Bytes after octets were written at an offset. A gap before them is filled with zeros. -/
def overwrite (bytes : ByteArray) (offset : Nat) (cs : Octets) : ByteArray :=
  if bytes.size = offset then pushOctets bytes cs
  else
    let size := bytes.size
    let start := pushOctets (bytes.extract 0 offset) (List.replicate (offset - size) '\x00')
    pushOctets (pushOctets start cs) (bytesAt bytes (offset + cs.length) size)

namespace Node

/-- Whether a node is a directory. -/
def isDirectory (n : Node) : Bool :=
  match n.content with
  | .directory _ _ => true
  | _ => false

/-- Whether a node is a file with data, or a program. -/
def isFile (n : Node) : Bool :=
  match n.content with
  | .data _ => true
  | .tool _ => true
  | _ => false

/-- Whether the user can do something to a node: 4 is to read, 2 to write and 1 to execute it. -/
def allows (n : Node) (bit : Nat) : Bool :=
  (if n.own then n.mode >>> 6 else n.mode) &&& bit ≠ 0

/-- The number of bytes of a node. -/
def size (n : Node) : Nat :=
  match n.content with
  | .data bytes => bytes.size
  | .link target => target.length
  | .directory _ _ => 4096
  | .tool _ => 35000
  | .device _ => 0

/-- What can be read of a node. -/
def octets (n : Node) : Octets :=
  match n.content with
  | .data bytes => bytesAt bytes 0 bytes.size
  | .tool _ => '\x7F' :: "ELF".toList
  | _ => []

end Node

namespace Files

/-- The node with a number. -/
def node (files : Files) (i : Nat) : Node :=
  files.nodes.getD i default

/-- The files with a change of a node. -/
def modify (files : Files) (i : Nat) (f : Node → Node) : Files :=
  ⟨files.nodes.modify i f⟩

/-- What a directory names, nothing if it is none. -/
def entries (files : Files) (i : Nat) : List (Octets × Nat) :=
  match (files.node i).content with
  | .directory _ entries => entries
  | _ => []

/-- The names in a directory, in order. -/
def names (files : Files) (i : Nat) : List Octets :=
  ((files.entries i).map (·.1)).mergeSort fun a b => !Octets.precedes b a

/-- The directory around a directory. -/
def parent (files : Files) (i : Nat) : Nat :=
  match (files.node i).content with
  | .directory parent _ => parent
  | _ => 0

/-- The files with a change of what a directory names. -/
def modifyEntries (files : Files) (i : Nat) (f : List (Octets × Nat) → List (Octets × Nat)) :
    Files :=
  files.modify i fun n =>
    match n.content with
    | .directory parent entries => { n with content := .directory parent (f entries) }
    | _ => n

/-- The files with a name for a node. -/
def enter (files : Files) (directory : Nat) (name : Octets) (i : Nat) : Files :=
  files.modifyEntries directory fun es => (name, i) :: es.filter (·.1 ≠ name)

/-- The files without a name. -/
def leave (files : Files) (directory : Nat) (name : Octets) : Files :=
  files.modifyEntries directory fun es => es.filter (·.1 ≠ name)

/-- The files with a new node under a name, and its number. -/
def create (files : Files) (directory : Nat) (name : Octets) (n : Node) : Files × Nat :=
  let i := files.nodes.size
  (Files.enter ⟨files.nodes.push n⟩ directory name i, i)

/-- A new directory. -/
def newDirectory (parent mode : Nat) : Node :=
  { mode, content := .directory parent [] }

/-- Follows names from the directory `here`, through at most `links` links. What has the last name
is looked at through a link only if `through` holds, and it need not be there. -/
def walk (files : Files) (through : Bool) : Nat → Nat → Nat → List Octets → Except Errno Spot
  | 0, _, _, _ => .error .linkLoop
  | _ + 1, _, here, [] => .ok ⟨here, [], some here, false⟩
  | fuel + 1, links, here, name :: rest =>
    let n := files.node here
    match n.content with
    | .directory parent entries =>
      if !n.allows 1 then .error .denied
      else if name = [] ∨ name = ['.'] then walk files through fuel links here rest
      else if name = ['.', '.'] then walk files through fuel links parent rest
      else if 255 < name.length then .error .nameTooLong
      else
        let last := rest.all (·.isEmpty)
        match entries.lookup name with
        | none => if last then .ok ⟨here, name, none, !rest.isEmpty⟩ else .error .noEntry
        | some i =>
          match (files.node i).content with
          | .link target =>
            if rest.isEmpty && !through then .ok ⟨here, name, some i, false⟩
            else
              match links with
              | 0 => .error .linkLoop
              | links + 1 =>
                let start := if target.head? = some '/' then 0 else here
                walk files through fuel links start (target.split '/' ++ rest)
          | .directory _ _ =>
            if last then .ok ⟨here, name, some i, !rest.isEmpty⟩
            else walk files through fuel links i rest
          | _ => if rest.isEmpty then .ok ⟨here, name, some i, false⟩ else .error .notDirectory
    | _ => .error .notDirectory

/-- The spot that a path leads to from directory `here`. -/
def spot (files : Files) (here : Nat) (path : Octets) (through : Bool) : Except Errno Spot :=
  if '\x00' ∈ path then .error .invalid
  else if path.isEmpty then .error .noEntry
  else if 4096 ≤ path.length then .error .nameTooLong
  else
    walk files through (path.length + 200000) 40 (if path.head? = some '/' then 0 else here)
      (path.split '/')

/-- The node that a path leads to. -/
def find (files : Files) (here : Nat) (path : Octets) (through : Bool) :
    Except Errno Nat :=
  (files.spot here path through).bind fun s =>
    match s.node with
    | some i => .ok i
    | none => .error .noEntry

/-- The names on the way from the root to a directory. -/
def way (files : Files) : Nat → Nat → List Octets → List Octets
  | 0, _, done => done
  | fuel + 1, i, done =>
    if i = 0 then done
    else
      let around := files.parent i
      match (files.entries around).find? (·.2 = i) with
      | some (name, _) => way files fuel around (name :: done)
      | none => done

/-- The path of a directory. -/
def pathOf (files : Files) (i : Nat) : Octets :=
  '/' :: Octets.join ['/'] (files.way files.nodes.size i [])

/-- The files with a directory where a path leads, and with the directories on the way to it. -/
def makeDirectories (files : Files) : Nat → List Octets → Files × Nat
  | here, [] => (files, here)
  | here, name :: rest =>
    if name = [] ∨ name = ['.'] then makeDirectories files here rest
    else if name = ['.', '.'] then makeDirectories files (files.parent here) rest
    else
      match (files.entries here).lookup name with
      | some i =>
        if (files.node i).isDirectory then makeDirectories files i rest else (files, here)
      | none =>
        let (files, i) := files.create here name (newDirectory here 0o755)
        makeDirectories files i rest

/-- The files without a node and what is below it, given where it is named. -/
def remove (files : Files) (s : Spot) : Files :=
  files.leave s.directory s.name

end Files

/-- The programs of the system. -/
def toolNames : List String :=
  ["[", "arch", "base32", "base64", "basename", "cat", "chmod", "cksum", "cmp", "comm", "cp",
    "cut", "dash", "dd", "diff", "dir", "dirname", "echo", "egrep", "env", "expand", "expr",
    "factor", "false", "fgrep", "find", "fold", "grep", "groups", "head", "id", "join",
    "kill", "link", "ln", "logname", "ls", "md5sum", "mkdir", "mktemp", "mv", "nice", "nl",
    "nohup", "od", "paste", "printenv", "printf", "pwd", "readlink", "realpath", "rev", "rm",
    "rmdir", "sed", "seq", "setsid", "sh", "sha1sum", "sha224sum", "sha256sum", "sha384sum",
    "sha512sum", "shuf", "sleep", "sort", "split", "stat", "stdbuf", "sum", "sync", "tac",
    "tail", "tee", "test", "timeout", "touch", "tr", "true", "truncate", "tsort", "tty",
    "uname", "unexpand", "uniq", "unlink", "wc", "which", "whoami", "xargs", "yes"]

/-- The path of the directory in which a sandbox starts. -/
def scratchPath : Octets :=
  "/tmp/scratch".toList

/-- The directories of the system, with their permission bits. -/
def systemDirectories : List (String × Nat) :=
  [("usr/bin", 0o755), ("usr/sbin", 0o755), ("usr/lib", 0o755), ("usr/local/bin", 0o755),
    ("usr/local/sbin", 0o755), ("boot", 0o755), ("dev", 0o755), ("etc", 0o755), ("home", 0o755),
    ("media", 0o755), ("mnt", 0o755), ("opt", 0o755), ("proc", 0o555), ("root", 0o700),
    ("run", 0o755), ("srv", 0o755), ("sys", 0o555), ("tmp", 0o1777), ("var/tmp", 0o1777)]

namespace Files

/-- The files with a node of the system in a directory. -/
def withSystem (files : Files) (directory : Nat) (name : String) (mode : Nat)
    (content : Content) : Files :=
  (files.create directory name.toList { mode, content, own := false }).1

/-- The number of a node of the system. -/
def systemNode (files : Files) (path : String) : Nat :=
  match files.find 0 path.toList true with
  | .ok i => i
  | .error _ => 0

/-- The files that every sandbox has. -/
def system : Files :=
  let files : Files := ⟨#[newDirectory 0 0o755]⟩
  let files := systemDirectories.foldl (fun files (path, mode) =>
    let (files, i) := files.makeDirectories 0 (Octets.split '/' path.toList)
    files.modify i fun n => { n with mode }) files
  let files : Files := ⟨files.nodes.map fun n => { n with own := false }⟩
  let files := ["bin", "sbin", "lib"].foldl (fun files name =>
    files.withSystem 0 name 0o777 (.link ("usr/" ++ name).toList)) files
  let dev := files.systemNode "/dev"
  let files := [("null", Device.null), ("zero", .zeros), ("full", .full), ("tty", .terminal),
      ("stdin", .descriptor 0), ("stdout", .descriptor 1), ("stderr", .descriptor 2)].foldl
    (fun files (name, d) => files.withSystem dev name 0o666 (.device d)) files
  let (files, fds) := files.create dev "fd".toList (newDirectory dev 0o555)
  let files := (List.range 10).foldl (fun files n =>
    files.withSystem fds (shown (Octets.ofNat n)) 0o666 (.device (.descriptor n))) files
  let files := files.withSystem (files.systemNode "/etc") "passwd" 0o644
    (.data (bytesOf "root:x:0:0:root:/root:/bin/bash\n".toList))
  let tools := files.systemNode "/usr/bin"
  toolNames.foldl (fun files name =>
    files.withSystem tools name 0o755 (.tool name)) files

/-- The files of a sandbox in which nothing was made. -/
def empty : Files :=
  (system.makeDirectories 0 (scratchPath.split '/')).1

/-- The directory in which a sandbox starts. -/
def scratch : Nat :=
  system.nodes.size

end Files

end KctlProbe.Sandbox
