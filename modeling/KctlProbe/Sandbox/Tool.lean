import KctlProbe.Sandbox.Shell
import KctlProbe.Sandbox.Tool.Batching
import KctlProbe.Sandbox.Tool.Column
import KctlProbe.Sandbox.Tool.Comparing
import KctlProbe.Sandbox.Tool.Copying
import KctlProbe.Sandbox.Tool.Digesting
import KctlProbe.Sandbox.Tool.Dump
import KctlProbe.Sandbox.Tool.Editing
import KctlProbe.Sandbox.Tool.Encoding
import KctlProbe.Sandbox.Tool.Formatted
import KctlProbe.Sandbox.Tool.Listing
import KctlProbe.Sandbox.Tool.Numbering
import KctlProbe.Sandbox.Tool.Portion
import KctlProbe.Sandbox.Tool.Reckoning
import KctlProbe.Sandbox.Tool.Searching
import KctlProbe.Sandbox.Tool.Sorting
import KctlProbe.Sandbox.Tool.Surroundings
import KctlProbe.Sandbox.Tool.Tally
import KctlProbe.Sandbox.Tool.Transfer
import KctlProbe.Sandbox.Tool.Translation
import KctlProbe.Sandbox.Tool.Tree
import KctlProbe.Sandbox.Tool.Truth
import KctlProbe.Sandbox.Tool.Width
import KctlProbe.Sandbox.Tool.Words

/-!
# The tools of a sandbox

The programs of the system by their names.
-/

namespace KctlProbe.Sandbox

/-- What a tool does that starts no programs. -/
def plainTool? (name : String) : Option (List Octets → Tool Nat) :=
  match name with
  | "[" => some Tool.bracketTool
  | "arch" => some Tool.archTool
  | "base32" => some Tool.base32Tool
  | "base64" => some Tool.base64Tool
  | "basename" => some Tool.basenameTool
  | "cat" => some Tool.catTool
  | "chmod" => some Tool.chmodTool
  | "cksum" => some Tool.cksumTool
  | "comm" => some Tool.commTool
  | "cp" => some Tool.cpTool
  | "cut" => some Tool.cutTool
  | "dir" => some Tool.lsTool
  | "dirname" => some Tool.dirnameTool
  | "echo" => some Tool.echoTool
  | "egrep" => some Tool.egrepTool
  | "expand" => some Tool.expandTool
  | "expr" => some Tool.exprTool
  | "false" => some Tool.falseTool
  | "fgrep" => some Tool.fgrepTool
  | "fold" => some Tool.foldTool
  | "grep" => some Tool.grepTool
  | "groups" => some Tool.groupsTool
  | "head" => some Tool.headTool
  | "id" => some Tool.idTool
  | "join" => some Tool.joinTool
  | "kill" => some Tool.killTool
  | "link" => some Tool.linkTool
  | "ln" => some Tool.lnTool
  | "logname" => some Tool.lognameTool
  | "ls" => some Tool.lsTool
  | "mkdir" => some Tool.mkdirTool
  | "mktemp" => some Tool.mktempTool
  | "mv" => some Tool.mvTool
  | "nl" => some Tool.nlTool
  | "od" => some Tool.odTool
  | "paste" => some Tool.pasteTool
  | "printenv" => some Tool.printenvTool
  | "printf" => some Tool.printfTool
  | "pwd" => some Tool.pwdTool
  | "readlink" => some Tool.readlinkTool
  | "realpath" => some Tool.realpathTool
  | "rev" => some Tool.revTool
  | "rm" => some Tool.rmTool
  | "rmdir" => some Tool.rmdirTool
  | "sed" => some Tool.sedTool
  | "seq" => some Tool.seqTool
  | "sleep" => some Tool.sleepTool
  | "sort" => some Tool.sortTool
  | "stat" => some Tool.statTool
  | "sum" => some Tool.sumTool
  | "sync" => some Tool.syncTool
  | "tac" => some Tool.tacTool
  | "tail" => some Tool.tailTool
  | "tee" => some Tool.teeTool
  | "test" => some Tool.testTool
  | "touch" => some Tool.touchTool
  | "tr" => some Tool.trTool
  | "true" => some Tool.trueTool
  | "truncate" => some Tool.truncateTool
  | "tty" => some Tool.ttyTool
  | "uname" => some Tool.unameTool
  | "unexpand" => some Tool.unexpandTool
  | "uniq" => some Tool.uniqTool
  | "unlink" => some Tool.unlinkTool
  | "wc" => some Tool.wcTool
  | "which" => some Tool.whichTool
  | "whoami" => some Tool.whoamiTool
  | "yes" => some Tool.yesTool
  | name => (Tool.digestKind? name).map Tool.digestTool

/-- What a tool does that starts programs. -/
def startingTool? (name : String) : Option (Runner → List Octets → Tool Nat) :=
  match name with
  | "env" => some Tool.envTool
  | "nice" => some Tool.niceTool
  | "nohup" => some Tool.nohupTool
  | "setsid" => some Tool.setsidTool
  | "stdbuf" => some Tool.stdbufTool
  | "timeout" => some Tool.timeoutTool
  | "xargs" => some Tool.xargsTool
  | _ => none

/-- Runs a tool of the system. -/
def runTool (run : Runner) (l : Launch) : Action Exit := do
  match l.tool with
  | "sh" | "dash" => shellTool run l
  | name =>
    match (plainTool? name).or ((startingTool? name).map (· run)) with
    | some tool => return .code (UInt8.ofNat (← Tool.status (tool l.arguments) l.name))
    | none => return .code 127

/-- The nanoseconds that starting a process takes. -/
def startTime : Nat := 1000000

/-- Runs commands and programs that are nested at most so deep. A process that nests them deeper runs
out of memory for that, and is killed. -/
def runnerOf : Nat → Runner
  | 0 => {
    command := fun _ _ => throw (.killed 11)
    program := fun _ => throw (.killed 11) }
  | n + 1 => {
    command := fun c manner => evaluate (runnerOf n) c manner
    program := fun l => do
      pass startTime
      runTool (runnerOf n) l }

end KctlProbe.Sandbox
