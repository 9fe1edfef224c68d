import KctlProbe.Cli.Request
import KctlProbe.Cli.Help
import KctlProbe.Settings.File
import KctlProbe.Timing
import KctlProbe.Text.Hidden

/-!
# Timing lookups from the command line

The program times a lookup of one key, or runs it once and shows what the tool wrote. Settings come
from the configuration file, and the program, the host and the port can be given on the command
line, which wins. What happens is decided in this order: the configuration is loaded, the print
format is looked up, and only then a process is started.
-/

namespace KctlProbe.Cli

/-- What the program leaves behind: its exit code, what it printed, and what happened. -/
structure Report where
  code : UInt8
  stdout : String := ""
  stderr : String := ""
  /-- Everything that happened, in order. -/
  log : List Event := []
  /-- The least level of the events that are shown. -/
  level : Level := .info
  deriving DecidableEq, Repr

/-- The events that are shown. -/
def Report.shown (r : Report) : List Event :=
  atLeast r.level r.log

namespace Arguments

/-- The least level of the events that are shown. -/
def level (a : Arguments) : Level :=
  if a.verbose then .debug else .info

/-- The print format. The name `plain` stands for raw output. -/
def printFormat (a : Arguments) : Except Failure (Option PrintFormat) :=
  if a.format = "plain" then .ok none
  else
    match PrintFormat.parse a.format with
    | .ok format => .ok (some format)
    | .error f => .error f

/-- The settings with what the command line gives in the place of what they hold. -/
def override (a : Arguments) (c : Settings) : Settings :=
  let c := match a.program with
    | some program => c.withProgram (Utf8.encode program)
    | none => c
  let c := match a.host with
    | some host => c.withHost host
    | none => c
  match a.port with
  | some port => c.withPort port
  | none => c

variable {σ : Type}

/-- The settings from the configuration file and the command line. -/
def settings (host : Host σ) (a : Arguments) (state : σ) : Except Failure Settings :=
  match a.config with
  | none => .ok (a.override .default)
  | some path =>
    match Settings.load host (Utf8.encode path) state with
    | .error f => .error f
    | .ok c => .ok (a.override c)

end Arguments

/-- A failure on a line of its own. -/
def failureLine (f : Failure) : String :=
  f.message ++ "\n"

/-- The line about the time that the runs for a key took. -/
def timingLine (key : String) (r : TimingReport) : String :=
  "Get " ++ Text.quote Text.isHidden key ++ " runs in " ++ r.text ++ "\n"

/-- The line about the runs that failed, if any did. -/
def failedRunsLine (r : TimingReport) : String :=
  if r.failures = 0 then ""
  else
    Text.decimal r.failures.toNat ++ " of " ++ Text.decimal r.iterations.toNat ++ " runs failed\n"

variable {σ : Type}

/-- Runs a get once and shows what the tool wrote. -/
def showOnce (host : Host σ) (command : Get) (key : String) (state : σ) : Report × σ :=
  let t := run host command [key] true state
  match t.result with
  | .error f => ({ code := 1, stderr := failureLine f, log := t.log }, t.host)
  | .ok o =>
    ({ code := o.code?.getD 1
       stdout := o.stdout?.getD ""
       stderr := o.stderr?.getD ""
       log := t.log }, t.host)

/-- Times a get. -/
def timeGet (host : Host σ) (command : Get) (key : String) (iterations : UInt32) (state : σ) :
    Report × σ :=
  let t := timeRuns host command [key] iterations state
  match t.result with
  | .error f => ({ code := 1, stderr := failureLine f, log := t.log }, t.host)
  | .ok r =>
    ({ code := 0, stdout := timingLine key r, stderr := failedRunsLine r, log := t.log }, t.host)

/-- Times a lookup or shows one, as the command line asks. -/
def probe (host : Host σ) (a : Arguments) (state : σ) : Report × σ :=
  match a.settings host state with
  | .error f => ({ code := 1, stderr := failureLine f, level := a.level }, state)
  | .ok c =>
    let configured := Event.configured c.program c.host c.port
    match a.printFormat with
    | .error f =>
      ({ code := 2
         stderr := f.message ++ ": " ++ a.format ++ "\n"
         log := [configured]
         level := a.level }, state)
    | .ok format =>
      let command := (Get.new c format).withLookup a.op.lookup
      let (r, state) :=
        if a.once then showOnce host command a.key state
        else timeGet host command a.key a.iterations state
      ({ r with log := configured :: r.log, level := a.level }, state)

/-- What the program does with a command line. -/
def answer (host : Host σ) (tokens : List Bytes) (state : σ) : Report × σ :=
  match Request.ofTokens tokens with
  | .help => ({ code := 0, stdout := helpText }, state)
  | .version => ({ code := 0, stdout := versionText }, state)
  | .refused => ({ code := 2, stderr := usageText }, state)
  | .probe a => probe host a state

end KctlProbe.Cli
