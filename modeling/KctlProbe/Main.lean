import KctlProbe.Cli.Report
import KctlProbe.Sandbox.Host

/-!
# The program

Answers a command line. The configuration file and the tool that the command line names are taken
into a sandbox, and the tool is run there.
-/

namespace KctlProbe

open Sandbox (World)

/-- The sandbox with the file at a path, if there is one. -/
def takeIn (path : String) (mode : Nat) (w : World) : IO World := do
  try
    let data ← IO.FS.readBinFile path
    return w.withFile (Utf8.encode path) mode data.toList
  catch _ => return w

/-- The sandbox with the files that a command line names. -/
def takeInFiles (a : Cli.Arguments) (w : World) : IO World := do
  let w ← match a.config with
    | some path => takeIn path 0o644 w
    | none => pure w
  match a.settings Sandbox.host w with
  | .ok c => takeIn (Utf8.lossy c.program) 0o755 w
  | .error _ => return w

end KctlProbe

open KctlProbe in
/-- Answers the command line. -/
def main (args : List String) : IO UInt32 := do
  let tokens := args.map Utf8.encode
  let world ← match Cli.Request.ofTokens tokens with
    | .probe a => takeInFiles a .empty
    | _ => pure .empty
  let (report, _) := Cli.answer Sandbox.host tokens world
  for event in report.shown do
    IO.eprintln (event.line Text.isHidden)
  IO.print report.stdout
  IO.eprint report.stderr
  return report.code.toUInt32
