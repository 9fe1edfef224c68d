import KctlProbe.Cli.Request

/-!
# Help and version

What the program says about itself.
-/

namespace KctlProbe.Cli

/-- The name and number of the version. -/
def versionText : String :=
  "ktest 0.1.0\n"

/-- The one-line description of what a command line looks like. -/
def usageText : String :=
  "USAGE:\n    ktest-timed [OPTIONS] [KEY]\n"

/-- The lines about the options, in alphabetical order. -/
def optionLines : List String := [
  "        --config <CONFIG>            JSON file with connection settings",
  "        --format <FORMAT>            Print format: chars, hex or plain [default: chars]",
  "    -h, --help                       Print help information",
  "        --host <HOST>                Host of the kinetic device",
  "        --iterations <ITERATIONS>    Number of runs to average over [default: 1000]",
  "        --op <OP>                    Lookup to time: get, getnext, getprev or getvers [default: " ++
    Op.get.text ++ "]",
  "        --port <PORT>                Port of the kinetic device",
  "        --program <PROGRAM>          Path of the kctl executable",
  "        --show                       Run once and print what kctl wrote instead of timing",
  "    -v, --verbose                    Log every spawned command",
  "    -V, --version                    Print version information"]

/-- The help. -/
def helpText : String :=
  versionText ++
  "Ye Yangchen <yye02@email.wm.edu>\n" ++
  "A black-box test harness that drives the kctl key-value tool as a subprocess\n" ++
  "\n" ++
  usageText ++
  "\n" ++
  "ARGS:\n" ++
  "    <KEY>    The key to get [default: pak]\n" ++
  "\n" ++
  "OPTIONS:\n" ++
  "\n".intercalate optionLines ++ "\n"

end KctlProbe.Cli
