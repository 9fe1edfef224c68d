import KctlProbe.Settings.Reader
import KctlProbe.Failure
import KctlProbe.Host

/-!
# Configuration files

Settings are loaded from a file. What goes wrong when the file is opened is an error of the
operating system, and what goes wrong after that is a fault of the configuration.
-/

namespace KctlProbe.Settings

/-- The settings in the file at `path`. -/
def load {σ : Type} (host : Host σ) (path : Bytes) (state : σ) : Except Failure Settings :=
  match host.openFile path state with
  | .error e => .error (.ofOsError e)
  | .ok source =>
    match ofSource source with
    | .error f => .error (.ofFault f)
    | .ok c => .ok c

end KctlProbe.Settings
