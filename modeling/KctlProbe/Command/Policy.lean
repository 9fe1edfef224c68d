import KctlProbe.Settings
import KctlProbe.Failure

/-!
# Cache policies

How the device persists a change.
-/

namespace KctlProbe

/-- A way to persist a change. -/
inductive CachePolicy where
  | writeThrough
  | writeBack
  | flush
  deriving DecidableEq, Repr

namespace CachePolicy

/-- The value that the tool expects. -/
def value : CachePolicy → String
  | .writeThrough => "wt"
  | .writeBack => "wb"
  | .flush => "f"

/-- The policy with the given value, or the failure that there is none. -/
def parse (s : String) : Except Failure CachePolicy :=
  if s = "wt" then .ok .writeThrough
  else if s = "wb" then .ok .writeBack
  else if s = "f" then .ok .flush
  else .error .invalidArgument

/-- The option for a policy, if one is given. -/
def options (policy : Option CachePolicy) : List Bytes :=
  Settings.optionWith "-p" (policy.map value)

end CachePolicy

end KctlProbe
