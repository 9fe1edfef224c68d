import KctlProbe.Command
import KctlProbe.Command.Bound
import KctlProbe.Command.Policy

/-!
# Delete

Deletes a key, the keys of a range, or every key. The tool asks before it deletes, so a delete that
nobody watches needs settings that answer with yes.
-/

namespace KctlProbe

/-- The keys that a delete of a range removes: every key between the bounds, and at most `count` of
them. -/
structure DeleteRange where
  start : Option Bound := none
  stop : Option Bound := none
  count : Option UInt32 := none
  deriving DecidableEq, Repr

namespace DeleteRange

/-- Every key. -/
def new : DeleteRange := {}

/-- The range with a lower bound. -/
def withStart (r : DeleteRange) (bound : Bound) : DeleteRange := { r with start := some bound }

/-- The range with an upper bound. -/
def withStop (r : DeleteRange) (bound : Bound) : DeleteRange := { r with stop := some bound }

/-- The range with a limit on the number of keys. The tool refuses a limit of 0. -/
def withCount (r : DeleteRange) (count : UInt32) : Except Failure DeleteRange :=
  if count = 0 then .error .invalidArgument else .ok { r with count := some count }

/-- The options for the range. -/
def options (r : DeleteRange) : List Bytes :=
  Settings.optionWith "-n" (r.count.map fun n => Text.decimal n.toNat) ++
  Bound.optionsOf 's' r.start ++
  Bound.optionsOf 'e' r.stop

end DeleteRange

/-- What a delete removes. -/
inductive Delete.Target where
  /-- The key given as positional argument. -/
  | key
  /-- The keys in a range; there is no positional key. -/
  | within (range : DeleteRange)
  /-- Every key on the device. -/
  | all
  deriving DecidableEq, Repr

/-- The options for a target. -/
def Delete.Target.options : Delete.Target → List Bytes
  | .key => []
  | .within range => range.options
  | .all => [Utf8.encode "-a"]

/-- A delete. -/
structure Delete where
  settings : Settings
  target : Delete.Target := .key
  /-- Whether a key is deleted only if the stored version matches. -/
  compare : Bool := false
  policy : Option CachePolicy := none
  deriving DecidableEq, Repr

namespace Delete

/-- A delete of one key. -/
def new (settings : Settings) : Delete := { settings }

/-- A delete of the keys in a range. -/
def ofRange (settings : Settings) (range : DeleteRange) : Delete :=
  { settings, target := .within range }

/-- A delete of every key. -/
def all (settings : Settings) : Delete := { settings, target := .all }

/-- The delete that happens only if the stored version matches. -/
def compareAndDelete (c : Delete) : Delete := { c with compare := true }

/-- The delete that persists by `policy`. -/
def withPolicy (c : Delete) (policy : CachePolicy) : Delete := { c with policy := some policy }

/-- The options that are set. -/
def options (c : Delete) : List Bytes :=
  Settings.optionIf "-c" c.compare ++ CachePolicy.options c.policy ++ c.target.options

instance : Command Delete where
  settings := Delete.settings
  subCommand _ := .del
  options := Delete.options

end Delete

end KctlProbe
