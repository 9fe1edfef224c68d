import KctlProbe.Command
import KctlProbe.Command.Bound
import KctlProbe.Format

/-!
# Listing

Lists the keys between two bounds. It takes no positional arguments.
-/

namespace KctlProbe

/-- A listing of keys. -/
structure Listing where
  settings : Settings
  start : Option Bound := none
  stop : Option Bound := none
  /-- The greatest number of keys to list. -/
  count : Option UInt32 := none
  /-- Whether the listing goes from the end to the start. -/
  reverse : Bool := false
  format : Option PrintFormat := none
  deriving DecidableEq, Repr

namespace Listing

/-- A listing of every key, printed raw. -/
def new (settings : Settings) : Listing := { settings }

/-- The listing with a lower bound. -/
def withStart (c : Listing) (bound : Bound) : Listing := { c with start := some bound }

/-- The listing with an upper bound. -/
def withStop (c : Listing) (bound : Bound) : Listing := { c with stop := some bound }

/-- The listing with a limit on the number of keys. The tool refuses a limit of 0. -/
def withCount (c : Listing) (count : UInt32) : Except Failure Listing :=
  if count = 0 then .error .invalidArgument else .ok { c with count := some count }

/-- The listing from the end to the start. -/
def reversed (c : Listing) : Listing := { c with reverse := true }

/-- The listing with a print format. -/
def withFormat (c : Listing) (format : PrintFormat) : Listing := { c with format := some format }

/-- The options that are set. -/
def options (c : Listing) : List Bytes :=
  let flag := PrintFormat.flagFor c.format
  Settings.optionWith "-n" (c.count.map fun n => Text.decimal n.toNat) ++
  Bound.optionsOf 's' c.start ++
  Bound.optionsOf 'e' c.stop ++
  Settings.optionIf "-r" c.reverse ++
  (if flag.isEmpty then [] else [Utf8.encode flag])

instance : Command Listing where
  settings := Listing.settings
  subCommand _ := .range
  options := Listing.options

end Listing

end KctlProbe
