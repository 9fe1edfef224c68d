import KctlProbe.Command

/-!
# Device information

Prints sections of the device's log, each at most once and in the order in which they were asked
for.
-/

namespace KctlProbe

/-- A section of the device's log. -/
inductive Section where
  /-- Everything, which is the default of the tool. -/
  | all
  | configuration
  | capacities
  | limits
  /-- Everything but the messages. -/
  | most
  | messages
  | statistics
  | temperatures
  | utilizations
  deriving DecidableEq, Repr

namespace Section

/-- The option that selects a section. -/
def flag : Section → String
  | .all => "-a"
  | .configuration => "-c"
  | .capacities => "-C"
  | .limits => "-L"
  | .most => "-m"
  | .messages => "-M"
  | .statistics => "-O"
  | .temperatures => "-T"
  | .utilizations => "-U"

end Section

/-- A request for device information. -/
structure DeviceInfo where
  settings : Settings
  sections : List Section := []
  deriving DecidableEq, Repr

namespace DeviceInfo

/-- A request that leaves the choice of sections to the tool. -/
def new (settings : Settings) : DeviceInfo := { settings }

/-- The request with one more section, unless it is there already. -/
def withSection (c : DeviceInfo) (s : Section) : DeviceInfo :=
  if s ∈ c.sections then c else { c with sections := c.sections ++ [s] }

/-- The options that select the sections. -/
def options (c : DeviceInfo) : List Bytes :=
  c.sections.map fun s => Utf8.encode s.flag

instance : Command DeviceInfo where
  settings := DeviceInfo.settings
  subCommand _ := .info
  options := DeviceInfo.options

end DeviceInfo

end KctlProbe
