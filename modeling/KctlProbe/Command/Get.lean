import KctlProbe.Command
import KctlProbe.Format

/-!
# Get

Looks a key up, or one of its neighbours, or its version. The print format is resolved when the
command is built, so an unknown format name never reaches the tool.
-/

namespace KctlProbe

/-- A get. -/
structure Get where
  settings : Settings
  lookup : Lookup
  /-- How the value is printed, raw if it is missing. -/
  format : Option PrintFormat
  deriving DecidableEq, Repr

namespace Get

/-- A get of the key itself. -/
def new (settings : Settings) (format : Option PrintFormat) : Get :=
  { settings, lookup := default, format }

/-- A get of the key itself with a format given by name. -/
def named (settings : Settings) : Option String → Except Failure Get
  | some name =>
    match PrintFormat.ofName? name with
    | some format => .ok (new settings (some format))
    | none => .error .unknownFormat
  | none => .ok (new settings none)

/-- A get for repeated use, with a format given by name. -/
def prepare (settings : Settings) (format : String) : Except Failure Get :=
  named settings (some format)

/-- The get with another lookup. -/
def withLookup (c : Get) (lookup : Lookup) : Get := { c with lookup }

/-- The option for the format, if it needs one. -/
def options (c : Get) : List Bytes :=
  let flag := PrintFormat.flagFor c.format
  if flag.isEmpty then [] else [Utf8.encode flag]

instance : Command Get where
  settings := Get.settings
  subCommand c := c.lookup.subCommand
  options := Get.options

end Get

end KctlProbe
