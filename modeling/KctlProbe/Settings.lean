import KctlProbe.Text.Utf8
import KctlProbe.Text.Decimal

/-!
# Settings

Where the tool is, which device it connects to, and the options that go before every sub-command.
-/

namespace KctlProbe

/-- Connection settings and common options. -/
structure Settings where
  /-- The path of the tool, or its name, which is then looked up among the installed programs. -/
  program : Bytes := Utf8.encode "kctl"
  /-- The name or address of the device. -/
  host : String := "localhost"
  port : UInt16 := 8123
  /-- The user to connect as. -/
  user : Option Int64 := none
  /-- The key that requests are signed with. -/
  hmacKey : Option String := none
  /-- Whether to connect over TLS. -/
  tls : Bool := false
  clusterVersion : Option Int64 := none
  quiet : Bool := false
  terse : Bool := false
  verbose : Bool := false
  /-- Whether every question is answered with yes. -/
  yes : Bool := false
  deriving DecidableEq, Repr

namespace Settings

/-- The settings that hold unless others are given. -/
def default : Settings := {}

/-- Settings with another program. -/
def withProgram (c : Settings) (program : Bytes) : Settings := { c with program }

/-- Settings with another host. -/
def withHost (c : Settings) (host : String) : Settings := { c with host }

/-- Settings with another port. -/
def withPort (c : Settings) (port : UInt16) : Settings := { c with port }

/-- Settings that answer every question with yes, as a delete that nobody watches needs. -/
def assumeYes (c : Settings) : Settings := { c with yes := true }

/-- An option with a value, or nothing. -/
def optionWith (flag : String) : Option String → List Bytes
  | some value => [Utf8.encode flag, Utf8.encode value]
  | none => []

/-- An option, if it is set. -/
def optionIf (flag : String) (isSet : Bool) : List Bytes :=
  if isSet then [Utf8.encode flag] else []

/-- The options before the sub-command: host and port always, the others only when they are set. -/
def commonOptions (c : Settings) : List Bytes :=
  optionWith "-h" (some c.host) ++
  optionWith "-p" (some (Text.decimal c.port.toNat)) ++
  optionWith "-u" (c.user.map fun n => Text.signedDecimal n.toInt) ++
  optionWith "-m" c.hmacKey ++
  optionIf "-s" c.tls ++
  optionWith "-c" (c.clusterVersion.map fun n => Text.signedDecimal n.toInt) ++
  optionIf "-q" c.quiet ++
  optionIf "-t" c.terse ++
  optionIf "-v" c.verbose ++
  optionIf "-y" c.yes

end Settings

end KctlProbe
