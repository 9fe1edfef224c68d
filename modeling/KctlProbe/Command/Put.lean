import KctlProbe.Command
import KctlProbe.Command.Policy

/-!
# Put

Inserts or replaces a key, with a value given as an argument or with zero bytes.
-/

namespace KctlProbe

/-- A put. -/
structure Put where
  settings : Settings
  /-- Whether the value is replaced only if the stored version matches. -/
  compare : Bool := false
  policy : Option CachePolicy := none
  /-- The checksum of the value. -/
  checksum : Option UInt32 := none
  /-- The number of zero bytes to store in the place of a value argument. -/
  zeros : Option UInt32 := none
  deriving DecidableEq, Repr

namespace Put

/-- A put without options. -/
def new (settings : Settings) : Put := { settings }

/-- The put that replaces the value only if the stored version matches. -/
def compareAndSwap (c : Put) : Put := { c with compare := true }

/-- The put that persists by `policy`. -/
def withPolicy (c : Put) (policy : CachePolicy) : Put := { c with policy := some policy }

/-- The put with the checksum of its value. -/
def withChecksum (c : Put) (sum : UInt32) : Put := { c with checksum := some sum }

/-- The put of `length` zero bytes. -/
def zeroFilled (c : Put) (length : UInt32) : Put := { c with zeros := some length }

/-- A checksum as the tool expects it: eight hexadecimal digits. -/
def checksumText (sum : UInt32) : String :=
  String.ofList (Text.padded 16 8 sum.toNat)

/-- The options that are set. -/
def options (c : Put) : List Bytes :=
  Settings.optionIf "-c" c.compare ++
  CachePolicy.options c.policy ++
  Settings.optionWith "-s" (c.checksum.map checksumText) ++
  Settings.optionWith "-z" (c.zeros.map fun n => Text.decimal n.toNat)

instance : Command Put where
  settings := Put.settings
  subCommand _ := .put
  options := Put.options

end Put

end KctlProbe
