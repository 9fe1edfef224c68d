import KctlProbe.Settings.Field
import KctlProbe.Json.Writer
import KctlProbe.Failure

/-!
# Writing a configuration

Settings are written as one compact JSON object with every field, in the order of declaration, so
that reading what was written gives the settings back.
-/

namespace KctlProbe.Settings

/-- The value of a field in written form. A program whose path is no text has none. -/
def writtenValue? (c : Settings) : Field → Option (List Char)
  | .program => (Utf8.decode? c.program).map Json.writeString
  | .host => some (Json.writeString c.host)
  | .port => some (Json.writeInteger c.port.toNat)
  | .user => some (Json.writeNullable (fun n => Json.writeInteger n.toInt) c.user)
  | .hmacKey => some (Json.writeNullable Json.writeString c.hmacKey)
  | .tls => some (Json.writeBoolean c.tls)
  | .clusterVersion =>
    some (Json.writeNullable (fun n => Json.writeInteger n.toInt) c.clusterVersion)
  | .quiet => some (Json.writeBoolean c.quiet)
  | .terse => some (Json.writeBoolean c.terse)
  | .verbose => some (Json.writeBoolean c.verbose)
  | .yes => some (Json.writeBoolean c.yes)

/-- The members of a written configuration. -/
def members? (c : Settings) : Option (List Json.Member) :=
  Field.all.mapM fun field => (c.writtenValue? field).map fun value => (field.name, value)

/-- The settings as a configuration text. It fails when the path of the program is no text. -/
def toJson (c : Settings) : Except Failure String :=
  match c.members? with
  | some members => .ok (String.ofList (Json.writeObject members))
  | none => .error (.ofFault .mistyped)

end KctlProbe.Settings
