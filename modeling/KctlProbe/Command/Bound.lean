import KctlProbe.Text.Utf8

/-!
# Bounds

The ends of a range of keys.
-/

namespace KctlProbe

/-- One end of a range of keys. -/
inductive Bound where
  /-- The key itself belongs to the range. -/
  | inclusive (key : String)
  /-- The key itself is left out. -/
  | exclusive (key : String)
  deriving DecidableEq, Repr

namespace Bound

/-- The option for a bound. An inclusive bound has the capital letter. -/
def options (letter : Char) : Bound → List Bytes
  | .inclusive key => [Utf8.encode (String.ofList ['-', letter.toUpper]), Utf8.encode key]
  | .exclusive key => [Utf8.encode (String.ofList ['-', letter]), Utf8.encode key]

/-- The option for a bound, if there is one. -/
def optionsOf (letter : Char) : Option Bound → List Bytes
  | some bound => bound.options letter
  | none => []

end Bound

end KctlProbe
