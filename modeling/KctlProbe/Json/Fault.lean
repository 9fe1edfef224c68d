import KctlProbe.OsError

/-!
# Faults of a configuration text

The first fault met when a text is read from left to right decides how the reading fails.
-/

namespace KctlProbe.Json

/-- Why a text cannot be read. -/
inductive Fault where
  /-- The text is no JSON. -/
  | malformed
  /-- The text ends too early. -/
  | truncated
  /-- A value is of the wrong type or out of range, or a field is given twice. -/
  | mistyped
  /-- The operating system failed to deliver the text. -/
  | unreadable (error : OsError)
  deriving DecidableEq, Repr

end KctlProbe.Json
