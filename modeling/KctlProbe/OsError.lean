/-!
# Errors of the operating system

The kinds of error that starting a process or reading a file can end in.
-/

namespace KctlProbe

/-- The kind of an operating system's error. -/
inductive OsError where
  | notFound
  | permissionDenied
  | invalidInput
  | alreadyExists
  | timedOut
  | notADirectory
  | isADirectory
  | invalidFilename
  | argumentListTooLong
  /-- Any other error, such as a file of no executable format. -/
  | other
  deriving DecidableEq, Repr

end KctlProbe
