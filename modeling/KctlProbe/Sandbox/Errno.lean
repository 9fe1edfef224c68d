import KctlProbe.OsError

/-!
# What the system refuses

The reasons why the system of a sandbox does not do what a process asks for, and their words.
-/

namespace KctlProbe.Sandbox

/-- Why the system refuses a request. -/
inductive Errno where
  | notPermitted
  | noEntry
  | noProcess
  | interrupted
  | noDevice
  | tooManyArguments
  | noExecutable
  | badDescriptor
  | busy
  | noChild
  | denied
  | alreadyExists
  | crossDevice
  | notDirectory
  | isDirectory
  | invalid
  | notTerminal
  | textBusy
  | noSpace
  | illegalSeek
  | readOnly
  | brokenPipe
  | outOfRange
  | nameTooLong
  | notEmpty
  | linkLoop
  deriving DecidableEq, Repr

namespace Errno

/-- The words for a refusal. -/
def words : Errno → String
  | notPermitted => "Operation not permitted"
  | noEntry => "No such file or directory"
  | noProcess => "No such process"
  | interrupted => "Interrupted system call"
  | noDevice => "No such device or address"
  | tooManyArguments => "Argument list too long"
  | noExecutable => "Exec format error"
  | badDescriptor => "Bad file descriptor"
  | busy => "Device or resource busy"
  | noChild => "No child processes"
  | denied => "Permission denied"
  | alreadyExists => "File exists"
  | crossDevice => "Invalid cross-device link"
  | notDirectory => "Not a directory"
  | isDirectory => "Is a directory"
  | invalid => "Invalid argument"
  | notTerminal => "Inappropriate ioctl for device"
  | textBusy => "Text file busy"
  | noSpace => "No space left on device"
  | illegalSeek => "Illegal seek"
  | readOnly => "Read-only file system"
  | brokenPipe => "Broken pipe"
  | outOfRange => "Numerical result out of range"
  | nameTooLong => "File name too long"
  | notEmpty => "Directory not empty"
  | linkLoop => "Too many levels of symbolic links"

/-- The kind of error that a host reports for a refusal. -/
def toOsError : Errno → OsError
  | noEntry => .notFound
  | notPermitted | denied => .permissionDenied
  | invalid => .invalidInput
  | alreadyExists => .alreadyExists
  | notDirectory => .notADirectory
  | isDirectory => .isADirectory
  | nameTooLong => .invalidFilename
  | tooManyArguments => .argumentListTooLong
  | _ => .other

end Errno

end KctlProbe.Sandbox
