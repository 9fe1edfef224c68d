import KctlProbe.Text.Utf8
import KctlProbe.OsError

/-!
# A text as it is read

A file is read byte by byte, and the reading ends with the file or with an error of the operating
system. A `Source` is what is still to be read.
-/

namespace KctlProbe.Json

/-- What is still to be read of a file. -/
inductive Source where
  /-- A byte, then the rest. -/
  | byte (b : UInt8) (rest : Source)
  /-- The end of the file. -/
  | finished
  /-- The operating system fails to deliver the next byte. -/
  | failed (error : OsError)
  deriving DecidableEq, Repr

namespace Source

/-- The bytes `bs`, then `rest`. -/
def prepend (bs : Bytes) (rest : Source) : Source :=
  bs.foldr .byte rest

/-- A file of which every byte can be read. -/
def ofBytes (bs : Bytes) : Source :=
  prepend bs .finished

/-- The number of bytes that can still be read. -/
def length : Source → Nat
  | .byte _ rest => rest.length + 1
  | .finished | .failed _ => 0

end Source

end KctlProbe.Json
