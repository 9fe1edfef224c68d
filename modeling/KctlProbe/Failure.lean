import KctlProbe.Json.Fault

/-!
# Failures

Everything that goes wrong is a `Failure`: a kind in its context, which holds the error of the
operating system or of the configuration reader underneath, if there is one. A failure is worded as
its context is, and that as the kind. From a failure the causes are walked link by link
(`Link.chain`).
-/

namespace KctlProbe

/-- What an operation was about when it failed. -/
inductive Failure.Kind where
  /-- A print format has no such name. -/
  | unknownFormat
  /-- A sub-command has no such name. -/
  | unknownSubCommand
  /-- The process could not be started. -/
  | spawn
  /-- A configuration file could not be opened. -/
  | unreadable
  /-- A configuration is not acceptable. -/
  | badJson
  /-- An option that the tool would reject before doing anything. -/
  | invalidArgument
  deriving DecidableEq, Repr

/-- The wording of a kind of failure. -/
def Failure.Kind.message : Failure.Kind → String
  | .unknownFormat => "Unknown print format"
  | .unknownSubCommand => "Unknown kctl sub-command"
  | .spawn => "Cannot spawn kctl process"
  | .unreadable => "Io Error"
  | .badJson => "Json parsing error"
  | .invalidArgument => "Invalid command argument"

/-- The error underneath a failure. -/
inductive Cause where
  | os (error : OsError)
  | json (fault : Json.Fault)
  deriving DecidableEq, Repr

/-- The operating system's error, if the cause is one. -/
def Cause.osError? : Cause → Option OsError
  | .os e => some e
  | .json _ => none

/-- A kind of failure and the error underneath, if there is one. -/
structure Context where
  kind : Failure.Kind
  cause : Option Cause := none
  deriving DecidableEq, Repr

/-- The wording of a context. -/
def Context.message (c : Context) : String :=
  c.kind.message

/-- A failed operation. -/
structure Failure extends Context
  deriving DecidableEq, Repr

namespace Failure

/-- The wording of a failure. -/
def message (f : Failure) : String :=
  f.toContext.message

/-- The operating system's error underneath, if there is one. -/
def osError? (f : Failure) : Option OsError :=
  f.cause.bind Cause.osError?

/-- No print format has the given name. -/
def unknownFormat : Failure := { kind := .unknownFormat }

/-- No sub-command has the given name. -/
def unknownSubCommand : Failure := { kind := .unknownSubCommand }

/-- The tool would reject the option. -/
def invalidArgument : Failure := { kind := .invalidArgument }

/-- The operating system refused to start the process. -/
def spawn (e : OsError) : Failure := { kind := .spawn, cause := some (.os e) }

/-- The operating system refused to open the file. -/
def ofOsError (e : OsError) : Failure := { kind := .unreadable, cause := some (.os e) }

/-- The configuration is not acceptable. -/
def ofFault (f : Json.Fault) : Failure := { kind := .badJson, cause := some (.json f) }

end Failure

/-! ## Chains of causes -/

/-- An error in a chain of causes: a failure, or an error underneath one. -/
inductive Link where
  | failure (f : Failure)
  | cause (c : Cause)
  deriving DecidableEq, Repr

namespace Link

/-- The error right underneath. Those of the operating system and of the reader have none. -/
def cause? : Link → Option Link
  | .failure f => f.cause.map .cause
  | .cause _ => none

/-- The number of errors that can lie underneath. -/
def height : Link → Nat
  | .failure _ => 1
  | .cause _ => 0

/-- Fewer errors can lie underneath a cause. -/
theorem height_lt_of_cause? {l m : Link} (h : l.cause? = some m) : m.height < l.height := by
  cases l with
  | failure f =>
    obtain ⟨c, -, rfl⟩ := Option.map_eq_some_iff.1 h
    exact Nat.zero_lt_one
  | cause c => cases h

/-- The errors from one down to the first cause. -/
def chain (l : Link) : List Link :=
  match h : l.cause? with
  | some m =>
    have := height_lt_of_cause? h
    l :: m.chain
  | none => [l]
termination_by l.height

/-- Above a cause, the chain goes on with that of the cause. -/
theorem chain_of_cause {l m : Link} (h : l.cause? = some m) : l.chain = l :: m.chain := by
  rw [chain]
  split <;> simp_all

/-- Without a cause, the chain is at its end. -/
theorem chain_of_none {l : Link} (h : l.cause? = none) : l.chain = [l] := by
  rw [chain]
  split <;> simp_all

end Link

/-- The number of errors from the failure itself down to the first cause. -/
def Failure.depth (f : Failure) : Nat :=
  (Link.failure f).chain.length

end KctlProbe
