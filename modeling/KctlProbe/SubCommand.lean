import KctlProbe.Failure

/-!
# Sub-commands

The sub-commands of the tool, and the four lookups among them.
-/

namespace KctlProbe

/-- A sub-command. -/
inductive SubCommand where
  | get
  | getNext
  | getPrev
  | getVers
  | put
  | del
  | info
  | range
  deriving DecidableEq, Repr

namespace SubCommand

/-- Every sub-command. -/
def all : List SubCommand :=
  [.get, .getNext, .getPrev, .getVers, .put, .del, .info, .range]

/-- The name that the tool expects. -/
def name : SubCommand → String
  | .get => "get"
  | .getNext => "getnext"
  | .getPrev => "getprev"
  | .getVers => "getvers"
  | .put => "put"
  | .del => "del"
  | .info => "info"
  | .range => "range"

/-- What a sub-command does, in one line. -/
def about : SubCommand → String
  | .get => "Get key value"
  | .getNext => "Get next key value"
  | .getPrev => "Get previous key value"
  | .getVers => "Get version of key value entry"
  | .put => "Insert or update key value"
  | .del => "Delete key value"
  | .info => "Get device information"
  | .range => "Get a range of keys"

/-- The sub-command with the given name, or the failure that there is none. -/
def parse (s : String) : Except Failure SubCommand :=
  match all.find? (·.name == s) with
  | some c => .ok c
  | none => .error .unknownSubCommand

end SubCommand

/-- What a get looks up. -/
inductive Lookup where
  /-- The key itself. -/
  | exact
  /-- The key after the given one. -/
  | next
  /-- The key before the given one. -/
  | previous
  /-- The version of the key. -/
  | version
  deriving DecidableEq, Repr, Inhabited

namespace Lookup

/-- The sub-command that does a lookup. -/
def subCommand : Lookup → SubCommand
  | .exact => .get
  | .next => .getNext
  | .previous => .getPrev
  | .version => .getVers

end Lookup

end KctlProbe
