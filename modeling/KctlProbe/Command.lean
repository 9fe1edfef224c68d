import KctlProbe.Settings
import KctlProbe.SubCommand

/-!
# Commands

A command is one invocation of the tool but for its positional arguments. It knows its settings, its
sub-command and the options of that sub-command; the layout of the argument vector is shared:

    <program> <common options> <sub-command> <options> <positional arguments>
-/

namespace KctlProbe

/-- The argument vector of an invocation, the program first. -/
def layout (settings : Settings) (subCommand : SubCommand) (options : List Bytes)
    (positional : List String) : List Bytes :=
  settings.program :: settings.commonOptions ++ Utf8.encode subCommand.name ::
    options ++ positional.map Utf8.encode

/-- Types of commands. A type may give its values another argument vector than the shared layout. -/
class Command (α : Type) where
  /-- Where the tool and the device are. -/
  settings : α → Settings
  subCommand : α → SubCommand
  /-- The options between the sub-command and the positional arguments. -/
  options : α → List Bytes := fun _ => []
  /-- The argument vector with the given positional arguments. -/
  argv : α → List String → List Bytes := fun c positional =>
    layout (settings c) (subCommand c) (options c) positional

end KctlProbe
