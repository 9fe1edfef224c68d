import KctlProbe.Cli.Help
import KctlProbe.Cli.Report
import KctlProbe.Cli.Request
import KctlProbe.Command
import KctlProbe.Command.Bound
import KctlProbe.Command.Delete
import KctlProbe.Command.DeviceInfo
import KctlProbe.Command.Get
import KctlProbe.Command.Listing
import KctlProbe.Command.Policy
import KctlProbe.Command.Put
import KctlProbe.Duration
import KctlProbe.Exit
import KctlProbe.Failure
import KctlProbe.Format
import KctlProbe.Host
import KctlProbe.Json.Fault
import KctlProbe.Json.Number
import KctlProbe.Json.Scan
import KctlProbe.Json.Skip
import KctlProbe.Json.Source
import KctlProbe.Json.Value
import KctlProbe.Json.Writer
import KctlProbe.Log
import KctlProbe.Main
import KctlProbe.OsError
import KctlProbe.Proofs.Averages
import KctlProbe.Proofs.Building.Calls
import KctlProbe.Proofs.Building.Grammar
import KctlProbe.Proofs.Building.Ranges
import KctlProbe.Proofs.Building.Sections
import KctlProbe.Proofs.Capture
import KctlProbe.Proofs.Cli.Layers
import KctlProbe.Proofs.Cli.Naming
import KctlProbe.Proofs.Cli.Session
import KctlProbe.Proofs.Cli.Values
import KctlProbe.Proofs.Conventional
import KctlProbe.Proofs.Invocation
import KctlProbe.Proofs.Json.Delivery
import KctlProbe.Proofs.Json.Figures
import KctlProbe.Proofs.Json.Grammar
import KctlProbe.Proofs.Json.Outcomes
import KctlProbe.Proofs.Json.Tokens
import KctlProbe.Proofs.Json.Values
import KctlProbe.Proofs.Json.Written
import KctlProbe.Proofs.Names
import KctlProbe.Proofs.Options
import KctlProbe.Proofs.Printed
import KctlProbe.Proofs.Provenance
import KctlProbe.Proofs.Recording
import KctlProbe.Proofs.Repetition
import KctlProbe.Proofs.Rounding
import KctlProbe.Proofs.Running
import KctlProbe.Proofs.Sandbox.Files
import KctlProbe.Proofs.Sandbox.Host
import KctlProbe.Proofs.Sandbox.Paths
import KctlProbe.Proofs.Sandbox.Patterns
import KctlProbe.Proofs.Sandbox.Regex.Search
import KctlProbe.Proofs.Settings.Acceptance
import KctlProbe.Proofs.Settings.Delivery
import KctlProbe.Proofs.Settings.Document
import KctlProbe.Proofs.Settings.Extension
import KctlProbe.Proofs.Settings.Fields
import KctlProbe.Proofs.Settings.Numbers
import KctlProbe.Proofs.Settings.Positions
import KctlProbe.Proofs.Settings.RoundTrip
import KctlProbe.Proofs.Targets
import KctlProbe.Proofs.Text.Digits
import KctlProbe.Proofs.Text.Lossy
import KctlProbe.Proofs.Text.Sides
import KctlProbe.Proofs.Text.Unquoted
import KctlProbe.Proofs.Text.Utf8
import KctlProbe.Proofs.Totals
import KctlProbe.Rounding
import KctlProbe.Run
import KctlProbe.Sandbox.Errno
import KctlProbe.Sandbox.Files
import KctlProbe.Sandbox.Host
import KctlProbe.Sandbox.Launch
import KctlProbe.Sandbox.Machine
import KctlProbe.Sandbox.Numeral
import KctlProbe.Sandbox.Octets
import KctlProbe.Sandbox.Permissions
import KctlProbe.Sandbox.Printing
import KctlProbe.Sandbox.Real
import KctlProbe.Sandbox.Script.Arithmetic
import KctlProbe.Sandbox.Script.Grammar
import KctlProbe.Sandbox.Script.Pattern
import KctlProbe.Sandbox.Script.Quoting
import KctlProbe.Sandbox.Script.Reader
import KctlProbe.Sandbox.Script.Tree
import KctlProbe.Sandbox.Shell
import KctlProbe.Sandbox.Shell.Binding
import KctlProbe.Sandbox.Shell.Builtin
import KctlProbe.Sandbox.Shell.Builtin.Arguments
import KctlProbe.Sandbox.Shell.Builtin.Control
import KctlProbe.Sandbox.Shell.Builtin.Job
import KctlProbe.Sandbox.Shell.Builtin.Lookup
import KctlProbe.Sandbox.Shell.Builtin.Output
import KctlProbe.Sandbox.Shell.Builtin.Place
import KctlProbe.Sandbox.Shell.Builtin.Variable
import KctlProbe.Sandbox.Shell.Calculation
import KctlProbe.Sandbox.Shell.Complaint
import KctlProbe.Sandbox.Shell.Condition
import KctlProbe.Sandbox.Shell.Evaluation
import KctlProbe.Sandbox.Shell.Expansion
import KctlProbe.Sandbox.Shell.Field
import KctlProbe.Sandbox.Shell.Redirecting
import KctlProbe.Sandbox.Shell.Running
import KctlProbe.Sandbox.Shell.Signal
import KctlProbe.Sandbox.Shell.Starting
import KctlProbe.Sandbox.Tool
import KctlProbe.Sandbox.Tool.Basic
import KctlProbe.Sandbox.Tool.Copying
import KctlProbe.Sandbox.Tool.Naming
import KctlProbe.Sandbox.Tool.Options
import KctlProbe.Sandbox.Tool.Portion
import KctlProbe.Sandbox.Tool.Reading
import KctlProbe.Sandbox.Tool.Tally
import KctlProbe.Sandbox.Tool.Translation
import KctlProbe.Sandbox.Tool.Words
import KctlProbe.Settings
import KctlProbe.Settings.Field
import KctlProbe.Settings.File
import KctlProbe.Settings.Reader
import KctlProbe.Settings.Writer
import KctlProbe.SubCommand
import KctlProbe.Text.Decimal
import KctlProbe.Text.Hidden
import KctlProbe.Text.Quoted
import KctlProbe.Text.Utf8
import KctlProbe.Timing
