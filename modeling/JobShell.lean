import JobShell.Builtin.Command
import JobShell.Builtin.Kind
import JobShell.Builtin.ProcessTree
import JobShell.Builtin.Response
import JobShell.CommandLine.Arguments
import JobShell.CommandLine.Choice
import JobShell.CommandLine.Invoke
import JobShell.CommandLine.Similar
import JobShell.Error
import JobShell.History.Basic
import JobShell.History.Replay
import JobShell.Job.Basic
import JobShell.Job.Context
import JobShell.Job.Endpoint
import JobShell.Job.Launch
import JobShell.Job.Run
import JobShell.Job.State
import JobShell.Job.Table
import JobShell.Line.Parser
import JobShell.Line.Word
import JobShell.Machine.Basic
import JobShell.Machine.Trial
import JobShell.Main
import JobShell.Opening
import JobShell.Prompt
import JobShell.Proofs.Descriptor.Holdings
import JobShell.Proofs.Descriptor.Owned
import JobShell.Proofs.Launch.Child
import JobShell.Proofs.Launch.Descriptors
import JobShell.Proofs.Launch.Failure
import JobShell.Proofs.Launch.Files
import JobShell.Proofs.Launch.Rules
import JobShell.Proofs.Launch.Stages
import JobShell.Proofs.Launch.Steps
import JobShell.Proofs.Program.Contract
import JobShell.Proofs.Program.Trace
import JobShell.Sandbox.Trial
import JobShell.Script.Arithmetic
import JobShell.Script.Builtin
import JobShell.Script.Command
import JobShell.Script.Condition
import JobShell.Script.Directory
import JobShell.Script.Expansion
import JobShell.Script.Interpreter
import JobShell.Script.Match
import JobShell.Script.Options
import JobShell.Script.Reader
import JobShell.Script.Source
import JobShell.Script.State
import JobShell.Script.Switch
import JobShell.Settings.Basic
import JobShell.Settings.Source
import JobShell.Settings.Standard
import JobShell.Settings.Table
import JobShell.Shell.Basic
import JobShell.Shell.Reader
import JobShell.Shell.Surroundings
import JobShell.Text.Blank
import JobShell.Text.Column
import JobShell.Text.Decimal
import JobShell.Text.Double
import JobShell.Text.Quoted
import JobShell.Text.Shapeless
import JobShell.Text.ShellWord
import JobShell.Text.Utf8
import JobShell.Toml.Document
import JobShell.Toml.Excerpt
import JobShell.Toml.Item
import JobShell.Toml.Position
import JobShell.Toml.Scalar
import JobShell.Toml.Text
import JobShell.Tool.All
import JobShell.Tool.Basic
import JobShell.Tool.Copy
import JobShell.Tool.Decimal
import JobShell.Tool.Directory
import JobShell.Tool.Escape
import JobShell.Tool.Files
import JobShell.Tool.Filter
import JobShell.Tool.Floating
import JobShell.Tool.Format
import JobShell.Tool.Gather
import JobShell.Tool.Grep
import JobShell.Tool.Md5
import JobShell.Tool.Mode
import JobShell.Tool.Produce
import JobShell.Tool.Sort
import JobShell.Tool.Translate
import JobShell.Tool.Version
import JobShell.Unix.Boot
import JobShell.Unix.Directory
import JobShell.Unix.Errno
import JobShell.Unix.FileTree
import JobShell.Unix.Kernel
import JobShell.Unix.Lifecycle
import JobShell.Unix.Path
import JobShell.Unix.Process
import JobShell.Unix.Program
import JobShell.Unix.Schedule
import JobShell.Unix.Signal
import JobShell.Unix.Transfer
import JobShell.Unix.Typing
import JobShell.Proofs.System.World
import JobShell.Proofs.System.Sound
import JobShell.Proofs.System.Pipes
import JobShell.Proofs.Launch.Layout
import JobShell.Proofs.Launch.Wiring
import JobShell.Proofs.Launch.Stall
import JobShell.Proofs.Launch.Terminal
import JobShell.Proofs.Line.Written
import JobShell.Proofs.Launch.Trace
import JobShell.Proofs.Text.Numeral
import JobShell.Proofs.Job.Asking
import JobShell.Proofs.Job.Slots
import JobShell.Proofs.Shell.Background
import JobShell.Proofs.History.Kept
import JobShell.Proofs.Shell.Remembered
import JobShell.Proofs.Shell.Listing
import JobShell.Proofs.Shell.Replaying
import JobShell.Proofs.History.Behind
import JobShell.Proofs.Launch.Waiting
import JobShell.Proofs.Shell.Unrecorded
import JobShell.Proofs.Text.Lossy
import JobShell.Proofs.Program.Delivery
import JobShell.Proofs.Shell.Calls
import JobShell.Proofs.Shell.Script
import JobShell.Proofs.Shell.Naming
import JobShell.Proofs.Builtin.Outcome
import JobShell.Proofs.Launch.Announced
import JobShell.Proofs.Shell.Located
import JobShell.Proofs.Job.SlotMap
import JobShell.Proofs.Text.Marks
import JobShell.Proofs.Builtin.Family
import JobShell.Proofs.Settings.Precedence
