import Fleet.Assembly.Launch
import Fleet.Assembly.Separator
import Fleet.Awk.Command
import Fleet.Awk.Evaluation
import Fleet.Awk.Machine
import Fleet.Awk.Parser
import Fleet.Awk.Patterns
import Fleet.Awk.Tokens
import Fleet.Awk.Values
import Fleet.Bindings
import Fleet.Calendar.Basic
import Fleet.Calendar.Parsing
import Fleet.Calendar.Printing
import Fleet.CommandLine.Report
import Fleet.CommandLine.Options
import Fleet.CommandLine.Requests
import Fleet.CommandLine.Run
import Fleet.Config.Configuration
import Fleet.Config.Environment
import Fleet.Config.Expansion
import Fleet.Config.Parameters
import Fleet.Config.Value
import Fleet.Decimal.Binary
import Fleet.Decimal.Reading
import Fleet.Decimal.Shortest
import Fleet.Digest.Basic
import Fleet.Digest.Blocks
import Fleet.Execution.Capture
import Fleet.Execution.Host
import Fleet.Main
import Fleet.Path.Basic
import Fleet.Path.Normal
import Fleet.Project.Basic
import Fleet.Project.Directory
import Fleet.Project.Loading
import Fleet.Proofs.Activation
import Fleet.Proofs.Attempts
import Fleet.Proofs.CommandLists
import Fleet.Proofs.Containment
import Fleet.Proofs.Directories
import Fleet.Proofs.Names
import Fleet.Proofs.Passages
import Fleet.Proofs.Quoting
import Fleet.Proofs.Sessions
import Fleet.Proofs.ShellMode
import Fleet.Shell.Arithmetic.Plain
import Fleet.Shell.Arithmetic.Rich
import Fleet.Shell.Arrays
import Fleet.Shell.Assigning
import Fleet.Shell.Builtins
import Fleet.Shell.Builtins.Naming
import Fleet.Shell.Builtins.Directory
import Fleet.Shell.Builtins.Jobs
import Fleet.Shell.Builtins.Limits
import Fleet.Shell.Builtins.Reading
import Fleet.Shell.Builtins.Rich.Declaring
import Fleet.Shell.Builtins.Rich.Directory
import Fleet.Shell.Builtins.Rich.Leaving
import Fleet.Shell.Builtins.Rich.Names
import Fleet.Shell.Builtins.Rich.Printing
import Fleet.Shell.Builtins.Rich.Reading
import Fleet.Shell.Builtins.Rich.Signals
import Fleet.Shell.Builtins.Searching
import Fleet.Shell.Builtins.Switches
import Fleet.Shell.Conditions
import Fleet.Shell.Evaluation
import Fleet.Shell.Expansion
import Fleet.Shell.Expansion.Plain
import Fleet.Shell.Expansion.Rich
import Fleet.Shell.Fields
import Fleet.Shell.Invocation
import Fleet.Shell.Letters
import Fleet.Shell.Lookup
import Fleet.Shell.Loops
import Fleet.Shell.Parameters
import Fleet.Shell.Parser
import Fleet.Shell.Parser.Basic
import Fleet.Shell.Pattern
import Fleet.Shell.Present
import Fleet.Shell.Process
import Fleet.Shell.Quoting
import Fleet.Shell.Signals
import Fleet.Shell.Starting
import Fleet.Shell.Surroundings
import Fleet.Shell.Syntax
import Fleet.Shell.System
import Fleet.Shell.Variables
import Fleet.Shell.Waiting
import Fleet.Shell.Wrappers
import Fleet.Sweep.Basic
import Fleet.Sweep.Error
import Fleet.Template.Basic
import Fleet.Template.Evaluation
import Fleet.Template.Parser
import Fleet.Text.Alphanumeric
import Fleet.Text.Blank
import Fleet.Text.Json
import Fleet.Text.Octets
import Fleet.Text.Quoted
import Fleet.Text.Utf8
import Fleet.Toml.Document
import Fleet.Toml.Number
import Fleet.Toml.Text
import Fleet.Toml.Value
import Fleet.Tools.Alignment
import Fleet.Tools.Basic
import Fleet.Tools.Characters
import Fleet.Tools.Comparing
import Fleet.Tools.Condition
import Fleet.Tools.Copying
import Fleet.Tools.Counting
import Fleet.Tools.Dates
import Fleet.Tools.Differences
import Fleet.Tools.Digests
import Fleet.Tools.Dumping
import Fleet.Tools.Editing
import Fleet.Tools.Editing.Parser
import Fleet.Tools.Editing.Running
import Fleet.Tools.Editing.Script
import Fleet.Tools.Encodings
import Fleet.Tools.Escapes
import Fleet.Tools.Excerpts
import Fleet.Tools.Expressions
import Fleet.Tools.Factors
import Fleet.Tools.Fields
import Fleet.Tools.Files
import Fleet.Tools.Finding
import Fleet.Tools.Folding
import Fleet.Tools.Formats
import Fleet.Tools.Identity
import Fleet.Tools.Inputs
import Fleet.Tools.Installing
import Fleet.Tools.Joining
import Fleet.Tools.Layout
import Fleet.Tools.Linking
import Fleet.Tools.Listing
import Fleet.Tools.Merging
import Fleet.Tools.Numbering
import Fleet.Tools.Options
import Fleet.Tools.Ordering
import Fleet.Tools.Paragraphs
import Fleet.Tools.Passing
import Fleet.Tools.Paths
import Fleet.Tools.Permissions
import Fleet.Tools.Quoting
import Fleet.Tools.Regex
import Fleet.Tools.Regex.Parser
import Fleet.Tools.Repeats
import Fleet.Tools.Searching
import Fleet.Tools.Sections
import Fleet.Tools.Sequence
import Fleet.Tools.Settings
import Fleet.Tools.Sorting
import Fleet.Tools.Splitting
import Fleet.Tools.Status
import Fleet.Tools.Tabs
import Fleet.Tools.Tool
import Fleet.Tools.Transfer
import Fleet.Tools.Units
import Fleet.Words.Quoting
import Fleet.Words.Splitting
import Fleet.World.Accounts
import Fleet.World.Basic
import Fleet.World.Edits
import Fleet.World.FileTree
import Fleet.World.OsError
import Fleet.World.Permissions
import Fleet.Proofs.Braces
import Fleet.Proofs.Grammar
import Fleet.Proofs.Reading
import Fleet.Proofs.Calls
import Fleet.Proofs.Placement
import Fleet.Proofs.Values
import Fleet.Proofs.Verbatim
import Fleet.Proofs.Selection
import Fleet.Proofs.Agreement
import Fleet.Proofs.Independence
import Fleet.Proofs.Journeys
import Fleet.Proofs.ExitCodes
import Fleet.Proofs.Planning
import Fleet.Proofs.Alternatives
import Fleet.Proofs.Dialogues
import Fleet.Proofs.Reliance
import Fleet.Proofs.Walks
import Fleet.Proofs.Spellings
import Fleet.Proofs.Climbs
import Fleet.Proofs.NormalForms
import Fleet.Proofs.Detours
import Fleet.Proofs.Spawnable
import Fleet.Proofs.Admission
import Fleet.Proofs.Spans
import Fleet.Proofs.Echoes
import Fleet.Proofs.Additions
import Fleet.Proofs.Discovery
import Fleet.Proofs.Offsets
import Fleet.Proofs.Entries
