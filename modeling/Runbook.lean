import Runbook.Action.Basic
import Runbook.Action.Discovery
import Runbook.Action.FrontMatter
import Runbook.Action.Reading
import Runbook.Command.Manifest
import Runbook.Command.OptionKind
import Runbook.Command.Registry
import Runbook.CommandLine.Dispatch
import Runbook.CommandLine.Parse
import Runbook.Files.Disk
import Runbook.Files.Path
import Runbook.Files.Tree
import Runbook.Format.Field
import Runbook.Json.Basic
import Runbook.Json.Printer
import Runbook.Json.Query
import Runbook.Json.Reader
import Runbook.Machine.Answer
import Runbook.Machine.Basic
import Runbook.Machine.Program
import Runbook.Machine.Entries
import Runbook.Machine.Scheduler
import Runbook.Markup.Element
import Runbook.Number.Arithmetic
import Runbook.Number.Binary
import Runbook.Number.Reading
import Runbook.Pom.Entry
import Runbook.Pom.Merge
import Runbook.Pom.Model
import Runbook.Process.Basic
import Runbook.Process.Toolbox
import Runbook.Regex.Basic
import Runbook.Regex.Matching
import Runbook.Role.Store
import Runbook.Run.Actions
import Runbook.Run.Pipeline
import Runbook.Run.World
import Runbook.Settings.Basic
import Runbook.Shell.Arithmetic
import Runbook.Shell.Builtin.Basic
import Runbook.Shell.Builtin.Table
import Runbook.Shell.Builtin.Jobs
import Runbook.Shell.Builtin.Variables
import Runbook.Shell.Builtin.Output
import Runbook.Shell.Evaluation
import Runbook.Shell.Expansion
import Runbook.Shell.Lexer
import Runbook.Shell.Parser
import Runbook.Shell.Pattern
import Runbook.Shell.Running
import Runbook.Shell.Start
import Runbook.Shell.State
import Runbook.Shell.Syntax
import Runbook.Template
import Runbook.Text.Letter
import Runbook.Text.Pieces
import Runbook.Text.Kebab
import Runbook.Text.Octets
import Runbook.Text.Utf8
import Runbook.Tool.Options
import Runbook.Tool.Blocks
import Runbook.Tool.Calendar
import Runbook.Tool.Columns
import Runbook.Tool.Concatenation
import Runbook.Tool.Expression
import Runbook.Tool.Copying
import Runbook.Tool.Translate
import Runbook.Tool.Dating
import Runbook.Tool.Differing.Basic
import Runbook.Tool.Differing.Changes
import Runbook.Tool.Differing.Layout
import Runbook.Tool.Digest
import Runbook.Tool.Dump
import Runbook.Tool.Printing
import Runbook.Tool.Editing.Basic
import Runbook.Tool.Editing.Cycle
import Runbook.Tool.Editing.Reading
import Runbook.Tool.Editing.Script
import Runbook.Tool.Ends
import Runbook.Tool.Environment
import Runbook.Tool.Sequence
import Runbook.Tool.Feeding
import Runbook.Tool.Finding.Basic
import Runbook.Tool.Finding.Syntax
import Runbook.Tool.Identity
import Runbook.Tool.Input
import Runbook.Tool.Linking
import Runbook.Tool.Listing
import Runbook.Tool.Making
import Runbook.Tool.Mode
import Runbook.Tool.Moving
import Runbook.Tool.Target
import Runbook.Tool.Wrapping
import Runbook.Tool.Work
import Runbook.Tool.Records.Basic
import Runbook.Tool.Records.Evaluation
import Runbook.Tool.Records.Expressions
import Runbook.Tool.Records.Lexer
import Runbook.Tool.Records.Streams
import Runbook.Tool.Records.Memory
import Runbook.Tool.Records.Pattern
import Runbook.Tool.Records.Statements
import Runbook.Tool.Records.Syntax
import Runbook.Tool.Records.Value
import Runbook.Tool.Searching
import Runbook.Tool.Sorting.Basic
import Runbook.Tool.Sorting.Key
import Runbook.Tool.Tally
import Runbook.Yaml.Property
import Runbook.Yaml.Value
import Runbook.Yaml.Layout
import Runbook.Yaml.Tree
import Runbook.Yaml.ScalarText
import Runbook.Yaml.Writer
import Runbook.Main
import Runbook.Proofs.Json.Dictionary
import Runbook.Proofs.Files.Places
import Runbook.Proofs.Files.Replacing
import Runbook.Proofs.Files.Ways
import Runbook.Proofs.Markup.Clean
import Runbook.Proofs.Markup.Excerpts
import Runbook.Proofs.Markup.Readability
import Runbook.Proofs.Markup.Reading
import Runbook.Proofs.Markup.Recovery
import Runbook.Proofs.Markup.Respacing
import Runbook.Proofs.Markup.Scanning
import Runbook.Proofs.Markup.Sites
import Runbook.Proofs.Markup.Tags
import Runbook.Proofs.Markup.Veil
import Runbook.Proofs.Markup.Xml
import Runbook.Proofs.Pom.Acceptance
import Runbook.Proofs.Pom.Breaks
import Runbook.Proofs.Pom.Contents
import Runbook.Proofs.Pom.Rendering
import Runbook.Proofs.Pom.Insertion
import Runbook.Proofs.Pom.Losses
import Runbook.Proofs.Pom.Merging
import Runbook.Proofs.Pom.Outline
import Runbook.Proofs.Pom.Parsing
import Runbook.Proofs.Pom.Presence
import Runbook.Proofs.Pom.Preservation
import Runbook.Proofs.Pom.Stability
import Runbook.Proofs.Pom.Steps
import Runbook.Proofs.Run.Batching
import Runbook.Proofs.Run.Queueing
import Runbook.Proofs.Run.Refusals
import Runbook.Proofs.Run.Steps
import Runbook.Proofs.Run.Truncation
import Runbook.Proofs.Run.Writing
import Runbook.Proofs.Text.Breaks
import Runbook.Proofs.Text.Positions
import Runbook.Proofs.Text.Lines
import Runbook.Proofs.Text.Respacing
import Runbook.Proofs.Text.Trimming
import Runbook.Proofs.Run.Notes
import Runbook.Proofs.Template.Rendering
import Runbook.Proofs.Run.Composition
import Runbook.Proofs.Pom.JsonForm
import Runbook.Proofs.Run.Keeping
import Runbook.Proofs.Run.Moves
import Runbook.Proofs.Run.Observation
import Runbook.Proofs.Files.Growth
import Runbook.Proofs.Files.Writing
import Runbook.Proofs.Role.Store
import Runbook.Proofs.Files.Ordering
import Runbook.Proofs.Action.Discovery
import Runbook.Proofs.Run.Facts
import Runbook.Proofs.Run.Asking
import Runbook.Proofs.Run.Guards
import Runbook.Proofs.Run.Progress
import Runbook.Proofs.Run.Repeatable
import Runbook.Proofs.Run.Repetition
import Runbook.Proofs.Command.Registration
import Runbook.Proofs.Pom.Order
import Runbook.Proofs.Pom.Arrangement
import Runbook.Proofs.Markup.Entities
import Runbook.Proofs.Pom.Spreading
import Runbook.Proofs.Text.Kebab
import Runbook.Proofs.Command.Validation
import Runbook.Proofs.Markup.Ranges
import Runbook.Proofs.Pom.Safety
import Runbook.Proofs.Pom.Endings
import Runbook.Proofs.Run.Injection
import Runbook.Proofs.Json.Composition
import Runbook.Proofs.Json.Notation
import Runbook.Proofs.Text.Letters
import Runbook.Proofs.Command.Binding
import Runbook.Proofs.Files.Sharing
import Runbook.Proofs.Role.Updates
import Runbook.Proofs.Run.Agreement
import Runbook.Proofs.Action.FrontMatter
import Runbook.Proofs.Action.Reading
import Runbook.Proofs.Run.Shapes
import Runbook.Proofs.Files.Altering
import Runbook.Proofs.Command.Scanning
import Runbook.Proofs.Files.Making
import Runbook.Proofs.Command.Adding
import Runbook.Proofs.Command.Scaffolding
import Runbook.Proofs.Command.Naming
