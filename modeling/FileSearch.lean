import FileSearch.Command.Actions
import FileSearch.Command.Basic
import FileSearch.Command.Criteria
import FileSearch.Command.Expression
import FileSearch.Command.Grammar
import FileSearch.CommandLine.Invocation
import FileSearch.CommandLine.Options
import FileSearch.CommandLine.Outcome
import FileSearch.CommandLine.Perform
import FileSearch.CommandText.Quoted
import FileSearch.CommandText.ShellWords
import FileSearch.CommandText.Words
import FileSearch.Config.Access
import FileSearch.Config.Basic
import FileSearch.Config.Document
import FileSearch.Content
import FileSearch.Content.Filter
import FileSearch.Decimal.Shortest
import FileSearch.Files.Error
import FileSearch.Files.Lines
import FileSearch.Files.Path
import FileSearch.Files.Tree
import FileSearch.Json.Error
import FileSearch.Json.Number
import FileSearch.Json.Reader
import FileSearch.Json.Schema
import FileSearch.Json.Skip
import FileSearch.Json.Text
import FileSearch.Json.Value
import FileSearch.Main
import FileSearch.Pattern.Basic
import FileSearch.Pattern.Bracket
import FileSearch.Pattern.CharSet
import FileSearch.Pattern.Escape
import FileSearch.Pattern.Flags
import FileSearch.Pattern.Property
import FileSearch.Pattern.Reader
import FileSearch.Pattern.Search
import FileSearch.Proofs.Command.Actions
import FileSearch.Proofs.Command.Clause
import FileSearch.Proofs.Command.Criteria
import FileSearch.Proofs.Command.Expression
import FileSearch.Proofs.Command.Gates
import FileSearch.Proofs.Command.Grammar
import FileSearch.Proofs.Command.Meaning
import FileSearch.Proofs.Command.Sizes
import FileSearch.Proofs.Command.StartLocations
import FileSearch.Proofs.Command.Stopping
import FileSearch.Proofs.Command.Wants
import FileSearch.Proofs.CommandLine.Preview
import FileSearch.Proofs.CommandText.Quoted
import FileSearch.Proofs.CommandText.Rendered
import FileSearch.Proofs.CommandText.ShellWords
import FileSearch.Proofs.CommandText.Words
import FileSearch.Proofs.Config.Access
import FileSearch.Proofs.Config.Document
import FileSearch.Proofs.Content.Comparison
import FileSearch.Proofs.Content.Narrowing
import FileSearch.Proofs.Content.PlainText
import FileSearch.Proofs.Files.Access
import FileSearch.Proofs.Files.Changes
import FileSearch.Proofs.Files.Contents
import FileSearch.Proofs.Files.Path
import FileSearch.Proofs.Files.Tree
import FileSearch.Proofs.Json.Exact
import FileSearch.Proofs.Json.Forms
import FileSearch.Proofs.Json.Grammar
import FileSearch.Proofs.Json.Laws
import FileSearch.Proofs.Json.Members
import FileSearch.Proofs.Json.Number
import FileSearch.Proofs.Json.Positions
import FileSearch.Proofs.Json.Schema
import FileSearch.Proofs.Json.Spelling
import FileSearch.Proofs.Json.Text
import FileSearch.Proofs.Json.Written
import FileSearch.Proofs.Lookup
import FileSearch.Proofs.Pattern.Search
import FileSearch.Proofs.Report.Json
import FileSearch.Proofs.Search.Execution
import FileSearch.Proofs.Search.Lines
import FileSearch.Proofs.Search.Outcome
import FileSearch.Proofs.Search.Sink
import FileSearch.Proofs.Specification.Cuts
import FileSearch.Proofs.Specification.Document
import FileSearch.Proofs.Specification.Forms
import FileSearch.Proofs.Specification.Levels
import FileSearch.Proofs.Specification.Limits
import FileSearch.Proofs.Specification.Members
import FileSearch.Proofs.Store.Agreement
import FileSearch.Proofs.Store.Basic
import FileSearch.Proofs.Store.Catalog
import FileSearch.Proofs.Store.Containment
import FileSearch.Proofs.Store.Contract
import FileSearch.Proofs.Store.Directory
import FileSearch.Proofs.Store.Enumeration
import FileSearch.Proofs.Store.Meaning
import FileSearch.Proofs.Store.Memory
import FileSearch.Proofs.Store.Recall
import FileSearch.Proofs.Store.Records
import FileSearch.Proofs.Store.Removal
import FileSearch.Proofs.Store.Transfer
import FileSearch.Proofs.Text.Blank
import FileSearch.Proofs.Text.Boundary
import FileSearch.Proofs.Text.Bytes
import FileSearch.Proofs.Text.Decoding
import FileSearch.Proofs.Text.Slug
import FileSearch.Proofs.Text.SlugWords
import FileSearch.Proofs.Text.Split
import FileSearch.Proofs.Text.Stretch
import FileSearch.Proofs.Text.Truncate
import FileSearch.Proofs.Toml.Document
import FileSearch.Proofs.Toml.Quoted
import FileSearch.Proofs.Unicode.LetterCase
import FileSearch.Report.Basic
import FileSearch.Report.Format
import FileSearch.Report.Json
import FileSearch.Report.Markdown
import FileSearch.Report.Render
import FileSearch.Report.Text
import FileSearch.Search.Drain
import FileSearch.Search.Execution
import FileSearch.Search.Machine
import FileSearch.Search.Options
import FileSearch.Search.Process
import FileSearch.Search.Result
import FileSearch.Search.Sink
import FileSearch.Shell.Arithmetic
import FileSearch.Shell.Commands
import FileSearch.Shell.Escapes
import FileSearch.Shell.Evaluation
import FileSearch.Shell.Printing
import FileSearch.Shell.Reader
import FileSearch.Shell.Script
import FileSearch.Shell.State
import FileSearch.Specification.Basic
import FileSearch.Specification.Choice
import FileSearch.Specification.Document
import FileSearch.Specification.Options
import FileSearch.Store.Basic
import FileSearch.Store.Directory
import FileSearch.Store.Error
import FileSearch.Store.Memory
import FileSearch.Store.Request
import FileSearch.Store.Storage
import FileSearch.Text.Blank
import FileSearch.Text.Bytes
import FileSearch.Text.Escaped
import FileSearch.Text.Occurrence
import FileSearch.Text.Slug
import FileSearch.Text.Split
import FileSearch.Text.Truncate
import FileSearch.Toml.Quoted
import FileSearch.Toml.Reader
import FileSearch.Toml.Scalar
import FileSearch.Toml.Text
import FileSearch.Toml.Value
import FileSearch.Unicode.CaseTables
import FileSearch.Unicode.Category
import FileSearch.Unicode.LetterCase
import FileSearch.Unicode.Ranges
