import DocLint.Calendar.Date
import DocLint.Calendar.Instant
import DocLint.Calendar.Reading
import DocLint.Checks.DateRange
import DocLint.Checks.Readability
import DocLint.Checks.RequiredProperties
import DocLint.Checks.Spelling
import DocLint.Checks.WriteGood
import DocLint.CommandLine.Command
import DocLint.CommandLine.Help
import DocLint.CommandLine.Paths
import DocLint.CommandLine.Run
import DocLint.CommandLine.Switch
import DocLint.Configuration
import DocLint.Configuration.Reading
import DocLint.Decimal.Layout
import DocLint.Decimal.Reading
import DocLint.Decimal.Shortest
import DocLint.Dispatch
import DocLint.Document
import DocLint.FileTree.Basic
import DocLint.FileTree.Name
import DocLint.FileTree.Path
import DocLint.FileTree.Walk
import DocLint.FrontMatter
import DocLint.Git
import DocLint.Json.Basic
import DocLint.Json.Decoding
import DocLint.Json.Reader
import DocLint.Json.Writer
import DocLint.Main
import DocLint.Markdown.Block
import DocLint.Markdown.Inline
import DocLint.Markdown.Rendering
import DocLint.PathFilter
import DocLint.Pattern.Basic
import DocLint.Pattern.Class
import DocLint.Pattern.Escape
import DocLint.Pattern.Matching
import DocLint.Pattern.Occurrence
import DocLint.Pattern.Reading
import DocLint.Proofs.Dispatch.Isolation
import DocLint.Proofs.Dispatch.Preparation
import DocLint.Proofs.FileTree.Descent
import DocLint.Proofs.FileTree.Entries
import DocLint.Proofs.FileTree.Lookup
import DocLint.Proofs.FileTree.Names
import DocLint.Proofs.FileTree.Parent
import DocLint.Proofs.FileTree.PathParts
import DocLint.Proofs.FileTree.Walk
import DocLint.Proofs.FirstFault
import DocLint.Proofs.Report.Accounting
import DocLint.Proofs.Report.Assembly
import DocLint.Proofs.Scope.Changed
import DocLint.Proofs.Scope.Matching
import DocLint.Proofs.Severity.Fold
import DocLint.Proofs.Text.ByteOrder
import DocLint.Proofs.Text.Splitting
import DocLint.Proofs.Validation.Coverage
import DocLint.Proofs.Validation.Faults
import DocLint.Proofs.Validation.Stages
import DocLint.Prose.Phrases
import DocLint.Prose.Spelling
import DocLint.Prose.Statistics
import DocLint.Prose.Suggestion
import DocLint.Registry
import DocLint.Report
import DocLint.Report.Csv
import DocLint.Report.Format
import DocLint.Report.Summary
import DocLint.Rule
import DocLint.Scope
import DocLint.Severity
import DocLint.Text.Blank
import DocLint.Text.Lines
import DocLint.Text.Quoted
import DocLint.Text.Utf8
import DocLint.Unicode.CaseFold
import DocLint.Unicode.Category
import DocLint.Unicode.Printable
import DocLint.Unicode.Property
import DocLint.Unicode.Ranges
import DocLint.Unicode.Script
import DocLint.Unicode.WordChar
import DocLint.Validation
import DocLint.Vcs
import DocLint.Yaml.BlockText
import DocLint.Yaml.Lexer
import DocLint.Yaml.Node
import DocLint.Yaml.Position
import DocLint.Yaml.Scalar
import DocLint.Yaml.Shape
import DocLint.Yaml.Token
import DocLint.Yaml.Value
import DocLint.Yaml.Writer
import DocLint.Proofs.Scope.Containment
import DocLint.Proofs.FrontMatter.RoundTrip
import DocLint.Proofs.Validation.Reordering
import DocLint.Proofs.FrontMatter.Returns
import DocLint.Proofs.Markdown.Blocks
import DocLint.Proofs.FileTree.Agreement
import DocLint.Proofs.Scope.Separation
import DocLint.Proofs.Validation.Separation
import DocLint.Proofs.Validation.WorkingDirectory
import DocLint.Proofs.Json.Records
import DocLint.Proofs.Json.Sorting
import DocLint.Proofs.Report.CsvReading
import DocLint.Proofs.Report.ResultReading
import DocLint.Proofs.Configuration.NormalForm
import DocLint.Proofs.CommandLine.Verdict
import DocLint.Proofs.Prose.CountedWords
import DocLint.Proofs.Prose.Counts
import DocLint.Proofs.Calendar.Order
import DocLint.Proofs.Registry.History
import DocLint.Proofs.Checks.DateWindow
import DocLint.Proofs.Pattern.Ends
import DocLint.Proofs.Pattern.Replacing
import DocLint.Proofs.Markdown.Emphasis
import DocLint.Proofs.Markdown.MarkedWords
import DocLint.Proofs.Markdown.UnderscoredWords
import DocLint.Proofs.Markdown.Identifiers
import DocLint.Proofs.FrontMatter.Removal
import DocLint.Proofs.Markdown.Prose
import DocLint.Proofs.Checks.Misspellings
import DocLint.Proofs.Checks.ListedWords
import DocLint.Proofs.Prose.LetterCase
import DocLint.Proofs.Checks.KnownWords
import DocLint.Proofs.Json.Slots
import DocLint.Proofs.Json.Equality
import DocLint.Proofs.Checks.Requirements
import DocLint.Proofs.Pattern.Spans
import DocLint.Proofs.StableOrder
import DocLint.Proofs.Prose.Suggestions
import DocLint.Proofs.Checks.StyleSuggestions
import DocLint.Proofs.Calendar.DayCount
import DocLint.Proofs.Calendar.Digits
import DocLint.Proofs.Calendar.Layouts
import DocLint.Proofs.Calendar.PrintedInstants
import DocLint.Proofs.Checks.DateSpellings
import DocLint.Proofs.Prose.RepeatedWords
import DocLint.Proofs.Prose.FlaggedWords
import DocLint.Proofs.Git.ChangedNames
import DocLint.Proofs.Markdown.CodeSpans
import DocLint.Proofs.Markdown.Deleting
