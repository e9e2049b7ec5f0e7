import BindingTables.Text.Case
import BindingTables.Text.EscapedTable
import BindingTables.Identifier
import BindingTables.Text.Indent
import BindingTables.Version
import BindingTables.Decimal.Shortest
import BindingTables.Text.Quoted
import BindingTables.Json.Fault
import BindingTables.Json.Number
import BindingTables.Json.Literal
import BindingTables.Json.Node
import BindingTables.Json.Reading
import BindingTables.Json.Writing
import BindingTables.Api.Basic
import BindingTables.Api.Reading
import BindingTables.Api.Validation
import BindingTables.Bindings.Basic
import BindingTables.Bindings.Document
import BindingTables.Bindings.Lowering
import BindingTables.Diagnostic
import BindingTables.Lint.Basic
import BindingTables.Lint.EnumCollision
import BindingTables.Lint.MissingAccessor
import BindingTables.Lint.Standard
import BindingTables.Statistics
import BindingTables.Pipeline.Basic
import BindingTables.Toml.Document
import BindingTables.FileTree
import BindingTables.Settings
import BindingTables.Command.Arguments
import BindingTables.Command.Operation
import BindingTables.Command.Run
import BindingTables.Pipeline.Action
import BindingTables.Main
import BindingTables.Proofs.Pipeline.Plain
import BindingTables.Proofs.Bindings.Classes
import BindingTables.Proofs.Enums.Collision
import BindingTables.Proofs.Enums.Kept
import BindingTables.Proofs.Accessors.Callable
import BindingTables.Proofs.Classes.Skipping
import BindingTables.Proofs.Pipeline.Errors
import BindingTables.Proofs.Statistics.Counting
import BindingTables.Proofs.Statistics.Totals
import BindingTables.Proofs.Context.Actions
import BindingTables.Proofs.Accessors.Missing
import BindingTables.Proofs.Statistics.Analysis
import BindingTables.Proofs.Pipeline.Observers
import BindingTables.Proofs.Command.Agreement
import BindingTables.Proofs.Pipeline.Execution
import BindingTables.Proofs.Accessors.Strictness
import BindingTables.Proofs.Context.History
import BindingTables.Proofs.Identifier.Wellformed
import BindingTables.Proofs.Identifier.Camel
import BindingTables.Proofs.Identifier.Plain
import BindingTables.Proofs.Identifier.Tables
import BindingTables.Proofs.Validation.FirstFault
import BindingTables.Proofs.Bindings.Lookup
import BindingTables.Proofs.Bindings.Singletons
import BindingTables.Proofs.Source.Search
import BindingTables.Proofs.Source.Fields
import BindingTables.Proofs.Source.Labels
import BindingTables.Proofs.Source.Spans
import BindingTables.Proofs.Files.Writing
import BindingTables.Proofs.Command.Effects
import BindingTables.Proofs.Bindings.Decoding
import BindingTables.Proofs.Reading.Ranges
import BindingTables.Proofs.Operators.Coverage
import BindingTables.Proofs.Enums.Stem
import BindingTables.Proofs.Enums.Outliers
import BindingTables.Proofs.Version.Numerals
import BindingTables.Proofs.Text.Indent
import BindingTables.Proofs.Source.Lines
import BindingTables.Proofs.Utilities.AllowList
import BindingTables.Proofs.Settings.CommandLine
