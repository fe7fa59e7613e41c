import Tablewright.Decimal.Binary
import Tablewright.Decimal.Shortest
import Tablewright.Decimal.Written
import Tablewright.Formatter.Basic
import Tablewright.Formatter.Command
import Tablewright.Formatter.Shell
import Tablewright.Fragment
import Tablewright.Generation.Generator
import Tablewright.Generation.Renderer
import Tablewright.Generation.Warnings
import Tablewright.Json.Fault
import Tablewright.Json.Number
import Tablewright.Json.Reader
import Tablewright.Json.Text
import Tablewright.Log.Entry
import Tablewright.Log.Loggers
import Tablewright.Log.Setup
import Tablewright.Log.Traced
import Tablewright.Naming
import Tablewright.Proofs.Fragment
import Tablewright.Proofs.Fragment.Decoding
import Tablewright.Proofs.Generation.Batch
import Tablewright.Proofs.Generation.Ending
import Tablewright.Proofs.Generation.Generator
import Tablewright.Proofs.Generation.Reports
import Tablewright.Proofs.Generation.Warnings
import Tablewright.Proofs.Json.Reader
import Tablewright.Proofs.Log.Levels
import Tablewright.Proofs.Log.Traced
import Tablewright.Proofs.Naming
import Tablewright.Proofs.Naming.Collisions
import Tablewright.Proofs.Naming.Joining
import Tablewright.Proofs.Naming.Shape
import Tablewright.Proofs.Registry
import Tablewright.Proofs.Registry.Appending
import Tablewright.Proofs.Registry.Compiling
import Tablewright.Proofs.Registry.Conservative
import Tablewright.Proofs.Registry.Extension
import Tablewright.Proofs.Registry.Growing
import Tablewright.Proofs.Registry.Lookup
import Tablewright.Proofs.Registry.Sharing
import Tablewright.Proofs.Settings.Escapes
import Tablewright.Proofs.Value.Cells
import Tablewright.Proofs.Settings.History
import Tablewright.Proofs.Settings.Ownership
import Tablewright.Proofs.Settings.Precedence
import Tablewright.Proofs.Table
import Tablewright.Proofs.Target.BuiltIn
import Tablewright.Proofs.Target.Declaring
import Tablewright.Proofs.Target.Dependence
import Tablewright.Proofs.Target.DescribedColumns
import Tablewright.Proofs.Target.Expressions
import Tablewright.Proofs.Target.InsertFile
import Tablewright.Proofs.Target.Nodes
import Tablewright.Proofs.Target.Quoting
import Tablewright.Proofs.Target.Required
import Tablewright.Proofs.Target.Reserved
import Tablewright.Proofs.Target.SelectFile
import Tablewright.Proofs.Target.Source
import Tablewright.Proofs.Target.StructFile
import Tablewright.Proofs.Target.TableSource
import Tablewright.Proofs.Target.WarningList
import Tablewright.Proofs.Target.Warnings
import Tablewright.Proofs.Template.Alike
import Tablewright.Proofs.Template.Asking
import Tablewright.Proofs.Template.Compiling
import Tablewright.Proofs.Template.Reading
import Tablewright.Proofs.Template.Rendering
import Tablewright.Proofs.Template.Shelf
import Tablewright.Proofs.Text.Case
import Tablewright.Proofs.Text.Join
import Tablewright.Proofs.Text.Sorted
import Tablewright.Proofs.Text.Split
import Tablewright.Proofs.Value.Entries
import Tablewright.Proofs.Value.Merging
import Tablewright.Proofs.Value.TextSet
import Tablewright.Registry
import Tablewright.Settings.Basic
import Tablewright.Value.Cells
import Tablewright.Settings.File
import Tablewright.Settings.Files
import Tablewright.Settings.Keeper
import Tablewright.Settings.Load
import Tablewright.Settings.Merge
import Tablewright.Settings.Session
import Tablewright.Settings.Warnings
import Tablewright.Table
import Tablewright.Target.Generator
import Tablewright.Target.Identifier
import Tablewright.Target.Templates
import Tablewright.Target.Warnings
import Tablewright.Template.Check
import Tablewright.Template.Evaluation
import Tablewright.Template.Expression
import Tablewright.Template.Literal
import Tablewright.Template.Margin
import Tablewright.Template.Nodes
import Tablewright.Template.Rendering
import Tablewright.Template.Shelf
import Tablewright.Template.Stream
import Tablewright.Template.Syntax
import Tablewright.Template.Token
import Tablewright.Template.Tokens
import Tablewright.Template.Vocabulary
import Tablewright.Text.Basic
import Tablewright.Text.Case
import Tablewright.Text.Encoding
import Tablewright.Text.Identifier
import Tablewright.Text.IdentifierTable
import Tablewright.Text.LowerTable
import Tablewright.Text.Quoted
import Tablewright.Text.Ranges
import Tablewright.Text.TitleTable
import Tablewright.Text.UnprintableTable
import Tablewright.Text.UpperTable
import Tablewright.Text.Utf8
import Tablewright.Value.Access
import Tablewright.Value.Basic
import Tablewright.Value.Column
import Tablewright.Value.Digest
import Tablewright.Value.Fault
import Tablewright.Value.Kind
import Tablewright.Value.Member
import Tablewright.Value.Number
import Tablewright.Value.Order
import Tablewright.Value.Same
import Tablewright.Value.Written
