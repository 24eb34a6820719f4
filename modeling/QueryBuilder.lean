import QueryBuilder.Code.Aliases
import QueryBuilder.Code.Composite.Basic
import QueryBuilder.Code.Composite.Print
import QueryBuilder.Code.Enumeration
import QueryBuilder.Code.InputStruct
import QueryBuilder.Code.Line
import QueryBuilder.Code.Module
import QueryBuilder.Code.Names
import QueryBuilder.Code.Options
import QueryBuilder.Code.TypeExpr
import QueryBuilder.Code.Unit
import QueryBuilder.CommandLine.Parse
import QueryBuilder.CommandLine.Report
import QueryBuilder.CommandLine.Run
import QueryBuilder.Decimal.Layout
import QueryBuilder.Decimal.Shortest
import QueryBuilder.Json.Basic
import QueryBuilder.Json.Decode
import QueryBuilder.Json.Document
import QueryBuilder.Json.Fault
import QueryBuilder.Json.Mismatch
import QueryBuilder.Json.Number
import QueryBuilder.Json.Printer
import QueryBuilder.Json.Reader
import QueryBuilder.Json.Record
import QueryBuilder.Main
import QueryBuilder.Name.Case
import QueryBuilder.Name.Fresh
import QueryBuilder.Name.Keyword
import QueryBuilder.Name.Scope
import QueryBuilder.Path
import QueryBuilder.Project.Config
import QueryBuilder.Project.Disk
import QueryBuilder.Project.Error
import QueryBuilder.Project.FileSystem
import QueryBuilder.Project.Generate
import QueryBuilder.Proofs.Code.AliasesUnit
import QueryBuilder.Proofs.Code.BuilderComments
import QueryBuilder.Proofs.Code.Closed
import QueryBuilder.Proofs.Code.CodeLines
import QueryBuilder.Proofs.Code.Documentation
import QueryBuilder.Proofs.Code.Heads
import QueryBuilder.Proofs.Code.Indirection
import QueryBuilder.Proofs.Code.Mentions
import QueryBuilder.Proofs.Code.Names
import QueryBuilder.Proofs.Code.Namespace
import QueryBuilder.Proofs.Code.Overrides
import QueryBuilder.Proofs.Code.Template
import QueryBuilder.Proofs.Code.TypeText
import QueryBuilder.Proofs.Code.Units
import QueryBuilder.Proofs.Code.Variants
import QueryBuilder.Proofs.Distinct
import QueryBuilder.Proofs.Name.Casing
import QueryBuilder.Proofs.Name.Claims
import QueryBuilder.Proofs.Name.Collision
import QueryBuilder.Proofs.Name.Fresh
import QueryBuilder.Proofs.Name.Grammar
import QueryBuilder.Proofs.Name.Legal
import QueryBuilder.Proofs.Name.Pascal
import QueryBuilder.Proofs.Name.Search
import QueryBuilder.Proofs.Name.Separator
import QueryBuilder.Proofs.Path
import QueryBuilder.Proofs.Project.AllOrNothing
import QueryBuilder.Proofs.Project.Confined
import QueryBuilder.Proofs.Project.Discovery
import QueryBuilder.Proofs.Project.Disk
import QueryBuilder.Proofs.Project.Reading
import QueryBuilder.Proofs.Project.UnitFiles
import QueryBuilder.Proofs.Query.Alias
import QueryBuilder.Proofs.Query.AliasSearch
import QueryBuilder.Proofs.Query.AliasUniqueness
import QueryBuilder.Proofs.Query.Build
import QueryBuilder.Proofs.Query.Canonical
import QueryBuilder.Proofs.Query.Head
import QueryBuilder.Proofs.Query.Hereditary
import QueryBuilder.Proofs.Query.KeyStability
import QueryBuilder.Proofs.Query.Merge
import QueryBuilder.Proofs.Query.NestedKeys
import QueryBuilder.Proofs.Query.Numbering
import QueryBuilder.Proofs.Query.Positions
import QueryBuilder.Proofs.Query.Reuse
import QueryBuilder.Proofs.Query.StringLiteral
import QueryBuilder.Proofs.Query.Unambiguous
import QueryBuilder.Proofs.Query.ValueText
import QueryBuilder.Proofs.Run
import QueryBuilder.Proofs.Schema.Bodies
import QueryBuilder.Proofs.Schema.Effective
import QueryBuilder.Proofs.Schema.Lookup
import QueryBuilder.Proofs.Schema.Merge
import QueryBuilder.Proofs.Schema.Mirror
import QueryBuilder.Proofs.Schema.Order
import QueryBuilder.Proofs.Schema.Reachable
import QueryBuilder.Proofs.Schema.Sound
import QueryBuilder.Proofs.Schema.WellFormed
import QueryBuilder.Proofs.Success
import QueryBuilder.Query.Alias
import QueryBuilder.Query.Operation
import QueryBuilder.Query.Selection
import QueryBuilder.Query.Value
import QueryBuilder.Response.Object
import QueryBuilder.Response.Shape
import QueryBuilder.Schema.Document
import QueryBuilder.Schema.Error
import QueryBuilder.Schema.Graph
import QueryBuilder.Schema.Override
import QueryBuilder.Schema.Resolve
import QueryBuilder.Text.Blank
import QueryBuilder.Text.Hex
import QueryBuilder.Text.InvisibleTable
import QueryBuilder.Text.Letter
import QueryBuilder.Text.LetterTable
import QueryBuilder.Text.Quoted
import QueryBuilder.Text.Run
