import GraphQuery.Clause
import GraphQuery.CommandLine.Arguments
import GraphQuery.CommandLine.Run
import GraphQuery.Comparator
import GraphQuery.Condition.Basic
import GraphQuery.Condition.Document
import GraphQuery.Condition.Render
import GraphQuery.Decimal.Binary64
import GraphQuery.Decimal.Layout
import GraphQuery.Decimal.Shortest
import GraphQuery.Fragment
import GraphQuery.Json.Document
import GraphQuery.Json.Printer
import GraphQuery.Json.Value
import GraphQuery.Literal
import GraphQuery.Main
import GraphQuery.Naming.Unique
import GraphQuery.Naming.Words
import GraphQuery.Parameter
import GraphQuery.Pattern.Arguments
import GraphQuery.Pattern.Basic
import GraphQuery.Pattern.Conditions
import GraphQuery.Query
import GraphQuery.Report
import GraphQuery.Settings
import GraphQuery.Text.Identifier
import GraphQuery.Text.Lines
import GraphQuery.Text.Quoted
import GraphQuery.Toon
import GraphQuery.Unicode.Alphabetic
import GraphQuery.Unicode.Blank
import GraphQuery.Unicode.CaseMapping
import GraphQuery.Unicode.CaseProperty
import GraphQuery.Unicode.Lowercase
import GraphQuery.Unicode.Numeric
import GraphQuery.Unicode.Ranges
import GraphQuery.Unicode.WordCharacter
import GraphQuery.Proofs.Formula.Grammar
import GraphQuery.Proofs.Formula.Parser
import GraphQuery.Proofs.Fragment
import GraphQuery.Proofs.Fragment.Resolution
import GraphQuery.Proofs.Condition.Truth
import GraphQuery.Proofs.Condition.Outline
import GraphQuery.Proofs.Condition.Reading
import GraphQuery.Proofs.Condition.Range
import GraphQuery.Proofs.Naming.Fresh
import GraphQuery.Proofs.Naming.Again
import GraphQuery.Proofs.Naming.Choice
import GraphQuery.Proofs.Naming.Initials
import GraphQuery.Proofs.Naming.Settled
import GraphQuery.Proofs.Unicode.CaseImage
import GraphQuery.Proofs.Parameter.Table
import GraphQuery.Proofs.Parameter.Merge
import GraphQuery.Proofs.Condition.Stores
import GraphQuery.Proofs.Pattern.Binding
import GraphQuery.Proofs.Pattern.Arguments
import GraphQuery.Proofs.Clause.Filling
import GraphQuery.Proofs.Clause.Filter
import GraphQuery.Proofs.Clause.Session
import GraphQuery.Proofs.Parameter.Renaming
import GraphQuery.Proofs.Clause.Apart
import GraphQuery.Proofs.Clause.Ownership
import GraphQuery.Proofs.Fragment.Skeleton
import GraphQuery.Proofs.Condition.Blank
import GraphQuery.Proofs.Parameter.Pairing
import GraphQuery.Proofs.Pattern.Alike
import GraphQuery.Proofs.Clause.Alike
import GraphQuery.Proofs.Clause.Noninterference
import GraphQuery.Proofs.Condition.Level
import GraphQuery.Proofs.Condition.Rewriting
import GraphQuery.Proofs.Condition.Core
import GraphQuery.Proofs.Condition.Silence
import GraphQuery.Proofs.Document.Depth
import GraphQuery.Proofs.Formula.Balance
import GraphQuery.Proofs.Formula.Brackets
import GraphQuery.Proofs.Condition.Brackets
import GraphQuery.Proofs.Document.Describes
import GraphQuery.Proofs.Document.Keys
import GraphQuery.Proofs.Naming.Camel
import GraphQuery.Proofs.Naming.Placeholder
import GraphQuery.Proofs.Text.Runs
import GraphQuery.Proofs.Text.Name
import GraphQuery.Proofs.Text.Quotes
import GraphQuery.Proofs.Text.Separated
import GraphQuery.Proofs.Literal.Number
import GraphQuery.Proofs.Literal.Reader
import GraphQuery.Proofs.Literal.Injective
import GraphQuery.Proofs.Fragment.Marks
import GraphQuery.Proofs.Pattern.Grammar
import GraphQuery.Proofs.Pattern.Reading
import GraphQuery.Proofs.Parameter.Requests
import GraphQuery.Proofs.Parameter.Stems
import GraphQuery.Proofs.Condition.Leaves
import GraphQuery.Proofs.Literal.Interpolation
import GraphQuery.Proofs.Document.Restated
import GraphQuery.Proofs.Document.Reference
import GraphQuery.Proofs.Document.Label
import GraphQuery.Proofs.Pattern.Rebinding
import GraphQuery.Proofs.Pattern.History
import GraphQuery.Proofs.Clause.History
import GraphQuery.Proofs.Document.Height
import GraphQuery.Proofs.Fragment.Building
import GraphQuery.Proofs.Naming.Boundaries
