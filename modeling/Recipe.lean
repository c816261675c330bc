import Recipe.Entries
import Recipe.Text.Blank
import Recipe.Decimal.Shortest
import Recipe.Decimal.Numeral
import Recipe.Json.Render
import Recipe.Json.Read
import Recipe.Clause.Match
import Recipe.Statement
import Recipe.Error
import Recipe.Clause.Key
import Recipe.Options
import Recipe.Statement.Alternation
import Recipe.Statement.Parse
import Recipe.Evaluation
import Recipe.Field
import Recipe.Text.Printable
import Recipe.Yaml.Node
import Recipe.Yaml.Schema
import Recipe.Yaml.Value
import Recipe.Yaml.Load
import Recipe.Command.Arguments
import Recipe.Command.Request
import Recipe.Command.Document
import Recipe.Command.Report
import Recipe.Main
import Recipe.Proofs.Text.Pieces
import Recipe.Proofs.Clause.WellFormed
import Recipe.Proofs.Clause.SelectorList
import Recipe.Proofs.Clause.Text
import Recipe.Proofs.Statement.Reads
import Recipe.Proofs.Statement.Alternation
import Recipe.Proofs.Statement.Grammar
import Recipe.Proofs.Statement.WellFormed
import Recipe.Proofs.Evaluation.Noninterference
import Recipe.Proofs.Evaluation.Ambiguity
import Recipe.Proofs.Statement.Scalars
import Recipe.Proofs.Evaluation.Selection
import Recipe.Proofs.Evaluation.Siblings
import Recipe.Proofs.Evaluation.Congruence
import Recipe.Proofs.Evaluation.Leaves
import Recipe.Proofs.Evaluation.Stack
import Recipe.Proofs.Evaluation.Insertion
import Recipe.Proofs.Evaluation.Order
import Recipe.Proofs.Evaluation.Checked
import Recipe.Proofs.Json.Lexeme
import Recipe.Proofs.Json.Read
import Recipe.Proofs.Value.Similar
import Recipe.Proofs.Statement.Plain
import Recipe.Proofs.Outcome
import Recipe.Proofs.Statement.Similar
import Recipe.Proofs.Statement.ParseSimilar
import Recipe.Proofs.Evaluation.Similar
import Recipe.Proofs.Field.Similar
import Recipe.Proofs.Statement.Sorted
import Recipe.Proofs.Statement.Pieces
import Recipe.Proofs.List
import Recipe.Proofs.Statement.Content
import Recipe.Proofs.Statement.Spelling
import Recipe.Proofs.Field.Spelling
import Recipe.Proofs.Statement.ClauseOrder
import Recipe.Proofs.Command.Interchange
import Recipe.Proofs.Evaluation.Plain
import Recipe.Proofs.Statement.Detection
import Recipe.Proofs.Evaluation.Yields
import Recipe.Proofs.Statement.Nesting
import Recipe.Proofs.Evaluation.Resolved
import Recipe.Proofs.Statement.Repetition
import Recipe.Proofs.Statement.Refusal
import Recipe.Proofs.Statement.ValidNames
import Recipe.Proofs.Statement.Context
import Recipe.Proofs.Evaluation.Causes
import Recipe.Proofs.Field.Normalize
import Recipe.Proofs.Field.Errors
import Recipe.Proofs.Field.Single
import Recipe.Proofs.Field.Guarantees
import Recipe.Proofs.Evaluation.Chains
import Recipe.Proofs.Evaluation.AsList
import Recipe.Proofs.Field.Union
import Recipe.Proofs.Evaluation.Default
import Recipe.Proofs.Statement.Headers
import Recipe.Proofs.Evaluation.Compound
import Recipe.Proofs.Json.Distinct
import Recipe.Proofs.Yaml.Distinct
import Recipe.Proofs.Yaml.Build
import Recipe.Proofs.Command.Keys
import Recipe.Proofs.Command.Check
import Recipe.Proofs.Value.Rendering
import Recipe.Proofs.Yaml.Value
