import QuizPackage.Command.Arguments
import QuizPackage.Command.Build
import QuizPackage.Command.Configuration
import QuizPackage.Command.Expansion
import QuizPackage.Command.Fault
import QuizPackage.Command.Prepare
import QuizPackage.Command.Run
import QuizPackage.Command.Validate
import QuizPackage.Data
import QuizPackage.Data.Document
import QuizPackage.Data.Json
import QuizPackage.Data.Processing
import QuizPackage.Data.Quiz
import QuizPackage.Format
import QuizPackage.Host
import QuizPackage.Host.Memory
import QuizPackage.Identifier
import QuizPackage.Identifier.Base
import QuizPackage.Identifier.Registry
import QuizPackage.Item
import QuizPackage.Item.AssetLinks
import QuizPackage.Item.Building
import QuizPackage.Item.Issuing
import QuizPackage.Layout
import QuizPackage.Loading
import QuizPackage.Location
import QuizPackage.Main
import QuizPackage.Manifest
import QuizPackage.Manifest.Building
import QuizPackage.Markup.Escape
import QuizPackage.Markup.Tree
import QuizPackage.Markup.Vocabulary
import QuizPackage.MediaType
import QuizPackage.Number.Reading
import QuizPackage.Number.Shortest
import QuizPackage.Number.Writing
import QuizPackage.Package
import QuizPackage.Package.Generation
import QuizPackage.Package.Integrity
import QuizPackage.Package.Plan
import QuizPackage.Page.Addresses
import QuizPackage.Page.Item
import QuizPackage.Page.Manifest
import QuizPackage.Page.Rules
import QuizPackage.Page.Test
import QuizPackage.Path
import QuizPackage.Problem
import QuizPackage.Processing.Declaration
import QuizPackage.Processing.Evaluation
import QuizPackage.Processing.Rule
import QuizPackage.Processing.Synthesis
import QuizPackage.Proofs.Command.Expansion
import QuizPackage.Proofs.Command.Trial
import QuizPackage.Proofs.Command.Writing
import QuizPackage.Proofs.Host.Memory
import QuizPackage.Proofs.Identifier.Alphabet
import QuizPackage.Proofs.Identifier.Base
import QuizPackage.Proofs.Identifier.Hints
import QuizPackage.Proofs.Identifier.History
import QuizPackage.Proofs.Identifier.Numbering
import QuizPackage.Proofs.Identifier.Registry
import QuizPackage.Proofs.Identifier.Sanitizing
import QuizPackage.Proofs.Identifier.Separation
import QuizPackage.Proofs.Identifier.Steps
import QuizPackage.Proofs.Item.AnswerKey
import QuizPackage.Proofs.Item.AssetLinks
import QuizPackage.Proofs.Item.AssetSubstitution
import QuizPackage.Proofs.Item.Building
import QuizPackage.Proofs.Item.Coherence
import QuizPackage.Proofs.Item.Feedback
import QuizPackage.Proofs.Item.MultipleAnswer
import QuizPackage.Proofs.Item.Numerical
import QuizPackage.Proofs.Item.Refusal
import QuizPackage.Proofs.Item.Score
import QuizPackage.Proofs.Item.ShortAnswer
import QuizPackage.Proofs.Item.SingleChoice
import QuizPackage.Proofs.Manifest.Building
import QuizPackage.Proofs.Markup.Balance
import QuizPackage.Proofs.Markup.Decoding
import QuizPackage.Proofs.Markup.Entities
import QuizPackage.Proofs.Markup.Rendering
import QuizPackage.Proofs.Markup.Respelling
import QuizPackage.Proofs.Markup.WellFormed
import QuizPackage.Proofs.Number.Arithmetic
import QuizPackage.Proofs.Number.Grid
import QuizPackage.Proofs.Number.Packing
import QuizPackage.Proofs.Number.Rounding
import QuizPackage.Proofs.Package.Acceptance
import QuizPackage.Proofs.Package.Accounting
import QuizPackage.Proofs.Package.Alike
import QuizPackage.Proofs.Package.Assets
import QuizPackage.Proofs.Package.Closure
import QuizPackage.Proofs.Package.Faults
import QuizPackage.Proofs.Package.Generation
import QuizPackage.Proofs.Package.Items
import QuizPackage.Proofs.Package.Paths
import QuizPackage.Proofs.Package.Plan
import QuizPackage.Proofs.Package.Separation
import QuizPackage.Proofs.Package.Sources
import QuizPackage.Proofs.Package.Strictness
import QuizPackage.Proofs.Package.Words
import QuizPackage.Proofs.Page.Formats
import QuizPackage.Proofs.Page.Manifest
import QuizPackage.Proofs.Page.Rules
import QuizPackage.Proofs.Page.Test
import QuizPackage.Proofs.Page.WellFormed
import QuizPackage.Proofs.Path.Parent
import QuizPackage.Proofs.Path.Parts
import QuizPackage.Proofs.Processing.Conditions
import QuizPackage.Proofs.Processing.Dependence
import QuizPackage.Proofs.Source.Reading
import QuizPackage.Proofs.Text.Replacing
import QuizPackage.Proofs.Text.Substituting
import QuizPackage.Quiz
import QuizPackage.Quiz.FeedbackParts
import QuizPackage.Quiz.Validity
import QuizPackage.Quiz.Warning
import QuizPackage.Source.Draft
import QuizPackage.Source.Field
import QuizPackage.Source.Json
import QuizPackage.Source.Reading
import QuizPackage.Source.Toml
import QuizPackage.Source.TomlTable
import QuizPackage.Source.Value
import QuizPackage.Test
import QuizPackage.Test.Building
import QuizPackage.Text.Ascending
import QuizPackage.Text.Blank
import QuizPackage.Text.Case
import QuizPackage.Text.CaseTable
import QuizPackage.Text.CodeRange
import QuizPackage.Text.Invisible
import QuizPackage.Text.Occurrence
import QuizPackage.Text.Quoted
import QuizPackage.Text.Table
