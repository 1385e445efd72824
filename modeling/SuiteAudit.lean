import SuiteAudit.Command.Basic
import SuiteAudit.Command.Run
import SuiteAudit.Command.Usage
import SuiteAudit.Config
import SuiteAudit.Config.Reader
import SuiteAudit.Config.Search
import SuiteAudit.Config.Template
import SuiteAudit.Feature.Basic
import SuiteAudit.Feature.Line
import SuiteAudit.Feature.Outline
import SuiteAudit.Feature.Reader
import SuiteAudit.Files.Glob
import SuiteAudit.Files.IgnoreRule
import SuiteAudit.Files.Tree
import SuiteAudit.Files.Walk
import SuiteAudit.Histogram
import SuiteAudit.JsonValue
import SuiteAudit.Lexicon
import SuiteAudit.Location
import SuiteAudit.Main
import SuiteAudit.Order
import SuiteAudit.Path
import SuiteAudit.Proofs.Feature.StepLines
import SuiteAudit.Proofs.SortedMap
import SuiteAudit.Proofs.StepFile.CallLines
import SuiteAudit.Proofs.Text.Trim
import SuiteAudit.Proofs.Universe.Calls
import SuiteAudit.Regex.Basic
import SuiteAudit.Regex.CharSet
import SuiteAudit.Regex.Property
import SuiteAudit.Regex.Syntax
import SuiteAudit.Register
import SuiteAudit.Report.Json
import SuiteAudit.Report.Table
import SuiteAudit.Report.Terminal
import SuiteAudit.Rule.Basic
import SuiteAudit.Rule.Check
import SuiteAudit.Rule.Evaluator
import SuiteAudit.Rule.Id
import SuiteAudit.ScoreCard
import SuiteAudit.SortedMap
import SuiteAudit.StepFile.Block
import SuiteAudit.StepFile.Declaration
import SuiteAudit.StepFile.Definition
import SuiteAudit.StepFile.Hook
import SuiteAudit.StepFile.Interpolation
import SuiteAudit.StepFile.NestedCall
import SuiteAudit.StepFile.Pattern
import SuiteAudit.StepFile.Quoted
import SuiteAudit.StepFile.Smell
import SuiteAudit.StepFile.TagExpression
import SuiteAudit.Suite
import SuiteAudit.Summary
import SuiteAudit.Text.Age
import SuiteAudit.Text.Basic
import SuiteAudit.Text.Break
import SuiteAudit.Text.Bytes
import SuiteAudit.Text.Category
import SuiteAudit.Text.CharWidth
import SuiteAudit.Text.Folding
import SuiteAudit.Text.Property
import SuiteAudit.Text.Run
import SuiteAudit.Text.Script
import SuiteAudit.Text.Width
import SuiteAudit.Toml.Basic
import SuiteAudit.Toml.Reader
import SuiteAudit.Toml.Scalar
import SuiteAudit.Universe
import SuiteAudit.Proofs.Universe.Catalog
import SuiteAudit.Proofs.Histogram
import SuiteAudit.Proofs.Summary
import SuiteAudit.Proofs.Suite.Permutation
import SuiteAudit.Proofs.Guarded.Basic
import SuiteAudit.Proofs.Guarded.Braces
import SuiteAudit.Proofs.Guarded.Feature
import SuiteAudit.Proofs.Guarded.StepFile
import SuiteAudit.Proofs.Guarded.Audit
import SuiteAudit.Proofs.StepFile.Declarations
import SuiteAudit.Proofs.StepFile.NestedLines
import SuiteAudit.Proofs.Suite.Growth
import SuiteAudit.Proofs.Feature.Draft
import SuiteAudit.Proofs.Feature.RoundTrip
import SuiteAudit.Proofs.Suite.Conservation
import SuiteAudit.Proofs.Rule.Independence
import SuiteAudit.Proofs.Feature.DocString
import SuiteAudit.Proofs.StepFile.OpenLiterals
import SuiteAudit.Proofs.StepFile.Masks
import SuiteAudit.Proofs.StepFile.Closings
import SuiteAudit.Proofs.StepFile.Escapes
import SuiteAudit.Proofs.StepFile.Carried
import SuiteAudit.Proofs.StepFile.Literals
import SuiteAudit.Proofs.StepFile.QuotedCalls
import SuiteAudit.Proofs.StepFile.StringCalls
import SuiteAudit.Proofs.Layout
import SuiteAudit.Proofs.Feature.Append
import SuiteAudit.Proofs.Feature.Segments
import SuiteAudit.Proofs.Feature.Outline
import SuiteAudit.Proofs.StepFile.Blocks
import SuiteAudit.Proofs.Regex.Language
import SuiteAudit.Proofs.Regex.Reading
import SuiteAudit.Proofs.StepFile.Pattern
import SuiteAudit.Proofs.StepFile.Reach
import SuiteAudit.Proofs.Universe.Reached
import SuiteAudit.Proofs.Feature.ExampleBlocks
import SuiteAudit.Proofs.Rule.Settings
import SuiteAudit.Proofs.Feature.CommentedRows
import SuiteAudit.Proofs.StepFile.Universal
import SuiteAudit.Proofs.StepFile.RegexLines
import SuiteAudit.Proofs.Suite.Category
import SuiteAudit.Proofs.Rule.SharedTags
import SuiteAudit.Proofs.Suite.DeadListing
import SuiteAudit.Proofs.Text.Replace
import SuiteAudit.Proofs.List
import SuiteAudit.Proofs.Text.Numbers
import SuiteAudit.Proofs.Text.Scan
import SuiteAudit.Proofs.Rule.Phrases
import SuiteAudit.Proofs.StepFile.Cuts
import SuiteAudit.Proofs.Suite.PrintedKeys
import SuiteAudit.Proofs.Guarded.Scanners
import SuiteAudit.Proofs.Config.NearestSettings
import SuiteAudit.Proofs.Histogram.History
import SuiteAudit.Proofs.Feature.StepReading
import SuiteAudit.Proofs.Feature.StepGrammar
import SuiteAudit.Proofs.Rule.StepOrder
import SuiteAudit.Proofs.Rule.RepeatedTags
import SuiteAudit.Proofs.Feature.RowGrammar
