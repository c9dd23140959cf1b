import FluentStyle.Catalog.Basic
import FluentStyle.Catalog.Category
import FluentStyle.Catalog.Config
import FluentStyle.Catalog.Conventions
import FluentStyle.Catalog.Decode
import FluentStyle.Catalog.Encode
import FluentStyle.Catalog.Standard
import FluentStyle.CommandLine.Arguments
import FluentStyle.CommandLine.CatalogFile
import FluentStyle.CommandLine.Check
import FluentStyle.CommandLine.Listing
import FluentStyle.CommandLine.Log
import FluentStyle.CommandLine.Run
import FluentStyle.Data.Basic
import FluentStyle.Data.Json
import FluentStyle.Effect
import FluentStyle.Grammar.Expr
import FluentStyle.Grammar.Parser
import FluentStyle.Grammar.Source
import FluentStyle.Main
import FluentStyle.Path.Basic
import FluentStyle.Path.Directory
import FluentStyle.Path.Ignore
import FluentStyle.Path.Wildcard
import FluentStyle.Pattern.Basic
import FluentStyle.Pattern.CharClass
import FluentStyle.Pattern.Reader
import FluentStyle.Pattern.Regex
import FluentStyle.Permission
import FluentStyle.Proofs.Catalog.ReadBack
import FluentStyle.Proofs.Catalog.Soundness
import FluentStyle.Proofs.CommandLine.CheckedFiles
import FluentStyle.Proofs.Grammar.Balance
import FluentStyle.Proofs.Grammar.Completeness
import FluentStyle.Proofs.Grammar.Depth
import FluentStyle.Proofs.Grammar.Derivation
import FluentStyle.Proofs.Grammar.Derived
import FluentStyle.Proofs.Grammar.Descent
import FluentStyle.Proofs.Grammar.ErrorPosition
import FluentStyle.Proofs.Grammar.Following
import FluentStyle.Proofs.Grammar.Greedy
import FluentStyle.Proofs.Grammar.Grouping
import FluentStyle.Proofs.Grammar.Injectivity
import FluentStyle.Proofs.Grammar.Inversion
import FluentStyle.Proofs.Grammar.Printing
import FluentStyle.Proofs.Grammar.Progress
import FluentStyle.Proofs.Grammar.Reading
import FluentStyle.Proofs.Grammar.ReadsBack
import FluentStyle.Proofs.Grammar.Recognition
import FluentStyle.Proofs.Grammar.Rendering
import FluentStyle.Proofs.Grammar.RoundTrip
import FluentStyle.Proofs.Grammar.Shape
import FluentStyle.Proofs.Grammar.Soundness
import FluentStyle.Proofs.Grammar.Termination
import FluentStyle.Proofs.Path.Place
import FluentStyle.Proofs.Path.Spelling
import FluentStyle.Proofs.Restyle.Advice
import FluentStyle.Proofs.Restyle.AtRest
import FluentStyle.Proofs.Restyle.Descent
import FluentStyle.Proofs.Restyle.MorePasses
import FluentStyle.Proofs.Restyle.NestedSections
import FluentStyle.Proofs.Restyle.Offers
import FluentStyle.Proofs.Restyle.Precedence
import FluentStyle.Proofs.Restyle.Progress
import FluentStyle.Proofs.Restyle.Ranking
import FluentStyle.Proofs.Restyle.Recorded
import FluentStyle.Proofs.Restyle.Rereading
import FluentStyle.Proofs.Restyle.Respacing
import FluentStyle.Proofs.Restyle.Sections
import FluentStyle.Proofs.Restyle.Settled
import FluentStyle.Proofs.Restyle.SingleRule
import FluentStyle.Proofs.Restyle.Step
import FluentStyle.Proofs.Restyle.Tally
import FluentStyle.Proofs.Restyle.Termination
import FluentStyle.Proofs.Rule.Acceptance
import FluentStyle.Proofs.Rule.Agreement
import FluentStyle.Proofs.Rule.Arrangement
import FluentStyle.Proofs.Rule.ArrowFunction
import FluentStyle.Proofs.Rule.CallOrder
import FluentStyle.Proofs.Rule.Capture
import FluentStyle.Proofs.Rule.Declarations
import FluentStyle.Proofs.Rule.Exchange
import FluentStyle.Proofs.Rule.Independence
import FluentStyle.Proofs.Rule.LeftmostRun
import FluentStyle.Proofs.Rule.Lookalike
import FluentStyle.Proofs.Rule.Making
import FluentStyle.Proofs.Rule.Objection
import FluentStyle.Proofs.Rule.Proposal
import FluentStyle.Proofs.Rule.Relationship
import FluentStyle.Proofs.Rule.Repetition
import FluentStyle.Proofs.Rule.Replacement
import FluentStyle.Proofs.Rule.Section
import FluentStyle.Proofs.Rule.Verdict
import FluentStyle.Proofs.Rule.Weight
import FluentStyle.Proofs.Rule.Wellformed
import FluentStyle.Proofs.Text.Boundary
import FluentStyle.Proofs.Text.Distinct
import FluentStyle.Proofs.Token.Coverage
import FluentStyle.Proofs.Token.Delimiters
import FluentStyle.Proofs.Token.Layout
import FluentStyle.Proofs.Token.Position
import FluentStyle.Proofs.Token.Quoting
import FluentStyle.Proofs.Token.Respacing
import FluentStyle.Proofs.Token.Spelling
import FluentStyle.Proofs.Tree.Calls
import FluentStyle.Proofs.Tree.Declarations
import FluentStyle.Proofs.Tree.Frame
import FluentStyle.Proofs.Tree.Height
import FluentStyle.Proofs.Tree.Lists
import FluentStyle.Proofs.Tree.Parts
import FluentStyle.Proofs.Tree.ReadingOrder
import FluentStyle.Restyle.Outcome
import FluentStyle.Restyle.Run
import FluentStyle.Restyle.Walk
import FluentStyle.Rule.ArrowFunction
import FluentStyle.Rule.BareFlag
import FluentStyle.Rule.CallOrder
import FluentStyle.Rule.Confirmation
import FluentStyle.Rule.Lookalike
import FluentStyle.Rule.Proposal
import FluentStyle.Rule.Relationship
import FluentStyle.Rule.Section
import FluentStyle.Rule.Substitution
import FluentStyle.Rule.Visibility
import FluentStyle.Snippet
import FluentStyle.SyntaxError
import FluentStyle.Text.CaseOrbit
import FluentStyle.Text.CodeRanges
import FluentStyle.Text.Color
import FluentStyle.Text.Distinct
import FluentStyle.Text.Letter
import FluentStyle.Text.Position
import FluentStyle.Text.Property.Binary
import FluentStyle.Text.Property.GeneralCategory
import FluentStyle.Text.Property.Script
import FluentStyle.Text.Quoted
import FluentStyle.Text.Split
import FluentStyle.Text.Template
import FluentStyle.Text.UpperCase
import FluentStyle.Text.Width
import FluentStyle.Token.Basic
import FluentStyle.Token.Reader
import FluentStyle.Tree.Children
import FluentStyle.Tree.Expr
import FluentStyle.Tree.Operator
import FluentStyle.Tree.Printer
import FluentStyle.Tree.Site
import FluentStyle.Tree.StringLiteral
import FluentStyle.Tree.Traversal
import FluentStyle.Tree.Weight
import FluentStyle.Verdict
import FluentStyle.Yaml.Access
import FluentStyle.Yaml.Cursor
import FluentStyle.Yaml.Node
import FluentStyle.Yaml.Printer
import FluentStyle.Yaml.Reader
import FluentStyle.Yaml.Token
