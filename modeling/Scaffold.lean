import Scaffold.Calendar
import Scaffold.Command.Arguments
import Scaffold.Command.Basic
import Scaffold.Command.Run
import Scaffold.Decimal.Fixed
import Scaffold.Decimal.Notation
import Scaffold.Decimal.Ratio
import Scaffold.Decimal.Shortest
import Scaffold.Directive.Basic
import Scaffold.Directive.Decode
import Scaffold.Directive.Flaw
import Scaffold.Document.Parse
import Scaffold.Document.Split
import Scaffold.Document.Summary
import Scaffold.Edit.Injection
import Scaffold.Edit.Insertion
import Scaffold.Generator
import Scaffold.Glob
import Scaffold.Json
import Scaffold.Logging
import Scaffold.Main
import Scaffold.Path
import Scaffold.Pattern.Matcher
import Scaffold.Pattern.Parser
import Scaffold.Pattern.Search
import Scaffold.Pattern.Syntax
import Scaffold.Pattern.Token
import Scaffold.Proofs.Command.Check
import Scaffold.Proofs.Directive.Decode
import Scaffold.Proofs.Directive.Field
import Scaffold.Proofs.Directive.Injection
import Scaffold.Proofs.Directive.Spelling
import Scaffold.Proofs.Document.Append
import Scaffold.Proofs.Document.Failure
import Scaffold.Proofs.Document.LineEnds
import Scaffold.Proofs.Document.Runs
import Scaffold.Proofs.Document.Split
import Scaffold.Proofs.Document.Trim
import Scaffold.Proofs.Document.Written
import Scaffold.Proofs.Edit.Change
import Scaffold.Proofs.Edit.Injection
import Scaffold.Proofs.Edit.Insertion
import Scaffold.Proofs.Edit.LineInsertion
import Scaffold.Proofs.Edit.Removal
import Scaffold.Proofs.Edit.Replacement
import Scaffold.Proofs.Edit.Selection
import Scaffold.Proofs.Edit.Splice
import Scaffold.Proofs.Follows
import Scaffold.Proofs.Generator
import Scaffold.Proofs.Generator.Plain
import Scaffold.Proofs.Glob
import Scaffold.Proofs.Keeps
import Scaffold.Proofs.Path
import Scaffold.Proofs.Pattern.Enumeration
import Scaffold.Proofs.Pattern.Matcher
import Scaffold.Proofs.Pattern.Parser
import Scaffold.Proofs.Pattern.Search
import Scaffold.Proofs.Run.Append
import Scaffold.Proofs.Run.Commute
import Scaffold.Proofs.Run.Ending
import Scaffold.Proofs.Run.Failure
import Scaffold.Proofs.Run.Frame
import Scaffold.Proofs.Run.Inject
import Scaffold.Proofs.Run.Journal
import Scaffold.Proofs.Run.LineEnds
import Scaffold.Proofs.Run.Memory
import Scaffold.Proofs.Run.Mirror
import Scaffold.Proofs.Run.Relocation
import Scaffold.Proofs.Run.Rerun
import Scaffold.Proofs.Run.Sequence
import Scaffold.Proofs.Run.Simulation
import Scaffold.Proofs.Run.Trace
import Scaffold.Proofs.Storage.Disk
import Scaffold.Proofs.Storage.Memory
import Scaffold.Proofs.Storage.Mirror
import Scaffold.Proofs.Storage.Relocation
import Scaffold.Proofs.Template.Base
import Scaffold.Proofs.Template.Evaluate
import Scaffold.Proofs.Template.Failure
import Scaffold.Proofs.Template.Filter
import Scaffold.Proofs.Template.Load
import Scaffold.Proofs.Template.Loop
import Scaffold.Proofs.Template.Missing.Evaluate
import Scaffold.Proofs.Template.Missing.Filter
import Scaffold.Proofs.Template.Missing.Item
import Scaffold.Proofs.Template.Missing.Lookup
import Scaffold.Proofs.Template.Missing.Member
import Scaffold.Proofs.Template.Missing.Perform
import Scaffold.Proofs.Template.Missing.Reference
import Scaffold.Proofs.Template.Missing.Registry
import Scaffold.Proofs.Template.Missing.Step
import Scaffold.Proofs.Template.Operate
import Scaffold.Proofs.Template.Perform
import Scaffold.Proofs.Template.Place
import Scaffold.Proofs.Template.Plain
import Scaffold.Proofs.Template.Registry
import Scaffold.Proofs.Template.Risk
import Scaffold.Proofs.Template.Scope
import Scaffold.Proofs.Template.Shape
import Scaffold.Proofs.Template.Sound
import Scaffold.Proofs.Text.Lines
import Scaffold.Proofs.Text.Split
import Scaffold.Proofs.Text.Trim
import Scaffold.Proofs.Text.Utf8
import Scaffold.Proofs.Value.Entries
import Scaffold.Proofs.Variables.Assign
import Scaffold.Proofs.Variables.Failure
import Scaffold.Proofs.Variables.Load
import Scaffold.Proofs.Variables.Update
import Scaffold.Proofs.Words.Case
import Scaffold.Proofs.Words.LastWord
import Scaffold.Proofs.Words.Plural
import Scaffold.Proofs.Words.Rule
import Scaffold.Proofs.Yaml.Cursor
import Scaffold.Proofs.Yaml.Layout
import Scaffold.Proofs.Yaml.Load
import Scaffold.Proofs.Yaml.Margin.Block
import Scaffold.Proofs.Yaml.Margin.Cursor
import Scaffold.Proofs.Yaml.Margin.Gap
import Scaffold.Proofs.Yaml.Margin.Layout
import Scaffold.Proofs.Yaml.Margin.Mark
import Scaffold.Proofs.Yaml.Margin.Plain
import Scaffold.Proofs.Yaml.Margin.Quoted
import Scaffold.Proofs.Yaml.Margin.Steps
import Scaffold.Proofs.Yaml.Node
import Scaffold.Proofs.Yaml.Progress
import Scaffold.Proofs.Yaml.Token
import Scaffold.Run
import Scaffold.Storage.Basic
import Scaffold.Storage.Disk
import Scaffold.Storage.Memory
import Scaffold.Template.Check
import Scaffold.Template.Engine
import Scaffold.Template.Evaluate
import Scaffold.Template.Filter.Basic
import Scaffold.Template.Filter.Collection
import Scaffold.Template.Filter.Key
import Scaffold.Template.Filter.Notation
import Scaffold.Template.Filter.Number
import Scaffold.Template.Filter.Run
import Scaffold.Template.Filter.Text
import Scaffold.Template.Item.Basic
import Scaffold.Template.Item.Compare
import Scaffold.Template.Item.Folded
import Scaffold.Template.Item.Format
import Scaffold.Template.Item.Given
import Scaffold.Template.Item.Load
import Scaffold.Template.Item.Member
import Scaffold.Template.Item.Number
import Scaffold.Template.Item.Operate
import Scaffold.Template.Item.Percent
import Scaffold.Template.Item.Sequence
import Scaffold.Template.Item.TextMethod
import Scaffold.Template.Item.TimeMember
import Scaffold.Template.Item.Written
import Scaffold.Template.Parser.Basic
import Scaffold.Template.Parser.Expression
import Scaffold.Template.Parser.Statement
import Scaffold.Template.Perform
import Scaffold.Template.Place
import Scaffold.Template.Registry
import Scaffold.Template.Scope
import Scaffold.Template.Test
import Scaffold.Template.Token.Basic
import Scaffold.Template.Token.Literal
import Scaffold.Template.Token.Source
import Scaffold.Template.Tree
import Scaffold.Text.Basic
import Scaffold.Text.Blank
import Scaffold.Text.Case
import Scaffold.Text.CharacterName
import Scaffold.Text.Identifier
import Scaffold.Text.Integer
import Scaffold.Text.Letter
import Scaffold.Text.Lines
import Scaffold.Text.Link
import Scaffold.Text.Markup
import Scaffold.Text.Printable
import Scaffold.Text.Quoted
import Scaffold.Text.Ranges
import Scaffold.Text.Search
import Scaffold.Text.UrlQuoted
import Scaffold.Text.Utf8
import Scaffold.Text.Wrap
import Scaffold.Value.Basic
import Scaffold.Value.Sharing
import Scaffold.Value.Written
import Scaffold.Variables
import Scaffold.Words.Case
import Scaffold.Words.Plural
import Scaffold.Yaml.Cursor
import Scaffold.Yaml.Load
import Scaffold.Yaml.Node.Basic
import Scaffold.Yaml.Scalar
import Scaffold.Yaml.Tag
import Scaffold.Yaml.Token.Basic
import Scaffold.Yaml.Token.Layout
import Scaffold.Yaml.Token.Mark
import Scaffold.Yaml.Token.Scalar
