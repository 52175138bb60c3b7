import RecordRegistry.Command.Gathering
import RecordRegistry.Command.Generate
import RecordRegistry.Command.Help
import RecordRegistry.Command.Init
import RecordRegistry.Command.Invocation
import RecordRegistry.Command.Line
import RecordRegistry.Command.Option
import RecordRegistry.Command.Outcome
import RecordRegistry.Command.Prose
import RecordRegistry.Command.Scan
import RecordRegistry.Command.Similarity
import RecordRegistry.Command.Usage
import RecordRegistry.Command.UsageError
import RecordRegistry.Decimal.Binary
import RecordRegistry.Decimal.Shortest
import RecordRegistry.Declaration
import RecordRegistry.Entry
import RecordRegistry.File.Change
import RecordRegistry.File.Fault
import RecordRegistry.File.Lookup
import RecordRegistry.File.Path
import RecordRegistry.File.Replacement
import RecordRegistry.File.System
import RecordRegistry.GenerationError
import RecordRegistry.Generator
import RecordRegistry.Generator.Records
import RecordRegistry.Json
import RecordRegistry.Layout
import RecordRegistry.Log
import RecordRegistry.Log.Pattern
import RecordRegistry.Log.Pattern.Class
import RecordRegistry.Log.Pattern.Problem
import RecordRegistry.Log.Pattern.Reader
import RecordRegistry.Log.Pattern.Text
import RecordRegistry.Main
import RecordRegistry.Package
import RecordRegistry.Project
import RecordRegistry.Proofs.Command.Failing
import RecordRegistry.Proofs.Command.Gathering
import RecordRegistry.Proofs.Command.Generating
import RecordRegistry.Proofs.Command.Listing
import RecordRegistry.Proofs.Command.Placement
import RecordRegistry.Proofs.Command.Precedence
import RecordRegistry.Proofs.Command.Reporting
import RecordRegistry.Proofs.Command.Restoring
import RecordRegistry.Proofs.Evidence.Registry
import RecordRegistry.Proofs.File.Absolute
import RecordRegistry.Proofs.File.Alike
import RecordRegistry.Proofs.File.Following
import RecordRegistry.Proofs.File.Interleaving
import RecordRegistry.Proofs.File.Leaving
import RecordRegistry.Proofs.File.Making
import RecordRegistry.Proofs.File.Overwriting
import RecordRegistry.Proofs.File.Parents
import RecordRegistry.Proofs.File.Pieces
import RecordRegistry.Proofs.File.Places
import RecordRegistry.Proofs.File.Replacing
import RecordRegistry.Proofs.File.Sharing
import RecordRegistry.Proofs.File.Tree
import RecordRegistry.Proofs.File.Writing
import RecordRegistry.Proofs.Generation.Acceptance
import RecordRegistry.Proofs.Generation.Additions
import RecordRegistry.Proofs.Generation.Comparison
import RecordRegistry.Proofs.Generation.Duplicates
import RecordRegistry.Proofs.Generation.Entries
import RecordRegistry.Proofs.Generation.Failure
import RecordRegistry.Proofs.Generation.Order
import RecordRegistry.Proofs.Generation.Readers
import RecordRegistry.Proofs.Generation.Registering
import RecordRegistry.Proofs.Generation.Repetition
import RecordRegistry.Proofs.Generation.Running
import RecordRegistry.Proofs.Generation.Scanning
import RecordRegistry.Proofs.Generation.Sources
import RecordRegistry.Proofs.Json.Decoding
import RecordRegistry.Proofs.Log.Showing
import RecordRegistry.Proofs.Outline.Package
import RecordRegistry.Proofs.Outline.Placing
import RecordRegistry.Proofs.Printing.Laying
import RecordRegistry.Proofs.Printing.Registry
import RecordRegistry.Proofs.Printing.Spacing
import RecordRegistry.Proofs.Provenance.Expression
import RecordRegistry.Proofs.Provenance.Item
import RecordRegistry.Proofs.Provenance.Keeping
import RecordRegistry.Proofs.Provenance.Malformed
import RecordRegistry.Proofs.Provenance.Name
import RecordRegistry.Proofs.Provenance.Pattern
import RecordRegistry.Proofs.Provenance.Type
import RecordRegistry.Proofs.Reading.File
import RecordRegistry.Proofs.Reading.Instance
import RecordRegistry.Proofs.Reading.List
import RecordRegistry.Proofs.Reading.Path
import RecordRegistry.Proofs.Reading.Registry
import RecordRegistry.Proofs.Reading.Shape
import RecordRegistry.Proofs.Reading.Telling
import RecordRegistry.Proofs.Reading.Type
import RecordRegistry.Proofs.Results
import RecordRegistry.Proofs.Settings.Configuring
import RecordRegistry.Proofs.Settings.Document
import RecordRegistry.Proofs.Settings.Expansion
import RecordRegistry.Proofs.Syntax.Running
import RecordRegistry.Proofs.Syntax.Whole
import RecordRegistry.Proofs.Text.Place
import RecordRegistry.Proofs.Text.Utf8
import RecordRegistry.Proofs.Token.Cutting
import RecordRegistry.Proofs.Token.Likeness
import RecordRegistry.Proofs.Token.Naming
import RecordRegistry.Proofs.Token.Ordering
import RecordRegistry.Proofs.Toml.Finding
import RecordRegistry.Proofs.Toml.Forms
import RecordRegistry.Proofs.Toml.Keeping
import RecordRegistry.Proofs.Toml.Lines
import RecordRegistry.Proofs.Toml.Spelling
import RecordRegistry.Proofs.Toml.Tables
import RecordRegistry.Reading
import RecordRegistry.Rendering
import RecordRegistry.Settings.Configuration
import RecordRegistry.Settings.Expansion
import RecordRegistry.Syntax.Argument
import RecordRegistry.Syntax.Attribute
import RecordRegistry.Syntax.Block
import RecordRegistry.Syntax.Bound
import RecordRegistry.Syntax.Data
import RecordRegistry.Syntax.Error
import RecordRegistry.Syntax.Expression
import RecordRegistry.Syntax.File
import RecordRegistry.Syntax.Generics
import RecordRegistry.Syntax.Grammar
import RecordRegistry.Syntax.Item
import RecordRegistry.Syntax.Number
import RecordRegistry.Syntax.Operand
import RecordRegistry.Syntax.Path
import RecordRegistry.Syntax.Pattern
import RecordRegistry.Syntax.Signature
import RecordRegistry.Syntax.Statement
import RecordRegistry.Syntax.Stream
import RecordRegistry.Syntax.Tree
import RecordRegistry.Syntax.TypeExpression
import RecordRegistry.Terminal.Style
import RecordRegistry.Terminal.Table
import RecordRegistry.Text.Character
import RecordRegistry.Text.CodePoints
import RecordRegistry.Text.Quoted
import RecordRegistry.Text.Utf8
import RecordRegistry.Token
import RecordRegistry.Token.Comment
import RecordRegistry.Token.Lexer
import RecordRegistry.Token.Literal
import RecordRegistry.Token.Spacing
import RecordRegistry.Toml.Document
import RecordRegistry.Toml.Error
import RecordRegistry.Toml.Excerpt
import RecordRegistry.Toml.Moment
import RecordRegistry.Toml.Node
import RecordRegistry.Toml.Number
import RecordRegistry.Toml.Reader
import RecordRegistry.Toml.Text
import RecordRegistry.Toml.Value
import RecordRegistry.Toml.Writing
