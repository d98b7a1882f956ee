import StepForge.Command.Arguments
import StepForge.Command.Run
import StepForge.Console.Cells
import StepForge.Console.Log
import StepForge.Console.Markup
import StepForge.Console.Print
import StepForge.Console.Progress
import StepForge.Console.Screen
import StepForge.Console.Style
import StepForge.Console.Summary
import StepForge.Console.Wrap
import StepForge.Conversion.Plan
import StepForge.Conversion.Run
import StepForge.Definition.App
import StepForge.Definition.Category
import StepForge.Definition.Source
import StepForge.Fault
import StepForge.Fault.Raise
import StepForge.Generate.Field
import StepForge.Generate.Index
import StepForge.Generate.Manifest
import StepForge.Generate.Step
import StepForge.Json.Reader
import StepForge.Literal.Check
import StepForge.Literal.Term
import StepForge.Literal.Token
import StepForge.Main
import StepForge.Naming.Case
import StepForge.Naming.Words
import StepForge.Number.Binary64
import StepForge.Number.Notation
import StepForge.Number.Reading
import StepForge.Number.Shortest
import StepForge.Proofs.Conversion.Engine
import StepForge.Proofs.Conversion.Entries
import StepForge.Proofs.Conversion.Index
import StepForge.Proofs.Conversion.Places
import StepForge.Proofs.Conversion.Pool
import StepForge.Proofs.Conversion.Rendering
import StepForge.Proofs.Conversion.Schedule
import StepForge.Proofs.Conversion.Written
import StepForge.Proofs.Definition.Keys
import StepForge.Proofs.Naming.Points
import StepForge.Proofs.Template.Bundled
import StepForge.Proofs.Template.Index
import StepForge.Proofs.Template.Library
import StepForge.Proofs.Text.Split
import StepForge.Proofs.Text.Utf8
import StepForge.Proofs.Tree.Place
import StepForge.Proofs.Tree.Reading
import StepForge.Proofs.Tree.Writing
import StepForge.Settings.Basic
import StepForge.Settings.File
import StepForge.Template.Bundled
import StepForge.Template.Expr
import StepForge.Template.Library
import StepForge.Template.Reader
import StepForge.Template.Render
import StepForge.Template.Token
import StepForge.Text.Base64
import StepForge.Text.Basic
import StepForge.Text.Deburr
import StepForge.Text.Letter
import StepForge.Text.LetterCase
import StepForge.Text.Numeral
import StepForge.Text.Printable
import StepForge.Text.Quoted
import StepForge.Text.Run
import StepForge.Text.Utf8
import StepForge.Tree.Basic
import StepForge.Tree.Files
import StepForge.Tree.Path
import StepForge.Value.Basic
import StepForge.Value.Calendar
import StepForge.Value.Display
import StepForge.Value.Fault
import StepForge.Value.Parts
import StepForge.Value.Quantity
import StepForge.Yaml.Content
import StepForge.Yaml.Cursor
import StepForge.Yaml.Node
import StepForge.Yaml.Reader
import StepForge.Yaml.Scalar
import StepForge.Yaml.Tag
import StepForge.Yaml.Token
import StepForge.Proofs.Naming.Camel
import StepForge.Proofs.Conversion.Variables
import StepForge.Proofs.Definition.Rewrites
import StepForge.Proofs.Conversion.Halted
import StepForge.Proofs.Conversion.Gathering
import StepForge.Proofs.Conversion.Unfinished
import StepForge.Proofs.Conversion.Confinement
import StepForge.Proofs.Conversion.Session
import StepForge.Proofs.Command.Converted
import StepForge.Proofs.Command.Endings
import StepForge.Proofs.Command.Commits
import StepForge.Proofs.Naming.Identifier
import StepForge.Proofs.Conversion.Identifiers
import StepForge.Proofs.Generate.ObjectText
import StepForge.Proofs.Generate.Fields
import StepForge.Proofs.Json.Strings
import StepForge.Proofs.Json.Members
import StepForge.Proofs.Json.Layout
import StepForge.Proofs.Template.Manifest
import StepForge.Proofs.Conversion.Manifest
import StepForge.Proofs.Conversion.Locality
import StepForge.Proofs.Naming.Ascii
import StepForge.Proofs.Text.Pattern
import StepForge.Proofs.Naming.Boundaries
import StepForge.Proofs.Naming.Lodash
import StepForge.Proofs.Naming.Rereading
import StepForge.Proofs.Conversion.Sharing
import StepForge.Proofs.Results
import StepForge.Proofs.Text.Literal
import StepForge.Proofs.Text.Decoding
import StepForge.Proofs.Tree.Looking
import StepForge.Proofs.Template.Step
import StepForge.Proofs.Conversion.StepText
import StepForge.Proofs.Conversion.Loading
import StepForge.Proofs.Json.Steps
import StepForge.Proofs.Json.Numerals
import StepForge.Proofs.Json.Meeting
import StepForge.Proofs.Yaml.Nodes
import StepForge.Proofs.Yaml.Reading
import StepForge.Proofs.Definition.Loading
import StepForge.Proofs.Settings.Loading
import StepForge.Proofs.Number.Exact
import StepForge.Proofs.Yaml.Keys
import StepForge.Proofs.Settings.Validity
import StepForge.Proofs.Generate.Padding
import StepForge.Proofs.Tree.Formed
import StepForge.Proofs.Template.Listing
import StepForge.Proofs.Text.Numeral
import StepForge.Proofs.Number.Nearest
import StepForge.Proofs.Number.Grid
import StepForge.Proofs.Number.Digits
import StepForge.Proofs.Number.Places
import StepForge.Proofs.Number.Script
import StepForge.Proofs.Value.ScriptText
import StepForge.Proofs.Text.LineEnds
import StepForge.Proofs.Tree.RoundTrip
