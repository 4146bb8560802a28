import TreeText.Asking
import TreeText.Command
import TreeText.Command.Arguments
import TreeText.Command.Run
import TreeText.Command.Summary
import TreeText.Config
import TreeText.Config.Apply
import TreeText.Config.Load
import TreeText.Config.Shape
import TreeText.Conversion
import TreeText.ConversionError
import TreeText.Converter
import TreeText.Css.Cache
import TreeText.Css.Formula
import TreeText.Css.Position
import TreeText.Css.Selector
import TreeText.Css.Token
import TreeText.Dataset
import TreeText.Descent.Compound
import TreeText.Descent.Selector
import TreeText.Document
import TreeText.Engine
import TreeText.Formatter
import TreeText.Formatter.Piece
import TreeText.Host
import TreeText.Host.World
import TreeText.Main
import TreeText.Markup.Body
import TreeText.Markup.Builder
import TreeText.Markup.Doctype
import TreeText.Markup.Formatting
import TreeText.Markup.Grove
import TreeText.Markup.Head
import TreeText.Markup.Page
import TreeText.Markup.Reference
import TreeText.Markup.Reference.Names
import TreeText.Markup.Script
import TreeText.Markup.Table
import TreeText.Markup.Tag
import TreeText.Markup.Token
import TreeText.Matcher
import TreeText.Placeholders
import TreeText.Proofs.Command.Convert
import TreeText.Proofs.Command.Rules
import TreeText.Proofs.Command.Stages
import TreeText.Proofs.Command.Summary
import TreeText.Proofs.Config.Apply
import TreeText.Proofs.Config.Found
import TreeText.Proofs.Config.Gap
import TreeText.Proofs.Config.Loaded
import TreeText.Proofs.Conversion.Attributes
import TreeText.Proofs.Conversion.Bound
import TreeText.Proofs.Conversion.Bytes
import TreeText.Proofs.Conversion.Calls
import TreeText.Proofs.Conversion.Carried
import TreeText.Proofs.Conversion.Congruence
import TreeText.Proofs.Conversion.Depth
import TreeText.Proofs.Conversion.Eager
import TreeText.Proofs.Conversion.Ends
import TreeText.Proofs.Conversion.Failure
import TreeText.Proofs.Conversion.Finish
import TreeText.Proofs.Conversion.Hearings
import TreeText.Proofs.Conversion.Ignored
import TreeText.Proofs.Conversion.Items
import TreeText.Proofs.Conversion.Kept
import TreeText.Proofs.Conversion.Neutral
import TreeText.Proofs.Conversion.Normalize
import TreeText.Proofs.Conversion.Order
import TreeText.Proofs.Conversion.PlainText
import TreeText.Proofs.Conversion.Reached
import TreeText.Proofs.Conversion.Recursion
import TreeText.Proofs.Conversion.Siblings
import TreeText.Proofs.Conversion.Skipped
import TreeText.Proofs.Conversion.Unread
import TreeText.Proofs.Conversion.Visible
import TreeText.Proofs.Css.Cache
import TreeText.Proofs.Descent.Alternatives
import TreeText.Proofs.Descent.Climb
import TreeText.Proofs.Descent.Grammar
import TreeText.Proofs.Descent.Print
import TreeText.Proofs.Document.Chain
import TreeText.Proofs.Document.Grown
import TreeText.Proofs.Document.Kin
import TreeText.Proofs.Document.Listing
import TreeText.Proofs.Document.Mirror
import TreeText.Proofs.Document.Subtree
import TreeText.Proofs.Document.Texts
import TreeText.Proofs.Document.Tree
import TreeText.Proofs.Document.Upward
import TreeText.Proofs.Formatter.Piece
import TreeText.Proofs.Formatter.Script
import TreeText.Proofs.Formatter.Told
import TreeText.Proofs.Host.Lawful
import TreeText.Proofs.Host.Recorded
import TreeText.Proofs.Placeholders.Apply
import TreeText.Proofs.Placeholders.Independent
import TreeText.Proofs.Registry.Drafts
import TreeText.Proofs.Registry.Formatters
import TreeText.Proofs.Registry.History
import TreeText.Proofs.Registry.Keys
import TreeText.Proofs.Registry.Request
import TreeText.Proofs.Registry.Usable
import TreeText.Proofs.Run.Alike
import TreeText.Proofs.Run.Events
import TreeText.Proofs.Run.Failure
import TreeText.Proofs.Run.Hearings
import TreeText.Proofs.Run.Questions
import TreeText.Proofs.Run.Result
import TreeText.Proofs.Template.Canonical
import TreeText.Proofs.Template.Joined
import TreeText.Proofs.Template.Token
import TreeText.Proofs.Text.Apart
import TreeText.Proofs.Text.Collapse
import TreeText.Proofs.Text.Entries
import TreeText.Proofs.Text.Gaps
import TreeText.Proofs.Text.NormalForm
import TreeText.Proofs.Text.Pieces
import TreeText.Proofs.Text.Utf8
import TreeText.Registry
import TreeText.Rule
import TreeText.Run
import TreeText.Template
import TreeText.Text.Blank
import TreeText.Text.Bounds
import TreeText.Text.Quoted
import TreeText.Text.Replace
import TreeText.Text.Strip
import TreeText.Text.Utf8
import TreeText.Text.WordChar
import TreeText.Toml.Document
import TreeText.Toml.Quoted
import TreeText.Toml.Scalar
import TreeText.Toml.Table
import TreeText.Toml.Value
