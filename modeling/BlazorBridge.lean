import BlazorBridge.Text.Basic
import BlazorBridge.Text.CharSet
import BlazorBridge.Text.Blank
import BlazorBridge.Text.Word
import BlazorBridge.Text.Digit
import BlazorBridge.Text.Identifier
import BlazorBridge.Text.Printable
import BlazorBridge.Text.Quoted
import BlazorBridge.Text.Case
import BlazorBridge.Text.Place
import BlazorBridge.Text.Fill
import BlazorBridge.Text.Utf8
import BlazorBridge.Naming
import BlazorBridge.WrapperType
import BlazorBridge.Documentation.Tags
import BlazorBridge.Documentation.Comments
import BlazorBridge.Documentation.Margin
import BlazorBridge.Parameter
import BlazorBridge.Parameter.Default
import BlazorBridge.Declaration.Shape
import BlazorBridge.Declaration.Candidate
import BlazorBridge.Path
import BlazorBridge.Extraction
import BlazorBridge.Options
import BlazorBridge.Wrapper
import BlazorBridge.Fault
import BlazorBridge.Event
import BlazorBridge.FileTree
import BlazorBridge.Pattern.Wildcard
import BlazorBridge.Pattern
import BlazorBridge.Generation
import BlazorBridge.Watching
import BlazorBridge.Template.Value
import BlazorBridge.Template.Fault
import BlazorBridge.Template.Field
import BlazorBridge.Template
import BlazorBridge.CommandLine.Arguments
import BlazorBridge.CommandLine.Help
import BlazorBridge.CommandLine
import BlazorBridge.Main
import BlazorBridge.Proofs.Declaration.Grammar
import BlazorBridge.Proofs.Text.Scan
import BlazorBridge.Proofs.Declaration.Starts
import BlazorBridge.Proofs.Declaration.Overlaps
import BlazorBridge.Proofs.Text.Marks
import BlazorBridge.Proofs.Documentation.TagGrammar
import BlazorBridge.Proofs.Documentation.Gate
import BlazorBridge.Proofs.Declaration.Barriers
import BlazorBridge.Proofs.Printed.Specification
import BlazorBridge.Proofs.Printed.Block
import BlazorBridge.Proofs.Printed.RoundTrip
import BlazorBridge.Proofs.Extraction.Account
import BlazorBridge.Proofs.WrapperType.Grammar
import BlazorBridge.Proofs.Wrapper.SingleLines
import BlazorBridge.Proofs.Wrapper.Decoding
import BlazorBridge.Proofs.Path.Suffix
import BlazorBridge.Proofs.FileTree.Access
import BlazorBridge.Proofs.FileTree.WellFormed
import BlazorBridge.Proofs.Generation.Isolation
import BlazorBridge.Proofs.Pattern.Matches
import BlazorBridge.Proofs.Generation.Growth
import BlazorBridge.Proofs.Watching.Agreement
import BlazorBridge.Proofs.Extraction.Types
import BlazorBridge.Proofs.Watching.Attempts
import BlazorBridge.Proofs.CommandLine.Status
import BlazorBridge.Proofs.Documentation.Written
import BlazorBridge.Proofs.Documentation.SingleComment
import BlazorBridge.Proofs.Documentation.CommentWalk
import BlazorBridge.Proofs.Documentation.TaggedText
import BlazorBridge.Proofs.Documentation.PropertyTags
import BlazorBridge.Proofs.WrapperType.Promise
import BlazorBridge.Proofs.Parameter.Numeral
import BlazorBridge.Proofs.Parameter.Rendering
import BlazorBridge.Proofs.Parameter.Literal
import BlazorBridge.Proofs.Parameter.Segment
import BlazorBridge.Proofs.Declaration.Keywords
import BlazorBridge.Proofs.Declaration.AsyncWindow
import BlazorBridge.Proofs.Documentation.Dependence
import BlazorBridge.Proofs.Parameter.Lists
import BlazorBridge.Proofs.Generation.Overwriting
import BlazorBridge.Proofs.Watching.Regeneration
import BlazorBridge.Proofs.Path.Spelling
import BlazorBridge.Proofs.Pattern.Split
import BlazorBridge.Proofs.FileTree.Lookup
import BlazorBridge.Proofs.Pattern.Plain
import BlazorBridge.Proofs.Naming.Separators
import BlazorBridge.Proofs.Wrapper.MethodNames
