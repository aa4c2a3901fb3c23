import TextMate.Table
import TextMate.Rule
import TextMate.Rule.Children
import TextMate.Grammar
import TextMate.Json
import TextMate.Document
import TextMate.UseCounts
import TextMate.Finding
import TextMate.Text.Invisible
import TextMate.Text.Quoted
import TextMate.GrammarError
import TextMate.Grammar.Walk
import TextMate.Grammar.Validity
import TextMate.Compaction
import TextMate.Log
import TextMate.Run
import TextMate.Document.Sink
import TextMate.Cue
import TextMate.Report.Text
import TextMate.Review.Config
import TextMate.Url.Authority
import TextMate.Url.Path
import TextMate.Review.Server
import TextMate.Command.Plan
import TextMate.Main
import TextMate.Proofs.Table
import TextMate.Proofs.Includes
import TextMate.Proofs.Traversal
import TextMate.Proofs.Nodes
import TextMate.Proofs.Rewriting
import TextMate.Proofs.Conservation
import TextMate.Proofs.Guard
import TextMate.Proofs.Counting
import TextMate.Proofs.UseCounts
import TextMate.Proofs.DepthFirst
import TextMate.Proofs.Inlining
import TextMate.Proofs.Pass
import TextMate.Proofs.Result
import TextMate.Proofs.Unfolding
import TextMate.Proofs.ByteOrder
import TextMate.Proofs.Outcome
import TextMate.Proofs.FixedPoint
import TextMate.Proofs.Calls
import TextMate.Proofs.Failure
import TextMate.Proofs.Findings
import TextMate.Proofs.Classification
import TextMate.Proofs.InlineOrder
import TextMate.Proofs.Tags
import TextMate.Proofs.Denial
import TextMate.Proofs.Renaming
import TextMate.Proofs.Unreached
import TextMate.Proofs.Json.Tokens
import TextMate.Proofs.Json.Values
import TextMate.Proofs.Json.Printing
import TextMate.Proofs.Document
import TextMate.Proofs.Unambiguous
import TextMate.Proofs.Omission
import TextMate.Proofs.Handover
import TextMate.Proofs.Arguments.Groups
import TextMate.Proofs.Arguments.Decision
import TextMate.Proofs.Arguments.Order
import TextMate.Proofs.Arguments.Spelling
import TextMate.Proofs.Logging
import TextMate.Proofs.LogLines
import TextMate.Proofs.Text
import TextMate.Proofs.Review.Reading
import TextMate.Proofs.Review.Canonical
import TextMate.Proofs.Url.Segments
import TextMate.Proofs.Review.Parts
import TextMate.Proofs.Url.Web
import TextMate.Proofs.Review.Address
import TextMate.Proofs.Report.References
import TextMate.Proofs.Report.Color
import TextMate.Proofs.Cue.Pattern
import TextMate.Proofs.Cue.Quotes
import TextMate.Proofs.Cue.Clean
import TextMate.Proofs.Delivery
