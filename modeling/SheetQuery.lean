import SheetQuery.Assistant.Client
import SheetQuery.Assistant.Prompt
import SheetQuery.Assistant.Reply
import SheetQuery.Assistant.Service
import SheetQuery.Cell.Basic
import SheetQuery.Cell.Display
import SheetQuery.Cell.Text
import SheetQuery.Cell.Tokens
import SheetQuery.Chat.Bot
import SheetQuery.Chat.Listing
import SheetQuery.Chat.Message
import SheetQuery.CommandLine.Arguments
import SheetQuery.CommandLine.Run
import SheetQuery.Dataset
import SheetQuery.Date.Calendar
import SheetQuery.Date.Iso
import SheetQuery.Date.Reading
import SheetQuery.Date.Spoken
import SheetQuery.Entity
import SheetQuery.Filter.Basic
import SheetQuery.Filter.Matching
import SheetQuery.Filter.Repair
import SheetQuery.Filter.Wire
import SheetQuery.Issue
import SheetQuery.Json.Printer
import SheetQuery.Json.Reader
import SheetQuery.Main
import SheetQuery.Proofs.Assistant.Calls
import SheetQuery.Numeric.Binary64
import SheetQuery.Numeric.Numeral
import SheetQuery.Numeric.Shortest
import SheetQuery.Pattern.Basic
import SheetQuery.Pattern.Matcher
import SheetQuery.Pattern.Parser
import SheetQuery.Proofs.Assistant.Clean
import SheetQuery.Proofs.Assistant.Cutting
import SheetQuery.Proofs.Assistant.Envelope
import SheetQuery.Proofs.Assistant.Mending
import SheetQuery.Proofs.Cell.Encodings
import SheetQuery.Proofs.Cell.Fold
import SheetQuery.Proofs.Cell.Measure
import SheetQuery.Proofs.Cell.Numbers
import SheetQuery.Proofs.Cell.Tokens
import SheetQuery.Proofs.Chat.Exchange
import SheetQuery.Proofs.Chat.Replies
import SheetQuery.Proofs.Chat.Steps
import SheetQuery.Proofs.Date.Calendar
import SheetQuery.Proofs.Date.Iso
import SheetQuery.Proofs.Date.Reading
import SheetQuery.Proofs.Date.RoundTrip
import SheetQuery.Proofs.Filter.Encodings
import SheetQuery.Proofs.Filter.Evaluation
import SheetQuery.Proofs.Filter.Fold
import SheetQuery.Proofs.Filter.Grammar
import SheetQuery.Proofs.Filter.Integers
import SheetQuery.Proofs.Filter.Leaves
import SheetQuery.Proofs.Filter.Measured
import SheetQuery.Proofs.Filter.Missing
import SheetQuery.Proofs.Filter.OwnValue
import SheetQuery.Proofs.Filter.Parts
import SheetQuery.Proofs.Filter.Plain
import SheetQuery.Proofs.Filter.Prune
import SheetQuery.Proofs.Filter.Repair
import SheetQuery.Proofs.Filter.RoundTrip
import SheetQuery.Proofs.Filter.Scalar
import SheetQuery.Proofs.Filter.Twice
import SheetQuery.Proofs.Filter.Wire
import SheetQuery.Proofs.Json.Gain
import SheetQuery.Proofs.Json.Integer
import SheetQuery.Proofs.Json.Reading
import SheetQuery.Proofs.Json.Weight
import SheetQuery.Proofs.Json.Writing
import SheetQuery.Proofs.Numeric.Numeral
import SheetQuery.Proofs.Numeric.NumeralFold
import SheetQuery.Proofs.Numeric.Rounding
import SheetQuery.Proofs.Pattern.Tame
import SheetQuery.Proofs.Query.Asked
import SheetQuery.Proofs.Query.ClauseFold
import SheetQuery.Proofs.Query.ClauseSqueeze
import SheetQuery.Proofs.Query.Columns
import SheetQuery.Proofs.Query.HintCover
import SheetQuery.Proofs.Query.HintFold
import SheetQuery.Proofs.Query.HintSqueeze
import SheetQuery.Proofs.Query.LedClause
import SheetQuery.Proofs.Query.Normal
import SheetQuery.Proofs.Query.Numeral
import SheetQuery.Proofs.Query.NumericClause
import SheetQuery.Proofs.Query.Phrase
import SheetQuery.Proofs.Query.Plain
import SheetQuery.Proofs.Query.Preview
import SheetQuery.Proofs.Query.RangeClause
import SheetQuery.Proofs.Query.ReaderFold
import SheetQuery.Proofs.Query.ReaderSqueeze
import SheetQuery.Proofs.Query.SentenceSqueeze
import SheetQuery.Proofs.Query.Sentences
import SheetQuery.Proofs.Query.Shuns
import SheetQuery.Proofs.Query.SignedClause
import SheetQuery.Proofs.Query.SpelledClause
import SheetQuery.Proofs.Query.Words
import SheetQuery.Proofs.Request.Reading
import SheetQuery.Proofs.Request.Response
import SheetQuery.Proofs.Resolution.Attempts
import SheetQuery.Proofs.Resolution.Dialogue
import SheetQuery.Proofs.Resolution.Known
import SheetQuery.Proofs.Resolution.Means
import SheetQuery.Proofs.Resolution.Pruned
import SheetQuery.Proofs.Resolution.Replies
import SheetQuery.Proofs.Schema.ArraySamples
import SheetQuery.Proofs.Schema.Inference
import SheetQuery.Proofs.Schema.Naming
import SheetQuery.Proofs.Search.Access
import SheetQuery.Proofs.Search.Answer
import SheetQuery.Proofs.Search.Comparison
import SheetQuery.Proofs.Search.Dating
import SheetQuery.Proofs.Search.Failing
import SheetQuery.Proofs.Search.Moves
import SheetQuery.Proofs.Search.Office
import SheetQuery.Proofs.Search.Recency
import SheetQuery.Proofs.Search.Record
import SheetQuery.Proofs.Search.Repeat
import SheetQuery.Proofs.Search.Sitting
import SheetQuery.Proofs.Search.Soundness
import SheetQuery.Proofs.Search.Superseding
import SheetQuery.Proofs.Text.Case
import SheetQuery.Proofs.Text.CaseClasses
import SheetQuery.Proofs.Text.Fold
import SheetQuery.Proofs.Text.Passing
import SheetQuery.Proofs.Text.Squeeze
import SheetQuery.Proofs.Text.SqueezeSearch
import SheetQuery.Proofs.Text.Trim
import SheetQuery.Query.Clause
import SheetQuery.Query.Hint
import SheetQuery.Query.Normal
import SheetQuery.Query.Numeral
import SheetQuery.Query.Sentence
import SheetQuery.Query.Vocabulary
import SheetQuery.Request
import SheetQuery.Resolution
import SheetQuery.Schema.Basic
import SheetQuery.Schema.Coercion
import SheetQuery.Schema.Inference
import SheetQuery.Schema.Naming
import SheetQuery.Search.Cache
import SheetQuery.Search.Session
import SheetQuery.Settings.Basic
import SheetQuery.Settings.LogLevel
import SheetQuery.Settings.VariableFile
import SheetQuery.Store
import SheetQuery.Text.Case
import SheetQuery.Text.CaseTable
import SheetQuery.Text.Classes
import SheetQuery.Text.Encoding
import SheetQuery.Text.PrintableTable
import SheetQuery.Text.Search
import SheetQuery.Text.Template
import SheetQuery.Text.Trim
import SheetQuery.Text.WordTable
import SheetQuery.Proofs.Filter.Algebra
import SheetQuery.Proofs.Filter.Range
import SheetQuery.Proofs.Schema.Description
import SheetQuery.Proofs.Search.LastUses
import SheetQuery.Proofs.Filter.Pruning
import SheetQuery.Proofs.Schema.Resolving
import SheetQuery.Proofs.Assistant.DraftReading
import SheetQuery.Proofs.Assistant.FirstObject
import SheetQuery.Proofs.Assistant.Prompt
import SheetQuery.Proofs.CommandLine.Endings
import SheetQuery.Proofs.Settings.Bounds
