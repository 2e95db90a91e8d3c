import BooleanRetrieval.Archive.Crc
import BooleanRetrieval.Archive.Inflate
import BooleanRetrieval.Archive.Zip
import BooleanRetrieval.Build
import BooleanRetrieval.CommandLine.Arguments
import BooleanRetrieval.CommandLine.Usage
import BooleanRetrieval.Configuration
import BooleanRetrieval.Console.BuildProgram
import BooleanRetrieval.Console.Dialogue
import BooleanRetrieval.Console.SearchProgram
import BooleanRetrieval.Decimal.Fixed
import BooleanRetrieval.Document.Csv
import BooleanRetrieval.Document.Reader
import BooleanRetrieval.Encoding.Basic
import BooleanRetrieval.Encoding.BigFive
import BooleanRetrieval.Encoding.Chunks
import BooleanRetrieval.Encoding.Hangul
import BooleanRetrieval.Encoding.Hanzi
import BooleanRetrieval.Encoding.IsoPages
import BooleanRetrieval.Encoding.Kanji
import BooleanRetrieval.Encoding.OtherPages
import BooleanRetrieval.Encoding.UnicodeForms
import BooleanRetrieval.Encoding.WindowsPages
import BooleanRetrieval.Files.Discovery
import BooleanRetrieval.Files.Error
import BooleanRetrieval.Files.Path
import BooleanRetrieval.Files.Tree
import BooleanRetrieval.Json.Reader
import BooleanRetrieval.Json.Writer
import BooleanRetrieval.LogRecord
import BooleanRetrieval.Logging
import BooleanRetrieval.Main
import BooleanRetrieval.Markup.Charset
import BooleanRetrieval.Markup.Entity
import BooleanRetrieval.Markup.Hypertext
import BooleanRetrieval.Markup.Strict
import BooleanRetrieval.Proofs.Query.Grammar
import BooleanRetrieval.Proofs.Query.ParseOutcome
import BooleanRetrieval.Proofs.Query.Readers
import BooleanRetrieval.Proofs.Query.Scan
import BooleanRetrieval.Proofs.Query.StackMachine
import BooleanRetrieval.Proofs.Query.Truth
import BooleanRetrieval.Proofs.Query.ViablePrefix
import BooleanRetrieval.Saved.Structures
import BooleanRetrieval.Search
import BooleanRetrieval.Statistics
import BooleanRetrieval.Store.IncidenceMatrix
import BooleanRetrieval.Store.InvertedIndex
import BooleanRetrieval.Text.DecimalDigit
import BooleanRetrieval.Text.Lines
import BooleanRetrieval.Text.Quoted
import BooleanRetrieval.Text.WholeNumber
import BooleanRetrieval.Text.Words
import BooleanRetrieval.Proofs.Store.Records
import BooleanRetrieval.Proofs.Search.Meaning
import BooleanRetrieval.Proofs.Text.Folding
import BooleanRetrieval.Proofs.Store.Books
import BooleanRetrieval.Proofs.Store.Tally
import BooleanRetrieval.Proofs.Build.Agreement
import BooleanRetrieval.Proofs.Decimal.Digits
import BooleanRetrieval.Proofs.Encoding.Utf8
import BooleanRetrieval.Proofs.Text.Lines
import BooleanRetrieval.Proofs.Files.Written
import BooleanRetrieval.Proofs.Json.RoundTrip
import BooleanRetrieval.Proofs.Store.Refill
import BooleanRetrieval.Proofs.Saved.JsonRoundTrip
import BooleanRetrieval.Proofs.Saved.LinesRoundTrip
import BooleanRetrieval.Proofs.Store.Reorder
import BooleanRetrieval.Proofs.Saved.MatrixLines
import BooleanRetrieval.Proofs.Build.Harvest
import BooleanRetrieval.Proofs.Build.Interleaving
import BooleanRetrieval.Proofs.Build.Course
import BooleanRetrieval.Proofs.Build.Cancellation
import BooleanRetrieval.Proofs.Build.Searchable
import BooleanRetrieval.Proofs.Query.OneWord
import BooleanRetrieval.Proofs.Text.Composing
import BooleanRetrieval.Proofs.Text.WordRuns
import BooleanRetrieval.Proofs.Build.DocumentWords
import BooleanRetrieval.Proofs.Text.CodePoints
import BooleanRetrieval.Proofs.Text.ComposedLetters
import BooleanRetrieval.Proofs.Text.TermLetters
import BooleanRetrieval.Proofs.Text.TermSpelling
import BooleanRetrieval.Proofs.Text.Hangul
import BooleanRetrieval.Proofs.Build.TermSearch
import BooleanRetrieval.Proofs.Runs
import BooleanRetrieval.Proofs.Saved.PostingLine
import BooleanRetrieval.Proofs.Saved.LineStanding
import BooleanRetrieval.Proofs.Saved.IndexLines
import BooleanRetrieval.Proofs.Saved.MatrixLoading
import BooleanRetrieval.Proofs.Saved.Shape
import BooleanRetrieval.Proofs.Files.Directories
import BooleanRetrieval.Proofs.Saved.SavingRun
import BooleanRetrieval.Proofs.Saved.RefusedTargets
import BooleanRetrieval.Proofs.Console.Sessions
import BooleanRetrieval.Proofs.Console.SearchLoading
import BooleanRetrieval.Proofs.Console.BuildCourse
import BooleanRetrieval.Proofs.Console.BuildStatus
import BooleanRetrieval.Proofs.Query.Operators
import BooleanRetrieval.Proofs.Query.TokenText
import BooleanRetrieval.Proofs.Query.Layout
import BooleanRetrieval.Proofs.Query.Nesting
import BooleanRetrieval.Proofs.Search.Equivalence
import BooleanRetrieval.Proofs.Search.Growth
import BooleanRetrieval.Proofs.Text.Recomposing
import BooleanRetrieval.Proofs.Text.StableWords
import BooleanRetrieval.Proofs.Encoding.Names
import BooleanRetrieval.Proofs.Encoding.AsciiText
import BooleanRetrieval.Proofs.Document.TextReading
import BooleanRetrieval.Proofs.Document.WrittenTables
import BooleanRetrieval.Proofs.Console.HitList
import BooleanRetrieval.Proofs.Build.Report
import BooleanRetrieval.Proofs.Query.Rendering
import BooleanRetrieval.Proofs.Increasing
import BooleanRetrieval.Proofs.Files.Entries
import BooleanRetrieval.Proofs.Files.Discovery
import BooleanRetrieval.Proofs.Decimal.Rounding
import BooleanRetrieval.Proofs.Statistics.Table
import BooleanRetrieval.Proofs.Statistics.CollectionSize
