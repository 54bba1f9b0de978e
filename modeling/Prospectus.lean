import Prospectus.Text.Blank
import Prospectus.Text.Lines
import Prospectus.Text.Occurrence
import Prospectus.Text.Digit
import Prospectus.Text.Lowercase
import Prospectus.Text.Canonical
import Prospectus.Text.Quoted
import Prospectus.Text.Utf16
import Prospectus.Json.Reader
import Prospectus.Json.Writer
import Prospectus.Time.Span
import Prospectus.Excerpt
import Prospectus.Pdf.Defect
import Prospectus.Pdf.Object.Reader
import Prospectus.Pdf.File
import Prospectus.Pdf.Filter
import Prospectus.Pdf.Pages
import Prospectus.Pdf.Encoding
import Prospectus.Pdf.Reader
import Prospectus.Pdf.Date
import Prospectus.Pdf.Metadata
import Prospectus.Document.Json
import Prospectus.Storage.FileSystem
import Prospectus.Batch.Run
import Prospectus.Summary.Service
import Prospectus.Command.Program
import Prospectus.Main
import Prospectus.Proofs.EagerReading
import Prospectus.Proofs.ExcerptFootprint
import Prospectus.Proofs.Interleaving
import Prospectus.Proofs.RunsAsMoves
import Prospectus.Proofs.Announcements
import Prospectus.Proofs.WrittenSummaries
import Prospectus.Proofs.FatalErrors
import Prospectus.Proofs.TopicFates
import Prospectus.Proofs.SecondRuns
import Prospectus.Proofs.TextOperators
import Prospectus.Proofs.RunProvenance
import Prospectus.Proofs.LookupStages
import Prospectus.Proofs.SteadyCatalog
import Prospectus.Proofs.ArgumentForms
import Prospectus.Proofs.DryRuns
import Prospectus.Proofs.TextBlocks
import Prospectus.Proofs.LenientReading
import Prospectus.Proofs.BoldPages
import Prospectus.Proofs.DocumentReading
import Prospectus.Proofs.ContentsLocation
import Prospectus.Proofs.LineFeeds
import Prospectus.Proofs.IntegerParts
import Prospectus.Proofs.PageNumbers
import Prospectus.Proofs.EntryReading
import Prospectus.Proofs.CanonicalLines
import Prospectus.Proofs.EquivalentSpellings
import Prospectus.Proofs.NumeralSearch
import Prospectus.Proofs.Traversal
import Prospectus.Proofs.PageLines
import Prospectus.Proofs.FloatOrder
import Prospectus.Proofs.StringArrays
import Prospectus.Proofs.WindowBounds
import Prospectus.Proofs.StringEncodings
import Prospectus.Proofs.DateReading
import Prospectus.Proofs.DateOffsets
import Prospectus.Proofs.TopicLists
import Prospectus.Proofs.JsonRecords
import Prospectus.Proofs.ReplyReading
import Prospectus.Proofs.ReportReading
import Prospectus.Proofs.BaselineTests
import Prospectus.Proofs.BoldNames
