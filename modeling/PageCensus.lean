import PageCensus.Charset.Basic
import PageCensus.Main
import PageCensus.LogFilter.Pattern
import PageCensus.Proofs.Program.Effects
import PageCensus.Proofs.Report.Legible
import PageCensus.Proofs.Run.Aggregate
import PageCensus.Proofs.Run.Bounded
import PageCensus.Proofs.Run.Coherence
import PageCensus.Proofs.Run.History
import PageCensus.Proofs.Run.Log
import PageCensus.Proofs.Run.Order
import PageCensus.Proofs.Run.Recover
import PageCensus.Proofs.Run.Skips
import PageCensus.Proofs.Tally.Canonical
import PageCensus.Proofs.Tally.MergeAll
import PageCensus.Proofs.Tally.WordCount
import PageCensus.Proofs.FileSystem.OpenFile
import PageCensus.Proofs.CountFile.Write
import PageCensus.Proofs.CountFile.AllOrNothing
import PageCensus.Proofs.Text.Trim
import PageCensus.Proofs.UrlList
import PageCensus.Proofs.CommandLine.Grammar
import PageCensus.Proofs.CommandLine.Parse
import PageCensus.Proofs.Text.ByteOrder
import PageCensus.Proofs.Tally.ScalarOrder
import PageCensus.Proofs.Report.Bounded
import PageCensus.Proofs.Fetch.Outcome
