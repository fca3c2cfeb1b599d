import XmlExtract.OutcomeStream
import XmlExtract.Path.RecentPatterns
import XmlExtract.Script
import XmlExtract.Session
import XmlExtract.Proofs.ExtractionStep
import XmlExtract.Proofs.EarlyStop
import XmlExtract.Proofs.KeyedFolds
import XmlExtract.Proofs.RunCapture
import XmlExtract.Proofs.PathGrammar
import XmlExtract.Proofs.WrittenPattern
import XmlExtract.Proofs.WrittenPosition
import XmlExtract.Proofs.CapturedEntries
import XmlExtract.Proofs.ElementTree
import XmlExtract.Proofs.TreeExtraction
import XmlExtract.Proofs.Utf8RoundTrip
import XmlExtract.Proofs.Spelling
import XmlExtract.Proofs.SpelledReference
import XmlExtract.Proofs.SpelledToken
import XmlExtract.Proofs.SpelledTag
import XmlExtract.Proofs.SpelledAttribute
import XmlExtract.Proofs.SpelledDocument
import XmlExtract.Proofs.SideBySide
import XmlExtract.Proofs.Nesting
import XmlExtract.Proofs.WritableTrail
import XmlExtract.Proofs.CoarserPattern
import XmlExtract.Proofs.FirstBuffer
import XmlExtract.Proofs.BufferedToken
import XmlExtract.Proofs.BufferedReading
import XmlExtract.Proofs.Reaction
import XmlExtract.Proofs.StopRequests
import XmlExtract.Proofs.Deliveries
import XmlExtract.Proofs.LocalReading
import XmlExtract.Proofs.TagSequence
import XmlExtract.Proofs.Truncation
import XmlExtract.Proofs.UnreadRest
import XmlExtract.Proofs.TextSlices
import XmlExtract.Proofs.Utf16RoundTrip
import XmlExtract.Proofs.TranscodedReading
import XmlExtract.Proofs.SurrogatePairs
import XmlExtract.Proofs.TranscodedInput
import XmlExtract.Proofs.DeclaredEncoding
import XmlExtract.Proofs.StreamRequests
import XmlExtract.Proofs.PolledStream
import XmlExtract.Proofs.RefusedCalls
import XmlExtract.Proofs.FinishedExtraction
import XmlExtract.Proofs.SiblingCounters
import XmlExtract.Proofs.UnreachedElement
import XmlExtract.Proofs.DocumentOrder
import XmlExtract.Proofs.ByteOrderMark
import XmlExtract.Proofs.InterruptedReads
import XmlExtract.Proofs.Respelling
import XmlExtract.Proofs.RespelledToken
import XmlExtract.Proofs.RespelledAttribute
import XmlExtract.Proofs.RespelledReading
import XmlExtract.Proofs.SingleByteReading
import XmlExtract.Proofs.BlankChunks
import XmlExtract.Proofs.RecentRequests
import XmlExtract.Proofs.Utf8Order
import XmlExtract.Proofs.CaptureRecords
import XmlExtract.Proofs.TrimmedText
import XmlExtract.Proofs.TrimmedReading
import XmlExtract.Proofs.TrimmedOutcome
import XmlExtract.Proofs.LineOfDescent
import XmlExtract.Proofs.TokenExtent
import XmlExtract.Proofs.EventOffsets
import XmlExtract.Proofs.EventCalls
import XmlExtract.Proofs.RenamedEnds
import XmlExtract.Proofs.RenamedReading
import XmlExtract.Proofs.UncheckedEnds
