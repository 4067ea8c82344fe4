import RowStream.Columnar.Cell
import RowStream.Fetch.Download
import RowStream.Fetch.Roots
import RowStream.Stream.Interleaving
import RowStream.Stream.ResultSet
import RowStream.Stream.Chain
import RowStream.Proofs.FeedSteps
import RowStream.Proofs.CursorSteps
import RowStream.Stream.Lifecycle
import RowStream.Proofs.PrefetchWindow
import RowStream.Proofs.WindowInvariant
import RowStream.Proofs.SerialReading
import RowStream.Proofs.NestedTypes
import RowStream.Proofs.Narrowing
import RowStream.Proofs.Building
import RowStream.Proofs.NarrowedCells
import RowStream.Proofs.Conversion
import RowStream.Proofs.Decimals
import RowStream.Proofs.Epochs
import RowStream.Proofs.Logical
import RowStream.Proofs.ScalarTexts
import RowStream.Proofs.Carrying
import RowStream.Proofs.ColumnForms
import RowStream.Proofs.DocumentForms
import RowStream.Proofs.DocumentReading
import RowStream.Proofs.FormatIndependence
import RowStream.Proofs.Retrying
import RowStream.Proofs.ChainProtocol
import RowStream.Proofs.CursorPlaces
import RowStream.Proofs.CursorLifecycle
import RowStream.Proofs.Tape
import RowStream.Proofs.Answering
import RowStream.Proofs.FeedOutcomes
import RowStream.Proofs.BatchReading
import RowStream.Proofs.InterleavingSteps
import RowStream.Proofs.ManifestTotals
import RowStream.Proofs.Openings
import RowStream.Proofs.Numerals
import RowStream.Proofs.Wakeups
import RowStream.Proofs.AfterShutdown
import RowStream.Proofs.WordColumns
import RowStream.Proofs.ClockColumns
import RowStream.Proofs.DecimalColumns
import RowStream.Proofs.PaddedTexts
import RowStream.Proofs.EpochTexts
import RowStream.Proofs.CalendarDays
import RowStream.Proofs.FormatSpelling
import RowStream.Proofs.SessionTexts
import RowStream.Proofs.FieldLaws
import RowStream.Proofs.FieldLookups
import RowStream.Proofs.RowConformance
import RowStream.Proofs.Lexemes
import RowStream.Proofs.BytePositions
import RowStream.Proofs.FormatScan
import RowStream.Proofs.FormatTranslation
import RowStream.Proofs.ClockValues
import RowStream.Proofs.RenderedClocks
import RowStream.Proofs.RenderedTexts
import RowStream.Proofs.Utf8Texts
import RowStream.Proofs.WrittenNumbers
import RowStream.Proofs.WrittenDocuments
import RowStream.Proofs.SpelledDocuments
import RowStream.Proofs.ReadDocuments
import RowStream.Proofs.ChunkFraming
import RowStream.Proofs.NestedPositions
import RowStream.Proofs.VerbatimNumbers
import RowStream.Proofs.ZonedScans
import RowStream.Config.InPlace
import RowStream.Proofs.OptionCalls
import RowStream.Proofs.Backoff
import RowStream.Proofs.EndingErrors
import RowStream.Proofs.UnsetParameters
