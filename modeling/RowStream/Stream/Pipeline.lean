import RowStream.Config.InPlace
import RowStream.Stream.RowCursor
import RowStream.Stream.BatchStream

/-! # From responses to cursors and streams -/
namespace RowStream.Pipeline
open RowStream.Columnar

/-- Prefetching of the chunks, if there are any, with the first ones launched. -/
def startPrefetch {α : Type} (config : Config) (manifest : Manifest) : Option (Prefetch α) :=
  if manifest.chunks.isEmpty then none
  else some (Prefetch.new manifest.chunks.length config.prefetchLimit).launch

/-- A cursor over the rows of a response. Its session parameters hold for this cursor alone. -/
def rowCursor (config : Config) (r : Response) : Checked RowCursor := do
  let config := config.applyParameters r.parameters
  let format ← r.format
  let options := config.decodeOptions r.parameters
  let inlineRows ← Decode.inlineRows format r.schema options r
  let manifest ← Manifest.ofResponse r inlineRows.length
  .ok (.new ⟨format, r.schema, options, manifest⟩ inlineRows (startPrefetch config manifest))

/-- A stream of converted batches; only columnar results have batches. -/
def batchStream (config : Config) (r : Response) : Checked BatchStream := do
  if (← r.format) ≠ .arrow then
    .error (.error (.invalidState "raw record batches are only available for Arrow results"))
  else
    let config := config.applyParameters r.parameters
    let options := config.decodeOptions r.parameters
    let inlineBatches ← convertAll config.batchOptions options r.schema (← readStream (r.encodedRowset.getD []))
    let manifest ← Manifest.ofResponse r (totalRows inlineBatches)
    .ok {
      plan := ⟨r.schema, config.batchOptions, options, manifest⟩
      buffer := inlineBatches
      feed := { prefetch := startPrefetch config manifest } }

end RowStream.Pipeline
