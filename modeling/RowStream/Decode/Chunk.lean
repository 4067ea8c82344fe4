import RowStream.Response
import RowStream.Decode.ColumnRows
import RowStream.Columnar.Stream

/-! # Rows of chunks and of responses -/
namespace RowStream.Decode
open RowStream.Columnar

def columnChunk (schema : Schema) (o : DecodeOptions) (body : List UInt8) : Result (List Row) := do
  batchesRows schema o (← readStream body)

def chunk (format : ResultFormat) (schema : Schema) (o : DecodeOptions) (ordinal : Nat)
    (body : List UInt8) : Result (List Row) :=
  Result.mapError (·.withChunk ordinal) (match format with
    | .json => textChunk schema o body
    | .arrow => columnChunk schema o body)

def inlineRows (format : ResultFormat) (schema : Schema) (o : DecodeOptions) (r : Response) :
    Result (List Row) :=
  match format with
  | .json => textRows schema o r.rowset
  | .arrow => columnChunk schema o (r.encodedRowset.getD [])

end RowStream.Decode
