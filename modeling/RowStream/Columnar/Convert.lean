import RowStream.Columnar.Target
import RowStream.Columnar.Build
import RowStream.Decode.ColumnRows

/-! # Conversion of batches -/
namespace RowStream.Columnar

/-- Values are read exactly; the target types narrow them. -/
def exactly (o : DecodeOptions) : DecodeOptions := { o with higherPrecision := true }

def convertColumn (options : BatchOptions) (o : DecodeOptions) (rows : Nat) (t : ColumnType)
    (c : Column) : Result (Field Column) := do
  let values ← (List.range rows).mapM fun row => Decode.value (exactly o) t (⟨c, row⟩ : ColumnCursor)
  buildField ⟨t.name, t.nullable, targetType options t⟩ values

def inColumn (name : String) (e : Error) : Error := .decode ("column " ++ name ++ ": " ++ e.message)

def convert (options : BatchOptions) (o : DecodeOptions) (schema : Schema) (b : Batch) : Result Batch :=
  if b.columns.length = schema.length then do
    let columns ← (b.columns.zip schema).mapM fun p =>
      Result.mapError (inColumn p.2.name) (convertColumn options o b.rows p.2 p.1.content)
    if columns.any fun f => !f.nullable && f.content.hasNull then
      .error (buildFailure "a column that is never null has a null")
    else .ok ⟨b.rows, columns⟩
  else .error (Decode.columnCountMismatch b schema)

def convertAll (options : BatchOptions) (o : DecodeOptions) (schema : Schema) (bs : List Batch) :
    Result (List Batch) :=
  bs.mapM (convert options o schema)

end RowStream.Columnar
