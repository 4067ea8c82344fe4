import RowStream.Decode.Document
import RowStream.Text.Utf8

/-! # Rows of texts -/
namespace RowStream.Decode
open RowStream.Json RowStream.Text

abbrev TextRow := List (Option String)

def textCell (t : ColumnType) (o : DecodeOptions) : Option String → Result Value
  | none => .ok .null
  | some s => if t.isStructured then document t s o else text t s o

/-- The complaint about a cell, with the place of the cell. -/
def inCell (column : String) (row : Nat) (e : Error) : Error :=
  .decode ("column " ++ column ++ " of row " ++ toString row ++ ": " ++ e.message)

def textRow (schema : Schema) (o : DecodeOptions) (index : Nat) (fields : TextRow) : Result Row :=
  if fields.length = schema.length then
    (fields.zip schema).mapM fun p =>
      Result.mapError (inCell p.2.name index) (textCell p.2 o p.1)
  else
    .error (.decode ("row " ++ toString index ++ " has " ++ toString fields.length ++
      " fields, expected " ++ toString schema.length))

def textRows (schema : Schema) (o : DecodeOptions) (rows : List TextRow) : Result (List Row) :=
  rows.zipIdx.mapM fun p => textRow schema o p.2 p.1

def fieldOf? : Source → Option (Option String)
  | .null => some none
  | .string (some s) => some (some s)
  | _ => none

def rowOf? : Source → Option TextRow
  | .array items => items.mapM fieldOf?
  | _ => none

def rowsOf? : Source → Option (List TextRow)
  | .array items => items.mapM rowOf?
  | _ => none

/-- A chunk body is the inside of an array of rows: the brackets around it are missing. -/
def chunkRows? (body : List UInt8) : Option (List TextRow) := do
  let cs ← Utf8.decode body
  rowsOf? (← Source.read? ('[' :: (cs ++ [']'])))

def chunkRows (body : List UInt8) : Result (List TextRow) :=
  match chunkRows? body with
  | some rows => .ok rows
  | none => .error (.decode "malformed JSON chunk: not a list of rows")

def textChunk (schema : Schema) (o : DecodeOptions) (body : List UInt8) : Result (List Row) := do
  textRows schema o (← chunkRows body)

end RowStream.Decode
