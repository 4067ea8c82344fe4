import RowStream.Error
import RowStream.Schema
import RowStream.SessionFormat
import RowStream.Json.Record
import RowStream.Text.Base64
import RowStream.Text.Blank

/-! # Responses to queries -/
namespace RowStream
open RowStream.Json RowStream.Number RowStream.Text

inductive ResultFormat | json | arrow deriving Repr, DecidableEq

/-- A format by its name, in any case; rows are JSON where none is named. -/
def ResultFormat.ofName (name : Option String) : Result ResultFormat :=
  match name.map fun n => String.ofList (lower n.toList) with
  | none => .ok .json
  | some n =>
    if n = "json" then .ok .json
    else if n = "arrow" ∨ n = "arrow_force" then .ok .arrow
    else .error (.invalidState ("unsupported query result format '" ++ n ++ "'"))

structure ChunkEntry where
  url : String
  rowCount : Int
  uncompressedSize : Int := 0
  compressedSize : Int := 0
deriving Repr, DecidableEq

structure Response where
  parameters : List SessionParameter := []
  schema : Schema := []
  rowset : List (List (Option String)) := []
  /-- The bytes of inline batches. -/
  encodedRowset : Option (List UInt8) := none
  total : Option Int := none
  returned : Option Int := none
  queryId : String := ""
  chunks : List ChunkEntry := []
  masterKey : Option String := none
  chunkHeaders : List (String × String) := []
  formatName : Option String := none
  childIds : Option String := none
  resultTypes : Option String := none
deriving Repr, BEq

namespace Response

def readParameter : Reading SessionParameter := fun depth s => do
  let r ← Record.read? ["name", "value"] depth s
  some { name := ← r.required "name" .string, value := ← r.withDefault "value" .null .document }

def columnFields : List String :=
  ["name", "type", "precision", "scale", "nullable", "length", "byteLength", "fields"]

/-- A column and its parts. Where no length is given the length in bytes counts. -/
def readColumn : Nat → Source → Option ColumnType
  | 0, _ => none
  | depth + 1, s => do
    let r ← Record.read? columnFields (depth + 1) s
    let length ← r.nullable "length" (.natural .nat64)
    let byteLength ← r.nullable "byteLength" (.natural .nat64)
    some {
      name := ← r.orElse "name" "" .string
      kind := TypeKind.ofName (← r.required "type" .string)
      precision := ← r.nullable "precision" (.natural .nat32)
      scale := ← r.orElse "scale" 0 (.natural .nat32)
      length := length.or byteLength
      nullable := ← r.withDefault "nullable" true .bool
      fields := ← r.orElse "fields" [] fun _ s => match depth, s with
        | depth + 1, .array items => items.mapM (readColumn depth)
        | _, _ => none }

def readChunk : Reading ChunkEntry := fun depth s => do
  let r ← Record.read? ["url", "rowCount", "uncompressedSize", "compressedSize"] depth s
  some {
    url := ← r.required "url" .string
    rowCount := ← r.required "rowCount" (.integer .int64)
    uncompressedSize := ← r.withDefault "uncompressedSize" 0 (.integer .int64)
    compressedSize := ← r.withDefault "compressedSize" 0 (.integer .int64) }

def readBytes : Reading (Option (List UInt8)) := fun depth s => do
  let text ← Reading.orNull .string depth s
  match text with
  | some t => if t = "" then some none else (Base64.decode t.toList).map some
  | none => some none

def fieldNames : List String :=
  ["parameters", "rowtype", "rowset", "rowsetBase64", "total", "returned", "queryId", "chunks",
    "qrmk", "chunkHeaders", "queryResultFormat", "resultIds", "resultTypes"]

def read : Reading Response := fun depth s => do
  let r ← Record.read? fieldNames depth s
  some {
    parameters := ← r.orElse "parameters" [] (.list readParameter)
    schema := ← r.orElse "rowtype" [] (.list readColumn)
    rowset := ← r.orElse "rowset" [] (.list (.list (.orNull .string)))
    encodedRowset := ← r.withDefault "rowsetBase64" none readBytes
    total := ← r.nullable "total" (.integer .int64)
    returned := ← r.nullable "returned" (.integer .int64)
    queryId := ← r.orElse "queryId" "" .string
    chunks := ← r.orElse "chunks" [] (.list readChunk)
    masterKey := ← r.nullable "qrmk" .string
    chunkHeaders := ← r.orElse "chunkHeaders" [] .texts
    formatName := ← r.nullable "queryResultFormat" .string
    childIds := ← r.nullable "resultIds" .string
    resultTypes := ← r.nullable "resultTypes" .string }

def ofText? (text : String) : Option Response := do read maxDepth (← Source.read? text.toList)

def format (r : Response) : Result ResultFormat := ResultFormat.ofName r.formatName

/-- The ids of further results, one a statement: trimmed, without blank ones. -/
def children (r : Response) : List String :=
  match r.childIds with
  | some ids => ((splitAt ',' ids.toList).map trim |>.filter fun id => !id.isEmpty).map String.ofList
  | none => []

def parameter? (r : Response) (name : String) : Option SessionParameter :=
  SessionParameter.find? r.parameters name

end Response

/-- A response with what the server says about the query as a whole. -/
structure Envelope where
  data : Option Response := none
  message : Option String := none
  code : Option String := none
  success : Bool
deriving Repr, BEq

namespace Envelope

def read : Reading Envelope := fun depth s => do
  let r ← Record.read? ["data", "message", "code", "success"] depth s
  some {
    data := ← r.nullable "data" Response.read
    message := ← r.nullable "message" .string
    code := ← r.nullable "code" .string
    success := ← r.required "success" .bool }

def ofText? (text : String) : Option Envelope := do read maxDepth (← Source.read? text.toList)

/-- The response, unless the server reports a failure. -/
def result (e : Envelope) : Result Response :=
  if !e.success then
    let message := e.message.getD "query failed"
    .error (.server (match e.code with
      | some code => message ++ " (code " ++ code ++ ")"
      | none => message))
  else match e.data with
    | some r => .ok r
    | none => .error (.server "successful response carried no data")

end Envelope
end RowStream
