import RowStream.Decode.Nested
import RowStream.Json.Reading

/-! # Structured values as JSON documents -/
namespace RowStream

/-- A position in a document. A map has its keys as member names, and an object need not have a
member for each field. -/
inductive JsonCursor
  | node (j : Json)
  | key (text : String)
  | missing
deriving Repr, BEq

namespace JsonCursor
open RowStream.Text

def kindName : JsonCursor → String
  | .node (.object _) => "object"
  | .node (.array _) => "array"
  | .node (.string _) | .key _ => "string"
  | .node (.number _) => "number"
  | .node (.bool _) => "boolean"
  | .node .null | .missing => "null"

def expected {α : Type} (c : JsonCursor) (what : String) : Result α :=
  .error (.decode ("expected JSON " ++ what ++ ", found " ++ c.kindName))

/-- The member with exactly this name, else the first one with this name in another case. -/
def memberOf (members : List (String × Json)) (name : String) : Option Json :=
  (Json.member? members name).or ((members.find? fun m => sameIgnoringCase m.1 name).map (·.2))

def isNull : JsonCursor → Bool
  | .node .null | .missing => true
  | _ => false

def field (c : JsonCursor) (_index : Nat) (t : ColumnType) : Result JsonCursor :=
  match c with
  | .node (.object members) => .ok (((memberOf members t.name).map node).getD missing)
  | c => c.expected "object"

def elements : JsonCursor → Result (List JsonCursor)
  | .node (.array items) => .ok (items.map node)
  | c => c.expected "array"

def entries : JsonCursor → Result (List (JsonCursor × JsonCursor))
  | .node (.object members) => .ok (members.map fun m => (key m.1, node m.2))
  | c => c.expected "object"

/-- The text of a scalar; documents inside text columns are text again. -/
def text? : JsonCursor → Option String
  | .key s | .node (.string s) => some s
  | .node (.bool b) => some (if b then "true" else "false")
  | .node (.number s) => some s
  | .node .null | .missing => none
  | .node j => some j.render

def leaf (c : JsonCursor) (t : ColumnType) (o : DecodeOptions) : Result Value :=
  match c.text? with
  | some s => Decode.text t s o
  | none => .ok .null

instance : Cursor JsonCursor := ⟨isNull, field, elements, entries, leaf⟩

end JsonCursor

namespace Decode

def document (t : ColumnType) (s : String) (o : DecodeOptions) : Result Value :=
  match Json.read? s with
  | some j => value o t (JsonCursor.node j)
  | none => .error (.decode ("invalid " ++ t.kind.name ++ " document: not a JSON text"))

end Decode
end RowStream
