import RowStream.Json.Source

/-! # From written texts to documents -/
namespace RowStream.Json

/-- Containers inside one another beyond this many are refused. -/
def maxDepth : Nat := 127

/-- An object that begins with this name stands for the number that the text after it spells. -/
def numberName : String := "$serde_json::private::Number"

def namesNumber : List (Option String × Source) → Bool
  | (some name, _) :: _ => name == numberName
  | _ => false

def namedNumber? : List (Option String × Source) → Option Json
  | [(_, .string (some text))] => (Source.number? text.toList).map .number
  | _ => none

mutual
/-- The document that a source spells, if its strings denote texts and its containers are not
nested deeper than `depth`. -/
def ofSource? (depth : Nat) : Source → Option Json
  | .null => some .null
  | .bool b => some (.bool b)
  | .number text => some (.number text)
  | .string text => text.map .string
  | .array items =>
    match depth with
    | 0 => none
    | depth + 1 => (ofItems? depth items).map .array
  | .object members =>
    match depth with
    | 0 => none
    | depth + 1 =>
      if namesNumber members then namedNumber? members
      else (ofMembers? depth members).map fun ms => .object (mergeMembers ms)

def ofItems? (depth : Nat) : List Source → Option (List Json)
  | [] => some []
  | item :: items =>
    match ofSource? depth item, ofItems? depth items with
    | some j, some js => some (j :: js)
    | _, _ => none

def ofMembers? (depth : Nat) : List (Option String × Source) → Option (List (String × Json))
  | [] => some []
  | (name, value) :: members =>
    match name, ofSource? depth value, ofMembers? depth members with
    | some name, some j, some js => some ((name, j) :: js)
    | _, _, _ => none
end

def read? (text : String) : Option Json := (Source.read? text.toList).bind (ofSource? maxDepth)

end RowStream.Json
