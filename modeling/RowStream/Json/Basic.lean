/-! # JSON documents -/
namespace RowStream

/-- A document. Numbers keep the digits they were written with, objects the order of their members. -/
inductive Json where
  | null
  | bool (value : Bool)
  | number (text : String)
  | string (text : String)
  | array (items : List Json)
  | object (members : List (String × Json))
deriving Repr, BEq, Inhabited

namespace Json

def member? (members : List (String × Json)) (name : String) : Option Json :=
  (members.find? (·.1 == name)).map (·.2)

/-- Sets a member: a name that is there keeps its position and takes the new value. -/
def setMember (name : String) (value : Json) : List (String × Json) → List (String × Json)
  | [] => [(name, value)]
  | m :: ms => if m.1 = name then (name, value) :: ms else m :: setMember name value ms

/-- The members in the order of their first mention, each with its last value. -/
def mergeMembers (ms : List (String × Json)) : List (String × Json) :=
  ms.foldl (fun done m => setMember m.1 m.2 done) []

end Json
end RowStream
