import RowStream.Json.Reading
import RowStream.Number.Literal

/-! # Records in JSON texts

Readers of values take the number of containers that may still be opened, so the limit on nesting
holds across them. -/
namespace RowStream.Json
open RowStream.Number

abbrev Reading (α : Type) := Nat → Source → Option α

namespace Reading

def bool : Reading Bool := fun _ s =>
  match s with
  | .bool b => some b
  | _ => none

def string : Reading String := fun _ s =>
  match s with
  | .string text => text
  | _ => none

/-- An integer of a range: digits without point and exponent. A zero has no sign. -/
def integer (range : Range) : Reading Int := fun _ s =>
  match s with
  | .number text => if text = "-0" then none else range.read? text.toList
  | _ => none

def natural (range : Range) : Reading Nat := fun depth s => (integer range depth s).map Int.toNat

def document : Reading Json := ofSource?

def orNull {α : Type} (read : Reading α) : Reading (Option α) := fun depth s =>
  match s with
  | .null => some none
  | s => (read depth s).map some

def list {α : Type} (read : Reading α) : Reading (List α) := fun depth s =>
  match depth, s with
  | depth + 1, .array items => items.mapM (read depth)
  | _, _ => none

end Reading

/-- Members by name, a later one in place of an earlier one of the same name. -/
def setText (name value : String) : List (String × String) → List (String × String)
  | [] => [(name, value)]
  | m :: ms => if m.1 = name then (name, value) :: ms else m :: setText name value ms

def Reading.texts : Reading (List (String × String)) := fun depth s =>
  match depth, s with
  | depth + 1, .object members => do
    let pairs ← members.mapM fun m => do some (← m.1, ← Reading.string depth m.2)
    some (pairs.foldl (fun done p => setText p.1 p.2 done) [])
  | _, _ => none

/-- The known fields that a record has, with the depth that is left inside it. -/
structure Record where
  depth : Nat
  fields : List (String × Source)

namespace Record

/-- The members with known names. A name that is no text is refused, so is a known name that
comes twice; what unknown names carry does not matter. -/
def knownMembers? (names : List String) : List (Option String × Source) → Option (List (String × Source))
  | [] => some []
  | (name, value) :: rest => do
    let name ← name
    let known ← knownMembers? names rest
    if !names.contains name then some known
    else if known.any (·.1 == name) then none
    else some ((name, value) :: known)

/-- A record is an object, or the list of its first fields in order. -/
def read? (names : List String) : Reading Record := fun depth s =>
  match depth, s with
  | depth + 1, .object members => (knownMembers? names members).map fun fields => ⟨depth, fields⟩
  | depth + 1, .array items =>
    if items.length ≤ names.length then some ⟨depth, names.zip items⟩ else none
  | _, _ => none

def source? (r : Record) (name : String) : Option Source := (r.fields.find? (·.1 == name)).map (·.2)

def required {α : Type} (r : Record) (name : String) (read : Reading α) : Option α :=
  (r.source? name).bind (read r.depth)

def withDefault {α : Type} (r : Record) (name : String) (default : α) (read : Reading α) : Option α :=
  match r.source? name with
  | some s => read r.depth s
  | none => some default

def nullable {α : Type} (r : Record) (name : String) (read : Reading α) : Option (Option α) :=
  r.withDefault name none read.orNull

/-- A field that has the same value where it is missing and where it is null. -/
def orElse {α : Type} (r : Record) (name : String) (default : α) (read : Reading α) : Option α :=
  (r.nullable name read).map (·.getD default)

end Record
end RowStream.Json
