import RowStream.Value
import RowStream.Schema
import RowStream.Text.Hex
import RowStream.Number.Decimal
import RowStream.Calendar.Render

/-! # Scanning values into destinations -/
namespace RowStream
open RowStream.Number RowStream.Calendar RowStream.Text

/-- Why a value does not go into a destination. -/
inductive ScanFailure
  | refused (message : String)
  /-- The wall clock of a zoned timestamp lies outside the calendar. -/
  | noWallClock
deriving Repr, DecidableEq

def ScanFailure.within (place : String) : ScanFailure → ScanFailure
  | .refused message => .refused (place ++ ": " ++ message)
  | .noWallClock => .noWallClock

structure Scanner (α : Type) where
  scan : Value → Except ScanFailure α

namespace Scanner

def mismatch {α : Type} (v : Value) (target : String) : Except ScanFailure α :=
  .error (.refused (if v.isNull then "cannot scan NULL into " ++ target
    else "cannot scan " ++ v.typeName ++ " value into " ++ target))

def orMismatch {α : Type} (v : Value) (target : String) : Option α → Except ScanFailure α
  | some a => .ok a
  | none => mismatch v target

def map {α β : Type} (f : α → β) (s : Scanner α) : Scanner β := ⟨fun v => (s.scan v).map f⟩

def value : Scanner Value := ⟨.ok⟩

/-- The whole number that a value is, also a decimal of scale zero. -/
def whole? : Value → Option Int
  | .int n => some n
  | .bigInt n => some n
  | .decimal n 0 => some n
  | _ => none

def int64? (v : Value) : Option Int := (whole? v).bind Range.int64.within?

def int64 : Scanner Int := ⟨fun v => orMismatch v "i64" (int64? v)⟩

def narrow (range : Range) (target : String) : Scanner Int := ⟨fun v => do
  let n ← orMismatch v target (int64? v)
  if n ∈ range then .ok n
  else .error (.refused (toString n ++ " is out of range for " ++ target))⟩

def int32 : Scanner Int := narrow .int32 "i32"
def nat8 : Scanner Int := narrow .nat8 "u8"

def float? : Value → Option Binary64
  | .float x => some x
  | .int n => some (Binary64.ofInt n)
  | .bigInt n => some (Binary64.ofScaled n 0)
  | .decimal unscaled scale => some (Binary64.ofScaled unscaled scale)
  | _ => none

def float : Scanner Binary64 := ⟨fun v => orMismatch v "f64" (float? v)⟩

def bool : Scanner Bool := ⟨fun v =>
  match v with
  | .bool b => .ok b
  | v => mismatch v "bool"⟩

/-- The text of a scalar; null and structured values have none. -/
def text? : Value → Option String
  | .text s => some s
  | .bool b => some (if b then "true" else "false")
  | .int n | .bigInt n => some (toString n)
  | .decimal unscaled scale => some (Decimal.render unscaled scale)
  | .float x => some x.render
  | .binary bytes => some (Hex.encodeUpper bytes)
  | .date d => some d.render
  | .time t => some t.render
  | .timestampNtz wall => some wall.render
  | .timestampLtz instant => some (Zoned.utc instant).render
  | .timestampTz z => some z.render
  | .null | .object _ | .array _ | .map _ => none

def text : Scanner String := ⟨fun v => orMismatch v "String" (text? v)⟩

def bigInt : Scanner Int := ⟨fun v => orMismatch v "BigInt" (whole? v)⟩

def date : Scanner Date := ⟨fun v =>
  match v with
  | .date d => .ok d
  | v => mismatch v "NaiveDate"⟩

def time : Scanner Time := ⟨fun v =>
  match v with
  | .time t => .ok t
  | v => mismatch v "NaiveTime"⟩

/-- The wall clock of a timestamp: of one with an offset, the clock of that offset. -/
def wallClock : Scanner Instant := ⟨fun v =>
  match v with
  | .timestampNtz wall => .ok wall
  | .timestampLtz instant => .ok instant
  | .timestampTz z =>
    match z.wallClock? with
    | some wall => .ok wall
    | none => .error .noWallClock
  | v => mismatch v "NaiveDateTime"⟩

/-- The instant of a timestamp; a wall clock is taken as UTC. -/
def instant : Scanner Instant := ⟨fun v =>
  match v with
  | .timestampLtz instant => .ok instant
  | .timestampTz z => .ok z.instant
  | .timestampNtz wall => .ok wall
  | v => mismatch v "DateTime<Utc>"⟩

def zoned : Scanner Zoned := ⟨fun v =>
  match v with
  | .timestampTz z => .ok z
  | .timestampLtz instant => .ok (Zoned.utc instant)
  | v => mismatch v "DateTime<FixedOffset>"⟩

/-- Null is nothing. -/
def option {α : Type} (s : Scanner α) : Scanner (Option α) := ⟨fun v =>
  match v with
  | .null => .ok none
  | v => (s.scan v).map some⟩

def list {α : Type} (s : Scanner α) : Scanner (List α) := ⟨fun v =>
  match v with
  | .array items => items.mapM s.scan
  | .binary bytes => bytes.mapM fun b => s.scan (.int b.toNat)
  | v => mismatch v "Vec"⟩

def setEntry {κ α : Type} [BEq κ] (k : κ) (a : α) : List (κ × α) → List (κ × α)
  | [] => [(k, a)]
  | e :: es => if e.1 == k then (k, a) :: es else e :: setEntry k a es

def lastEntries {κ α : Type} [BEq κ] (es : List (κ × α)) : List (κ × α) :=
  es.foldl (fun done e => setEntry e.1 e.2 done) []

def scanEntry {κ α : Type} (k : Scanner κ) (s : Scanner α) (e : Value × Value) :
    Except ScanFailure (κ × α) := do
  let key ← k.scan e.1
  let item ← s.scan e.2
  .ok (key, item)

/-- The entries of a map, or the fields of an object by their names. -/
def entries {κ α : Type} [BEq κ] (k : Scanner κ) (s : Scanner α) : Scanner (List (κ × α)) := ⟨fun v =>
  match v with
  | .map es => (es.mapM (scanEntry k s)).map lastEntries
  | .object fields => (fields.mapM fun f => scanEntry k s (.text f.1, f.2)).map lastEntries
  | v => mismatch v "HashMap"⟩

/-- A field of an object. One that is missing counts as null. -/
def field {α : Type} (fields : List (String × Value)) (name : String) (s : Scanner α) :
    Except ScanFailure α :=
  match s.scan ((Value.findField fields name).getD .null) with
  | .ok a => .ok a
  | .error e => .error (e.within ("field " ++ name))

def object {α : Type} (read : List (String × Value) → Except ScanFailure α) : Scanner α := ⟨fun v =>
  match v with
  | .object fields => read fields
  | v => mismatch v "structured object"⟩

end Scanner

/-- What became of the destinations: those that were filled, and the failure that came next. -/
structure RowScan (α : Type) where
  filled : List α
  failure : Option ScanFailure

def columnPlace (schema : Schema) (index : Nat) : String :=
  let name := (schema[index]?.map (·.name)).getD "?"
  "column " ++ toString index ++ " (" ++ name ++ ")"

/-- Fills destinations from a column on, until one refuses its value. -/
def scanFrom {α : Type} (schema : Schema) (index : Nat) : List (Value × Scanner α) → RowScan α
  | [] => ⟨[], none⟩
  | (v, s) :: rest =>
    match s.scan v with
    | .ok a =>
      let next := scanFrom schema (index + 1) rest
      ⟨a :: next.filled, next.failure⟩
    | .error e => ⟨[], some (e.within (columnPlace schema index))⟩

/-- Each column goes into the destination at its place; there have to be as many. -/
def scanRow {α : Type} (row : Row) (schema : Schema) (destinations : List (Scanner α)) : RowScan α :=
  if destinations.length = row.length then scanFrom schema 0 (row.zip destinations)
  else ⟨[], some (.refused ("expected " ++ toString row.length ++ " destination arguments, got " ++
    toString destinations.length))⟩

end RowStream
