import RowStream.Error
import RowStream.Value
import RowStream.Columnar.Column

/-! # Columns from values -/
namespace RowStream.Columnar
open RowStream.Number RowStream.Calendar

def int128 : Range :=
  ⟨-170141183460469231731687303715884105728, 170141183460469231731687303715884105727⟩

def cannotStore (v : Value) (type : DataType) : Error :=
  .decode ("cannot store " ++ v.typeName ++ " value as " ++ type.text)

def buildFailure (reason : String) : Error := .decode ("failed to build Arrow array: " ++ reason)

def narrowInt64? : Value → Option Int
  | .int n => some n
  | .bigInt n => Range.int64.within? n
  | _ => none

def narrowFloat? : Value → Option Binary64
  | .float x => some x
  | .int n => some (Binary64.ofInt n)
  | .bigInt n => some (Binary64.ofScaled n 0)
  | .decimal unscaled scale => some (Binary64.ofScaled unscaled scale)
  | _ => none

/-- The unscaled integer at a scale that has at least as many fraction digits as the value. -/
def narrowDecimal? (scale : Int) (v : Value) : Option Int := do
  let (unscaled, own) ← match v with
    | .int n => some (n, 0)
    | .bigInt n => some (n, 0)
    | .decimal unscaled own => some (unscaled, own)
    | _ => none
  if (own : Int) ≤ scale then int128.within? (unscaled * (Nat.pow 10 (scale - own).toNat : Nat)) else none

def instant? : Value → Option Instant
  | .timestampNtz wall => some wall
  | .timestampLtz instant => some instant
  | .timestampTz z => some z.instant
  | _ => none

/-- The count of a unit since the epoch, where the whole seconds and the sum fit 64 bits. Whole
seconds have no leap second. -/
def inUnit? (unit : TimeUnit) (i : Instant) : Option Int :=
  match unit with
  | .second => some i.second
  | unit => do
    let whole ← Range.int64.within? (i.second * (Nat.pow 10 unit.digits : Nat))
    Range.int64.within? (whole + i.nanos / Nat.pow 10 (9 - unit.digits))

def narrowWord? (w : WordType) (v : Value) : Option Int :=
  match w, v with
  | .int64, v => narrowInt64? v
  | .decimal128 _ scale, v => narrowDecimal? scale v
  | .date32, .date d => some d.day
  | .time64 .nanosecond, .time t => some (t.second * nanosPerSecond + t.nanos : Nat)
  | .timestamp unit _, v => (instant? v).bind (inUnit? unit)
  | _, _ => none

def places {α : Type} (type : DataType) (narrow? : Value → Option α) (vs : List Value) :
    Result (List (Option α)) :=
  vs.mapM fun v =>
    if v.isNull then .ok none
    else match narrow? v with
      | some a => .ok (some a)
      | none => .error (cannotStore v type)

def validity (vs : List Value) : List Bool := vs.map fun v => !v.isNull

/-- The offsets of places with the given numbers of parts. -/
def offsetsFrom (start : Nat) : List Nat → List Nat
  | [] => [start]
  | n :: ns => start :: offsetsFrom (start + n) ns

def boolean? : Value → Option Bool
  | .bool b => some b
  | _ => none

def text? : Value → Option String
  | .text s => some s
  | _ => none

def bytes? : Value → Option (List UInt8)
  | .binary bs => some bs
  | _ => none

def objectParts? : Value → Option (List Value)
  | .object fields => some (fields.map (·.2))
  | .null => some []
  | _ => none

def arrayParts? : Value → Option (List Value)
  | .array items => some items
  | .null => some []
  | _ => none

def mapParts? : Value → Option (List (Value × Value))
  | .map entries => some entries
  | .null => some []
  | _ => none

def allParts {α : Type} (type : DataType) (parts? : Value → Option (List α)) (vs : List Value) :
    Result (List (List α)) :=
  vs.mapM fun v =>
    match parts? v with
    | some parts => .ok parts
    | none => .error (cannotStore v type)

/-- A scale cannot exceed the precision. -/
def checkWord : WordType → Result Unit
  | .decimal128 precision scale =>
    if 0 < scale ∧ (precision : Int) < scale then .error (buildFailure "scale greater than precision")
    else .ok ()
  | _ => .ok ()

mutual
def build : DataType → List Value → Result Column
  | .word w, vs => do
    let found ← places (.word w) (narrowWord? w) vs
    checkWord w
    .ok (.word w (found.map Slot.ofOption))
  | .float64, vs => (places .float64 narrowFloat? vs).map .float64
  | .boolean, vs => (places .boolean boolean? vs).map .boolean
  | .binary false, vs => (places (.binary false) bytes? vs).map (.binary false)
  | .utf8 false, vs => (places (.utf8 false) text? vs).map (.utf8 false)
  | .struct fields, vs => do
    let rows ← allParts (.struct fields) objectParts? vs
    let columns ← buildFields fields 0 rows
    .ok (.struct (validity vs) columns)
  | .list false item, vs => do
    let rows ← allParts (.list false item) arrayParts? vs
    let column ← buildField item rows.flatten
    .ok (.list false (validity vs) (offsetsFrom 0 (rows.map List.length)) column)
  | .map form key value, vs => do
    let rows ← allParts (.map form key value) mapParts? vs
    let entries := rows.flatten
    let keys ← buildField key (entries.map (·.1))
    let items ← buildField value (entries.map (·.2))
    if !key.nullable && (entries.any fun e => e.1.isNull) then .error (buildFailure "a map key is null")
    else .ok (.map form (validity vs) (offsetsFrom 0 (rows.map List.length)) keys items)
  | type, _ => .error (.decode ("no conversion to Arrow type " ++ type.text))

/-- The columns of the fields from an index on. A value with fewer parts has nulls for the rest. -/
def buildFields : List (Field DataType) → Nat → List (List Value) → Result (List (Field Column))
  | [], _, _ => .ok []
  | f :: fs, index, rows => do
    let column ← buildField f (rows.map fun parts => parts.getD index .null)
    let rest ← buildFields fs (index + 1) rows
    .ok (column :: rest)

def buildField : Field DataType → List Value → Result (Field Column)
  | ⟨name, nullable, type⟩, vs => (build type vs).map fun c => ⟨name, nullable, c⟩
end

end RowStream.Columnar
