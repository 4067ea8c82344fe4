import RowStream.Proofs.Epochs
import RowStream.Proofs.NestedTypes

/-! # Logical values

What a cell says, apart from any way to write it down, and the value that it stands for. -/
namespace RowStream
open RowStream.Number RowStream.Calendar

/-- The content of a cell of some type. -/
inductive Logical where
  | null
  /-- An unscaled integer; the scale is that of the type. -/
  | fixed (unscaled : Int)
  | real (x : Binary64)
  | bool (b : Bool)
  | date (days : Int)
  /-- A count of `10 ^ -scale` seconds: of the day, or since the epoch. -/
  | scaled (n : Int)
  /-- The same with a stored offset, minutes east plus a bias. -/
  | zoned (n : Int) (offset : Nat)
  | binary (bytes : List UInt8)
  | text (s : String)
  | object (fields : List Logical)
  | array (items : List Logical)
  | map (entries : List (Logical × Logical))

namespace Logical
open RowStream.Decode

def time? (n : Int) (scale : Nat) : Option Time :=
  if 0 ≤ secondsOf n scale then Time.ofParts? (secondsOf n scale).toNat (nanosOf n scale) else none

def instant? (n : Int) (scale : Nat) : Option Instant := Instant.ofParts? (secondsOf n scale) (nanosOf n scale)

def zoned? (n : Int) (scale offset : Nat) : Option Zoned :=
  (instant? n scale).bind fun instant => Zoned.ofOffset? instant (((offset : Int) - offsetBias) * 60)

def clock? (t : ColumnType) (n : Int) : Option Value :=
  match t.kind with
  | .time => (time? n t.scale).map .time
  | .timestampLtz => (instant? n t.scale).map .timestampLtz
  | _ => (instant? n t.scale).map .timestampNtz

mutual
/-- The value of a cell of a type; none if it is out of range. -/
def value? (o : DecodeOptions) : ColumnType → Logical → Option Value
  | _, .null => some .null
  | t, .fixed unscaled => some (fixedValue unscaled t.scale o)
  | _, .real x => some (.float x)
  | _, .bool b => some (.bool b)
  | _, .date days => (Date.ofDay? days).map .date
  | t, .scaled n => clock? t n
  | t, .zoned n offset => (zoned? n t.scale offset).map .timestampTz
  | _, .binary bytes => some (.binary bytes)
  | _, .text s => some (.text s)
  | t, .object fields => (fieldValues? o t.fields fields).map .object
  | t, .array items => (itemValues? o (t.part 0) items).map .array
  | t, .map entries => (entryValues? o (t.part 0) (t.part 1) entries).map .map

def fieldValues? (o : DecodeOptions) : List ColumnType → List Logical → Option (List (String × Value))
  | [], [] => some []
  | t :: ts, l :: ls => do some ((t.name, ← value? o t l) :: (← fieldValues? o ts ls))
  | _, _ => none

def itemValues? (o : DecodeOptions) (t : ColumnType) : List Logical → Option (List Value)
  | [] => some []
  | l :: ls => do some ((← value? o t l) :: (← itemValues? o t ls))

def entryValues? (o : DecodeOptions) (k v : ColumnType) : List (Logical × Logical) → Option (List (Value × Value))
  | [] => some []
  | ⟨l, m⟩ :: ls => do some ((← value? o k l, ← value? o v m) :: (← entryValues? o k v ls))
end

theorem itemValues?_eq (o : DecodeOptions) (t : ColumnType) (ls : List Logical) :
    itemValues? o t ls = ls.mapM (value? o t) := by
  induction ls with
  | nil => rfl
  | cons l ls ih =>
    rw [itemValues?, ih, List.mapM_cons]
    rfl

def pairValue? (o : DecodeOptions) (k v : ColumnType) (e : Logical × Logical) : Option (Value × Value) := do
  some (← value? o k e.1, ← value? o v e.2)

theorem entryValues?_eq (o : DecodeOptions) (k v : ColumnType) (ls : List (Logical × Logical)) :
    entryValues? o k v ls = ls.mapM (pairValue? o k v) := by
  induction ls with
  | nil => rfl
  | cons e ls ih =>
    rw [entryValues?, ih, List.mapM_cons, pairValue?]
    cases value? o k e.1 with
    | none => rfl
    | some x => cases value? o v e.2 <;> rfl

end Logical

namespace Decode

theorem toOption_timeOfParts (n : Int) (scale : Nat) :
    (timeOfParts (secondsOf n scale) (nanosOf n scale)).toOption = Logical.time? n scale := by
  rw [timeOfParts, Logical.time?]
  cases (if 0 ≤ secondsOf n scale then Time.ofParts? (secondsOf n scale).toNat (nanosOf n scale) else none) <;> rfl

theorem toOption_instantOfParts (n : Int) (scale : Nat) :
    (instantOfParts (secondsOf n scale) (nanosOf n scale)).toOption = Logical.instant? n scale := by
  rw [instantOfParts, Logical.instant?]
  cases Instant.ofParts? (secondsOf n scale) (nanosOf n scale) <;> rfl

theorem toOption_zonedOfParts (n : Int) (scale offset : Nat) :
    (zonedOfParts (secondsOf n scale) (nanosOf n scale) offset).toOption = Logical.zoned? n scale offset := by
  rw [zonedOfParts, Logical.zoned?, ← toOption_instantOfParts]
  cases instantOfParts (secondsOf n scale) (nanosOf n scale) with
  | error e =>
    split <;> rfl
  | ok instant =>
    by_cases fits : (((offset : Int) - offsetBias) * 60).natAbs < secondsPerDay
    · rw [dif_pos fits]
      show _ = Zoned.ofOffset? instant _
      rw [Zoned.ofOffset?, dif_pos fits]
      rfl
    · rw [dif_neg fits]
      show _ = Zoned.ofOffset? instant _
      rw [Zoned.ofOffset?, dif_neg fits]
      rfl

end Decode

namespace ColumnType

/-- What schemas promise of a type: the scale is a 32-bit word, that of seconds has at most nine digits,
and the fields of an object have names of their own. -/
structure Regular (t : ColumnType) : Prop where
  scale : (t.scale : Int) ∈ Range.nat32
  seconds : t.kind ∈ [.time, .timestampNtz, .timestampLtz, .timestampTz] → t.scale ≤ 9
  names : t.kind = .object → (t.fields.map (·.name)).Nodup

theorem regular_plainText : plainText.Regular :=
  ⟨by decide, by decide, by decide⟩

def clockKinds : List TypeKind := [.time, .timestampNtz, .timestampLtz]

variable {t : ColumnType}

theorem Regular.scale_le (h : t.Regular) (kind : t.kind ∈ clockKinds) : t.scale ≤ 9 := by
  refine h.seconds ?_
  simp only [clockKinds, List.mem_cons, List.not_mem_nil, or_false] at kind ⊢
  rcases kind with kind | kind | kind <;> simp [kind]

theorem isStructured_of_clock (kind : t.kind ∈ clockKinds) : t.isStructured = false := by
  simp only [clockKinds, List.mem_cons, List.not_mem_nil, or_false] at kind
  rcases kind with kind | kind | kind <;> simp [isStructured, kind]

end ColumnType
end RowStream
