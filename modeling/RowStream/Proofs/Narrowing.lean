import RowStream.Proofs.NestedTypes
import RowStream.Columnar.Build
import RowStream.Columnar.Cell

/-! # Values as cells of a type

What a value says where a column of some type holds it, value by value and without any column. A column
that is built from values shows exactly this. -/
namespace RowStream.Columnar

def unlessNull (v : Value) (cell : Option Cell) : Option Cell := if v.isNull then some .null else cell

def objectFields? : Value → Option (List (String × Value))
  | .object fields => some fields
  | _ => none

mutual
/-- The cell of a value; none if the type has no place for the value. -/
def narrow? : DataType → Value → Option Cell
  | .word w, v => unlessNull v ((narrowWord? w v).map .int)
  | .float64, v => unlessNull v ((narrowFloat? v).map .float)
  | .boolean, v => unlessNull v ((boolean? v).map .bool)
  | .binary false, v => unlessNull v ((bytes? v).map .binary)
  | .utf8 false, v => unlessNull v ((text? v).map .text)
  | .struct fields, v => unlessNull v ((objectFields? v).bind fun parts => (narrowFields? fields parts).map .struct)
  | .list false item, v =>
    unlessNull v ((arrayParts? v).bind fun items => (items.mapM (narrowField? item)).map .list)
  | .map _ key value, v =>
    unlessNull v ((mapParts? v).bind fun entries =>
      (entries.mapM fun (e : Value × Value) => do some (← narrowField? key e.1, ← narrowField? value e.2)).map .map)
  | _, _ => none

/-- The fields of an object are those of the struct, name by name and in order. -/
def narrowFields? : List (Field DataType) → List (String × Value) → Option (List Cell)
  | [], [] => some []
  | f :: fs, p :: ps =>
    if f.name = p.1 then do some ((← narrowField? f p.2) :: (← narrowFields? fs ps)) else none
  | _, _ => none

/-- A part that is never null has no place for a null. -/
def narrowField? : Field DataType → Value → Option Cell
  | ⟨_, nullable, type⟩, v => if !nullable && v.isNull then none else narrow? type v
end

mutual
/-- Objects in a value have the fields that the type names, in order. -/
def Shaped : DataType → Value → Prop
  | .struct fields, .object parts => ShapedFields fields parts
  | .list _ item, .array items => ∀ v ∈ items, ShapedField item v
  | .map _ key value, .map entries => ∀ e ∈ entries, ShapedField key e.1 ∧ ShapedField value e.2
  | _, _ => True

def ShapedFields : List (Field DataType) → List (String × Value) → Prop
  | [], [] => True
  | f :: fs, p :: ps => f.name = p.1 ∧ ShapedField f p.2 ∧ ShapedFields fs ps
  | _, _ => False

def ShapedField : Field DataType → Value → Prop
  | ⟨_, _, type⟩, v => Shaped type v
end

/-- Offsets of `count` places that lead through all parts. -/
structure Offsets (offsets : List Nat) (count parts : Nat) : Prop where
  length_eq : offsets.length = count + 1
  first : offsets[0]? = some 0
  last : offsets[count]? = some parts
  mono : offsets.Pairwise (· ≤ ·)

mutual
/-- Children are as long as the column says, and have no nulls where they must not. -/
def Formed : Column → Prop
  | .struct valid fields => FormedFields valid.length fields
  | .list _ valid offsets item => Offsets offsets valid.length item.content.length ∧ FormedField item
  | .map _ valid offsets key value =>
    Offsets offsets valid.length key.content.length ∧ value.content.length = key.content.length ∧
      FormedField key ∧ FormedField value
  | _ => True

def FormedFields (length : Nat) : List (Field Column) → Prop
  | [] => True
  | f :: fs => f.content.length = length ∧ FormedField f ∧ FormedFields length fs

def FormedField : Field Column → Prop
  | ⟨_, nullable, c⟩ => (nullable = false → c.hasNull = false) ∧ Formed c
end

theorem formedField_iff {f : Field Column} :
    FormedField f ↔ (f.nullable = false → f.content.hasNull = false) ∧ Formed f.content := by
  obtain ⟨name, nullable, c⟩ := f
  rw [FormedField]

theorem formedFields_iff {length : Nat} {fs : List (Field Column)} :
    FormedFields length fs ↔ ∀ f ∈ fs, f.content.length = length ∧ FormedField f := by
  induction fs with
  | nil => simp [FormedFields]
  | cons f fs ih => simp [FormedFields, ih, and_assoc]

theorem fieldType_nullable (f : Field Column) : (Column.fieldType f).nullable = f.nullable := by
  obtain ⟨name, nullable, c⟩ := f
  rfl

theorem fieldTypes_eq (fs : List (Field Column)) : Column.fieldTypes fs = fs.map Column.fieldType := by
  induction fs with
  | nil => rfl
  | cons f fs ih => rw [Column.fieldTypes, ih, List.map_cons]

/-- The types that columns convert to, with a condition on the types of whole numbers. -/
inductive Target (holds : WordType → Prop) : DataType → Prop
  | word {w} (h : holds w) : Target holds (.word w)
  | float64 : Target holds .float64
  | boolean : Target holds .boolean
  | binary : Target holds (.binary false)
  | utf8 : Target holds (.utf8 false)
  | struct {fields} (nullable : ∀ f ∈ fields, f.nullable = true)
      (parts : ∀ f ∈ fields, Target holds f.content) : Target holds (.struct fields)
  | list {name type} (part : Target holds type) : Target holds (.list false ⟨name, true, type⟩)
  | map {form keyName key valueName type} (keys : Target holds key) (values : Target holds type) :
      Target holds (.map form ⟨keyName, false, key⟩ ⟨valueName, true, type⟩)

def decimalTarget (t : ColumnType) : WordType :=
  .decimal128 (min (max (t.precision.getD maxPrecision) 1) maxPrecision) (min t.scale maxPrecision : Nat)

variable {holds : WordType → Prop} {o : BatchOptions} {t : ColumnType}

theorem target_scalarTarget (plain : ∀ w, (∀ precision scale, w ≠ .decimal128 precision scale) → holds w)
    (decimal : t.kind = .fixed → o.higherPrecision = true → holds (decimalTarget t)) :
    Target holds (scalarTarget o t) := by
  unfold scalarTarget
  cases kind : t.kind with
  | fixed =>
    simp only [fixedTarget]
    split
    · rename_i exact
      exact .word (decimal kind exact)
    · split
      · exact .word (plain _ (by simp))
      · exact .float64
  | date => exact .word (plain _ (by simp))
  | time => exact .word (plain _ (by simp))
  | timestampNtz => exact .word (plain _ (by simp))
  | timestampLtz => exact .word (plain _ (by simp))
  | timestampTz => exact .word (plain _ (by simp))
  | real => exact .float64
  | boolean => exact .boolean
  | binary => exact .binary
  | _ => exact .utf8

theorem target_targetType (plain : ∀ w, (∀ precision scale, w ≠ .decimal128 precision scale) → holds w)
    (decimal : t.Everywhere fun u => u.kind = .fixed → o.higherPrecision = true → holds (decimalTarget u)) :
    Target holds (targetType o t) := by
  induction t using ColumnType.parts_induction with
  | step t fields parts =>
    rw [targetType_eq]
    split
    · exact target_scalarTarget plain decimal.here
    · rename_i structured
      have part : ∀ index, Target holds (targetType o (t.part index)) :=
        fun index => parts (by simpa using structured) index (decimal.part (fun text => nomatch text) index)
      split
      · exact .list (part 0)
      · exact .map (part 0) (part 1)
      · refine .struct ?_ ?_
        · intro f member
          obtain ⟨u, _, rfl⟩ := List.mem_map.mp member
          rfl
        · intro f member
          obtain ⟨u, declared, rfl⟩ := List.mem_map.mp member
          exact fields u declared (decimal.field declared)

end RowStream.Columnar
