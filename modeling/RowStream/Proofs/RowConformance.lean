import RowStream.Proofs.FieldLaws
import RowStream.Decode.Chunk

/-! # Rows conform to their schema

Every decoded row has a value for each column, and each value has the form of its type at every depth. -/
namespace RowStream
open RowStream.Number RowStream.Decode RowStream.Columnar

/-- The values of a kind without parts. Numbers that are kept exactly are floats only where floats are allowed. -/
inductive OfKind (o : DecodeOptions) (floats : Prop) : TypeKind → Value → Prop
  | int {n} (fits : n ∈ Range.int64) : OfKind o floats .fixed (.int n)
  | float {x} (allowed : o.higherPrecision = true → floats) : OfKind o floats .fixed (.float x)
  | bigInt {n} (exact : o.higherPrecision = true) (outside : n ∉ Range.int64) : OfKind o floats .fixed (.bigInt n)
  | decimal {n scale} (exact : o.higherPrecision = true) (scaled : 0 < scale) :
      OfKind o floats .fixed (.decimal n scale)
  | real x : OfKind o floats .real (.float x)
  | bool b : OfKind o floats .boolean (.bool b)
  | date d : OfKind o floats .date (.date d)
  | time t : OfKind o floats .time (.time t)
  | timestampNtz wall : OfKind o floats .timestampNtz (.timestampNtz wall)
  | timestampLtz instant : OfKind o floats .timestampLtz (.timestampLtz instant)
  | timestampTz z : OfKind o floats .timestampTz (.timestampTz z)
  | binary bytes : OfKind o floats .binary (.binary bytes)
  /-- Semi-structured values are texts. -/
  | text {kind s} (textual : kind ∈ [.text, .variant, .object, .array]) : OfKind o floats kind (.text s)

/-- The values of a type: objects have exactly its fields, in its order. -/
inductive Conforms (o : DecodeOptions) (floats : Prop) : ColumnType → Value → Prop
  | null {t} : Conforms o floats t .null
  | scalar {t v} (plain : t.isStructured = false) (here : OfKind o floats t.kind v) : Conforms o floats t v
  | object {t vs} (structured : t.isStructured = true) (kind : t.kind = .object) (length : vs.length = t.fields.length)
      (fields : ∀ (k : Nat) u v, t.fields[k]? = some u → vs[k]? = some v → Conforms o floats u v) :
      Conforms o floats t (.object ((t.fields.map (·.name)).zip vs))
  | array {t vs} (structured : t.isStructured = true) (kind : t.kind = .array)
      (items : ∀ v ∈ vs, Conforms o floats (t.part 0) v) : Conforms o floats t (.array vs)
  | map {t vs} (kind : t.kind = .map) (keys : ∀ e ∈ vs, Conforms o floats (t.part 0) e.1)
      (values : ∀ e ∈ vs, Conforms o floats (t.part 1) e.2) : Conforms o floats t (.map vs)

variable {o : DecodeOptions} {floats : Prop} {t : ColumnType} {v : Value}

theorem OfKind.mono {weaker : Prop} (h : OfKind o floats t.kind v) (weaken : floats → weaker) :
    OfKind o weaker t.kind v := by
  generalize t.kind = kind at h ⊢
  cases h with
  | float allowed => exact .float fun exact => weaken (allowed exact)
  | int fits => exact .int fits
  | bigInt exact outside => exact .bigInt exact outside
  | decimal exact scaled => exact .decimal exact scaled
  | text textual => exact .text textual
  | _ => constructor

theorem ofKind_fixedValue (n : Int) (scale : Nat) : OfKind o floats .fixed (fixedValue n scale o) := by
  rw [fixedValue]
  split
  · split
    · rename_i fits
      exact .int fits
    · rename_i outside
      split
      · rename_i exact
        exact .bigInt exact outside
      · rename_i inexact
        exact .float fun exact => absurd exact inexact
  · rename_i scaled
    split
    · rename_i exact
      exact .decimal exact (Nat.pos_of_ne_zero scaled)
    · rename_i inexact
      exact .float fun exact => absurd exact inexact

theorem ofKind_text (plain : t.isStructured = false) {s : String} (h : Decode.text t s o = .ok v) :
    OfKind o floats t.kind v := by
  rw [Decode.text] at h
  cases kind : t.kind with
  | fixed =>
    simp only [kind] at h
    obtain ⟨n, -, rfl⟩ := map_eq_ok.mp h
    exact ofKind_fixedValue n t.scale
  | map => simp [ColumnType.isStructured, kind] at plain
  | text | variant | object | array =>
    simp only [kind] at h
    cases h
    exact .text (by decide)
  | _ =>
    simp only [kind] at h
    obtain ⟨_, -, rfl⟩ := map_eq_ok.mp h
    constructor

theorem isNull_of_text?_eq_none {c : JsonCursor} (h : c.text? = none) : c.isNull = true := by
  cases c with
  | node j => cases j <;> first | rfl | simp [JsonCursor.text?] at h
  | key => simp [JsonCursor.text?] at h
  | missing => rfl

theorem ofKind_documentLeaf {c : JsonCursor} (filled : c.isNull = false) (plain : t.isStructured = false)
    (h : Leaf o c t v) : OfKind o floats t.kind v := by
  have h : c.leaf t o = .ok v := h
  rw [JsonCursor.leaf] at h
  cases here : c.text? with
  | some s =>
    rw [here] at h
    exact ofKind_text plain h
  | none =>
    rw [isNull_of_text?_eq_none here] at filled
    cases filled

section
variable {c : ColumnCursor}

def ColumnCursor.IsFloat64 (c : ColumnCursor) : Prop := ∃ ps, c.column = .float64 ps

theorem unexpected_ne_ok {α : Type} {kind : TypeKind} {a : α} : c.unexpected kind ≠ .ok a := by
  intro h
  cases h

theorem ofKind_textLeaf (plain : t.isStructured = false) (h : c.textLeaf t o = .ok v) : OfKind o floats t.kind v := by
  rw [ColumnCursor.textLeaf] at h
  split at h
  · exact ofKind_text plain h
  · exact absurd h unexpected_ne_ok

theorem ofKind_fixedLeaf (kind : t.kind = .fixed) (h : c.fixedLeaf t o = .ok v) : OfKind o c.IsFloat64 .fixed v := by
  have plain : t.isStructured = false := by simp [ColumnType.isStructured, kind]
  rw [ColumnCursor.fixedLeaf] at h
  split at h
  · cases h
    exact ofKind_fixedValue _ _
  · split at h
    · cases h
      exact ofKind_fixedValue _ _
    · exact absurd h unexpected_ne_ok
  · rename_i ps column _
    cases h
    exact .float fun _ => ⟨ps, column⟩
  · exact kind ▸ ofKind_textLeaf plain h

theorem ofKind_timestampLeaf (plain : t.isStructured = false) {wrap : Calendar.Instant → Value}
    (wrapped : ∀ i, OfKind o floats t.kind (wrap i)) (h : c.timestampLeaf t o wrap = .ok v) :
    OfKind o floats t.kind v := by
  rw [ColumnCursor.timestampLeaf] at h
  split at h
  · exact ofKind_text plain h
  · obtain ⟨_, -, h⟩ := bind_eq_ok.mp h
    obtain ⟨i, -, rfl⟩ := map_eq_ok.mp h
    exact wrapped i

theorem ofKind_zonedLeaf (kind : t.kind = .timestampTz) (plain : t.isStructured = false) (h : c.zonedLeaf t o = .ok v) :
    OfKind o floats .timestampTz v := by
  rw [ColumnCursor.zonedLeaf] at h
  split at h
  · split at h
    · obtain ⟨_, -, h⟩ := bind_eq_ok.mp h
      obtain ⟨z, -, rfl⟩ := map_eq_ok.mp h
      exact .timestampTz z
    · obtain ⟨_, -, h⟩ := bind_eq_ok.mp h
      obtain ⟨z, -, rfl⟩ := map_eq_ok.mp h
      exact .timestampTz z
    · exact absurd h unexpected_ne_ok
  · exact kind ▸ ofKind_textLeaf plain h

theorem ofKind_columnLeaf (plain : t.isStructured = false) (h : Leaf o c t v) : OfKind o c.IsFloat64 t.kind v := by
  have h : c.leaf t o = .ok v := h
  rw [ColumnCursor.leaf] at h
  have textual (h : c.textLeaf t o = .ok v) : OfKind o c.IsFloat64 t.kind v := ofKind_textLeaf plain h
  cases kind : t.kind with
  | fixed => exact ofKind_fixedLeaf kind (by simpa only [kind] using h)
  | real =>
    simp only [kind, ColumnCursor.realLeaf] at h textual
    split at h
    · cases h
      exact .real _
    · cases h
      exact .real _
    · exact textual h
  | boolean =>
    simp only [kind, ColumnCursor.booleanLeaf] at h textual
    split at h
    · cases h
      exact .bool _
    · exact textual h
  | date =>
    simp only [kind, ColumnCursor.dateLeaf] at h textual
    split at h
    · obtain ⟨_, -, rfl⟩ := map_eq_ok.mp h
      exact .date _
    · obtain ⟨_, -, rfl⟩ := map_eq_ok.mp h
      exact .date _
    · exact textual h
  | time =>
    simp only [kind, ColumnCursor.timeLeaf] at h textual
    split at h
    · obtain ⟨_, -, h⟩ := bind_eq_ok.mp h
      obtain ⟨_, -, rfl⟩ := map_eq_ok.mp h
      exact .time _
    · exact textual h
  | timestampNtz =>
    simp only [kind] at h
    exact kind ▸ ofKind_timestampLeaf plain (kind ▸ .timestampNtz) h
  | timestampLtz =>
    simp only [kind] at h
    exact kind ▸ ofKind_timestampLeaf plain (kind ▸ .timestampLtz) h
  | timestampTz => exact ofKind_zonedLeaf kind plain (by simpa only [kind] using h)
  | binary =>
    simp only [kind, ColumnCursor.binaryLeaf] at h textual
    split at h
    · cases h
      exact .binary _
    · cases h
      exact .binary _
    · exact textual h
  | _ => exact kind ▸ textual (by simpa only [kind] using h)

end

section
variable {κ : Type} [Cursor κ] {parts? : κ → Option (List (String × κ))}
  {law : List (String × κ) → Nat → String → κ → Prop} {leaf weaker : κ → ColumnType → Value → Prop} {c : κ}

theorem Follows.mono (h : Follows parts? law leaf t c v)
    (weaken : ∀ c t v, Cursor.isNull c = false → t.isStructured = false → leaf c t v → weaker c t v) :
    Follows parts? law weaker t c v := by
  induction h with
  | null null => exact .null null
  | leaf filled plain here => exact .leaf filled plain (weaken _ _ _ filled plain here)
  | object child filled structured kind payload length chosen _ ih =>
    exact .object child filled structured kind payload length chosen ih
  | array filled structured kind elements length _ ih => exact .array filled structured kind elements length ih
  | map filled kind entries length _ _ keys values => exact .map filled kind entries length keys values

theorem conforms_of_follows (h : Follows parts? law leaf t c v)
    (formed : ∀ c t v, Cursor.isNull c = false → t.isStructured = false → leaf c t v → OfKind o floats t.kind v) :
    Conforms o floats t v := by
  induction h with
  | null => exact .null
  | leaf filled plain here => exact .scalar plain (formed _ _ _ filled plain here)
  | object _ _ structured kind _ length _ _ ih => exact .object structured kind length ih
  | @array t c cs vs _ structured kind _ length _ ih =>
    refine .array structured kind ?_
    intro v member
    obtain ⟨k, d, there, here⟩ := place_of_mem length.symm member
    exact ih k d v there here
  | @map t c es vs _ kind _ length _ _ keys values =>
    refine .map kind ?_ ?_
    · intro v member
      obtain ⟨k, e, there, here⟩ := place_of_mem length.symm member
      exact keys k e v there here
    · intro v member
      obtain ⟨k, e, there, here⟩ := place_of_mem length.symm member
      exact values k e v there here

end

/-- A value at a position of a document. -/
theorem conforms_document {c : JsonCursor} (h : value o t c = .ok v) : Conforms o False t v :=
  conforms_of_follows (follows_of_value JsonCursor.field_eq_ok h) fun _ _ _ => ofKind_documentLeaf

/-- What a place of a column may hold: floats in place of exact numbers are from columns of floats only. -/
def Placed (o : DecodeOptions) (c : ColumnCursor) (t : ColumnType) (v : Value) : Prop := OfKind o c.IsFloat64 t.kind v

theorem follows_placed {c : ColumnCursor} (h : value o t c = .ok v) :
    Follows ColumnCursor.parts? ByNameOrPlace (Placed o) t c v :=
  (follows_of_value ColumnCursor.field_eq_ok h).mono fun _ _ _ _ => ofKind_columnLeaf

theorem conforms_of_placed {c : ColumnCursor} (h : Follows ColumnCursor.parts? ByNameOrPlace (Placed o) t c v) :
    Conforms o True t v :=
  conforms_of_follows h fun _ _ _ _ _ here => here.mono fun _ => True.intro

variable {schema : Schema} {row : Row} {rows : List Row}

/-- A row of texts has a value of each column's type, and no floats for exact numbers. -/
def TextRowConforms (schema : Schema) (o : DecodeOptions) (row : Row) : Prop :=
  List.Forall₂ (Conforms o False) schema row

/-- A row of batches has a value of each column's type, from one place of all columns of a batch. -/
structure ColumnRowConforms (schema : Schema) (o : DecodeOptions) (bs : List Batch) (row : Row) : Prop where
  forms : List.Forall₂ (Conforms o True) schema row
  places : ∃ b ∈ bs, ∃ i < b.rows, List.Forall₂ (fun p v => Follows ColumnCursor.parts? ByNameOrPlace (Placed o) p.2
    (⟨p.1.content, i⟩ : ColumnCursor) v) (b.columns.zip schema) row

theorem conforms_textCell {field : Option String} (h : textCell t o field = .ok v) : Conforms o False t v := by
  cases field with
  | none =>
    cases h
    exact .null
  | some s =>
    rw [textCell] at h
    split at h
    · rw [document] at h
      split at h
      · exact conforms_document h
      · cases h
    · rename_i plain
      rw [Bool.not_eq_true] at plain
      exact .scalar plain (ofKind_text plain h)

theorem forall₂_of_zip_left {α β γ : Type} {r : β → γ → Prop} {xs : List α} {ys : List β} {zs : List γ}
    (length : xs.length = ys.length) (h : List.Forall₂ (fun p z => r p.2 z) (xs.zip ys) zs) : List.Forall₂ r ys zs := by
  have second : (xs.zip ys).map (·.2) = ys := List.map_snd_zip (Nat.le_of_eq length.symm)
  rw [← second, List.forall₂_map_left_iff]
  exact h

theorem textRow_conforms {index : Nat} {fields : TextRow} (h : textRow schema o index fields = .ok row) :
    TextRowConforms schema o row := by
  rw [textRow] at h
  split at h
  · rename_i length
    refine forall₂_of_zip_left length ((mapM_eq_ok.mp h).imp ?_)
    exact fun p v decoded => conforms_textCell (mapError_eq_ok.mp decoded)
  · cases h

theorem textRows_conform {fields : List TextRow} (h : textRows schema o fields = .ok rows) (member : row ∈ rows) :
    TextRowConforms schema o row := by
  obtain ⟨p, -, decoded⟩ := exists_of_mem_mapM h member
  exact textRow_conforms decoded

theorem columnRow_conforms {b : Batch} {i : Nat} {bs : List Batch} (length : b.columns.length = schema.length)
    (member : b ∈ bs) (inside : i < b.rows) (h : columnRow schema o b i = .ok row) :
    ColumnRowConforms schema o bs row := by
  have placed := (mapM_eq_ok.mp h).imp fun _ _ decoded => follows_placed (mapError_eq_ok.mp decoded)
  refine ⟨forall₂_of_zip_left length (placed.imp ?_), b, member, i, inside, placed⟩
  exact fun _ _ => conforms_of_placed

theorem batchesRows_conform {bs : List Batch} (h : batchesRows schema o bs = .ok rows) (member : row ∈ rows) :
    ColumnRowConforms schema o bs row := by
  obtain ⟨groups, decoded, rfl⟩ := map_eq_ok.mp h
  obtain ⟨group, inside, member⟩ := List.mem_flatten.mp member
  obtain ⟨b, known, of_batch⟩ := exists_of_mem_mapM decoded inside
  rw [batchRows] at of_batch
  split at of_batch
  · rename_i length
    obtain ⟨i, here, of_row⟩ := exists_of_mem_mapM of_batch member
    exact columnRow_conforms length known (List.mem_range.mp here) of_row
  · cases of_batch

def BodyRowConforms (format : ResultFormat) (schema : Schema) (o : DecodeOptions) (body : List UInt8) (row : Row) :
    Prop :=
  match format with
  | .json => TextRowConforms schema o row
  | .arrow => ∃ bs, readStream body = .ok bs ∧ ColumnRowConforms schema o bs row

theorem columnChunk_conforms {body : List UInt8} (h : columnChunk schema o body = .ok rows) (member : row ∈ rows) :
    BodyRowConforms .arrow schema o body row := by
  obtain ⟨bs, read, decoded⟩ := bind_eq_ok.mp h
  exact ⟨bs, read, batchesRows_conform decoded member⟩

theorem chunk_conforms {format : ResultFormat} {ordinal : Nat} {body : List UInt8}
    (h : chunk format schema o ordinal body = .ok rows) (member : row ∈ rows) :
    BodyRowConforms format schema o body row := by
  have h := mapError_eq_ok.mp h
  cases format with
  | json =>
    obtain ⟨fields, -, decoded⟩ := bind_eq_ok.mp h
    exact textRows_conform decoded member
  | arrow => exact columnChunk_conforms h member

theorem inlineRows_conform {format : ResultFormat} {r : Response} (h : inlineRows format schema o r = .ok rows)
    (member : row ∈ rows) : BodyRowConforms format schema o (r.encodedRowset.getD []) row := by
  cases format with
  | json => exact textRows_conform h member
  | arrow => exact columnChunk_conforms h member

/-- Whatever is decoded, from rows of texts, from batches of any columns, from chunks and from responses: rows have
one value for each column of the schema, null or of the column's type with all of its parts. In higher precision
the numbers of exact types are exact, apart from those at places of columns of floats. -/
theorem decoded_rows_conform (schema : Schema) (o : DecodeOptions) :
    (∀ fields rows, textRows schema o fields = .ok rows → ∀ row ∈ rows, TextRowConforms schema o row) ∧
    (∀ bs rows, batchesRows schema o bs = .ok rows → ∀ row ∈ rows, ColumnRowConforms schema o bs row) ∧
    (∀ format ordinal body rows, chunk format schema o ordinal body = .ok rows →
      ∀ row ∈ rows, BodyRowConforms format schema o body row) ∧
    ∀ format r rows, inlineRows format schema o r = .ok rows →
      ∀ row ∈ rows, BodyRowConforms format schema o (r.encodedRowset.getD []) row := by
  refine ⟨?_, ?_, ?_, ?_⟩
  · exact fun _ _ h _ member => textRows_conform h member
  · exact fun _ _ h _ member => batchesRows_conform h member
  · exact fun _ _ _ _ h _ member => chunk_conforms h member
  · exact fun _ _ _ h _ member => inlineRows_conform h member

def amountsSchema : Schema :=
  [{ name := "N", kind := .fixed },
    { name := "A", kind := .array, fields := [{ name := "", kind := .fixed, scale := 2 }] }]

def exactOptions : DecodeOptions := { higherPrecision := true }

def floatBatch : Batch := ⟨1, [⟨"N", true, .float64 [some .nan]⟩]⟩

theorem decoded_rows_conform_amounts :
    textRows amountsSchema exactOptions [[some "9223372036854775808", some "[1.5,null]"], [none, none]] =
      .ok [[.bigInt 9223372036854775808, .array [.decimal 150 2, .null]], [.null, .null]] ∧
    TextRowConforms amountsSchema exactOptions [.bigInt 9223372036854775808, .array [.decimal 150 2, .null]] ∧
    batchesRows [{ name := "N", kind := .fixed }] exactOptions [floatBatch] = .ok [[.float .nan]] ∧
    ColumnRowConforms [{ name := "N", kind := .fixed }] exactOptions [floatBatch] [.float .nan] := by
  have texts : textRows amountsSchema exactOptions [[some "9223372036854775808", some "[1.5,null]"], [none, none]] =
      .ok [[.bigInt 9223372036854775808, .array [.decimal 150 2, .null]], [.null, .null]] := by rfl
  have floats : batchesRows [{ name := "N", kind := .fixed }] exactOptions [floatBatch] = .ok [[.float .nan]] := rfl
  refine ⟨texts, ?_, floats, ?_⟩
  · exact (decoded_rows_conform amountsSchema exactOptions).1 _ _ texts _ List.mem_cons_self
  · exact (decoded_rows_conform [{ name := "N", kind := .fixed }] exactOptions).2.1 _ _ floats _ List.mem_cons_self

end RowStream
