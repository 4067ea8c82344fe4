import RowStream.Proofs.ColumnForms
import RowStream.Proofs.DocumentReading
import RowStream.Decode.TextRows

/-! # Format independence

Rows that arrive as texts and the same rows that arrive as columns are decoded to the same values. The one
exception are documents with an object that begins with the name of numbers. -/
namespace RowStream
open RowStream.Decode RowStream.Json RowStream.Columnar

namespace Logical

def row? (o : DecodeOptions) (schema : Schema) (row : List Logical) : Option Row :=
  (schema.zip row).mapM fun p => p.2.value? o p.1

def rows? (o : DecodeOptions) (schema : Schema) (rows : List (List Logical)) : Option (List Row) :=
  rows.mapM (row? o schema)

end Logical

inductive CellText (t : ColumnType) : Logical → Option String → Prop
  | null : CellText t .null none
  | scalar {l s} (text : ScalarText t l s) : CellText t l (some s)
  | document {l j s} (structured : t.isStructured = true) (spelled : Spells t l j) (fits : j.Fits maxDepth)
      (written : Source.read? s.toList = some (Source.ofJson j)) : CellText t l (some s)

def MistakenText (t : ColumnType) (field : Option String) : Prop :=
  t.isStructured = true ∧ ∃ s source, field = some s ∧ Source.read? s.toList = some source ∧ source.Mistaken

inductive RowText : Schema → List Logical → TextRow → Prop
  | nil : RowText [] [] []
  | cons {t ts l ls f fs} (text : CellText t l f) (rest : RowText ts ls fs) : RowText (t :: ts) (l :: ls) (f :: fs)

def MistakenRow (schema : Schema) (fields : TextRow) : Prop := ∃ p ∈ fields.zip schema, MistakenText p.2 p.1

variable {t : ColumnType} {o : DecodeOptions} {schema : Schema}

namespace CellText
variable {l : Logical} {f : Option String}

/-- The compact text of a document is one of the texts of its cell. -/
theorem rendered {j : Json} (structured : t.isStructured = true) (spelled : Spells t l j) (fits : j.Fits maxDepth)
    (literal : j.Literal) : CellText t l (some j.render) := by
  refine .document structured spelled fits ?_
  rw [Json.render, String.toList_ofList]
  exact read?_renderChars literal

theorem toOption_textCell (h : CellText t l f) (regular : t.Everywhere ColumnType.Regular) (sound : ¬MistakenText t f) :
    (textCell t o f).toOption = l.value? o t := by
  cases h with
  | null =>
    rw [Logical.value?]
    rfl
  | @scalar l s text =>
    have plain := text.isStructured
    simp only [textCell, plain]
    exact text.toOption_text regular.here o
  | @document l j s structured spelled fits written =>
    have read : Json.read? s = some j := by
      rw [Json.read?, written]
      exact spelled.read regular fits fun bad => sound ⟨structured, s, _, rfl, written, bad⟩
    simp only [textCell, structured, if_true, Decode.document, read]
    exact toOption_value (spelled.carries regular)

theorem textCell_isError (h : CellText t l f) (regular : t.Everywhere ColumnType.Regular) (bad : MistakenText t f) :
    ∃ e, textCell t o f = .error e := by
  obtain ⟨structured, s, source, rfl, read, bad⟩ := bad
  cases h with
  | scalar text =>
    rw [text.isStructured] at structured
    cases structured
  | @document l j s _ spelled fits written =>
    obtain rfl : source = Source.ofJson j := Option.some.inj (read.symm.trans written)
    simp only [textCell, structured, if_true, Decode.document, Json.read?, written, Option.bind_some]
    cases found : ofSource? maxDepth (Source.ofJson j) with
    | none => exact ⟨_, rfl⟩
    | some j' => exact spelled.mistaken regular bad found

end CellText

namespace RowText
variable {row : List Logical} {fields : TextRow}

theorem length_eq (h : RowText schema row fields) : fields.length = schema.length := by
  induction h with
  | nil => rfl
  | cons _ _ ih => rw [List.length_cons, List.length_cons, ih]

theorem toOption_textRow (h : RowText schema row fields) (regular : ∀ t ∈ schema, t.Everywhere ColumnType.Regular)
    (sound : ¬MistakenRow schema fields) (index : Nat) :
    (textRow schema o index fields).toOption = Logical.row? o schema row := by
  rw [textRow, if_pos h.length_eq, Logical.row?]
  apply toOption_mapM
  induction h with
  | nil => exact .nil
  | @cons t ts l ls f fs text rest ih =>
    have later : ¬MistakenRow ts fs := fun ⟨p, member, bad⟩ => sound ⟨p, List.mem_cons_of_mem _ member, bad⟩
    refine .cons ?_ (ih (fun u member => regular u (List.mem_cons_of_mem t member)) later)
    rw [toOption_mapError]
    exact text.toOption_textCell (regular t List.mem_cons_self) fun bad => sound ⟨(f, t), List.mem_cons_self, bad⟩

theorem textRow_isError (h : RowText schema row fields) (regular : ∀ t ∈ schema, t.Everywhere ColumnType.Regular)
    (bad : MistakenRow schema fields) (index : Nat) : ∃ e, textRow schema o index fields = .error e := by
  obtain ⟨p, member, e, refused⟩ : ∃ p ∈ fields.zip schema, ∃ e, textCell p.2 o p.1 = .error e := by
    induction h with
    | nil =>
      obtain ⟨p, member, -⟩ := bad
      cases member
    | @cons t ts l ls f fs text rest ih =>
      obtain ⟨p, member, bad⟩ := bad
      rcases List.mem_cons.mp member with rfl | later
      · exact ⟨(f, t), List.mem_cons_self, text.textCell_isError (regular t List.mem_cons_self) bad⟩
      · obtain ⟨q, found, refused⟩ := ih (fun u member => regular u (List.mem_cons_of_mem t member)) ⟨p, later, bad⟩
        exact ⟨q, List.mem_cons_of_mem _ found, refused⟩
  have complaint : Result.mapError (inCell p.2.name index) (textCell p.2 o p.1) = .error (inCell p.2.name index e) := by
    rw [refused, Result.mapError]
  rw [textRow, if_pos h.length_eq]
  exact mapM_isError member complaint

end RowText

def Mistaken (schema : Schema) (texts : List TextRow) : Prop := ∃ fields ∈ texts, MistakenRow schema fields

section
variable {rows : List (List Logical)} {texts : List TextRow} (h : List.Forall₂ (RowText schema) rows texts)
  (regular : ∀ t ∈ schema, t.Everywhere ColumnType.Regular)
include h regular

theorem toOption_textRows (sound : ¬Mistaken schema texts) :
    (textRows schema o texts).toOption = Logical.rows? o schema rows := by
  refine toOption_mapM (forall₂_of_get (by simp [h.length_eq]) ?_)
  rintro i ⟨fields, index⟩ row here there
  rw [List.getElem?_zipIdx, Option.map_eq_some_iff] at here
  obtain ⟨fields', place, same⟩ := here
  obtain ⟨rfl, rfl⟩ := Prod.mk.inj same
  obtain ⟨fields'', place', written⟩ := get_of_forall₂ h there
  obtain rfl : fields' = fields'' := Option.some.inj (place.symm.trans place')
  exact written.toOption_textRow regular (fun bad => sound ⟨fields', List.mem_of_getElem? place, bad⟩) _

theorem textRows_isError (bad : Mistaken schema texts) : ∃ e, textRows schema o texts = .error e := by
  obtain ⟨fields, member, bad⟩ := bad
  obtain ⟨i, row, known, place⟩ := place_of_mem h.length_eq member
  obtain ⟨fields', place', written⟩ := get_of_forall₂ h known
  obtain rfl : fields = fields' := Option.some.inj (place.symm.trans place')
  have here : texts.zipIdx[i]? = some (fields, i) := by
    rw [List.getElem?_zipIdx, place]
    simp
  obtain ⟨e, refused⟩ := written.textRow_isError regular bad i
  exact mapM_isError (List.mem_of_getElem? here) refused

end

inductive RowShown (i : Nat) : Schema → List (Columnar.Field Column) → List Logical → Prop
  | nil : RowShown i [] [] []
  | cons {t ts c cs l ls} (shown : Shows t c.content i l) (rest : RowShown i ts cs ls) :
      RowShown i (t :: ts) (c :: cs) (l :: ls)

structure BatchShows (schema : Schema) (b : Batch) (rows : List (List Logical)) : Prop where
  columns : b.columns.length = schema.length
  length : b.rows = rows.length
  shown : ∀ (i : Nat) row, rows[i]? = some row → RowShown i schema b.columns row

theorem RowShown.toOption_columnRow {b : Batch} {i : Nat} {row : List Logical} (h : RowShown i schema b.columns row)
    (regular : ∀ t ∈ schema, t.Everywhere ColumnType.Regular) :
    (columnRow schema o b i).toOption = Logical.row? o schema row := by
  rw [columnRow, Logical.row?]
  apply toOption_mapM
  generalize b.columns = columns at h ⊢
  induction h with
  | nil => exact .nil
  | @cons t ts c cs l ls shown rest ih =>
    refine .cons ?_ (ih fun u member => regular u (List.mem_cons_of_mem t member))
    rw [toOption_mapError]
    exact toOption_value (ColumnCursor.carries_of_shows shown (regular t List.mem_cons_self))

theorem BatchShows.toOption_batchRows {b : Batch} {rows : List (List Logical)} (h : BatchShows schema b rows)
    (regular : ∀ t ∈ schema, t.Everywhere ColumnType.Regular) :
    (batchRows schema o b).toOption = Logical.rows? o schema rows := by
  obtain ⟨columns, length, shown⟩ := h
  rw [batchRows, if_pos columns, length]
  refine toOption_mapM (forall₂_of_get (by simp) ?_)
  intro i i' row here there
  obtain rfl : i = i' := by
    obtain ⟨_, same⟩ := List.getElem?_eq_some_iff.mp here
    simpa using same
  exact (shown i row there).toOption_columnRow regular

theorem toOption_batchesRows {bs : List Batch} {groups : List (List (List Logical))}
    (h : List.Forall₂ (BatchShows schema) bs groups) (regular : ∀ t ∈ schema, t.Everywhere ColumnType.Regular) :
    (batchesRows schema o bs).toOption = Logical.rows? o schema groups.flatten := by
  have each : (bs.mapM (batchRows schema o)).toOption = groups.mapM (Logical.rows? o schema) := by
    refine toOption_mapM (h.imp ?_)
    exact fun b rows shown => shown.toOption_batchRows regular
  rw [batchesRows, toOption_map, each]
  exact mapM_flatten (Logical.row? o schema) groups

def readingsType : ColumnType where
  name := "READINGS"
  kind := .map
  fields := [{ name := "key", kind := .text }, { name := "value", kind := .fixed, scale := 2 }]

/-- A time just before the epoch, and a map with a single key. -/
def readingSchema : Schema := [{ name := "AT", kind := .timestampNtz, scale := 3 }, readingsType]

def readingRow (key : String) : List Logical := [.scaled (-1), .map [(.text key, .fixed 150)]]

def readingDocument (key : String) : Json := .object [(key, .number (Number.Decimal.render 150 2))]

def readingText (key : String) : TextRow :=
  [some (Number.Decimal.render (-1) 3), some (readingDocument key).render]

def readingBatch (key : String) : Batch where
  rows := 1
  columns :=
    [⟨"AT", true, .struct [true]
        [⟨"epoch", false, .word .int64 [⟨true, -1⟩]⟩, ⟨"fraction", false, .word .int32 [⟨true, 999000000⟩]⟩]⟩,
      ⟨"READINGS", true, .map {} [true] [0, 1]
        ⟨"key", false, .utf8 false [some key]⟩ ⟨"value", true, .word .int16 [⟨true, 150⟩]⟩⟩]

theorem regular_reading : ∀ t ∈ readingSchema, t.Everywhere ColumnType.Regular := by
  have leaf : ∀ t : ColumnType, t.Regular → t.fields = [] → t.Everywhere ColumnType.Regular := by
    intro t regular none
    exact .intro regular (by rw [none]; exact fun _ member => nomatch member)
  intro t member
  simp only [readingSchema, List.mem_cons, List.not_mem_nil, or_false] at member
  rcases member with rfl | rfl
  · exact leaf _ ⟨by decide, by decide, by decide⟩ rfl
  · refine .intro ⟨by decide, by decide, by decide⟩ ?_
    intro u member
    simp only [readingsType, List.mem_cons, List.not_mem_nil, or_false] at member
    rcases member with rfl | rfl <;> exact leaf _ ⟨by decide, by decide, by decide⟩ rfl

theorem literal_reading (key : String) : (readingDocument key).Literal := by
  refine .object ?_
  intro m member
  obtain rfl := List.mem_singleton.mp member
  refine .number ?_
  rw [Number.Decimal.render, String.toList_ofList]
  exact Source.isNumber_renderChars 150 2

theorem mistaken_reading {key : String} : (Source.ofJson (readingDocument key)).Mistaken ↔ key = numberName := by
  constructor
  · intro bad
    rcases Source.mistaken_object bad with first | ⟨m, member, inside⟩
    · exact beq_iff_eq.mp first
    · obtain rfl := List.mem_singleton.mp member
      cases inside
  · rintro rfl
    exact .here rfl

theorem cellText_reading (key : String) :
    CellText readingsType (.map [(.text key, .fixed 150)]) (some (readingDocument key).render) := by
  refine .rendered rfl (.map rfl rfl (by simp) ?_ ?_) (.object ?_) (literal_reading key)
  · intro k e m entry member
    match k with
    | 0 =>
      cases entry
      cases member
      exact .text (by decide) rfl key
    | k + 1 => cases entry
  · intro k e m entry member
    match k with
    | 0 =>
      cases entry
      cases member
      exact .number (.fixed rfl 150)
    | k + 1 => cases entry
  · intro m member
    obtain rfl := List.mem_singleton.mp member
    exact .number _

theorem rowText_reading (key : String) : RowText readingSchema (readingRow key) (readingText key) :=
  .cons (.scalar (.scaled (by decide) (-1))) (.cons (cellText_reading key) .nil)

theorem batchShows_reading (key : String) : BatchShows readingSchema (readingBatch key) [readingRow key] := by
  refine ⟨rfl, rfl, ?_⟩
  intro i row here
  match i with
  | 0 =>
    cases here
    refine .cons ?_ (.cons ?_ .nil)
    · exact .parts (by decide) rfl rfl rfl (by decide) rfl rfl (by decide) rfl
    · refine .map rfl rfl rfl ?_ ?_
      · intro j place e part entry
        match j with
        | 0 =>
          cases part
          cases entry
          exact .text (by decide) rfl rfl
        | j + 1 => cases entry
      · intro j place e part entry
        match j with
        | 0 =>
          cases part
          cases entry
          exact .integer rfl (by decide) rfl
        | j + 1 => cases entry
  | i + 1 => cases here

theorem mistaken_readingText {key : String} : Mistaken readingSchema [readingText key] ↔ key = numberName := by
  have written : Source.read? (readingDocument key).render.toList = some (Source.ofJson (readingDocument key)) := by
    rw [Json.render, String.toList_ofList]
    exact read?_renderChars (literal_reading key)
  rw [← mistaken_reading]
  constructor
  · rintro ⟨fields, member, ⟨f, t⟩, place, structured, s, source, rfl, read, bad⟩
    obtain rfl := List.mem_singleton.mp member
    rcases List.mem_cons.mp place with same | place
    · cases same
      cases structured
    · cases List.mem_singleton.mp place
      rwa [Option.some.inj (written.symm.trans read)]
  · intro bad
    exact ⟨_, List.mem_singleton.mpr rfl, _, List.mem_cons_of_mem _ List.mem_cons_self, rfl, _, _, rfl, written, bad⟩

/-- Texts and columns of the same rows come to the same, which is what the rows stand for, as long as no
document is mistaken. Texts with a mistaken document are refused. -/
theorem formats_agree {groups : List (List (List Logical))} {texts : List TextRow} {bs : List Batch}
    (regular : ∀ t ∈ schema, t.Everywhere ColumnType.Regular)
    (written : List.Forall₂ (RowText schema) groups.flatten texts)
    (shown : List.Forall₂ (BatchShows schema) bs groups) :
    (batchesRows schema o bs).toOption = Logical.rows? o schema groups.flatten ∧
      (¬Mistaken schema texts → (textRows schema o texts).toOption = (batchesRows schema o bs).toOption) ∧
      (Mistaken schema texts → (textRows schema o texts).toOption = none) := by
  have columns := toOption_batchesRows (o := o) shown regular
  refine ⟨columns, ?_, ?_⟩
  · intro sound
    rw [columns, toOption_textRows written regular sound]
  · intro bad
    rw [toOption_eq_none]
    exact textRows_isError written regular bad

theorem formats_agree_reading :
    (textRows readingSchema {} [readingText "size"]).toOption =
        (batchesRows readingSchema {} [readingBatch "size"]).toOption ∧
      (textRows readingSchema {} [readingText numberName]).toOption = none ∧
      (batchesRows readingSchema {} [readingBatch numberName]).toOption =
        Logical.rows? {} readingSchema [readingRow numberName] := by
  have row : ∀ key, List.Forall₂ (RowText readingSchema) [[readingRow key]].flatten [readingText key] :=
    fun key => .cons (rowText_reading key) .nil
  have batch : ∀ key, List.Forall₂ (BatchShows readingSchema) [readingBatch key] [[readingRow key]] :=
    fun key => .cons (batchShows_reading key) .nil
  obtain ⟨-, same, -⟩ := formats_agree (o := {}) regular_reading (row "size") (batch "size")
  obtain ⟨columns, -, refused⟩ := formats_agree (o := {}) regular_reading (row numberName) (batch numberName)
  exact ⟨same (by rw [mistaken_readingText]; decide), refused (mistaken_readingText.mpr rfl), columns⟩

end RowStream
