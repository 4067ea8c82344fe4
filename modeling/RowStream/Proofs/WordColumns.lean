import RowStream.Proofs.Conversion

/-! # Columns of whole numbers

A column whose type is one of whole numbers is converted exactly if every value has a place in it, and then
holds the narrowed numbers. A batch is refused, with a complaint about decoding, if one column is. -/
namespace RowStream.Columnar
open RowStream.Decode

variable {w : WordType} {options : BatchOptions} {o : DecodeOptions} {schema : Schema} {t : ColumnType} {b : Batch}

/-- The number that a place holds for a value; a null has none. -/
inductive Stored (w : WordType) : Value → Option Int → Prop
  | null : Stored w .null none
  | number {v n} (filled : v.isNull = false) (narrowed : narrowWord? w v = some n) : Stored w v (some n)

theorem stored_iff {v : Value} {n : Option Int} :
    Stored w v n ↔ if v.isNull then n = none else ∃ k, narrowWord? w v = some k ∧ n = some k := by
  constructor
  · rintro (_ | ⟨filled, narrowed⟩)
    · rfl
    · rw [if_neg (by simp [filled])]
      exact ⟨_, narrowed, rfl⟩
  · cases null : v.isNull with
    | true =>
      rintro rfl
      obtain rfl : v = .null := by cases v <;> simp_all [Value.isNull]
      exact .null
    | false =>
      rintro ⟨k, narrowed, rfl⟩
      exact .number null narrowed

theorem places_word_eq_ok {vs : List Value} {ns : List (Option Int)} :
    places (.word w) (narrowWord? w) vs = .ok ns ↔ List.Forall₂ (Stored w) vs ns := by
  rw [places, mapM_eq_ok]
  refine forall₂_iff_of_iff fun v n => ?_
  rw [stored_iff]
  split
  · simp [eq_comm]
  · cases narrowWord? w v <;> simp [eq_comm]

theorem build_word_eq_ok (checked : checkWord w = .ok ()) {vs : List Value} {c : Column} :
    build (.word w) vs = .ok c ↔ ∃ ns, List.Forall₂ (Stored w) vs ns ∧ c = .word w (ns.map Slot.ofOption) := by
  rw [build]
  refine bind_eq_ok.trans (exists_congr fun ns => and_congr places_word_eq_ok ?_)
  rw [checked]
  simp [bind, Except.bind, eq_comm]

theorem convertColumn_word_eq_ok (target : targetType options t = .word w) (checked : checkWord w = .ok ()) {rows : Nat}
    {c : Column} {column : Field Column} :
    convertColumn options o rows t c = .ok column ↔
      ∃ vs ns, List.Forall₂ (fun row v => value (exactly o) t (⟨c, row⟩ : ColumnCursor) = .ok v) (List.range rows) vs ∧
        List.Forall₂ (Stored w) vs ns ∧ column = ⟨t.name, t.nullable, .word w (ns.map Slot.ofOption)⟩ := by
  rw [convertColumn_eq_ok, target]
  refine exists_congr fun vs => ?_
  simp only [buildField_eq_ok, build_word_eq_ok checked]
  constructor
  · rintro ⟨decoded, c, ⟨ns, stored, rfl⟩, rfl⟩
    exact ⟨ns, decoded, stored, rfl⟩
  · rintro ⟨ns, decoded, stored, rfl⟩
    exact ⟨decoded, _, ⟨ns, stored, rfl⟩, rfl⟩

theorem kind_inColumn (name : String) (e : Error) : (inColumn name e).kind = .decode := rfl

/-- Whatever stops a conversion is a fault of the data. -/
theorem kind_of_convert_error {e : Error} (h : convert options o schema b = .error e) : e.kind = .decode := by
  rw [convert] at h
  split at h
  · rcases bind_eq_error.mp h with failed | ⟨columns, _, failed⟩
    · obtain ⟨p, _, complaint⟩ := exists_of_mapM_error failed
      cases converted : convertColumn options o b.rows p.2 p.1.content with
      | error e' =>
        rw [converted] at complaint
        cases complaint
        exact kind_inColumn _ _
      | ok column =>
        rw [converted] at complaint
        cases complaint
    · split at failed <;> cases failed
      rfl
  · cases h
    rfl

section
variable (counted : b.columns.length = schema.length) {j : Nat} {source : Field Column}
  (declared : schema[j]? = some t) (given : b.columns[j]? = some source)
include counted declared given

theorem column_of_convert {r : Batch} (h : convert options o schema b = .ok r) :
    ∃ column, r.columns[j]? = some column ∧ convertColumn options o b.rows t source.content = .ok column := by
  obtain ⟨_, converted, _⟩ := (convert_eq_ok counted).mp h
  have paired : (b.columns.zip schema)[j]? = some (source, t) := List.getElem?_zip_eq_some.mpr ⟨given, declared⟩
  exact get_of_forall₂ converted paired

theorem convert_isError (refused : ∀ column, convertColumn options o b.rows t source.content ≠ .ok column) :
    ∃ e, convert options o schema b = .error e ∧ e.kind = .decode := by
  cases h : convert options o schema b with
  | error e => exact ⟨e, rfl, kind_of_convert_error h⟩
  | ok r =>
    obtain ⟨column, _, converted⟩ := column_of_convert counted declared given h
    exact absurd converted (refused column)

end

/-- A column of a batch is converted exactly if its cells have numbers, and then holds these; if they have
none, the batch is refused with a complaint about decoding. -/
structure ConvertsTo (options : BatchOptions) (o : DecodeOptions) (schema : Schema) (b : Batch) (j : Nat)
    (t : ColumnType) (c : Column) (w : WordType) (numbers : List (Option Int) → Prop) : Prop where
  column : ∀ column, convertColumn options o b.rows t c = .ok column ↔
    ∃ ns, numbers ns ∧ column = ⟨t.name, t.nullable, .word w (ns.map Slot.ofOption)⟩
  stored : ∀ r, convert options o schema b = .ok r →
    ∃ ns, numbers ns ∧ r.columns[j]? = some ⟨t.name, t.nullable, .word w (ns.map Slot.ofOption)⟩
  refused : (¬∃ ns, numbers ns) → ∃ e, convert options o schema b = .error e ∧ e.kind = .decode

/-- Cell by cell: `holds` says what number a cell has, and it is the one of its value. -/
theorem convertsTo_of_cells {α : Type} {holds : α → Option Int → Prop} {cells : List α}
    (counted : b.columns.length = schema.length) {j : Nat} {source : Field Column}
    (declared : schema[j]? = some t) (given : b.columns[j]? = some source)
    (target : targetType options t = .word w) (checked : checkWord w = .ok ()) (length : cells.length = b.rows)
    (cell : ∀ (row : Nat) a, cells[row]? = some a → ∀ n,
      (∃ v, value (exactly o) t (⟨source.content, row⟩ : ColumnCursor) = .ok v ∧ Stored w v n) ↔ holds a n) :
    ConvertsTo options o schema b j t source.content w (List.Forall₂ holds cells) := by
  have column : ∀ column, convertColumn options o b.rows t source.content = .ok column ↔
      ∃ ns, List.Forall₂ holds cells ns ∧ column = ⟨t.name, t.nullable, .word w (ns.map Slot.ofOption)⟩ := by
    intro column
    have composed : ∀ ns, (∃ vs,
        List.Forall₂ (fun row v => value (exactly o) t (⟨source.content, row⟩ : ColumnCursor) = .ok v)
          (List.range b.rows) vs ∧ List.Forall₂ (Stored w) vs ns) ↔ List.Forall₂ holds cells ns := by
      intro ns
      refine exists_forall₂_comp (forall₂_of_get (by simpa using length) ?_)
      intro i row a there here
      obtain rfl : i = row := by simpa using (List.getElem?_eq_some_iff.mp there).2
      exact cell i a here
    rw [convertColumn_word_eq_ok target checked, exists_comm]
    simp only [← composed, ← and_assoc, exists_and_right]
  refine ⟨column, ?_, ?_⟩
  · intro r h
    obtain ⟨found, here, converted⟩ := column_of_convert counted declared given h
    obtain ⟨ns, held, rfl⟩ := (column found).mp converted
    exact ⟨ns, held, here⟩
  · intro none
    refine convert_isError counted declared given ?_
    intro found converted
    obtain ⟨ns, held, _⟩ := (column found).mp converted
    exact none ⟨ns, held⟩

end RowStream.Columnar
