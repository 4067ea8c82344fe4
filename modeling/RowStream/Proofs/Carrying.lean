import RowStream.Proofs.Logical

/-! # What positions carry

A position carries a logical value where its nulls, parts and leaves say the same as the value. The walk
over nested types gives the value that is carried, in texts and in columns alike. -/
namespace RowStream.Decode
variable {κ : Type} [Cursor κ]

inductive Carries (o : DecodeOptions) : ColumnType → κ → Logical → Prop
  | null {t c} (null : Cursor.isNull c = true) : Carries o t c .null
  | leaf {t c l} (filled : Cursor.isNull c = false) (plain : t.isStructured = false)
      (value : (Cursor.leaf c t o).toOption = l.value? o t) : Carries o t c l
  | object {t c ls} {child : Nat → κ} (filled : Cursor.isNull c = false) (structured : t.isStructured = true)
      (kind : t.kind = .object) (length : ls.length = t.fields.length)
      (found : ∀ (j : Nat) u, t.fields[j]? = some u → Cursor.field c j u = .ok (child j))
      (fields : ∀ (j : Nat) u l, t.fields[j]? = some u → ls[j]? = some l → Carries o u (child j) l) :
      Carries o t c (.object ls)
  | array {t c ls cs} (filled : Cursor.isNull c = false) (structured : t.isStructured = true)
      (kind : t.kind = .array) (elements : Cursor.elements c = .ok cs) (length : ls.length = cs.length)
      (items : ∀ (j : Nat) d l, cs[j]? = some d → ls[j]? = some l → Carries o (t.part 0) d l) :
      Carries o t c (.array ls)
  | map {t c ls cs} (filled : Cursor.isNull c = false) (kind : t.kind = .map)
      (entries : Cursor.entries c = .ok cs) (length : ls.length = cs.length)
      (keys : ∀ (j : Nat) d e, cs[j]? = some d → ls[j]? = some e → Carries o (t.part 0) d.1 e.1)
      (values : ∀ (j : Nat) d e, cs[j]? = some d → ls[j]? = some e → Carries o (t.part 1) d.2 e.2) :
      Carries o t c (.map ls)

variable {o : DecodeOptions} {t : ColumnType} {c : κ} {l : Logical}

theorem toOption_fieldValues {index : Nat} {ts : List ColumnType} {ls : List Logical} {child : Nat → κ}
    (length : ls.length = ts.length)
    (found : ∀ (j : Nat) u, ts[j]? = some u → Cursor.field c (index + j) u = .ok (child (index + j)))
    (values : ∀ (j : Nat) u l, ts[j]? = some u → ls[j]? = some l →
      (value o u (child (index + j))).toOption = l.value? o u) :
    (fieldValues o c index ts).toOption = Logical.fieldValues? o ts ls := by
  induction ts generalizing index ls with
  | nil =>
    obtain rfl : ls = [] := List.eq_nil_of_length_eq_zero length
    rfl
  | cons t ts ih =>
    obtain ⟨l, ls, rfl⟩ : ∃ l rest, ls = l :: rest := List.exists_cons_of_length_eq_add_one length
    have first := found 0 t rfl
    have here := values 0 t l rfl rfl
    have rest := @ih (index + 1) ls (Nat.succ.inj length)
      (fun j u h => by
        rw [Nat.add_assoc, Nat.add_comm 1 j]
        exact found (j + 1) u h)
      (fun j u m h k => by
        rw [Nat.add_assoc, Nat.add_comm 1 j]
        exact values (j + 1) u m h k)
    rw [Nat.add_zero] at first here
    rw [fieldValues, first, Logical.fieldValues?, ← here, ← rest]
    show ((value o t (child index)).bind _).toOption = _
    cases value o t (child index) with
    | error e => rfl
    | ok v =>
      show ((fieldValues o c (index + 1) ts).bind _).toOption = _
      cases fieldValues o c (index + 1) ts <;> rfl

/-- What is carried is decoded. -/
theorem toOption_value (h : Carries o t c l) : (value o t c).toOption = l.value? o t := by
  induction h with
  | null null =>
    rw [value_eq, null, Logical.value?]
    rfl
  | leaf filled plain value =>
    rw [value_eq, filled, plain]
    exact value
  | @object t c ls child filled structured kind length found _ ih =>
    have values : (fieldValues o c 0 t.fields).toOption = Logical.fieldValues? o t.fields ls :=
      toOption_fieldValues length (fun j u h => by rw [Nat.zero_add]; exact found j u h)
        (fun j u l h k => by rw [Nat.zero_add]; exact ih j u l h k)
    rw [value_eq, filled, structured, Logical.value?, ← values]
    simp only [kind]
    exact toOption_map _ _
  | @array t c ls cs filled structured kind elements length _ ih =>
    have items : (cs.mapM (value o (t.part 0))).toOption = ls.mapM (Logical.value? o (t.part 0)) :=
      toOption_mapM (forall₂_of_get length ih)
    rw [value_eq, filled, structured, Logical.value?, Logical.itemValues?_eq, ← items]
    simp only [kind, elements]
    show ((cs.mapM (value o (t.part 0))).bind _).toOption = _
    cases cs.mapM (value o (t.part 0)) <;> rfl
  | @map t c ls cs filled kind entries length _ _ ihKeys ihValues =>
    have structured : t.isStructured = true := by simp [ColumnType.isStructured, kind]
    have pairs : (cs.mapM (pairValue o (t.part 0) (t.part 1))).toOption =
        ls.mapM (Logical.pairValue? o (t.part 0) (t.part 1)) := by
      refine toOption_mapM (forall₂_of_get length ?_)
      intro j d e here there
      rw [pairValue, Logical.pairValue?, ← ihKeys j d e here there, ← ihValues j d e here there]
      cases value o (t.part 0) d.1 with
      | error _ => rfl
      | ok k => cases value o (t.part 1) d.2 <;> rfl
    rw [value_eq, filled, structured, Logical.value?, Logical.entryValues?_eq, ← pairs]
    simp only [kind, entries]
    show ((cs.mapM (pairValue o (t.part 0) (t.part 1))).bind _).toOption = _
    cases cs.mapM (pairValue o (t.part 0) (t.part 1)) <;> rfl

end RowStream.Decode
