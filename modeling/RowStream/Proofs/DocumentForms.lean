import RowStream.Proofs.Carrying
import RowStream.Proofs.RenderedDocuments
import RowStream.Proofs.ScalarTexts
import RowStream.Decode.Document

/-! # Documents that spell logical values

A structured cell arrives as a document. An object that begins with the name of numbers is mistaken for a
number, whatever it spells; all other documents are decoded to what they spell. -/
namespace RowStream
open RowStream.Decode RowStream.Json

namespace Json.Source
open RowStream.Text RowStream.Number RowStream.Number.Decimal

theorem NumberPhase.completed_append {p : NumberPhase} (loop : ∀ c, isDigit c = true → p.step c = some (p, [c]))
    {cs tail : List Char} (digits : allDigits cs = true) (rest : p.Completed tail) : p.Completed (cs ++ tail) := by
  induction cs with
  | nil => exact rest
  | cons c cs ih =>
    rw [allDigits, List.all_cons, Bool.and_eq_true] at digits
    exact .cons (loop c digits.1) (ih digits.2)

theorem NumberPhase.completed_point {cs : List Char} (digits : allDigits cs = true) (some_digit : cs ≠ []) :
    NumberPhase.point.Completed cs := by
  have loop : ∀ c, isDigit c = true → NumberPhase.fraction.step c = some (.fraction, [c]) :=
    fun c digit => if_pos digit
  cases cs with
  | nil => exact absurd rfl some_digit
  | cons c cs =>
    rw [allDigits, List.all_cons, Bool.and_eq_true] at digits
    have rest := completed_append loop digits.2 (.nil rfl)
    rw [List.append_nil] at rest
    exact .cons (if_pos digits.1) rest

/-- Decimal texts are numbers of documents. -/
theorem isNumber_renderChars (n : Int) (scale : Nat) : IsNumber (Decimal.renderChars n scale) := by
  have magnitude : NumberPhase.minus.Completed (placePoint n.natAbs scale) := by
    obtain ⟨whole, fraction, placed⟩ := exists_placed n.natAbs scale
    have tail : ∀ p : NumberPhase, p.complete = true → p.step '.' = some (.point, ['.']) →
        p.Completed (if scale = 0 then [] else '.' :: fraction) := by
      intro p complete point
      split
      · exact .nil complete
      · rename_i scaled
        refine .cons point (NumberPhase.completed_point placed.fraction_digits ?_)
        rintro rfl
        exact scaled placed.length.symm
    have text : placePoint n.natAbs scale = whole ++ if scale = 0 then [] else '.' :: fraction := by
      rw [placed.text]
      split
      · rw [List.append_nil]
      · rfl
    rw [text]
    rcases placed.leading with rfl | leading
    · exact .cons rfl (tail .zero rfl rfl)
    obtain ⟨d, rest, rfl⟩ := List.exists_cons_of_ne_nil placed.whole_ne
    have digits := placed.whole_digits
    rw [allDigits, List.all_cons, Bool.and_eq_true] at digits
    have nonzero : d ≠ '0' := by
      rintro rfl
      exact leading rfl
    have first : NumberPhase.minus.step d = some (.whole, [d]) := by
      rw [NumberPhase.step]
      exact (if_neg nonzero).trans (if_pos digits.1)
    have loop : ∀ c, isDigit c = true → NumberPhase.whole.step c = some (.whole, [c]) := fun c digit => if_pos digit
    exact .cons first (NumberPhase.completed_append loop digits.2 (tail .whole rfl rfl))
  rw [Decimal.renderChars]
  split
  · exact .minus magnitude
  · exact .unsigned magnitude

end Json.Source

/-- The documents of a cell. An object has a member for each of its fields, in any order, and no other. -/
inductive Spells : ColumnType → Logical → Json → Prop
  | null {t} : Spells t .null .null
  | string {t l s} (text : ScalarText t l s) : Spells t l (.string s)
  | number {t l s} (text : ScalarText t l s) : Spells t l (.number s)
  | bool {t b} (kind : t.kind = .boolean) : Spells t (.bool b) (.bool b)
  | object {t ls js members} (kind : t.kind = .object) (structured : t.isStructured = true)
      (filled : ls.length = t.fields.length) (length : js.length = t.fields.length)
      (order : members.Perm ((t.fields.map (·.name)).zip js))
      (inside : ∀ (k : Nat) u l j, t.fields[k]? = some u → ls[k]? = some l → js[k]? = some j → Spells u l j) :
      Spells t (.object ls) (.object members)
  | array {t ls js} (kind : t.kind = .array) (structured : t.isStructured = true) (length : ls.length = js.length)
      (inside : ∀ (k : Nat) l j, ls[k]? = some l → js[k]? = some j → Spells (t.part 0) l j) :
      Spells t (.array ls) (.array js)
  | map {t ls} {members : List (String × Json)} (kind : t.kind = .map) (length : ls.length = members.length)
      (distinct : (members.map (·.1)).Nodup)
      (keys : ∀ (k : Nat) e m, ls[k]? = some e → members[k]? = some m → ScalarText (t.part 0) e.1 m.1)
      (values : ∀ (k : Nat) e m, ls[k]? = some e → members[k]? = some m → Spells (t.part 1) e.2 m.2) :
      Spells t (.map ls) (.object members)

namespace JsonCursor
variable {t : ColumnType} {l : Logical} {j : Json} {o : DecodeOptions} {members : List (String × Json)}

/-- A name that only one member has is found, wherever that member stands. -/
theorem memberOf_eq (distinct : (members.map (·.1)).Nodup) {m : String × Json} (member : m ∈ members) :
    memberOf members m.1 = some m.2 := by
  rw [memberOf, Json.member?, find?_name distinct member]
  rfl

theorem leaf_key {s : String} (text : ScalarText t l s) (regular : t.Regular) : Carries o t (key s) l :=
  .leaf rfl text.isStructured (text.toOption_text regular o)

end JsonCursor

namespace Spells
variable {t : ColumnType} {l : Logical} {j : Json} {o : DecodeOptions} {members : List (String × Json)}
  {ls : List Logical} {js : List Json}

section
variable (order : members.Perm ((t.fields.map (·.name)).zip js))
include order

theorem distinct_of_order (length : js.length = t.fields.length) (distinct : (t.fields.map (·.name)).Nodup) :
    (members.map (·.1)).Nodup := by
  have same := order.map (·.1)
  rw [List.map_fst_zip (by rw [List.length_map, length])] at same
  exact same.nodup_iff.mpr distinct

theorem mem_of_order {k : Nat} {u : ColumnType} (declared : t.fields[k]? = some u) (here : js[k]? = some j) :
    (u.name, j) ∈ members := by
  rw [order.mem_iff, List.mem_iff_getElem?]
  refine ⟨k, List.getElem?_zip_eq_some.mpr ⟨?_, here⟩⟩
  rw [List.getElem?_map, declared, Option.map_some]

theorem place_of_order (filled : ls.length = t.fields.length) {m : String × Json} (member : m ∈ members) :
    ∃ (k : Nat) (u : ColumnType) (l : Logical),
      t.fields[k]? = some u ∧ u.name = m.1 ∧ ls[k]? = some l ∧ js[k]? = some m.2 := by
  rw [order.mem_iff, List.mem_iff_getElem?] at member
  obtain ⟨k, here⟩ := member
  obtain ⟨name, here⟩ := List.getElem?_zip_eq_some.mp here
  rw [List.getElem?_map, Option.map_eq_some_iff] at name
  obtain ⟨u, declared, name⟩ := name
  obtain ⟨inside, -⟩ := List.getElem?_eq_some_iff.mp declared
  rw [← filled] at inside
  exact ⟨k, u, ls[k], declared, name, List.getElem?_eq_getElem inside, here⟩

end

/-- What a document spells is what its positions carry. -/
theorem carries (h : Spells t l j) (regular : t.Everywhere ColumnType.Regular) : Carries o t (JsonCursor.node j) l := by
  induction h with
  | null => exact .null rfl
  | string text => exact .leaf rfl text.isStructured (text.toOption_text regular.here o)
  | number text => exact .leaf rfl text.isStructured (text.toOption_text regular.here o)
  | @bool t b kind =>
    have text := ScalarText.word kind b
    exact .leaf rfl text.isStructured (text.toOption_text regular.here o)
  | @object t ls js members kind structured filled length order _ ih =>
    have distinct := distinct_of_order order length (regular.here.names kind)
    refine @Carries.object _ _ _ _ _ _ (fun k => JsonCursor.node (js.getD k .null)) rfl structured kind filled ?_ ?_
    · intro k u declared
      have inside : k < js.length := by
        rw [length]
        exact (List.getElem?_eq_some_iff.mp declared).1
      have here := getElem?_getD inside .null
      show Except.ok (((JsonCursor.memberOf members u.name).map JsonCursor.node).getD .missing) = _
      rw [JsonCursor.memberOf_eq distinct (mem_of_order order declared here)]
      rfl
    · intro k u l declared here
      have inside : k < js.length := by
        rw [length]
        exact (List.getElem?_eq_some_iff.mp declared).1
      exact ih k u l (js.getD k .null) declared here (getElem?_getD inside .null)
        (regular.field (List.mem_of_getElem? declared))
  | @array t ls js kind structured length _ ih =>
    refine .array rfl structured kind rfl (by simpa using length) ?_
    intro k d l place here
    rw [List.getElem?_map, Option.map_eq_some_iff] at place
    obtain ⟨j, known, rfl⟩ := place
    exact ih k l j here known (regular.part ColumnType.regular_plainText 0)
  | @map t ls members kind length distinct keys _ ih =>
    refine .map rfl kind rfl (by simpa using length) ?_ ?_
    · intro k d e place here
      rw [List.getElem?_map, Option.map_eq_some_iff] at place
      obtain ⟨m, known, rfl⟩ := place
      exact JsonCursor.leaf_key (keys k e m here known) (regular.part ColumnType.regular_plainText 0).here
    · intro k d e place here
      rw [List.getElem?_map, Option.map_eq_some_iff] at place
      obtain ⟨m, known, rfl⟩ := place
      exact ih k e m here known (regular.part ColumnType.regular_plainText 1)

end Spells
end RowStream
