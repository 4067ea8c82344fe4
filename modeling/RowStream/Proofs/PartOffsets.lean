import Mathlib.Tactic.Ring
import RowStream.Proofs.Narrowing

/-! # Offsets of parts

The parts of every row, laid out one row after the other, are found again by the offsets. -/
namespace RowStream.Columnar

theorem length_offsetsFrom (start : Nat) (counts : List Nat) :
    (offsetsFrom start counts).length = counts.length + 1 := by
  induction counts generalizing start with
  | nil => rfl
  | cons n ns ih => rw [offsetsFrom, List.length_cons, ih, List.length_cons]

theorem getElem?_offsetsFrom (start : Nat) {counts : List Nat} {k : Nat} (h : k ≤ counts.length) :
    (offsetsFrom start counts)[k]? = some (start + (counts.take k).sum) := by
  induction counts generalizing start k with
  | nil =>
    obtain rfl : k = 0 := Nat.le_zero.mp h
    rfl
  | cons n ns ih =>
    cases k with
    | zero => rfl
    | succ k =>
      rw [offsetsFrom, List.getElem?_cons_succ, ih (start + n) (Nat.le_of_succ_le_succ h), List.take_succ_cons,
        List.sum_cons, Nat.add_assoc]

theorem le_of_mem_offsetsFrom {start offset : Nat} {counts : List Nat} (h : offset ∈ offsetsFrom start counts) :
    start ≤ offset := by
  induction counts generalizing start with
  | nil =>
    rw [offsetsFrom, List.mem_singleton] at h
    exact Nat.le_of_eq h.symm
  | cons n ns ih =>
    rcases List.mem_cons.mp h with rfl | later
    · exact Nat.le_refl _
    · exact Nat.le_trans (Nat.le_add_right _ _) (ih later)

theorem pairwise_offsetsFrom (start : Nat) (counts : List Nat) : (offsetsFrom start counts).Pairwise (· ≤ ·) := by
  induction counts generalizing start with
  | nil => exact List.pairwise_singleton _ _
  | cons n ns ih =>
    refine List.pairwise_cons.mpr ⟨?_, ih (start + n)⟩
    intro offset later
    exact Nat.le_trans (Nat.le_add_right _ _) (le_of_mem_offsetsFrom later)

theorem offsets_offsetsFrom {α : Type} (rows : List (List α)) :
    Offsets (offsetsFrom 0 (rows.map List.length)) rows.length rows.flatten.length := by
  refine ⟨?_, ?_, ?_, pairwise_offsetsFrom _ _⟩
  · rw [length_offsetsFrom, List.length_map]
  · rw [getElem?_offsetsFrom 0 (Nat.zero_le _)]
    rfl
  · rw [getElem?_offsetsFrom 0 (by simp), Nat.zero_add, ← List.map_take, List.take_length,
      List.length_flatten]

/-- The places between two offsets are those of the parts that were put there. -/
theorem partsOf_flatten {α : Type} {rows : List (List α)} {k : Nat} {parts : List α} (h : rows[k]? = some parts) :
    (Column.partsOf (offsetsFrom 0 (rows.map List.length)) k).map (rows.flatten[·]?) = parts.map some := by
  obtain ⟨inside, rfl⟩ := List.getElem?_eq_some_iff.mp h
  have lower := getElem?_offsetsFrom 0 (@Nat.le_of_lt k (rows.map List.length).length (by simpa using inside))
  have upper := getElem?_offsetsFrom 0 (@Nat.succ_le_of_lt k (rows.map List.length).length (by simpa using inside))
  have before : ((rows.map List.length).take k).sum = (rows.take k).flatten.length := by
    rw [← List.map_take, List.length_flatten]
  have step : ((rows.map List.length).take (k + 1)).sum = (rows.take k).flatten.length + rows[k].length := by
    rw [List.take_add_one, List.sum_append, before]
    simp [List.getElem?_eq_getElem inside]
  have split : rows.flatten = (rows.take k).flatten ++ (rows[k] ++ (rows.drop (k + 1)).flatten) := by
    conv_lhs => rw [← List.take_append_drop k rows, List.drop_eq_getElem_cons inside]
    rw [List.flatten_append, List.flatten_cons]
  simp only [Nat.succ_eq_add_one] at upper
  rw [Nat.zero_add, before] at lower
  rw [Nat.zero_add, step] at upper
  simp only [Column.partsOf, List.getD_eq_getElem?_getD, lower, upper, Option.getD_some, Nat.add_sub_cancel_left]
  refine List.ext_getElem (by simp) ?_
  intro i hi hp
  simp only [List.length_map] at hp
  rw [List.getElem_map, List.getElem_range', List.getElem_map, split]
  rw [List.getElem?_append_right (by omega), List.getElem?_append_left (by omega)]
  simp [List.getElem?_eq_getElem hp]

/-- What is known of all parts is known of those of one place. -/
theorem mapM_parts {α β : Type} {f : α → Option β} {g : Nat → β} {flat : List α} {places : List Nat} {parts : List α}
    (h : places.map (flat[·]?) = parts.map some) (known : ∀ (k : Nat) x, flat[k]? = some x → f x = some (g k)) :
    parts.mapM f = some (places.map g) := by
  rw [mapM_eq_some, List.forall₂_map_right_iff]
  induction places generalizing parts with
  | nil =>
    obtain rfl : parts = [] := by simpa using h.symm
    exact .nil
  | cons k ks ih =>
    cases parts with
    | nil => simp at h
    | cons x xs =>
      simp only [List.map_cons, List.cons.injEq] at h
      exact .cons (known k x h.1) (ih h.2)

end RowStream.Columnar
