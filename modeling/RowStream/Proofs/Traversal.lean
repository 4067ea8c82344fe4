import Mathlib.Data.List.Forall2
import RowStream.Error

/-! # Traversals

A traversal that can fail succeeds where every step does. -/
namespace RowStream
variable {α β γ ε : Type}

theorem mapM_eq_ok {f : α → Except ε β} {xs : List α} {ys : List β} :
    xs.mapM f = .ok ys ↔ List.Forall₂ (fun x y => f x = .ok y) xs ys := by
  induction xs generalizing ys with
  | nil =>
    rw [List.mapM_nil, List.forall₂_nil_left_iff]
    constructor
    · rintro ⟨⟩
      rfl
    · rintro rfl
      rfl
  | cons x xs ih =>
    rw [List.mapM_cons, List.forall₂_cons_left_iff]
    cases head : f x with
    | error e => simp [bind, Except.bind]
    | ok y =>
      cases tail : xs.mapM f with
      | error e =>
        have none_fits : ∀ zs, ¬List.Forall₂ (fun x y => f x = .ok y) xs zs := by
          intro zs fits
          rw [← ih, tail] at fits
          cases fits
        simp [bind, Except.bind, none_fits]
      | ok zs =>
        have fits : ∀ us, List.Forall₂ (fun x y => f x = .ok y) xs us ↔ zs = us := by
          intro us
          rw [← ih, tail, Except.ok.injEq]
        simp [bind, Except.bind, pure, Except.pure, fits, eq_comm]

theorem mapM_eq_some {f : α → Option β} {xs : List α} {ys : List β} :
    xs.mapM f = some ys ↔ List.Forall₂ (fun x y => f x = some y) xs ys := by
  induction xs generalizing ys with
  | nil =>
    rw [List.mapM_nil, List.forall₂_nil_left_iff]
    constructor
    · rintro ⟨⟩
      rfl
    · rintro rfl
      rfl
  | cons x xs ih =>
    rw [List.mapM_cons, List.forall₂_cons_left_iff]
    simp only [Option.bind_eq_bind, Option.bind_eq_some_iff, ih]
    constructor
    · rintro ⟨y, head, zs, tail, ⟨⟩⟩
      exact ⟨y, zs, head, tail, rfl⟩
    · rintro ⟨y, zs, head, tail, rfl⟩
      exact ⟨y, head, zs, tail, rfl⟩

theorem mapM_isOk {f : α → Except ε β} {xs : List α} (h : ∀ x ∈ xs, ∃ y, f x = .ok y) :
    ∃ ys, xs.mapM f = .ok ys := by
  induction xs with
  | nil => exact ⟨[], rfl⟩
  | cons x xs ih =>
    obtain ⟨y, head⟩ := h x List.mem_cons_self
    obtain ⟨ys, tail⟩ := ih fun z hz => h z (List.mem_cons_of_mem x hz)
    refine ⟨y :: ys, ?_⟩
    rw [mapM_eq_ok] at tail ⊢
    exact .cons head tail

/-- What a traversal brings to each place. -/
theorem get_of_forall₂ {r : α → β → Prop} {xs : List α} {ys : List β} (h : List.Forall₂ r xs ys) {i : Nat} {x : α}
    (found : xs[i]? = some x) : ∃ y, ys[i]? = some y ∧ r x y := by
  induction h generalizing i with
  | nil => simp at found
  | @cons a b _ _ head _ ih =>
    cases i with
    | zero =>
      obtain rfl : a = x := by simpa using found
      exact ⟨b, rfl, head⟩
    | succ i => exact ih (by simpa using found)

theorem forall₂_of_get {r : α → β → Prop} {xs : List α} {ys : List β} (same : ys.length = xs.length)
    (h : ∀ (i : Nat) x y, xs[i]? = some x → ys[i]? = some y → r x y) : List.Forall₂ r xs ys := by
  rw [List.forall₂_iff_get]
  refine ⟨same.symm, ?_⟩
  intro i hx hy
  exact h i _ _ (List.getElem?_eq_getElem hx) (List.getElem?_eq_getElem hy)

theorem forall₂_iff_of_iff {r s : α → β → Prop} (same : ∀ x y, r x y ↔ s x y) {xs : List α} {ys : List β} :
    List.Forall₂ r xs ys ↔ List.Forall₂ s xs ys :=
  ⟨fun h => h.imp fun x y => (same x y).mp, fun h => h.imp fun x y => (same x y).mpr⟩

/-- Two traversals in a row, place by place. -/
theorem exists_forall₂_comp {r : α → β → Prop} {s : β → γ → Prop} {δ : Type} {q : δ → γ → Prop} {xs : List α}
    {ds : List δ} (h : List.Forall₂ (fun x d => ∀ z, (∃ y, r x y ∧ s y z) ↔ q d z) xs ds) {zs : List γ} :
    (∃ ys, List.Forall₂ r xs ys ∧ List.Forall₂ s ys zs) ↔ List.Forall₂ q ds zs := by
  induction h generalizing zs with
  | nil =>
    constructor
    · rintro ⟨_, ⟨⟩, ⟨⟩⟩
      exact .nil
    · rintro ⟨⟩
      exact ⟨[], .nil, .nil⟩
  | @cons x d xs ds here _ ih =>
    simp only [List.forall₂_cons_left_iff]
    constructor
    · rintro ⟨_, ⟨y, ys, to_y, to_ys, rfl⟩, rest⟩
      obtain _ | ⟨to_z, to_zs⟩ := rest
      exact ⟨_, _, (here _).mp ⟨y, to_y, to_z⟩, ih.mp ⟨ys, to_ys, to_zs⟩, rfl⟩
    · rintro ⟨z, zs, first, rest, rfl⟩
      obtain ⟨y, to_y, to_z⟩ := (here z).mpr first
      obtain ⟨ys, to_ys, to_zs⟩ := ih.mpr rest
      exact ⟨y :: ys, ⟨y, ys, to_y, to_ys, rfl⟩, .cons to_z to_zs⟩

theorem map_eq_ok {f : α → β} {r : Except ε α} {b : β} :
    r.map f = .ok b ↔ ∃ a, r = .ok a ∧ f a = b := by
  cases r with
  | error e => simp [Except.map]
  | ok a => simp [Except.map]

theorem bind_eq_ok {f : α → Except ε β} {r : Except ε α} {b : β} :
    r.bind f = .ok b ↔ ∃ a, r = .ok a ∧ f a = .ok b := by
  cases r with
  | error e => simp [Except.bind]
  | ok a => simp [Except.bind]

theorem mapError_eq_ok {f : Error → Error} {r : Result α} {a : α} :
    Result.mapError f r = .ok a ↔ r = .ok a := by
  cases r with
  | error e => simp [Result.mapError]
  | ok a => simp [Result.mapError]

theorem getElem?_getD {xs : List α} {i : Nat} (inside : i < xs.length) (d : α) : xs[i]? = some (xs.getD i d) := by
  rw [List.getD_eq_getElem?_getD, List.getElem?_eq_getElem inside, Option.getD_some]

theorem place_of_mem {xs : List α} {ys : List β} (length : xs.length = ys.length) {y : β} (member : y ∈ ys) :
    ∃ (i : Nat) (x : α), xs[i]? = some x ∧ ys[i]? = some y := by
  obtain ⟨i, here⟩ := List.mem_iff_getElem?.mp member
  have inside : i < xs.length := by
    rw [length]
    exact (List.getElem?_eq_some_iff.mp here).1
  exact ⟨i, xs[i], List.getElem?_eq_getElem inside, here⟩

/-- A name that one place only has is found there. -/
theorem find?_name {name : α → String} {xs : List α} (distinct : (xs.map name).Nodup) {x : α} (member : x ∈ xs) :
    xs.find? (fun y => name y == name x) = some x := by
  induction xs with
  | nil => cases member
  | cons y ys ih =>
    rw [List.map_cons, List.nodup_cons] at distinct
    rcases List.mem_cons.mp member with rfl | later
    · exact List.find?_cons_of_pos (beq_self_eq_true (name x))
    · have other : (name y == name x) = false := by
        rw [beq_eq_false_iff_ne]
        exact fun same => distinct.1 (same ▸ List.mem_map_of_mem later)
      rw [List.find?_cons, other]
      exact ih distinct.2 later

def IsFirst (holds : α → Prop) (xs : List α) (x : α) : Prop :=
  ∃ before after, xs = before ++ x :: after ∧ holds x ∧ ∀ y ∈ before, ¬holds y

theorem find?_eq_some_iff_isFirst {holds : α → Prop} {p : α → Bool} (same : ∀ x, p x = true ↔ holds x)
    {xs : List α} {x : α} : xs.find? p = some x ↔ IsFirst holds xs x := by
  rw [List.find?_eq_some_iff_append]
  simp only [IsFirst, ← same, Bool.not_eq_true, Bool.not_eq_eq_eq_not, Bool.not_true]
  constructor
  · rintro ⟨here, before, after, split, none⟩
    exact ⟨before, after, split, here, none⟩
  · rintro ⟨before, after, split, here, none⟩
    exact ⟨here, before, after, split, none⟩

theorem IsFirst.mem {holds : α → Prop} {xs : List α} {x : α} (h : IsFirst holds xs x) : x ∈ xs := by
  obtain ⟨before, after, rfl, -, -⟩ := h
  simp

theorem IsFirst.holds {holds : α → Prop} {xs : List α} {x : α} (h : IsFirst holds xs x) : holds x := by
  obtain ⟨_, _, -, here, -⟩ := h
  exact here

theorem toOption_map (f : α → β) (r : Except ε α) : (r.map f).toOption = r.toOption.map f := by
  cases r <;> rfl

theorem toOption_bind (f : α → Except ε β) (r : Except ε α) :
    (r.bind f).toOption = r.toOption.bind fun a => (f a).toOption := by
  cases r <;> rfl

theorem toOption_mapError (f : Error → Error) (r : Result α) : (Result.mapError f r).toOption = r.toOption := by
  cases r <;> rfl

theorem isError_of_forall_ne {r : Except ε α} (h : ∀ a, r ≠ .ok a) : ∃ e, r = .error e := by
  cases r with
  | error e => exact ⟨e, rfl⟩
  | ok a => exact absurd rfl (h a)

theorem toOption_eq_some {r : Except ε α} {a : α} : r.toOption = some a ↔ r = .ok a := by
  cases r <;> simp [Except.toOption]

theorem toOption_eq_none {r : Except ε α} : r.toOption = none ↔ ∃ e, r = .error e := by
  cases r <;> simp [Except.toOption]

/-- Traversals that come to the same at every place come to the same. -/
theorem toOption_mapM {f : α → Except ε β} {g : γ → Option β} {xs : List α} {ls : List γ}
    (h : List.Forall₂ (fun x l => (f x).toOption = g l) xs ls) : (xs.mapM f).toOption = ls.mapM g := by
  induction h with
  | nil => rfl
  | @cons x l xs ls head _ ih =>
    rw [List.mapM_cons, List.mapM_cons, ← head, ← ih]
    cases f x with
    | error e => rfl
    | ok y => cases xs.mapM f <;> rfl

theorem mapM_flatten (f : α → Option β) (groups : List (List α)) :
    (groups.mapM fun xs : List α => xs.mapM f).map List.flatten = groups.flatten.mapM f := by
  induction groups with
  | nil => rfl
  | cons xs groups ih =>
    rw [List.mapM_cons, List.flatten_cons, List.mapM_append, ← ih]
    cases xs.mapM f with
    | none => rfl
    | some ys => cases groups.mapM fun xs : List α => xs.mapM f <;> rfl

theorem bind_eq_error {f : α → Except ε β} {r : Except ε α} {e : ε} :
    r.bind f = .error e ↔ r = .error e ∨ ∃ a, r = .ok a ∧ f a = .error e := by
  cases r with
  | error e => simp [Except.bind]
  | ok a => simp [Except.bind]

/-- A traversal fails as one of its steps does. -/
theorem exists_of_mapM_error {f : α → Except ε β} {xs : List α} {e : ε} (h : xs.mapM f = .error e) :
    ∃ x ∈ xs, f x = .error e := by
  induction xs with
  | nil => cases h
  | cons x xs ih =>
    rw [List.mapM_cons] at h
    rcases bind_eq_error.mp h with here | ⟨y, _, later⟩
    · exact ⟨x, List.mem_cons_self, here⟩
    · rcases bind_eq_error.mp later with failed | ⟨ys, _, done⟩
      · obtain ⟨z, member, found⟩ := ih failed
        exact ⟨z, List.mem_cons_of_mem x member, found⟩
      · cases done

/-- What a traversal brings is brought by one of its steps. -/
theorem exists_of_mem_mapM {f : α → Except ε β} {xs : List α} {ys : List β} (h : xs.mapM f = .ok ys) {y : β}
    (member : y ∈ ys) : ∃ x ∈ xs, f x = .ok y := by
  have steps := mapM_eq_ok.mp h
  obtain ⟨k, x, there, here⟩ := place_of_mem steps.length_eq member
  obtain ⟨z, same, decoded⟩ := get_of_forall₂ steps there
  obtain rfl : z = y := Option.some.inj (same.symm.trans here)
  exact ⟨x, List.mem_of_getElem? there, decoded⟩

theorem mapM_isError {f : α → Except ε β} {xs : List α} {x : α} {e : ε} (member : x ∈ xs) (h : f x = .error e) :
    ∃ e', xs.mapM f = .error e' := by
  cases all : xs.mapM f with
  | error e' => exact ⟨e', rfl⟩
  | ok ys =>
    obtain ⟨i, here⟩ := List.mem_iff_getElem?.mp member
    obtain ⟨y, _, found⟩ := get_of_forall₂ (mapM_eq_ok.mp all) here
    rw [h] at found
    cases found

end RowStream
