import RowStream.Text.Ascii
import RowStream.Text.Utf8

/-! # Positions in bytes

Positions in a text count its bytes, and a position inside of a character divides nothing. Capitals take as many
bytes as their small letters. -/
namespace RowStream.Text

def byteLength (cs : List Char) : Nat := (Utf8.encode cs).length

def divide? : Nat → List Char → Option (List Char × List Char)
  | 0, cs => some ([], cs)
  | _ + 1, [] => none
  | n + 1, c :: cs =>
    if Utf8.width c ≤ n + 1 then (divide? (n + 1 - Utf8.width c) cs).map fun p => (c :: p.1, p.2) else none

def fromByte? (pos : Nat) (cs : List Char) : Option (List Char) := (divide? pos cs).map (·.2)

def between? (start stop : Nat) (cs : List Char) : Option (List Char) := do
  let (front, _) ← divide? stop cs
  fromByte? start front

theorem width_pos (c : Char) : 0 < Utf8.width c := by
  simp only [Utf8.width, Utf8.encodeChar]
  split
  · simp
  · split
    · simp
    · split <;> simp

@[simp] theorem byteLength_nil : byteLength [] = 0 := rfl

@[simp] theorem byteLength_cons (c : Char) (cs : List Char) : byteLength (c :: cs) = Utf8.width c + byteLength cs := by
  simp [byteLength, Utf8.encode, Utf8.width]

@[simp] theorem byteLength_append (cs ds : List Char) : byteLength (cs ++ ds) = byteLength cs + byteLength ds := by
  simp [byteLength, Utf8.encode]

theorem byteLength_pos {cs : List Char} (filled : cs ≠ []) : 0 < byteLength cs := by
  obtain ⟨c, ds, rfl⟩ := List.exists_cons_of_ne_nil filled
  rw [byteLength_cons]
  exact Nat.add_pos_left (width_pos c) _

theorem eq_nil_of_byteLength {cs : List Char} (none : byteLength cs = 0) : cs = [] := by
  cases cs with
  | nil => rfl
  | cons c cs => exact absurd none (Nat.ne_of_gt (byteLength_pos (List.cons_ne_nil c cs)))

theorem divide?_zero_eq_some {cs front back : List Char} :
    divide? 0 cs = some (front, back) ↔ cs = front ++ back ∧ byteLength front = 0 := by
  rw [divide?, Option.some.injEq, Prod.mk.injEq]
  constructor
  · rintro ⟨rfl, rfl⟩
    exact ⟨rfl, rfl⟩
  · rintro ⟨split, none⟩
    obtain rfl := eq_nil_of_byteLength none
    exact ⟨rfl, split⟩

/-- A position divides a text where its bytes are those of whole characters. -/
theorem divide?_eq_some {pos : Nat} {cs front back : List Char} :
    divide? pos cs = some (front, back) ↔ cs = front ++ back ∧ byteLength front = pos := by
  induction cs generalizing pos front with
  | nil =>
    cases pos with
    | zero => exact divide?_zero_eq_some
    | succ n =>
      rw [divide?]
      constructor
      · intro h
        cases h
      · rintro ⟨split, length⟩
        obtain ⟨rfl, rfl⟩ := List.append_eq_nil_iff.mp split.symm
        cases length
  | cons c cs ih =>
    cases pos with
    | zero => exact divide?_zero_eq_some
    | succ n =>
      rw [divide?]
      constructor
      · intro h
        split at h
        · rename_i fits
          obtain ⟨⟨front', back'⟩, divided, same⟩ := Option.map_eq_some_iff.mp h
          cases same
          obtain ⟨rfl, length⟩ := ih.mp divided
          refine ⟨rfl, ?_⟩
          rw [byteLength_cons, length]
          omega
        · cases h
      · rintro ⟨split, length⟩
        cases front with
        | nil => cases length
        | cons d front =>
          rw [List.cons_append, List.cons.injEq] at split
          obtain ⟨rfl, rfl⟩ := split
          rw [byteLength_cons] at length
          have later := ih.mpr ⟨rfl, (Nat.eq_sub_of_add_eq' length)⟩
          rw [if_pos (by omega), later]
          rfl

theorem fromByte?_append (front back : List Char) : fromByte? (byteLength front) (front ++ back) = some back := by
  rw [fromByte?, divide?_eq_some.mpr ⟨rfl, rfl⟩]
  rfl

theorem between?_append (front text back : List Char) :
    between? (byteLength front) (byteLength (front ++ text)) (front ++ (text ++ back)) = some text := by
  have stop : divide? (byteLength (front ++ text)) (front ++ (text ++ back)) = some (front ++ text, back) :=
    divide?_eq_some.mpr ⟨(List.append_assoc _ _ _).symm, rfl⟩
  simp only [between?, stop, Option.bind_eq_bind, Option.bind_some, fromByte?_append]

/-- Capitals are 32 characters before their small letters. -/
theorem toUpper_cases (c : Char) :
    c.toUpper = c ∨ (97 ≤ c.toNat ∧ c.toNat ≤ 122 ∧ c.toUpper.toNat = c.toNat - 32) := by
  delta Char.toUpper
  split
  · rename_i small
    have low : 97 ≤ c.toNat := small.1
    have high : c.toNat ≤ 122 := small.2
    have back : (4294967264 : UInt32).toNat = 4294967264 := rfl
    have same : c.val.toNat = c.toNat := rfl
    refine .inr ⟨low, high, ?_⟩
    show (c.val + 4294967264).toNat = _
    rw [UInt32.toNat_add, back, same]
    omega
  · exact .inl rfl

theorem width_toUpper (c : Char) : Utf8.width c.toUpper = Utf8.width c := by
  rcases toUpper_cases c with same | ⟨low, high, shifted⟩
  · rw [same]
  · have small : c.toNat < 0x80 := by omega
    have capital : c.toUpper.toNat < 0x80 := by omega
    simp [Utf8.width, Utf8.encodeChar, small, capital]

@[simp] theorem byteLength_upper (cs : List Char) : byteLength (upper cs) = byteLength cs := by
  induction cs with
  | nil => rfl
  | cons c cs ih =>
    rw [byteLength_cons, ← ih, ← width_toUpper]
    exact byteLength_cons _ _

theorem isDigit_eq_false {c : Char} (high : 57 < c.toNat) : isDigit c = false := by
  have above : ¬c ≤ '9' := Nat.not_le.mpr high
  simp [isDigit, above]

theorem isDigit_toUpper (c : Char) : isDigit c.toUpper = isDigit c := by
  rcases toUpper_cases c with same | ⟨low, high, shifted⟩
  · rw [same]
  · rw [isDigit_eq_false (by omega), isDigit_eq_false (by omega)]

theorem upper_append (cs ds : List Char) : upper (cs ++ ds) = upper cs ++ upper ds := List.map_append

end RowStream.Text
