import Mathlib.Data.List.Basic
import RowStream.Text.Utf8

/-! # Bytes of texts

Bytes are the text of exactly those characters that encode to them: nothing else is accepted, and no two texts have
the same bytes. Both follow from the four forms that the bytes of a character can have. -/
namespace RowStream.Text.Utf8

theorem toNat_ofNat {n : Nat} (h : n < 256) : (UInt8.ofNat n).toNat = n :=
  (UInt8.toNat_ofNat').trans (Nat.mod_eq_of_lt h)

theorem within_iff {a low high : UInt8} :
    (low ≤ a && a ≤ high) = true ↔ low.toNat ≤ a.toNat ∧ a.toNat ≤ high.toNat := by
  rw [Bool.and_eq_true, decide_eq_true_iff, decide_eq_true_iff, UInt8.le_iff_toNat_le, UInt8.le_iff_toNat_le]

def Tail (b : UInt8) : Prop := 0x80 ≤ b.toNat ∧ b.toNat ≤ 0xBF

/-- A second byte is a tail that makes its first byte neither too long a form nor a half nor too great. -/
def Second (a b : UInt8) : Prop :=
  Tail b ∧ (a.toNat = 0xE0 → 0xA0 ≤ b.toNat) ∧ (a.toNat = 0xED → b.toNat ≤ 0x9F) ∧
    (a.toNat = 0xF0 → 0x90 ≤ b.toNat) ∧ (a.toNat = 0xF4 → b.toNat ≤ 0x8F)

inductive Sequence : List UInt8 → Nat → Prop
  | one {a} (first : a.toNat < 0x80) : Sequence [a] a.toNat
  | two {a b} (first : 0xC2 ≤ a.toNat ∧ a.toNat ≤ 0xDF) (second : Tail b) :
      Sequence [a, b] (a.toNat % 32 * 64 + tailBits b)
  | three {a b c} (first : 0xE0 ≤ a.toNat ∧ a.toNat < 0xF0) (second : Second a b) (third : Tail c) :
      Sequence [a, b, c] ((a.toNat % 16 * 64 + tailBits b) * 64 + tailBits c)
  | four {a b c d} (first : 0xF0 ≤ a.toNat ∧ a.toNat ≤ 0xF4) (second : Second a b) (third : Tail c) (fourth : Tail d) :
      Sequence [a, b, c, d] (((a.toNat % 8 * 64 + tailBits b) * 64 + tailBits c) * 64 + tailBits d)

theorem isTail_iff {b : UInt8} : isTail b = true ↔ Tail b := within_iff

theorem second_iff {a b : UInt8} : ((secondRange a).1 ≤ b && b ≤ (secondRange a).2) = true ↔ Second a b := by
  rw [within_iff, secondRange, Second, Tail]
  simp only [← UInt8.toNat_inj, UInt8.reduceToNat]
  split
  · simp; omega
  · split
    · simp; omega
    · split
      · simp; omega
      · split <;> simp <;> omega

/-- A form leads to its character, whatever follows it. -/
theorem lead_of_sequence {a : UInt8} {tail : List UInt8} {n : Nat} (h : Sequence (a :: tail) n) (rest : List UInt8) :
    lead a (tail ++ rest) = .char (Char.ofNat n) (tail.length + 1) := by
  have notOne : 0x80 ≤ a.toNat → ¬a < 0x80 := fun above below =>
    absurd (UInt8.lt_iff_toNat_lt.mp below) (Nat.not_lt.mpr above)
  have notTwo : 0xE0 ≤ a.toNat → ¬(0xC2 ≤ a && a ≤ 0xDF) = true := fun above range =>
    absurd (within_iff.mp range).2 (Nat.not_le.mpr above)
  have inThree : 0xE0 ≤ a.toNat ∧ a.toNat ≤ 0xF4 → (0xE0 ≤ a && a ≤ 0xF4) = true := fun range =>
    within_iff.mpr range
  cases h with
  | one first => exact if_pos (UInt8.lt_iff_toNat_lt.mpr first)
  | two first second =>
    rw [lead.eq_def, if_neg (notOne (by omega)), if_pos (@within_iff a 0xC2 0xDF |>.mpr first)]
    exact if_pos (isTail_iff.mpr second)
  | three first second third =>
    rw [lead.eq_def, if_neg (notOne (by omega)), if_neg (notTwo first.1), if_pos (inThree ⟨first.1, by omega⟩)]
    refine (if_pos (second_iff.mpr second)).trans ((if_pos (isTail_iff.mpr third)).trans (if_pos ?_))
    exact UInt8.lt_iff_toNat_lt.mpr first.2
  | four first second third fourth =>
    rw [lead.eq_def, if_neg (notOne (by omega)), if_neg (notTwo (by omega)), if_pos (inThree ⟨by omega, first.2⟩)]
    refine (if_pos (second_iff.mpr second)).trans ((if_pos (isTail_iff.mpr third)).trans ((if_neg ?_).trans
      (if_pos (isTail_iff.mpr fourth))))
    exact fun below => absurd (UInt8.lt_iff_toNat_lt.mp below) (Nat.not_lt.mpr first.1)

theorem sequence_of_lead {a : UInt8} {rest : List UInt8} {c : Char} {size : Nat} (h : lead a rest = .char c size) :
    ∃ tail back n, rest = tail ++ back ∧ size = tail.length + 1 ∧ Sequence (a :: tail) n ∧ c = Char.ofNat n := by
  simp only [lead.eq_def] at h
  split at h
  · rename_i first
    cases h
    exact ⟨[], rest, _, rfl, rfl, .one (UInt8.lt_iff_toNat_lt.mp first), rfl⟩
  split at h
  · rename_i first
    split at h
    · rename_i b rest
      split at h
      · rename_i second
        cases h
        exact ⟨[b], rest, _, rfl, rfl, .two (within_iff.mp first) (isTail_iff.mp second), rfl⟩
      · cases h
    · cases h
  split at h
  · rename_i first
    have range := within_iff.mp first
    split at h
    · rename_i b rest
      split at h
      · rename_i second
        split at h
        · rename_i c rest
          split at h
          · rename_i third
            split at h
            · rename_i below
              cases h
              exact ⟨[b, c], rest, _, rfl, rfl,
                .three ⟨range.1, UInt8.lt_iff_toNat_lt.mp below⟩ (second_iff.mp second) (isTail_iff.mp third), rfl⟩
            · rename_i above
              split at h
              · rename_i d rest
                split at h
                · rename_i fourth
                  cases h
                  have above : 0xF0 ≤ a.toNat := Nat.not_lt.mp fun below => above (UInt8.lt_iff_toNat_lt.mpr below)
                  exact ⟨[b, c, d], rest, _, rfl, rfl,
                    .four ⟨above, range.2⟩ (second_iff.mp second) (isTail_iff.mp third) (isTail_iff.mp fourth), rfl⟩
                · cases h
              · cases h
          · cases h
        · cases h
      · cases h
    · cases h
  · cases h

/-- A character is no half of a pair. -/
theorem toNat_cases (c : Char) : c.toNat < 0xD800 ∨ (0xDFFF < c.toNat ∧ c.toNat < 0x110000) := c.valid

theorem sequence_encodeChar (c : Char) : Sequence (encodeChar c) c.toNat := by
  have valid := toNat_cases c
  have tail : ∀ n : Nat, (UInt8.ofNat (0x80 + n % 64)).toNat = 0x80 + n % 64 := fun n => toNat_ofNat (by omega)
  have form : ∀ {bytes : List UInt8} {n : Nat}, Sequence bytes n → n = c.toNat → Sequence bytes c.toNat :=
    fun sequence same => same ▸ sequence
  simp only [encodeChar]
  split
  · have first := toNat_ofNat (show c.toNat < 256 by omega)
    exact form (.one (by omega)) first
  split
  · have first := toNat_ofNat (show 0xC0 + c.toNat / 64 < 256 by omega)
    have second := tail c.toNat
    refine form (.two (by omega) ?_) ?_
    · rw [Tail, second]
      omega
    · rw [tailBits, first, second]
      omega
  split
  · have first := toNat_ofNat (show 0xE0 + c.toNat / 4096 < 256 by omega)
    have second := tail (c.toNat / 64)
    have third := tail c.toNat
    refine form (.three (by omega) ?_ ?_) ?_
    · rw [Second, Tail, first, second]
      omega
    · rw [Tail, third]
      omega
    · rw [tailBits, tailBits, first, second, third]
      omega
  · have first := toNat_ofNat (show 0xF0 + c.toNat / 262144 < 256 by omega)
    have second := tail (c.toNat / 4096)
    have third := tail (c.toNat / 64)
    have fourth := tail c.toNat
    refine form (.four (by omega) ?_ ?_ ?_) ?_
    · rw [Second, Tail, first, second]
      omega
    · rw [Tail, third]
      omega
    · rw [Tail, fourth]
      omega
    · rw [tailBits, tailBits, tailBits, first, second, third, fourth]
      omega

theorem encodeChar_of_sequence {bytes : List UInt8} {n : Nat} (h : Sequence bytes n) :
    encodeChar (Char.ofNat n) = bytes := by
  have value : ∀ {n : Nat}, n < 0xD800 ∨ (0xDFFF < n ∧ n < 0x110000) → (Char.ofNat n).toNat = n := by
    intro n valid
    rw [Char.ofNat, dif_pos valid]
    rfl
  have byte : ∀ {b : UInt8} {n : Nat}, n = b.toNat → UInt8.ofNat n = b := fun same => same ▸ UInt8.ofNat_toNat
  cases h with
  | @one a first =>
    simp only [encodeChar, value (.inl (show a.toNat < 0xD800 by omega)), first, if_true, byte rfl]
  | @two a b first second =>
    obtain ⟨low, high⟩ := second
    simp only [tailBits]
    rw [encodeChar, value (.inl (by omega)), if_neg (by omega), if_pos (by omega), byte (b := a) (by omega),
      byte (b := b) (by omega)]
  | @three a b c first second third =>
    obtain ⟨⟨low, high⟩, tooLong, half, -, -⟩ := second
    obtain ⟨low', high'⟩ := third
    simp only [tailBits]
    rw [encodeChar, value (by omega), if_neg (by omega), if_neg (by omega), if_pos (by omega), byte (b := a) (by omega),
      byte (b := b) (by omega), byte (b := c) (by omega)]
  | @four a b c d first second third fourth =>
    obtain ⟨⟨low, high⟩, -, -, tooLong, tooGreat⟩ := second
    obtain ⟨low', high'⟩ := third
    obtain ⟨low'', high''⟩ := fourth
    simp only [tailBits]
    rw [encodeChar, value (by omega), if_neg (by omega), if_neg (by omega), if_neg (by omega), byte (b := a) (by omega),
      byte (b := b) (by omega), byte (b := c) (by omega), byte (b := d) (by omega)]

theorem decode_sequence {bytes : List UInt8} {n : Nat} (h : Sequence bytes n) (rest : List UInt8) :
    decode (bytes ++ rest) = (decode rest).map (Char.ofNat n :: ·) := by
  cases bytes with
  | nil => cases h
  | cons a tail =>
    rw [List.cons_append, decode, lead_of_sequence h]
    show Option.map _ (decode ((tail ++ rest).drop tail.length)) = _
    rw [List.drop_left]

theorem decode_encode (cs : List Char) : decode (encode cs) = some cs := by
  induction cs with
  | nil => rw [encode, List.flatMap_nil, decode]
  | cons c cs ih =>
    have first := decode_sequence (sequence_encodeChar c) (encode cs)
    rw [ih, Char.ofNat_toNat] at first
    exact first

theorem encode_of_decode {bytes : List UInt8} {cs : List Char} (h : decode bytes = some cs) : encode cs = bytes := by
  induction bytes using decode.induct generalizing cs with
  | case1 =>
    rw [decode] at h
    cases h
    rfl
  | case2 a rest c size found ih =>
    rw [decode, found] at h
    obtain ⟨ds, later, rfl⟩ := Option.map_eq_some_iff.mp h
    obtain ⟨tail, back, n, rfl, rfl, sequence, rfl⟩ := sequence_of_lead found
    rw [Nat.add_sub_cancel, List.drop_left] at later ih
    have bytes : encode (Char.ofNat n :: ds) = encodeChar (Char.ofNat n) ++ encode ds := List.flatMap_cons
    rw [bytes, encodeChar_of_sequence sequence, ih later, List.cons_append]
  | case3 a rest size found =>
    rw [decode, found] at h
    cases h

theorem decode_eq_some_iff {bytes : List UInt8} {cs : List Char} : decode bytes = some cs ↔ encode cs = bytes :=
  ⟨encode_of_decode, fun same => same ▸ decode_encode cs⟩

theorem encode_append (cs ds : List Char) : encode (cs ++ ds) = encode cs ++ encode ds := List.flatMap_append

theorem encode_inj {cs ds : List Char} (same : encode cs = encode ds) : cs = ds :=
  Option.some.inj (by rw [← decode_encode cs, same, decode_encode])

variable {b : UInt8} {cs : List Char} {front rest : List UInt8}

/-- A byte below 0x80 is a character wherever it stands. -/
theorem eq_cons_of_encode (ascii : b.toNat < 0x80) (h : encode cs = b :: rest) :
    ∃ ds, cs = Char.ofNat b.toNat :: ds ∧ encode ds = rest := by
  have first := decode_sequence (.one ascii) rest
  rw [List.singleton_append, decode_eq_some_iff.mpr h] at first
  obtain ⟨ds, later, rfl⟩ := Option.map_eq_some_iff.mp first.symm
  exact ⟨ds, rfl, encode_of_decode later⟩

theorem Sequence.last {n : Nat} (h : Sequence (front ++ [b]) n) (ascii : b.toNat < 0x80) :
    front = [] ∧ n = b.toNat := by
  generalize whole : front ++ [b] = bytes at h
  have last : bytes.getLast? = some b := by rw [← whole, List.getLast?_concat]
  have noTail : ¬Tail b := fun tail => absurd tail.1 (Nat.not_le.mpr ascii)
  cases h with
  | one =>
    cases last
    exact ⟨List.append_left_eq_self.mp whole, rfl⟩
  | two first second =>
    cases last
    exact absurd second noTail
  | three first second third =>
    cases last
    exact absurd third noTail
  | four first second third fourth =>
    cases last
    exact absurd fourth noTail

theorem eq_append_of_encode (ascii : b.toNat < 0x80) (h : encode cs = front ++ [b]) :
    ∃ ds, cs = ds ++ [Char.ofNat b.toNat] ∧ encode ds = front := by
  have single : ∀ c, encode [c] = encodeChar c := fun c => List.append_nil _
  have form : ∀ c, Sequence (encode [c]) c.toNat := fun c => single c ▸ sequence_encodeChar c
  rcases List.eq_nil_or_concat' cs with rfl | ⟨ds, c, rfl⟩
  · cases front <;> cases h
  rcases List.eq_nil_or_concat' (encode [c]) with none | ⟨init, last, split⟩
  · cases none ▸ form c
  rw [encode_append, split, ← List.append_assoc] at h
  obtain ⟨front', same⟩ := List.append_inj' h rfl
  cases same
  obtain ⟨rfl, value⟩ := (split ▸ form c).last ascii
  exact ⟨ds, by rw [← value, Char.ofNat_toNat], (List.append_nil _).symm.trans front'⟩

end RowStream.Text.Utf8
