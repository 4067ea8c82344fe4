import Mathlib.Algebra.BigOperators.Group.List.Basic
import Mathlib.Data.List.Nodup
import Mathlib.Tactic.Ring
import RowStream.Manifest
import RowStream.Proofs.Traversal

/-! # Which manifests are accepted

Counts must not be negative and locations must differ. Where a total is declared the rows are added up in words:
the program stops if they do not fit, and what is compared with the total is the sum read as a signed word. -/
namespace RowStream

theorem addWords_eq (a b : Nat) : addWords a b = if a + b < 2 ^ 64 then .ok (a + b) else .error .addition := rfl

/-- Words from a number on are added up unless the sum, and with it one of the sums on the way, does not fit. -/
theorem foldlM_addWords (words : List Nat) {start : Nat} (fits : start < 2 ^ 64) :
    words.foldlM addWords start =
      if start + words.sum < 2 ^ 64 then .ok (start + words.sum) else .error .addition := by
  induction words generalizing start with
  | nil => simp [-Nat.reducePow, fits, pure, Except.pure]
  | cons w words ih =>
    rw [List.foldlM_cons, addWords_eq, List.sum_cons, ← Nat.add_assoc]
    by_cases step : start + w < 2 ^ 64
    · rw [if_pos step]
      exact ih step
    · have beyond : ¬start + w + words.sum < 2 ^ 64 := by omega
      rw [if_neg step, if_neg beyond]
      rfl

theorem sumWords_eq (words : List Nat) :
    sumWords words = if words.sum < 2 ^ 64 then .ok words.sum else .error .addition := by
  rw [sumWords, foldlM_addWords words (by decide), Nat.zero_add]

/-- The upper half of the words is read as negative. -/
theorem signed_eq {n : Nat} (fits : n < 2 ^ 64) : signed n = if n < 2 ^ 63 then (n : Int) else n - 2 ^ 64 := by
  rw [signed, BitVec.toInt_ofNat', Int.bmod]
  split <;> omega

namespace Manifest
open RowStream.Number

/-- The descriptor of an entry. Sizes below zero count as zero. -/
def descriptor (ordinal : Nat) (e : ChunkEntry) : ChunkDescriptor :=
  ⟨ordinal, e.url, e.rowCount.toNat, e.uncompressedSize.toNat, e.compressedSize.toNat⟩

/-- Entries that can be described after the locations in `seen`. -/
structure Describable (seen : List String) (entries : List ChunkEntry) : Prop where
  counts : ∀ e ∈ entries, 0 ≤ e.rowCount
  distinct : (entries.map (·.url)).Nodup
  fresh : ∀ e ∈ entries, e.url ∉ seen

theorem describable_nil (seen : List String) : Describable seen [] :=
  ⟨by simp, List.nodup_nil, by simp⟩

theorem describable_cons {seen : List String} {e : ChunkEntry} {es : List ChunkEntry} :
    Describable seen (e :: es) ↔ 0 ≤ e.rowCount ∧ e.url ∉ seen ∧ Describable (e.url :: seen) es := by
  constructor
  · rintro ⟨counts, distinct, fresh⟩
    obtain ⟨new, others⟩ := List.nodup_cons.mp distinct
    refine ⟨counts e List.mem_cons_self, fresh e List.mem_cons_self,
      fun d hd => counts d (List.mem_cons_of_mem e hd), others, ?_⟩
    intro d hd known
    rcases List.mem_cons.mp known with same | earlier
    · exact new (List.mem_map.mpr ⟨d, hd, same⟩)
    · exact fresh d (List.mem_cons_of_mem e hd) earlier
  · rintro ⟨count, new, counts, distinct, fresh⟩
    refine ⟨List.forall_mem_cons.mpr ⟨count, counts⟩, List.nodup_cons.mpr ⟨?_, distinct⟩,
      List.forall_mem_cons.mpr ⟨new, fun d hd known => fresh d hd (List.mem_cons_of_mem _ known)⟩⟩
    intro again
    obtain ⟨d, hd, same⟩ := List.mem_map.mp again
    exact fresh d hd (List.mem_cons.mpr (.inl same))

theorem describe_eq_ok {ordinal : Nat} {seen : List String} {entries : List ChunkEntry}
    {chunks : List ChunkDescriptor} :
    describe ordinal seen entries = .ok chunks ↔
      Describable seen entries ∧ chunks = entries.mapIdx fun i e => descriptor (ordinal + i) e := by
  induction entries generalizing ordinal seen chunks with
  | nil => simp [describe, describable_nil, eq_comm]
  | cons e es ih =>
    rw [describe, describable_cons]
    by_cases negative : e.rowCount < 0
    · rw [if_pos negative]
      simp [Int.not_le.mpr negative]
    rw [if_neg negative]
    by_cases known : e.url ∈ seen
    · rw [if_pos (List.contains_iff_mem.mpr known)]
      simp [known]
    have next : (e :: es).mapIdx (fun i e => descriptor (ordinal + i) e) =
        descriptor ordinal e :: es.mapIdx fun i e => descriptor (ordinal + 1 + i) e := by
      rw [List.mapIdx_cons]
      congr 2
      funext i e
      rw [Nat.add_assoc, Nat.add_comm 1]
    rw [if_neg (mt List.contains_iff_mem.mp known)]
    refine bind_eq_ok.trans ?_
    simp only [ih, next, Except.ok.injEq]
    constructor
    · rintro ⟨rest, ⟨sound, rfl⟩, rfl⟩
      exact ⟨⟨Int.not_lt.mp negative, known, sound⟩, rfl⟩
    · rintro ⟨⟨_, _, sound⟩, rfl⟩
      exact ⟨_, ⟨sound, rfl⟩, rfl⟩

def rows (inlineRows : Nat) (entries : List ChunkEntry) : Int :=
  inlineRows + (entries.map (·.rowCount)).sum

theorem sum_toNat {entries : List ChunkEntry} (counts : ∀ e ∈ entries, 0 ≤ e.rowCount) :
    (((entries.map (·.rowCount.toNat)).sum : Nat) : Int) = (entries.map (·.rowCount)).sum := by
  induction entries with
  | nil => rfl
  | cons e es ih =>
    obtain ⟨count, counts⟩ := List.forall_mem_cons.mp counts
    rw [List.map_cons, List.map_cons, List.sum_cons, List.sum_cons, Int.natCast_add, ih counts,
      Int.toNat_of_nonneg count]

theorem rows_of_counts {entries : List ChunkEntry} (counts : ∀ e ∈ entries, 0 ≤ e.rowCount) (inlineRows : Nat) :
    ((inlineRows + ((entries.mapIdx descriptor).map (·.rowCount)).sum : Nat) : Int) = rows inlineRows entries := by
  have same : (entries.mapIdx descriptor).map (·.rowCount) = entries.map (·.rowCount.toNat) := by
    apply List.ext_getElem <;> simp [descriptor]
  rw [same, rows, Int.natCast_add, sum_toNat counts]

theorem rows_nonneg {entries : List ChunkEntry} (counts : ∀ e ∈ entries, 0 ≤ e.rowCount) (inlineRows : Nat) :
    0 ≤ rows inlineRows entries := by
  rw [← rows_of_counts counts inlineRows]
  exact Int.natCast_nonneg _

/-- The number of rows, whether or not it fits a word. -/
def counted (m : Manifest) : Nat := m.inlineRows + (m.chunks.map (·.rowCount)).sum

theorem totalRows_eq (m : Manifest) :
    m.totalRows = if m.counted < 2 ^ 64 then .ok m.counted else .error .addition := by
  rw [totalRows, sumWords_eq, counted]
  by_cases chunks : (m.chunks.map (·.rowCount)).sum < 2 ^ 64
  · rw [if_pos chunks]
    exact addWords_eq _ _
  · have beyond : ¬m.inlineRows + (m.chunks.map (·.rowCount)).sum < 2 ^ 64 := by omega
    rw [if_neg chunks, if_neg beyond]
    rfl

theorem totalRows_eq_ok {m : Manifest} {n : Nat} : m.totalRows = .ok n ↔ m.counted < 2 ^ 64 ∧ n = m.counted := by
  rw [totalRows_eq]
  split
  · rename_i fits
    rw [Except.ok.injEq, eq_comm, and_iff_right fits]
  · rename_i beyond
    simp only [reduceCtorEq, beyond, false_and]

theorem totalRows_eq_error {m : Manifest} {o : Overflow} :
    m.totalRows = .error o ↔ o = .addition ∧ 2 ^ 64 ≤ m.counted := by
  rw [totalRows_eq]
  split
  · rename_i fits
    simp only [reduceCtorEq, false_iff, not_and, Nat.not_le]
    exact fun _ => fits
  · rename_i beyond
    rw [Except.error.injEq, eq_comm, and_iff_left (Nat.not_lt.mp beyond)]

/-- A word and the number of inline rows whose difference leaves the signed words. -/
def Apart (n inlineRows : Nat) : Prop :=
  signed n - signed inlineRows ∉ Range.int64

theorem subtractSigned_eq_error {n inlineRows : Nat} {o : Overflow} :
    subtractSigned (signed n) (signed inlineRows) = .error o ↔ o = .subtraction ∧ Apart n inlineRows := by
  unfold subtractSigned Apart
  split <;> simp_all [eq_comm]

/-- A sum that is not the declared total is an error that tells both, if its parts can be told. -/
theorem checkTotal_differs {m : Manifest} {t : Int} (fits : m.counted < 2 ^ 64) (differs : signed m.counted ≠ t) :
    (∃ e, m.checkTotal (some t) = .error (.error e)) ∧ ¬Apart m.counted m.inlineRows ∨
      m.checkTotal (some t) = .error (.overflow .subtraction) ∧ Apart m.counted m.inlineRows := by
  rw [checkTotal, totalRows_eq, if_pos fits]
  cases inChunks : subtractSigned (signed m.counted) (signed m.inlineRows) with
  | ok n =>
    refine .inl ⟨⟨_, (if_neg differs).trans (by rw [inChunks]; rfl)⟩, fun apart => ?_⟩
    rw [subtractSigned_eq_error.mpr ⟨rfl, apart⟩] at inChunks
    cases inChunks
  | error o =>
    obtain ⟨rfl, apart⟩ := subtractSigned_eq_error.mp inChunks
    exact .inr ⟨(if_neg differs).trans (by rw [inChunks]; rfl), apart⟩

theorem checkTotal_same {m : Manifest} {t : Int} (fits : m.counted < 2 ^ 64) (same : signed m.counted = t) :
    m.checkTotal (some t) = .ok m := by
  rw [checkTotal, totalRows_eq, if_pos fits]
  exact if_pos same

theorem checkTotal_beyond {m : Manifest} {t : Int} (beyond : ¬m.counted < 2 ^ 64) :
    m.checkTotal (some t) = .error (.overflow .addition) := by
  rw [checkTotal, totalRows_eq, if_neg beyond]
  rfl

theorem checkTotal_eq_ok {m n : Manifest} {declared : Option Int} :
    checkTotal m declared = .ok n ↔ (∀ t ∈ declared, m.counted < 2 ^ 64 ∧ signed m.counted = t) ∧ m = n := by
  cases declared with
  | none => simp [checkTotal]
  | some t =>
    by_cases fits : m.counted < 2 ^ 64
    · by_cases same : signed m.counted = t
      · simp [-Nat.reducePow, checkTotal_same fits same, fits, same]
      · obtain ⟨⟨e, refused⟩, _⟩ | ⟨stopped, _⟩ := checkTotal_differs fits same
        · simp [-Nat.reducePow, refused, same]
        · simp [-Nat.reducePow, stopped, same]
    · simp [-Nat.reducePow, checkTotal_beyond fits, fits]

theorem checkTotal_eq_overflow {m : Manifest} {declared : Option Int} {o : Overflow} :
    checkTotal m declared = .error (.overflow o) ↔
      ∃ t ∈ declared, o = .addition ∧ 2 ^ 64 ≤ m.counted ∨
        o = .subtraction ∧ m.counted < 2 ^ 64 ∧ signed m.counted ≠ t ∧ Apart m.counted m.inlineRows := by
  cases declared with
  | none => simp [checkTotal]
  | some t =>
    by_cases fits : m.counted < 2 ^ 64
    · by_cases same : signed m.counted = t
      · simp [-Nat.reducePow, checkTotal_same fits same, fits, same, Nat.not_le.mpr fits]
      · obtain ⟨⟨e, refused⟩, near⟩ | ⟨stopped, apart⟩ := checkTotal_differs fits same
        · simp [-Nat.reducePow, refused, Nat.not_le.mpr fits, near]
        · rw [stopped]
          constructor
          · rintro ⟨⟩
            exact ⟨t, rfl, .inr ⟨rfl, fits, same, apart⟩⟩
          · rintro ⟨_, _, ⟨rfl, beyond⟩ | ⟨rfl, _⟩⟩
            · omega
            · rfl
    · simp [-Nat.reducePow, checkTotal_beyond fits, fits, Nat.not_lt.mp fits, eq_comm]

theorem signed_mem {n : Nat} (fits : n < 2 ^ 64) : signed n ∈ Range.int64 := by
  have low : Range.int64.low = -9223372036854775808 := rfl
  have high : Range.int64.high = 9223372036854775807 := rfl
  rw [Range.mem_def, signed_eq fits]
  split <;> omega

/-- A word that is read as signed is a number if it is that number, or more than it by the modulus. -/
theorem signed_eq_iff {n : Nat} {t : Int} (fits : n < 2 ^ 64) (word : t ∈ Range.int64) :
    signed n = t ↔ (n : Int) = t ∨ (n : Int) = t + 2 ^ 64 := by
  obtain ⟨low, high⟩ := word
  simp only [Range.int64] at low high
  rw [signed_eq fits]
  split <;> omega

/-- Only a word in the upper half is too far from a number in the lower one. -/
theorem apart_iff {n inlineRows : Nat} (fits : n < 2 ^ 64) (le : inlineRows ≤ n) :
    Apart n inlineRows ↔ 2 ^ 63 ≤ n ∧ inlineRows < 2 ^ 63 ∧ n - inlineRows < 2 ^ 63 := by
  rw [Apart, Range.mem_def, signed_eq fits, signed_eq (Nat.lt_of_le_of_lt le fits)]
  simp only [Range.int64]
  split <;> split <;> omega

section
variable {entries : List ChunkEntry} {inlineRows : Nat} {declared : Option Int}

theorem counted_descriptors (sound : Describable [] entries) (inlineRows : Nat) :
    (counted ⟨entries.mapIdx descriptor, inlineRows⟩ : Int) = rows inlineRows entries :=
  rows_of_counts sound.counts inlineRows

/-- The manifest of entries, as soon as there is one. -/
theorem ofEntries_cases {r : Checked Manifest} (sound : Describable [] entries) :
    ofEntries entries inlineRows declared = r ↔ checkTotal ⟨entries.mapIdx descriptor, inlineRows⟩ declared = r := by
  have described : describe 0 [] entries = .ok (entries.mapIdx descriptor) := by
    refine describe_eq_ok.mpr ⟨sound, ?_⟩
    simp only [Nat.zero_add]
  rw [ofEntries, described]
  rfl

theorem describable_of_ofEntries {r : Checked Manifest} (h : ofEntries entries inlineRows declared = r)
    (noError : ∀ e, r ≠ .error (.error e)) : Describable [] entries := by
  cases described : describe 0 [] entries with
  | ok chunks => exact (describe_eq_ok.mp described).1
  | error e =>
    rw [ofEntries, described] at h
    exact (noError e h.symm).elim

/-- No negative counts, no location twice, and a declared total that the rows, read as a signed word, add up to. -/
structure Accepts (entries : List ChunkEntry) (inlineRows : Nat) (declared : Option Int) : Prop where
  counts : ∀ e ∈ entries, 0 ≤ e.rowCount
  distinct : (entries.map (·.url)).Nodup
  total : ∀ t ∈ declared, t ∈ Range.int64 ∧ rows inlineRows entries < 2 ^ 64 ∧
    (rows inlineRows entries = t ∨ rows inlineRows entries = t + 2 ^ 64)

theorem Accepts.describable (h : Accepts entries inlineRows declared) : Describable [] entries :=
  ⟨h.counts, h.distinct, fun _ _ => List.not_mem_nil⟩

theorem ofEntries_eq_ok {m : Manifest} : ofEntries entries inlineRows declared = .ok m ↔
    Accepts entries inlineRows declared ∧ m = ⟨entries.mapIdx descriptor, inlineRows⟩ := by
  constructor
  · intro ok
    have sound : Describable [] entries := describable_of_ofEntries ok (by simp)
    have number := counted_descriptors sound inlineRows
    obtain ⟨agreed, rfl⟩ := checkTotal_eq_ok.mp ((ofEntries_cases sound).mp ok)
    refine ⟨⟨sound.counts, sound.distinct, fun t ht => ?_⟩, rfl⟩
    obtain ⟨fits, rfl⟩ := agreed t ht
    have reading := (signed_eq_iff fits (signed_mem fits)).mp rfl
    rw [number] at reading
    exact ⟨signed_mem fits, by rw [← number]; omega, reading⟩
  · rintro ⟨accepted, rfl⟩
    refine (ofEntries_cases accepted.describable).mpr (checkTotal_eq_ok.mpr ⟨fun t ht => ?_, rfl⟩)
    obtain ⟨word, fits, reading⟩ := accepted.total t ht
    rw [← counted_descriptors accepted.describable] at fits reading
    have fits : counted ⟨entries.mapIdx descriptor, inlineRows⟩ < 2 ^ 64 := by omega
    exact ⟨fits, (signed_eq_iff fits word).mpr reading⟩

theorem ofEntries_eq_overflow (words : ∀ t ∈ declared, t ∈ Range.int64) {o : Overflow} :
    ofEntries entries inlineRows declared = .error (.overflow o) ↔ Describable [] entries ∧ ∃ t ∈ declared,
      o = .addition ∧ 2 ^ 64 ≤ rows inlineRows entries ∨
      o = .subtraction ∧ 2 ^ 63 ≤ rows inlineRows entries ∧ rows inlineRows entries < 2 ^ 64 ∧
        rows inlineRows entries ≠ t + 2 ^ 64 ∧ inlineRows < 2 ^ 63 ∧
        rows inlineRows entries - inlineRows < 2 ^ 63 := by
  constructor
  · intro stopped
    have sound : Describable [] entries := describable_of_ofEntries stopped (by simp)
    have number := counted_descriptors sound inlineRows
    obtain ⟨t, ht, cases⟩ := checkTotal_eq_overflow.mp ((ofEntries_cases sound).mp stopped)
    refine ⟨sound, t, ht, ?_⟩
    rcases cases with ⟨rfl, beyond⟩ | ⟨rfl, fits, differs, apart⟩
    · exact .inl ⟨rfl, by omega⟩
    · have halves := (apart_iff fits (Nat.le_add_right _ _)).mp apart
      rw [Ne, signed_eq_iff fits (words t ht)] at differs
      simp only at halves
      exact .inr ⟨rfl, by omega, by omega, by omega, by omega, by omega⟩
  · rintro ⟨sound, t, ht, cases⟩
    have number := counted_descriptors sound inlineRows
    refine (ofEntries_cases sound).mpr (checkTotal_eq_overflow.mpr ⟨t, ht, ?_⟩)
    rcases cases with ⟨rfl, beyond⟩ | ⟨rfl, upper, fits, differs, inline, chunks⟩
    · exact .inl ⟨rfl, by omega⟩
    · have fits : counted ⟨entries.mapIdx descriptor, inlineRows⟩ < 2 ^ 64 := by omega
      refine .inr ⟨rfl, fits, ?_, (apart_iff fits (Nat.le_add_right _ _)).mpr ?_⟩
      · have below : t ≤ 9223372036854775807 := (words t ht).2
        rw [Ne, signed_eq_iff fits (words t ht)]
        omega
      · simp only
        omega

end

/-- A manifest is accepted exactly if no count is negative, the locations differ, and a declared total is the number
of rows or that number less `2 ^ 64`; below `2 ^ 63` rows it has to be the number itself. What is accepted has the
entries in their order, numbered from zero, and counts the rows as long as their number fits a word. With a declared
total the program stops for more rows than that, and where the rows in chunks cannot be told in the error. -/
theorem accepted_iff {entries : List ChunkEntry} {inlineRows : Nat} {declared : Option Int}
    (words : ∀ t ∈ declared, t ∈ Range.int64) :
    ((∃ m, ofEntries entries inlineRows declared = .ok m) ↔
      (∀ e ∈ entries, 0 ≤ e.rowCount) ∧ (entries.map (·.url)).Nodup ∧
        ∀ t ∈ declared, rows inlineRows entries < 2 ^ 64 ∧
          (rows inlineRows entries = t ∨ rows inlineRows entries = t + 2 ^ 64)) ∧
    (rows inlineRows entries < 2 ^ 63 →
      ((∃ m, ofEntries entries inlineRows declared = .ok m) ↔
        (∀ e ∈ entries, 0 ≤ e.rowCount) ∧ (entries.map (·.url)).Nodup ∧
          ∀ t ∈ declared, rows inlineRows entries = t)) ∧
    (∀ m, ofEntries entries inlineRows declared = .ok m →
      m.inlineRows = inlineRows ∧ m.chunks = entries.mapIdx descriptor ∧
      (∀ i d, m.get? i = some d → d.ordinal = i) ∧
      (∀ n, m.totalRows = .ok n ↔ rows inlineRows entries < 2 ^ 64 ∧ (n : Int) = rows inlineRows entries) ∧
      (∀ o, m.totalRows = .error o ↔ o = .addition ∧ 2 ^ 64 ≤ rows inlineRows entries)) ∧
    ∀ o, ofEntries entries inlineRows declared = .error (.overflow o) ↔
      (∀ e ∈ entries, 0 ≤ e.rowCount) ∧ (entries.map (·.url)).Nodup ∧ ∃ t ∈ declared,
        o = .addition ∧ 2 ^ 64 ≤ rows inlineRows entries ∨
        o = .subtraction ∧ 2 ^ 63 ≤ rows inlineRows entries ∧ rows inlineRows entries < 2 ^ 64 ∧
          rows inlineRows entries ≠ t + 2 ^ 64 ∧ inlineRows < 2 ^ 63 ∧
          rows inlineRows entries - inlineRows < 2 ^ 63 := by
  have accepted : (∃ m, ofEntries entries inlineRows declared = .ok m) ↔
      (∀ e ∈ entries, 0 ≤ e.rowCount) ∧ (entries.map (·.url)).Nodup ∧
        ∀ t ∈ declared, rows inlineRows entries < 2 ^ 64 ∧
          (rows inlineRows entries = t ∨ rows inlineRows entries = t + 2 ^ 64) := by
    constructor
    · rintro ⟨m, ok⟩
      obtain ⟨⟨counts, distinct, total⟩, _⟩ := ofEntries_eq_ok.mp ok
      exact ⟨counts, distinct, fun t ht => (total t ht).2⟩
    · rintro ⟨counts, distinct, total⟩
      exact ⟨_, ofEntries_eq_ok.mpr ⟨⟨counts, distinct, fun t ht => ⟨words t ht, total t ht⟩⟩, rfl⟩⟩
  refine ⟨accepted, fun small => ?_, fun m ok => ?_, fun o => ?_⟩
  · rw [accepted]
    refine and_congr_right fun counts => and_congr_right fun _ => forall₂_congr fun t ht => ?_
    have low := rows_nonneg counts inlineRows
    obtain ⟨_, _⟩ := words t ht
    simp only [Range.int64] at *
    omega
  · obtain ⟨accepts, rfl⟩ := ofEntries_eq_ok.mp ok
    have number := counted_descriptors accepts.describable inlineRows
    refine ⟨rfl, rfl, fun i d found => ?_, fun n => ?_, fun o => ?_⟩
    · rw [get?, List.getElem?_mapIdx] at found
      obtain ⟨e, _, rfl⟩ := Option.map_eq_some_iff.mp found
      rfl
    · rw [totalRows_eq_ok]
      omega
    · rw [totalRows_eq_error, ← number]
      norm_cast
  · rw [ofEntries_eq_overflow words, ← and_assoc]
    refine and_congr_left fun _ => ?_
    exact ⟨fun sound => ⟨sound.counts, sound.distinct⟩,
      fun ⟨counts, distinct⟩ => ⟨counts, distinct, fun _ _ => List.not_mem_nil⟩⟩

/-- One inline row and a chunk of `2 ^ 63 - 1` rows. -/
def halfTheModulus : List ChunkEntry := [{ url := "c0", rowCount := 9223372036854775807 }]

/-- Half the modulus of rows are taken for a negative total, and stop the program for any other one. -/
theorem accepted_iff_halfTheModulus :
    (∀ t ∈ some (-9223372036854775808), t ∈ Range.int64) ∧
    (∃ m, ofEntries halfTheModulus 1 (some (-9223372036854775808)) = .ok m ∧
      m.chunks = halfTheModulus.mapIdx descriptor ∧ m.totalRows = .ok 9223372036854775808) ∧
    (∀ t ∈ some 5, t ∈ Range.int64) ∧
    ofEntries halfTheModulus 1 (some 5) = .error (.overflow .subtraction) := by
  have words : ∀ t ∈ some (-9223372036854775808), t ∈ Range.int64 := by decide
  have words5 : ∀ t ∈ some 5, t ∈ Range.int64 := by decide
  obtain ⟨accepted, _, described, _⟩ := @accepted_iff halfTheModulus 1 _ words
  obtain ⟨_, _, _, stopped⟩ := @accepted_iff halfTheModulus 1 _ words5
  obtain ⟨m, ok⟩ := accepted.mpr (by decide)
  obtain ⟨_, chunks, _, total, _⟩ := described m ok
  exact ⟨words, ⟨m, ok, chunks, (total _).mpr (by decide)⟩, words5, (stopped _).mpr (by decide)⟩

/-- A negative total is accepted for a positive number of rows. -/
theorem negative_total_accepted :
    ofEntries halfTheModulus 1 (some (-9223372036854775808)) =
        .ok ⟨[⟨0, "c0", 9223372036854775807, 0, 0⟩], 1⟩ ∧
      rows 1 halfTheModulus = 9223372036854775808 := ⟨rfl, rfl⟩

end Manifest
end RowStream
