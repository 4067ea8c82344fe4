import Mathlib.Tactic.Ring
import RowStream.Proofs.ColumnForms
import RowStream.Proofs.WordColumns

/-! # Dates and times in converted columns

Days keep their number and times of day become nanoseconds. Timestamps become units since the epoch, rounded
down, with one gap: where the unit is a nanosecond, what lies before the last whole second that 64 bits can
hold is refused, although the nanoseconds themselves would fit. -/
namespace RowStream.Columnar
open RowStream.Decode RowStream.Number RowStream.Calendar

variable {unit : TimeUnit} {n : Int} {scale : Nat}

def unitsOf (unit : TimeUnit) (n : Int) (scale : Nat) : Int := n * (10 ^ unit.digits : Nat) / (10 ^ scale : Nat)

theorem unit_pos (digits : Nat) : (0 : Int) < (10 ^ digits : Nat) := Int.natCast_pos.mpr (Nat.pow_pos (by decide))

theorem digits_le (unit : TimeUnit) : unit.digits ≤ 9 := by cases unit <;> decide

@[simp] theorem unitsOf_second (n : Int) (scale : Nat) : unitsOf .second n scale = secondsOf n scale := by
  simp [unitsOf, secondsOf, TimeUnit.digits]

/-- A nanosecond is what the ninth fraction digit counts. -/
@[simp] theorem unitsOf_nanosecond_nine (n : Int) : unitsOf .nanosecond n 9 = n :=
  Int.mul_ediv_cancel n (by decide)

theorem nanosOf_lt (n : Int) (fits : scale ≤ 9) : nanosOf n scale < nanosPerSecond := by
  have rest := Int.emod_lt_of_pos n (unit_pos scale)
  have nonneg := Int.emod_nonneg n (unit_pos scale).ne'
  have below : (n % (10 ^ scale : Nat)).toNat < 10 ^ scale := by omega
  have units : 10 ^ scale * 10 ^ (9 - scale) = nanosPerSecond := by
    rw [← Nat.pow_add, Nat.add_sub_cancel' fits]
    rfl
  rw [nanosOf, ← units]
  exact Nat.mul_lt_mul_of_pos_right below (Nat.pow_pos (by decide))

/-- The units of the whole seconds and those of the rest are all units: nothing is lost between them. -/
theorem units_of_parts (unit : TimeUnit) (n : Int) (fits : scale ≤ 9) :
    secondsOf n scale * (10 ^ unit.digits : Nat) + (nanosOf n scale / 10 ^ (9 - unit.digits) : Nat) =
      unitsOf unit n scale := by
  have split := Int.mul_ediv_add_emod n (10 ^ scale : Nat)
  have nonneg := Int.emod_nonneg n (unit_pos scale).ne'
  have pow_eq : ∀ digits ≤ 9, ((10 ^ digits : Nat) : Int) * (10 ^ (9 - digits) : Nat) = (10 ^ 9 : Nat) := by
    intro digits le
    rw [← Int.natCast_mul, ← Nat.pow_add, Nat.add_sub_cancel' le]
  rw [secondsOf, nanosOf, unitsOf]
  generalize n / (10 ^ scale : Nat) = whole at *
  generalize n % (10 ^ scale : Nat) = rest at *
  have nanos : ((rest.toNat * 10 ^ (9 - scale) / 10 ^ (9 - unit.digits) : Nat) : Int) =
      rest * (10 ^ unit.digits : Nat) / (10 ^ scale : Nat) := by
    rw [Int.natCast_div, Int.natCast_mul, Int.toNat_of_nonneg nonneg]
    calc rest * (10 ^ (9 - scale) : Nat) / (10 ^ (9 - unit.digits) : Nat)
        = rest * (10 ^ (9 - scale) : Nat) * (10 ^ unit.digits : Nat) / (10 ^ 9 : Nat) := by
          rw [← pow_eq unit.digits (digits_le unit), Int.mul_comm ((10 ^ unit.digits : Nat) : Int),
            Int.mul_ediv_mul_of_pos_left _ _ (unit_pos _)]
      _ = rest * (10 ^ unit.digits : Nat) * (10 ^ (9 - scale) : Nat) / (10 ^ 9 : Nat) := by
          congr 1
          ring
      _ = rest * (10 ^ unit.digits : Nat) / (10 ^ scale : Nat) := by
          rw [← pow_eq scale fits, Int.mul_ediv_mul_of_pos_left _ _ (unit_pos _)]
  rw [nanos, ← split, Int.add_mul, Int.mul_assoc, Int.add_comm, Int.add_comm _ (rest * _),
    Int.add_mul_ediv_left _ _ (unit_pos scale).ne']

/-- The seconds before which nothing can be stored in nanoseconds. -/
def lowestNanosecond : Int := -9223372036000000000

/-- The units of a count have a place: the instant is one of the calendar, and 64 bits hold the units. For
nanoseconds the lowest part of the 64 bits is not used. -/
structure HasUnits (unit : TimeUnit) (n : Int) (scale : Nat) : Prop where
  inCalendar : minSecond ≤ secondsOf n scale ∧ secondsOf n scale ≤ maxSecond
  inWord : unitsOf unit n scale ∈ Range.int64
  aboveGap : unit = .nanosecond → lowestNanosecond ≤ unitsOf unit n scale

/-- In the calendar only the whole seconds of nanoseconds can be out of reach. -/
theorem whole_mem_iff (fits : scale ≤ 9) (inCalendar : minSecond ≤ secondsOf n scale ∧ secondsOf n scale ≤ maxSecond)
    (inWord : unitsOf unit n scale ∈ Range.int64) :
    secondsOf n scale * (10 ^ unit.digits : Nat) ∈ Range.int64 ↔
      (unit = .nanosecond → lowestNanosecond ≤ unitsOf unit n scale) := by
  have parts := units_of_parts unit n fits
  have rest : nanosOf n scale / 10 ^ (9 - unit.digits) < 10 ^ unit.digits := by
    rw [Nat.div_lt_iff_lt_mul (Nat.pow_pos (by decide)), ← Nat.pow_add, Nat.add_sub_cancel' (digits_le unit)]
    exact nanosOf_lt n fits
  rw [← parts] at inWord ⊢
  generalize nanosOf n scale / 10 ^ (9 - unit.digits) = nanos at *
  simp only [Range.mem_def, Range.int64, lowestNanosecond, minSecond, maxSecond, minDay, maxDay, secondsPerDay] at *
  cases unit <;> simp [TimeUnit.digits] at * <;> omega

theorem inUnit?_of_ne_second (finer : unit ≠ .second) (i : Instant) :
    inUnit? unit i = (Range.int64.within? (i.second * (10 ^ unit.digits : Nat))).bind fun whole =>
      Range.int64.within? (whole + (i.nanos / 10 ^ (9 - unit.digits) : Nat)) := by
  cases unit with
  | second => exact absurd rfl finer
  | _ => rfl

theorem inUnit?_eq_some {i : Instant} (fits : scale ≤ 9) (second : i.second = secondsOf n scale)
    (nanos : i.nanos = nanosOf n scale) {k : Int} :
    inUnit? unit i = some k ↔ HasUnits unit n scale ∧ unitsOf unit n scale = k := by
  have inCalendar := i.inRange
  rw [second] at inCalendar
  by_cases whole : unit = .second
  · subst whole
    have word : secondsOf n scale ∈ Range.int64 := by
      simp only [minSecond, maxSecond, minDay, maxDay, secondsPerDay] at inCalendar
      simp only [Range.mem_def, Range.int64]
      omega
    have units : HasUnits .second n scale := ⟨inCalendar, by rwa [unitsOf_second], nofun⟩
    simp [inUnit?, second, units]
  · rw [inUnit?_of_ne_second whole, second, nanos]
    simp only [Option.bind_eq_some_iff, Range.within?_eq_some]
    constructor
    · rintro ⟨_, ⟨fitting, rfl⟩, inWord, rfl⟩
      rw [units_of_parts unit n fits] at inWord ⊢
      exact ⟨⟨inCalendar, inWord, (whole_mem_iff fits inCalendar inWord).mp fitting⟩, rfl⟩
    · rintro ⟨⟨_, inWord, aboveGap⟩, rfl⟩
      have fitting := (whole_mem_iff fits inCalendar inWord).mpr aboveGap
      rw [← units_of_parts unit n fits] at inWord ⊢
      exact ⟨_, ⟨fitting, rfl⟩, inWord, rfl⟩

def temporalKinds : List TypeKind := .date :: .timestampTz :: ColumnType.clockKinds

def clockWord (unit : TimeUnit) : TypeKind → WordType
  | .date => .date32
  | .time => .time64 .nanosecond
  | .timestampNtz => .timestamp unit none
  | _ => .timestamp unit utcZone

/-- The number that a cell of dates or times is converted to. -/
inductive Converted (unit : TimeUnit) (t : ColumnType) : Logical → Option Int → Prop
  | null : Converted unit t .null none
  | date {n : Int} (kind : t.kind = .date) (inCalendar : minDay ≤ n ∧ n ≤ maxDay) : Converted unit t (.date n) (some n)
  | time {n : Int} (kind : t.kind = .time) (inDay : 0 ≤ n ∧ n < 86400 * (10 ^ t.scale : Nat)) :
      Converted unit t (.scaled n) (some (n * (10 ^ (9 - t.scale) : Nat)))
  | timestamp {n : Int} (kind : t.kind ∈ [.timestampNtz, .timestampLtz]) (units : HasUnits unit n t.scale) :
      Converted unit t (.scaled n) (some (unitsOf unit n t.scale))
  | zoned {n : Int} {offset : Nat} (kind : t.kind = .timestampTz) (inDay : 0 < offset ∧ offset < 2880)
      (units : HasUnits unit n t.scale) : Converted unit t (.zoned n offset) (some (unitsOf unit n t.scale))

variable {options : BatchOptions} {o : DecodeOptions} {t : ColumnType} {k : Option Int}

theorem converted_scaled (kind : t.kind ∈ [.timestampNtz, .timestampLtz]) :
    Converted unit t (.scaled n) k ↔ HasUnits unit n t.scale ∧ k = some (unitsOf unit n t.scale) := by
  constructor
  · intro converted
    cases converted with
    | time other => simp [other] at kind
    | timestamp _ units => exact ⟨units, rfl⟩
  · rintro ⟨units, rfl⟩
    exact .timestamp kind units

theorem targetType_temporal (temporal : t.kind ∈ temporalKinds) :
    targetType options t = .word (clockWord options.timestampUnit t.kind) := by
  rw [targetType_eq]
  simp only [temporalKinds, ColumnType.clockKinds, List.mem_cons, List.not_mem_nil, or_false] at temporal
  rcases temporal with kind | kind | kind | kind | kind <;>
    simp [ColumnType.isStructured, scalarTarget, clockWord, kind]

/-- What columns of dates and times show. -/
theorem temporal_of_shows {c : Column} {row : Nat} {l : Logical} (temporal : t.kind ∈ temporalKinds)
    (shown : Shows t c row l) :
    l = .null ∨ (t.kind = .date ∧ ∃ n, l = .date n) ∨ (t.kind ∈ ColumnType.clockKinds ∧ ∃ n, l = .scaled n) ∨
      (t.kind = .timestampTz ∧ ∃ n offset, l = .zoned n offset) := by
  cases shown with
  | null => exact .inl rfl
  | days kind => exact .inr (.inl ⟨kind, _, rfl⟩)
  | scaled kind => exact .inr (.inr (.inl ⟨kind, _, rfl⟩))
  | parts kind => exact .inr (.inr (.inl ⟨List.mem_cons_of_mem _ kind, _, rfl⟩))
  | zoned kind => exact .inr (.inr (.inr ⟨kind, _, _, rfl⟩))
  | zonedParts kind => exact .inr (.inr (.inr ⟨kind, _, _, rfl⟩))
  | text kind =>
    simp only [temporalKinds, ColumnType.clockKinds, List.mem_cons, List.not_mem_nil, or_false] at temporal kind
    rcases kind with kind | kind | kind | kind <;> simp [kind] at temporal
  | _ => simp_all [temporalKinds, ColumnType.clockKinds]

theorem stored_date {d : Date} : Stored .date32 (.date d) k ↔ k = some d.day := by
  rw [stored_iff]
  simp [Value.isNull, narrowWord?]

theorem stored_time {tm : Time} :
    Stored (.time64 .nanosecond) (.time tm) k ↔ k = some ((tm.second : Int) * nanosPerSecond + tm.nanos) := by
  rw [stored_iff]
  simp [Value.isNull, narrowWord?]

/-- Any value that is an instant is stored in units. -/
theorem stored_instant {zone : Option String} {v : Value} {i : Instant} (found : instant? v = some i)
    (fits : scale ≤ 9) (known : Logical.instant? n scale = some i) :
    Stored (.timestamp unit zone) v k ↔ HasUnits unit n scale ∧ k = some (unitsOf unit n scale) := by
  have filled : v.isNull = false := by cases v <;> simp_all [instant?, Value.isNull]
  obtain ⟨second, nanos⟩ := (Instant.ofParts?_eq_some (nanosOf_lt n fits)).mp known
  have narrowed : narrowWord? (.timestamp unit zone) v = inUnit? unit i := by
    rw [narrowWord?, found, Option.bind_some]
  rw [stored_iff, filled, narrowed, if_neg (by decide)]
  simp only [inUnit?_eq_some fits second nanos]
  constructor
  · rintro ⟨_, ⟨units, rfl⟩, rfl⟩
    exact ⟨units, rfl⟩
  · rintro ⟨units, rfl⟩
    exact ⟨_, ⟨units, rfl⟩, rfl⟩

theorem exists_instant (units : HasUnits unit n scale) (fits : scale ≤ 9) : ∃ i, Logical.instant? n scale = some i := by
  have below := nanosOf_lt n fits
  refine ⟨⟨secondsOf n scale, nanosOf n scale, units.inCalendar, by omega⟩, ?_⟩
  exact (Instant.ofParts?_eq_some below).mpr ⟨rfl, rfl⟩

theorem unitsOf_nanosecond (n : Int) (fits : scale ≤ 9) :
    unitsOf .nanosecond n scale = n * (10 ^ (9 - scale) : Nat) := by
  have split : ((10 ^ 9 : Nat) : Int) = (10 ^ (9 - scale) : Nat) * (10 ^ scale : Nat) := by
    rw [← Int.natCast_mul, ← Nat.pow_add, Nat.sub_add_cancel fits]
  show n * ((10 ^ 9 : Nat) : Int) / _ = _
  rw [split, ← Int.mul_assoc, Int.mul_ediv_cancel _ (unit_pos scale).ne']

theorem time?_eq_some (fits : scale ≤ 9) {tm : Time} :
    Logical.time? n scale = some tm ↔ (tm.second : Int) = secondsOf n scale ∧ tm.nanos = nanosOf n scale := by
  rw [Logical.time?, Option.ite_none_right_eq_some, Time.ofParts?_eq_some (nanosOf_lt n fits)]
  omega

theorem converted_null :
    (∃ v, Logical.null.value? o t = some v ∧ Stored (clockWord unit t.kind) v k) ↔ Converted unit t .null k := by
  rw [Logical.value?]
  simp only [Option.some.injEq, exists_eq_left']
  constructor
  · intro stored
    obtain rfl : k = none := stored_iff.mp stored
    exact .null
  · rintro ⟨⟩
    exact .null

theorem converted_date (kind : t.kind = .date) :
    (∃ v, (Logical.date n).value? o t = some v ∧ Stored (clockWord unit t.kind) v k) ↔
    Converted unit t (.date n) k := by
  rw [Logical.value?, kind, clockWord]
  simp only [Option.map_eq_some_iff, Date.ofDay?_eq_some]
  constructor
  · rintro ⟨_, ⟨d, rfl, rfl⟩, stored⟩
    obtain rfl := stored_date.mp stored
    exact .date kind d.inRange
  · rintro (_ | ⟨_, inCalendar⟩)
    exact ⟨_, ⟨⟨n, inCalendar⟩, rfl, rfl⟩, stored_date.mpr rfl⟩

theorem converted_time (kind : t.kind = .time) (fits : t.scale ≤ 9) :
    (∃ v, (Logical.scaled n).value? o t = some v ∧ Stored (clockWord unit t.kind) v k) ↔
    Converted unit t (.scaled n) k := by
  have parts := units_of_parts .nanosecond n fits
  rw [unitsOf_nanosecond n fits] at parts
  have parts : secondsOf n t.scale * nanosPerSecond + nanosOf n t.scale = n * (10 ^ (9 - t.scale) : Nat) := by
    simpa [TimeUnit.digits, nanosPerSecond] using parts
  have inDay : 0 ≤ secondsOf n t.scale ∧ secondsOf n t.scale < 86400 ↔ 0 ≤ n ∧ n < 86400 * (10 ^ t.scale : Nat) := by
    rw [secondsOf, Int.ediv_nonneg_iff_of_pos (unit_pos _), Int.ediv_lt_iff_lt_mul (unit_pos _)]
  rw [Logical.value?, Logical.clock?, kind, clockWord]
  simp only [Option.map_eq_some_iff, time?_eq_some fits]
  constructor
  · rintro ⟨_, ⟨tm, ⟨second, nanos⟩, rfl⟩, stored⟩
    obtain rfl := stored_time.mp stored
    have below : (tm.second : Int) < 86400 := by exact_mod_cast tm.second_lt
    rw [second, nanos, parts]
    exact .time kind (inDay.mp ⟨by omega, by omega⟩)
  · intro converted
    cases converted with
    | timestamp other => simp [kind] at other
    | time _ within =>
      obtain ⟨nonneg, below⟩ := inDay.mpr within
      have nanos_lt := nanosOf_lt n fits
      have second : ((secondsOf n t.scale).toNat : Int) = secondsOf n t.scale := Int.toNat_of_nonneg nonneg
      refine ⟨_, ⟨⟨(secondsOf n t.scale).toNat, nanosOf n t.scale, ?_, by omega⟩, ⟨second, rfl⟩, rfl⟩, ?_⟩
      · simp only [secondsPerDay]
        omega
      · rw [stored_time]
        simp only [second, parts]

theorem converted_timestamp (kind : t.kind ∈ [.timestampNtz, .timestampLtz]) (fits : t.scale ≤ 9) :
    (∃ v, (Logical.scaled n).value? o t = some v ∧ Stored (clockWord unit t.kind) v k) ↔
    Converted unit t (.scaled n) k := by
  obtain ⟨zone, wrap, word, value, instant⟩ : ∃ zone wrap, clockWord unit t.kind = .timestamp unit zone ∧
      (Logical.scaled n).value? o t = (Logical.instant? n t.scale).map wrap ∧ ∀ i, instant? (wrap i) = some i := by
    simp only [List.mem_cons, List.not_mem_nil, or_false] at kind
    rcases kind with kind | kind
    · exact ⟨none, .timestampNtz, by rw [kind, clockWord], by rw [Logical.value?, Logical.clock?, kind], fun _ => rfl⟩
    · exact ⟨utcZone, .timestampLtz, by rw [kind]; rfl, by rw [Logical.value?, Logical.clock?, kind], fun _ => rfl⟩
  rw [value, word, converted_scaled kind]
  simp only [Option.map_eq_some_iff]
  constructor
  · rintro ⟨_, ⟨i, known, rfl⟩, stored⟩
    exact (stored_instant (instant i) fits known).mp stored
  · rintro ⟨units, held⟩
    obtain ⟨i, known⟩ := exists_instant units fits
    exact ⟨_, ⟨i, known, rfl⟩, (stored_instant (instant i) fits known).mpr ⟨units, held⟩⟩

theorem zoned?_eq_some {offset : Nat} {z : Zoned} :
    Logical.zoned? n scale offset = some z ↔ Logical.instant? n scale = some z.instant ∧
      (0 < offset ∧ offset < 2880) ∧ z.offset = ((offset : Int) - offsetBias) * 60 := by
  have inDay : (((offset : Int) - offsetBias) * 60).natAbs < secondsPerDay ↔ 0 < offset ∧ offset < 2880 := by
    simp only [offsetBias, secondsPerDay]
    omega
  rw [Logical.zoned?, Option.bind_eq_some_iff]
  constructor
  · rintro ⟨i, known, shifted⟩
    obtain ⟨within, same⟩ := Option.dite_none_right_eq_some.mp shifted
    cases same
    exact ⟨known, inDay.mp within, rfl⟩
  · rintro ⟨known, within, offset_eq⟩
    refine ⟨_, known, ?_⟩
    rw [Zoned.ofOffset?, dif_pos (inDay.mpr within)]
    simp only [← offset_eq]

theorem converted_zoned {offset : Nat} (kind : t.kind = .timestampTz) (fits : t.scale ≤ 9) :
    (∃ v, (Logical.zoned n offset).value? o t = some v ∧ Stored (clockWord unit t.kind) v k) ↔
      Converted unit t (.zoned n offset) k := by
  have word : clockWord unit t.kind = .timestamp unit utcZone := by
    rw [kind]
    rfl
  rw [Logical.value?, word]
  simp only [Option.map_eq_some_iff, zoned?_eq_some]
  constructor
  · rintro ⟨_, ⟨z, ⟨known, inDay, -⟩, rfl⟩, stored⟩
    obtain ⟨units, rfl⟩ := (stored_instant rfl fits known).mp stored
    exact .zoned kind inDay units
  · intro converted
    cases converted with
    | zoned _ inDay units =>
      obtain ⟨i, known⟩ := exists_instant units fits
      refine ⟨_, ⟨⟨i, ((offset : Int) - offsetBias) * 60, ?_⟩, ⟨known, inDay, rfl⟩, rfl⟩,
        (stored_instant rfl fits known).mpr ⟨units, rfl⟩⟩
      simp only [offsetBias, secondsPerDay]
      omega

theorem converted_iff {c : Column} {row : Nat} {l : Logical} (regular : t.Regular) (temporal : t.kind ∈ temporalKinds)
    (shown : Shows t c row l) :
    (∃ v, l.value? o t = some v ∧ Stored (clockWord unit t.kind) v k) ↔ Converted unit t l k := by
  rcases temporal_of_shows temporal shown with rfl | ⟨kind, n, rfl⟩ | ⟨clock, n, rfl⟩ | ⟨kind, n, offset, rfl⟩
  · exact converted_null
  · exact converted_date kind
  · have fits := regular.scale_le clock
    rcases List.mem_cons.mp clock with kind | kind
    · exact converted_time kind fits
    · exact converted_timestamp kind fits
  · exact converted_zoned kind (regular.seconds (by simp [kind]))

/-- Columns of dates and times are converted cell by cell. Days keep their number, times of day become
nanoseconds, and timestamps become the units of their count, rounded down, wherever these have a place; if a
cell has none the batch is refused. Nanoseconds with nine fraction digits stay as they are, but for the lowest
ones of 64 bits, which have no place. -/
theorem temporal_columns_convert {schema : Schema} {b : Batch} (counted : b.columns.length = schema.length) {j : Nat}
    {source : Field Column} (declared : schema[j]? = some t) (given : b.columns[j]? = some source)
    (regular : t.Everywhere ColumnType.Regular) (temporal : t.kind ∈ temporalKinds) {ls : List Logical}
    (length : ls.length = b.rows) (shown : ∀ (row : Nat) l, ls[row]? = some l → Shows t source.content row l) :
    ConvertsTo options o schema b j t source.content (clockWord options.timestampUnit t.kind)
      (List.Forall₂ (Converted options.timestampUnit t) ls) ∧
    (t.kind ∈ [.timestampNtz, .timestampLtz] → t.scale = 9 → ∀ n : Int,
      Converted .nanosecond t (.scaled n) (some n) ↔ lowestNanosecond ≤ n ∧ n ≤ 9223372036854775807) := by
  constructor
  · have checked : checkWord (clockWord options.timestampUnit t.kind) = .ok () := by
      cases t.kind <;> rfl
    refine convertsTo_of_cells counted declared given (targetType_temporal temporal) checked length ?_
    intro row l here k
    rw [← converted_iff (o := exactly o) regular.here temporal (shown row l here),
      ← toOption_value (ColumnCursor.carries_of_shows (shown row l here) regular)]
    simp only [toOption_eq_some]
  · intro kind nine n
    rw [converted_scaled kind, nine, unitsOf_nanosecond_nine]
    simp only [and_true]
    constructor
    · rintro ⟨_, inWord, aboveGap⟩
      rw [unitsOf_nanosecond_nine] at inWord aboveGap
      exact ⟨aboveGap rfl, inWord.2⟩
    · rintro ⟨low, high⟩
      simp only [lowestNanosecond] at low
      refine ⟨?_, ?_, fun _ => by rwa [unitsOf_nanosecond_nine]⟩
      · simp only [secondsOf, minSecond, maxSecond, minDay, maxDay, secondsPerDay]
        omega
      · rw [unitsOf_nanosecond_nine]
        simp only [Range.mem_def, Range.int64]
        omega

def nanosecondType : ColumnType := { name := "AT", kind := .timestampNtz, scale := 9 }

/-- Whole seconds and nanos: one nanosecond before the epoch, and a null. -/
def justBefore : Field Column :=
  ⟨"at", true, .struct [true, false]
    [⟨"epoch", false, .word .int64 [⟨true, -1⟩, ⟨true, 0⟩]⟩,
      ⟨"fraction", false, .word .int32 [⟨true, 999999999⟩, ⟨true, 0⟩]⟩]⟩

theorem temporal_columns_convert_justBefore :
    nanosecondType.kind ∈ temporalKinds ∧
    convertColumn { timestampUnit := .microsecond } {} 2 nanosecondType justBefore.content =
      .ok ⟨"AT", true, .word (.timestamp .microsecond none) [⟨true, -1⟩, ⟨false, 0⟩]⟩ := by
  have temporal : nanosecondType.kind ∈ temporalKinds := by decide
  have regular : nanosecondType.Everywhere ColumnType.Regular :=
    .intro ⟨by decide, by decide, by decide⟩ (fun _ member => nomatch member)
  have shown : ∀ (row : Nat) l, [Logical.scaled (-1), .null][row]? = some l →
      Shows nanosecondType justBefore.content row l := by
    intro row l here
    match row with
    | 0 =>
      cases here
      exact .parts (by decide) rfl rfl rfl (by decide) rfl rfl (by decide) rfl
    | 1 =>
      cases here
      exact .null rfl
    | row + 2 => cases here
  obtain ⟨converts, -⟩ := @temporal_columns_convert { timestampUnit := .microsecond } {} nanosecondType [nanosecondType]
    ⟨2, [justBefore]⟩ rfl 0 justBefore rfl rfl regular temporal [.scaled (-1), .null] rfl shown
  have units : HasUnits .microsecond (-1) nanosecondType.scale := ⟨by decide, by decide, nofun⟩
  have down : Converted .microsecond nanosecondType (.scaled (-1)) (some (-1)) := .timestamp (by decide) units
  exact ⟨temporal, (converts.column _).mpr ⟨[some (-1), none], .cons down (.cons .null .nil), rfl⟩⟩

/-- The lowest nanosecond of 64 bits is an instant of the calendar and fits, yet has no place. -/
theorem lowest_nanosecond_refused :
    (Logical.instant? (-9223372036854775808) 9).isSome = true ∧
    unitsOf .nanosecond (-9223372036854775808) 9 ∈ Range.int64 ∧
    convert {} {} [nanosecondType] ⟨1, [⟨"AT", true, .word .int64 [⟨true, -9223372036854775808⟩]⟩]⟩ =
      .error (.decode "column AT: cannot store timestamp_ntz value as Timestamp(ns)") := by
  refine ⟨by decide, by decide, rfl⟩

end RowStream.Columnar
