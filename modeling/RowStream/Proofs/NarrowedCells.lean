import RowStream.Proofs.Buildable
import RowStream.Proofs.Traversal

/-! # What a cell says of a value

A type has a cell for some values: each kind of value has its own rule, and structured cells have the cells of their
parts at the same places. -/
namespace RowStream.Columnar
open RowStream.Number RowStream.Calendar

/-- The integer that a number has without its point, and how many digits stand after the point. -/
inductive Exact : Value → Int → Nat → Prop
  | int (n : Int) : Exact (.int n) n 0
  | bigInt (n : Int) : Exact (.bigInt n) n 0
  | decimal (unscaled : Int) (own : Nat) : Exact (.decimal unscaled own) unscaled own

inductive Moment : Value → Instant → Prop
  | ntz (wall : Instant) : Moment (.timestampNtz wall) wall
  | ltz (i : Instant) : Moment (.timestampLtz i) i
  | tz (z : Zoned) : Moment (.timestampTz z) z.instant

def IsWord (n : Int) : Prop := -2 ^ 63 ≤ n ∧ n < 2 ^ 63

/-- How many of a unit are a second, and how many nanos are one of them. -/
inductive Subsecond : TimeUnit → Nat → Nat → Prop
  | milli : Subsecond .millisecond 1000 1000000
  | micro : Subsecond .microsecond 1000000 1000
  | nano : Subsecond .nanosecond 1000000000 1

/-- Units since the epoch, rounded down. The units of the whole seconds have to be a word by themselves. -/
inductive Counts : TimeUnit → Instant → Int → Prop
  | seconds (i : Instant) : Counts .second i i.second
  | finer {unit : TimeUnit} {i : Instant} {perSecond nanosEach : Nat} (rate : Subsecond unit perSecond nanosEach)
      (whole : IsWord (i.second * perSecond))
      (all : IsWord (i.second * perSecond + (i.nanos / nanosEach : Nat))) :
      Counts unit i (i.second * perSecond + (i.nanos / nanosEach : Nat))

/-- The cell that a type has for a value. -/
inductive Narrowed : DataType → Value → Cell → Prop
  | null {type : DataType} : Narrowed type .null .null
  | int (n : Int) : Narrowed (.word .int64) (.int n) (.int n)
  | bigInt {n : Int} (word : IsWord n) : Narrowed (.word .int64) (.bigInt n) (.int n)
  | decimal {precision : Nat} {scale : Int} {v : Value} {unscaled : Int} {own : Nat} (exact : Exact v unscaled own)
      (places : own ≤ scale) (low : -2 ^ 127 ≤ unscaled * 10 ^ (scale - own).toNat)
      (high : unscaled * 10 ^ (scale - own).toNat < 2 ^ 127) :
      Narrowed (.word (.decimal128 precision scale)) v (.int (unscaled * 10 ^ (scale - own).toNat))
  | date (d : Date) : Narrowed (.word .date32) (.date d) (.int d.day)
  | time (t : Time) : Narrowed (.word (.time64 .nanosecond)) (.time t) (.int (t.second * 1000000000 + t.nanos : Nat))
  | timestamp {unit : TimeUnit} {zone : Option String} {v : Value} {i : Instant} {n : Int} (moment : Moment v i)
      (counts : Counts unit i n) : Narrowed (.word (.timestamp unit zone)) v (.int n)
  | float (x : Binary64) : Narrowed .float64 (.float x) (.float x)
  | floatOfInt (n : Int) : Narrowed .float64 (.int n) (.float (Binary64.ofInt n))
  | floatOfBigInt (n : Int) : Narrowed .float64 (.bigInt n) (.float (Binary64.ofScaled n 0))
  | floatOfDecimal (unscaled : Int) (own : Nat) :
      Narrowed .float64 (.decimal unscaled own) (.float (Binary64.ofScaled unscaled own))
  | bool (b : Bool) : Narrowed .boolean (.bool b) (.bool b)
  | text (s : String) : Narrowed (.utf8 false) (.text s) (.text s)
  | binary (bytes : List UInt8) : Narrowed (.binary false) (.binary bytes) (.binary bytes)
  | struct {fields : List (Field DataType)} {parts : List (String × Value)} {cells : List Cell}
      (names : fields.map (·.name) = parts.map (·.1)) (length_eq : cells.length = parts.length)
      (present : ∀ (i : Nat) (f : Field DataType) (p : String × Value), fields[i]? = some f → parts[i]? = some p →
        f.nullable = false → p.2 ≠ .null)
      (narrowed : ∀ (i : Nat) (f : Field DataType) (p : String × Value) cell, fields[i]? = some f →
        parts[i]? = some p → cells[i]? = some cell → Narrowed f.content p.2 cell) :
      Narrowed (.struct fields) (.object parts) (.struct cells)
  | list {item : Field DataType} {items : List Value} {cells : List Cell} (length_eq : cells.length = items.length)
      (present : ∀ v ∈ items, item.nullable = false → v ≠ .null)
      (narrowed : ∀ (i : Nat) v cell, items[i]? = some v → cells[i]? = some cell → Narrowed item.content v cell) :
      Narrowed (.list false item) (.array items) (.list cells)
  | map {form : EntriesForm} {key value : Field DataType} {entries : List (Value × Value)} {cells : List (Cell × Cell)}
      (length_eq : cells.length = entries.length)
      (present : ∀ e ∈ entries, (key.nullable = false → e.1 ≠ .null) ∧ (value.nullable = false → e.2 ≠ .null))
      (keys : ∀ (i : Nat) (e : Value × Value) (c : Cell × Cell), entries[i]? = some e → cells[i]? = some c →
        Narrowed key.content e.1 c.1)
      (values : ∀ (i : Nat) (e : Value × Value) (c : Cell × Cell), entries[i]? = some e → cells[i]? = some c →
        Narrowed value.content e.2 c.2) :
      Narrowed (.map form key value) (.map entries) (.map cells)

/-- The cell of a field, which may refuse nulls. -/
structure NarrowedField (f : Field DataType) (v : Value) (cell : Cell) : Prop where
  present : f.nullable = false → v ≠ .null
  narrowed : Narrowed f.content v cell

variable {v : Value} {n : Int} {cell : Cell} {unit : TimeUnit} {scale : Int} {i : Instant}

theorem narrowDecimal?_eq {unscaled : Int} {own : Nat} (exact : Exact v unscaled own) (scale : Int) :
    narrowDecimal? scale v =
      if (own : Int) ≤ scale then int128.within? (unscaled * (10 ^ (scale - own).toNat : Nat)) else none := by
  cases exact <;> rfl

theorem exists_exact (narrowed : narrowDecimal? scale v = some n) : ∃ unscaled own, Exact v unscaled own := by
  cases v with
  | int n => exact ⟨n, 0, .int n⟩
  | bigInt n => exact ⟨n, 0, .bigInt n⟩
  | decimal unscaled own => exact ⟨unscaled, own, .decimal unscaled own⟩
  | _ => cases narrowed

theorem mem_int64_iff : n ∈ Range.int64 ↔ IsWord n := by
  have low : Range.int64.low = -9223372036854775808 := rfl
  have high : Range.int64.high = 9223372036854775807 := rfl
  rw [Range.mem_def, IsWord, low, high]
  omega

theorem inUnit?_of_subsecond {perSecond nanosEach : Nat} (rate : Subsecond unit perSecond nanosEach) :
    inUnit? unit i = some n ↔ IsWord (i.second * perSecond) ∧
      IsWord (i.second * perSecond + (i.nanos / nanosEach : Nat)) ∧
      i.second * perSecond + (i.nanos / nanosEach : Nat) = n := by
  have finer : inUnit? unit i = (Range.int64.within? (i.second * perSecond)).bind fun whole =>
      Range.int64.within? (whole + (i.nanos / nanosEach : Nat)) := by
    cases rate <;> rfl
  rw [finer, Option.bind_eq_some_iff]
  simp only [Range.within?_eq_some, mem_int64_iff]
  constructor
  · rintro ⟨_, ⟨whole, rfl⟩, all, rfl⟩
    exact ⟨whole, all, rfl⟩
  · rintro ⟨whole, all, rfl⟩
    exact ⟨_, ⟨whole, rfl⟩, all, rfl⟩

theorem inUnit?_counts : inUnit? unit i = some n ↔ Counts unit i n := by
  constructor
  · intro found
    have finer {perSecond nanosEach : Nat} (rate : Subsecond unit perSecond nanosEach) : Counts unit i n := by
      obtain ⟨whole, all, rfl⟩ := (inUnit?_of_subsecond rate).mp found
      exact .finer rate whole all
    cases unit with
    | second =>
      cases found
      exact .seconds i
    | millisecond => exact finer .milli
    | microsecond => exact finer .micro
    | nanosecond => exact finer .nano
  · rintro (_ | ⟨rate, whole, all⟩)
    · rfl
    · exact (inUnit?_of_subsecond rate).mpr ⟨whole, all, rfl⟩

theorem instant?_moment : instant? v = some i ↔ Moment v i := by
  constructor
  · intro found
    cases v with
    | timestampNtz _ | timestampLtz _ | timestampTz _ =>
      cases found
      constructor
    | _ => cases found
  · rintro ⟨⟩ <;> rfl

theorem narrowDecimal?_narrowed (precision : Nat) :
    narrowDecimal? scale v = some n ↔ Narrowed (.word (.decimal128 precision scale)) v (.int n) := by
  have low : int128.low = -170141183460469231731687303715884105728 := rfl
  have high : int128.high = 170141183460469231731687303715884105727 := rfl
  constructor
  · intro narrowed
    obtain ⟨unscaled, own, exact⟩ := exists_exact narrowed
    rw [narrowDecimal?_eq exact, Option.ite_none_right_eq_some, Range.within?_eq_some, Range.mem_def] at narrowed
    obtain ⟨places, ⟨above, below⟩, rfl⟩ := narrowed
    push_cast at above below ⊢
    exact .decimal exact places (by omega) (by omega)
  · rintro (_ | _ | _ | ⟨exact, places, above, below⟩)
    rw [narrowDecimal?_eq exact, Option.ite_none_right_eq_some, Range.within?_eq_some, Range.mem_def]
    push_cast
    exact ⟨places, ⟨by omega, by omega⟩, rfl⟩

theorem narrowWord?_narrowed {w : WordType} : narrowWord? w v = some n ↔ Narrowed (.word w) v (.int n) := by
  constructor
  · intro narrowed
    cases w with
    | int64 =>
      cases v with
      | int m =>
        obtain rfl := Option.some.inj narrowed
        exact .int m
      | bigInt m =>
        obtain ⟨word, rfl⟩ := Range.within?_eq_some.mp narrowed
        exact .bigInt (mem_int64_iff.mp word)
      | _ => cases narrowed
    | decimal128 precision scale => exact (narrowDecimal?_narrowed precision).mp narrowed
    | date32 =>
      cases v with
      | date d =>
        obtain rfl := Option.some.inj narrowed
        exact .date d
      | _ => cases narrowed
    | time64 unit =>
      cases unit with
      | nanosecond =>
        cases v with
        | time t =>
          obtain rfl := Option.some.inj narrowed
          exact .time t
        | _ => cases narrowed
      | _ => simp [narrowWord?] at narrowed
    | timestamp unit zone =>
      obtain ⟨i, found, counts⟩ := Option.bind_eq_some_iff.mp narrowed
      exact .timestamp (instant?_moment.mp found) (inUnit?_counts.mp counts)
    | _ => simp [narrowWord?] at narrowed
  · intro narrowed
    cases narrowed with
    | int | date | time => rfl
    | bigInt word => exact Range.within?_eq_some.mpr ⟨mem_int64_iff.mpr word, rfl⟩
    | decimal exact places low high => exact (narrowDecimal?_narrowed 0).mpr (.decimal exact places low high)
    | timestamp moment counts =>
      exact Option.bind_eq_some_iff.mpr ⟨_, instant?_moment.mpr moment, inUnit?_counts.mpr counts⟩

theorem unlessNull_eq_some_iff {found : Option Cell} :
    unlessNull v found = some cell ↔ v = .null ∧ cell = .null ∨ v ≠ .null ∧ found = some cell := by
  cases v <;> simp [unlessNull, Value.isNull, eq_comm]

theorem narrowField?_eq_some_iff {f : Field DataType} :
    narrowField? f v = some cell ↔ (f.nullable = false → v ≠ .null) ∧ narrow? f.content v = some cell := by
  obtain ⟨name, nullable, type⟩ := f
  rw [narrowField?]
  cases nullable <;> cases v <;> simp [Value.isNull]

theorem forall₂_iff_getElem? {α β : Type} {r : α → β → Prop} {xs : List α} {ys : List β} :
    List.Forall₂ r xs ys ↔
      ys.length = xs.length ∧ ∀ (i : Nat) x y, xs[i]? = some x → ys[i]? = some y → r x y := by
  constructor
  · intro h
    refine ⟨h.length_eq.symm, fun i x y there here => ?_⟩
    obtain ⟨z, same, holds⟩ := get_of_forall₂ h there
    obtain rfl := Option.some.inj (same.symm.trans here)
    exact holds
  · rintro ⟨length_eq, h⟩
    exact forall₂_of_get length_eq h

/-- The fields of an object are narrowed at their places, under the names of the type. -/
theorem narrowFields?_eq_some_iff {fields : List (Field DataType)} {parts : List (String × Value)}
    {cells : List Cell} : narrowFields? fields parts = some cells ↔
      fields.map (·.name) = parts.map (·.1) ∧ cells.length = parts.length ∧
      ∀ (i : Nat) f (p : String × Value) c, fields[i]? = some f → parts[i]? = some p → cells[i]? = some c →
        narrowField? f p.2 = some c := by
  induction fields generalizing parts cells with
  | nil =>
    cases parts with
    | nil => cases cells <;> simp [narrowFields?]
    | cons => simp [narrowFields?]
  | cons f fs ih =>
    cases parts with
    | nil => simp [narrowFields?]
    | cons p ps =>
      rw [narrowFields?, List.map_cons, List.map_cons, List.cons.injEq]
      cases cells with
      | nil => simp [Option.bind_eq_some_iff]
      | cons c cs =>
        rw [← Nat.and_forall_add_one]
        simp only [Option.ite_none_right_eq_some, Option.bind_eq_bind, Option.bind_eq_some_iff, Option.some.injEq,
          List.cons.injEq, List.length_cons, Nat.add_right_cancel_iff, List.getElem?_cons_zero,
          List.getElem?_cons_succ]
        constructor
        · rintro ⟨name, c', first, cs', rest, rfl, rfl⟩
          obtain ⟨names, length_eq, later⟩ := ih.mp rest
          refine ⟨⟨name, names⟩, length_eq, ?_, later⟩
          rintro _ _ _ rfl rfl rfl
          exact first
        · rintro ⟨⟨name, names⟩, length_eq, first, later⟩
          exact ⟨name, c, first f p c rfl rfl rfl, cs, ih.mpr ⟨names, length_eq, later⟩, rfl, rfl⟩

theorem Narrowed.null_iff {type : DataType} (narrowed : Narrowed type v cell) : v = .null ↔ cell = .null := by
  constructor
  · rintro rfl
    cases narrowed with
    | null => rfl
    | decimal exact => cases exact
    | timestamp moment => cases moment
  · rintro rfl
    cases narrowed
    rfl

/-- Everything but a null is narrowed by the rule of the type. -/
theorem unlessNull_narrowed {type : DataType} {found : Option Cell}
    (rule : v ≠ .null → (found = some cell ↔ Narrowed type v cell)) :
    unlessNull v found = some cell ↔ Narrowed type v cell := by
  rw [unlessNull_eq_some_iff]
  by_cases null : v = .null
  · subst null
    constructor
    · rintro (⟨_, rfl⟩ | ⟨filled, _⟩)
      · exact .null
      · exact (filled rfl).elim
    · intro narrowed
      exact .inl ⟨rfl, narrowed.null_iff.mp rfl⟩
  · simp [null, rule null]

theorem narrow?_word {w : WordType} : narrow? (.word w) v = some cell ↔ Narrowed (.word w) v cell := by
  rw [narrow?]
  refine unlessNull_narrowed fun filled => ?_
  rw [Option.map_eq_some_iff]
  constructor
  · rintro ⟨n, found, rfl⟩
    exact narrowWord?_narrowed.mp found
  · intro narrowed
    obtain ⟨n, rfl⟩ : ∃ n, cell = .int n := by
      cases narrowed with
      | null => exact (filled rfl).elim
      | _ => exact ⟨_, rfl⟩
    exact ⟨n, narrowWord?_narrowed.mpr narrowed, rfl⟩

theorem narrow?_float64 : narrow? .float64 v = some cell ↔ Narrowed .float64 v cell := by
  rw [narrow?]
  refine unlessNull_narrowed fun filled => ?_
  constructor
  · intro found
    cases v with
    | float _ | int _ | bigInt _ | decimal _ _ =>
      cases found
      constructor
    | _ => cases found
  · intro narrowed
    cases narrowed with
    | null => exact (filled rfl).elim
    | _ => rfl

/-- A type whose cells are what values of one kind hold. -/
theorem unlessNull_own {α : Type} {type : DataType} {leaf? : Value → Option α} {make : α → Value} {wrap : α → Cell}
    (kind : ∀ a, leaf? v = some a ↔ v = make a) (own : ∀ a, Narrowed type (make a) (wrap a))
    (only : Narrowed type v cell → v = .null ∨ ∃ a, v = make a ∧ wrap a = cell) :
    unlessNull v ((leaf? v).map wrap) = some cell ↔ Narrowed type v cell := by
  refine unlessNull_narrowed fun filled => ?_
  rw [Option.map_eq_some_iff]
  constructor
  · rintro ⟨a, found, rfl⟩
    rw [(kind a).mp found]
    exact own a
  · intro narrowed
    obtain ⟨a, made, wrapped⟩ := (only narrowed).resolve_left filled
    exact ⟨a, (kind a).mpr made, wrapped⟩

theorem narrow?_boolean : narrow? .boolean v = some cell ↔ Narrowed .boolean v cell := by
  rw [narrow?]
  refine unlessNull_own (fun b => by cases v <;> simp [boolean?]) .bool ?_
  rintro (_ | _) <;> simp

theorem narrow?_binary : narrow? (.binary false) v = some cell ↔ Narrowed (.binary false) v cell := by
  rw [narrow?]
  refine unlessNull_own (fun bytes => by cases v <;> simp [bytes?]) .binary ?_
  rintro (_ | _) <;> simp

theorem narrow?_utf8 : narrow? (.utf8 false) v = some cell ↔ Narrowed (.utf8 false) v cell := by
  rw [narrow?]
  refine unlessNull_own (fun s => by cases v <;> simp [text?]) .text ?_
  rintro (_ | _) <;> simp

theorem objectFields?_eq_some {parts : List (String × Value)} : objectFields? v = some parts ↔ v = .object parts := by
  cases v <;> simp [objectFields?]

theorem arrayParts?_eq_some (filled : v ≠ .null) {items : List Value} :
    arrayParts? v = some items ↔ v = .array items := by
  cases v with
  | null => exact (filled rfl).elim
  | _ => simp [arrayParts?]

theorem mapParts?_eq_some (filled : v ≠ .null) {entries : List (Value × Value)} :
    mapParts? v = some entries ↔ v = .map entries := by
  cases v with
  | null => exact (filled rfl).elim
  | _ => simp [mapParts?]

theorem narrow?_struct {fields : List (Field DataType)}
    (rule : ∀ f ∈ fields, ∀ {v cell}, narrow? f.content v = some cell ↔ Narrowed f.content v cell) :
    narrow? (.struct fields) v = some cell ↔ Narrowed (.struct fields) v cell := by
  rw [narrow?]
  refine unlessNull_narrowed fun filled => ?_
  rw [Option.bind_eq_some_iff]
  simp only [Option.map_eq_some_iff, objectFields?_eq_some, narrowFields?_eq_some_iff, narrowField?_eq_some_iff]
  constructor
  · rintro ⟨parts, rfl, cells, ⟨names, length_eq, each⟩, rfl⟩
    refine .struct names length_eq ?_ ?_
    · intro i f p declared given
      have inside : i < cells.length := length_eq ▸ (List.getElem?_eq_some_iff.mp given).1
      exact (each i f p _ declared given (List.getElem?_eq_getElem inside)).1
    · intro i f p c declared given here
      exact (rule f (List.mem_of_getElem? declared)).mp (each i f p c declared given here).2
  · intro narrowed
    cases narrowed with
    | null => exact (filled rfl).elim
    | @struct _ parts cells names length_eq present narrowed =>
      refine ⟨parts, rfl, cells, ⟨names, length_eq, ?_⟩, rfl⟩
      intro i f p c declared given here
      exact ⟨present i f p declared given,
        (rule f (List.mem_of_getElem? declared)).mpr (narrowed i f p c declared given here)⟩

theorem narrow?_list {name : String} {type : DataType}
    (rule : ∀ {v cell}, narrow? type v = some cell ↔ Narrowed type v cell) :
    narrow? (.list false ⟨name, true, type⟩) v = some cell ↔ Narrowed (.list false ⟨name, true, type⟩) v cell := by
  rw [narrow?]
  refine unlessNull_narrowed fun filled => ?_
  rw [Option.bind_eq_some_iff]
  simp only [Option.map_eq_some_iff, arrayParts?_eq_some filled, mapM_eq_some, forall₂_iff_getElem?,
    narrowField?_eq_some_iff]
  constructor
  · rintro ⟨items, rfl, cells, ⟨length_eq, each⟩, rfl⟩
    refine .list length_eq (by simp) ?_
    intro i v c given here
    exact rule.mp (each i v c given here).2
  · intro narrowed
    cases narrowed with
    | null => exact (filled rfl).elim
    | @list _ items cells length_eq present narrowed =>
      refine ⟨items, rfl, cells, ⟨length_eq, ?_⟩, rfl⟩
      intro i v c given here
      exact ⟨present v (List.mem_of_getElem? given), rule.mpr (narrowed i v c given here)⟩

theorem narrow?_map {form : EntriesForm} {keyName valueName : String} {key value : DataType}
    (keyRule : ∀ {v cell}, narrow? key v = some cell ↔ Narrowed key v cell)
    (valueRule : ∀ {v cell}, narrow? value v = some cell ↔ Narrowed value v cell) :
    narrow? (.map form ⟨keyName, false, key⟩ ⟨valueName, true, value⟩) v = some cell ↔
      Narrowed (.map form ⟨keyName, false, key⟩ ⟨valueName, true, value⟩) v cell := by
  rw [narrow?]
  refine unlessNull_narrowed fun filled => ?_
  rw [Option.bind_eq_some_iff]
  simp only [Option.map_eq_some_iff, mapParts?_eq_some filled, mapM_eq_some, forall₂_iff_getElem?,
    Option.bind_eq_bind, Option.bind_eq_some_iff, narrowField?_eq_some_iff, Option.some.injEq]
  constructor
  · rintro ⟨entries, rfl, cells, ⟨length_eq, each⟩, rfl⟩
    refine .map length_eq ?_ ?_ ?_
    · intro e member
      obtain ⟨i, given⟩ := List.mem_iff_getElem?.mp member
      have inside : i < cells.length := length_eq ▸ (List.getElem?_eq_some_iff.mp given).1
      obtain ⟨_, ⟨key, _⟩, _, ⟨value, _⟩, _⟩ := each i e _ given (List.getElem?_eq_getElem inside)
      exact ⟨fun _ => key trivial, value⟩
    · intro i e c given here
      obtain ⟨_, ⟨_, key⟩, _, _, rfl⟩ := each i e c given here
      exact keyRule.mp key
    · intro i e c given here
      obtain ⟨_, _, _, ⟨_, value⟩, rfl⟩ := each i e c given here
      exact valueRule.mp value
  · intro narrowed
    cases narrowed with
    | null => exact (filled rfl).elim
    | @map _ _ _ entries cells length_eq present keys values =>
      refine ⟨entries, rfl, cells, ⟨length_eq, ?_⟩, rfl⟩
      intro i e c given here
      obtain ⟨key, value⟩ := present e (List.mem_of_getElem? given)
      exact ⟨c.1, ⟨fun _ => key rfl, keyRule.mpr (keys i e c given here)⟩, c.2,
        ⟨value, valueRule.mpr (values i e c given here)⟩, rfl⟩

/-- The cell that a column shows for a value is the one that its type has for it. -/
theorem narrow?_eq_some_iff {type : DataType} (target : Target (fun _ => True) type) :
    narrow? type v = some cell ↔ Narrowed type v cell := by
  induction target generalizing v cell with
  | word => exact narrow?_word
  | float64 => exact narrow?_float64
  | boolean => exact narrow?_boolean
  | binary => exact narrow?_binary
  | utf8 => exact narrow?_utf8
  | struct _ _ ih => exact narrow?_struct ih
  | list _ ih => exact narrow?_list ih
  | map _ _ ihk ihv => exact narrow?_map ihk ihv

theorem narrowField?_eq_some_iff_narrowed {f : Field DataType} (target : Target (fun _ => True) f.content) :
    narrowField? f v = some cell ↔ NarrowedField f v cell := by
  rw [narrowField?_eq_some_iff, narrow?_eq_some_iff target]
  exact ⟨fun ⟨present, narrowed⟩ => ⟨present, narrowed⟩, fun ⟨present, narrowed⟩ => ⟨present, narrowed⟩⟩

end RowStream.Columnar
