import RowStream.Proofs.Traversal
import RowStream.Decode.Scalar

/-! # Clock values that can be read

However a time of day or a timestamp is found in a text, a leap second follows the last second of a minute, and a
clock is whole minutes away from UTC. The texts in which such values are written say no more than that. -/
namespace RowStream.Calendar
open RowStream.Text RowStream.Number

/-- A leap second follows the last second of a minute. -/
def Time.Regular (t : Time) : Prop := nanosPerSecond ≤ t.nanos → t.second % 60 = 59

@[inherit_doc Time.Regular]
def Instant.Regular (i : Instant) : Prop := nanosPerSecond ≤ i.nanos → i.second % 60 = 59

structure Zoned.Regular (z : Zoned) : Prop where
  instant : z.instant.Regular
  minutes : 60 ∣ z.offset

theorem Time.regular_of_ofParts? {second nanos : Nat} {t : Time} (found : ofParts? second nanos = some t) :
    t.Regular := by
  rw [ofParts?] at found
  split at found
  · split at found
    · cases found
    · rename_i noLeap
      cases found
      intro leap
      by_contra other
      exact noLeap ⟨leap, other⟩
  · cases found

theorem Time.regular_of_ofClock? {hour minute second nanos : Nat} {t : Time}
    (found : ofClock? hour minute second nanos = some t) : t.Regular := by
  rw [ofClock?] at found
  split at found
  · exact regular_of_ofParts? found
  · cases found

theorem Instant.ofSecond?_eq_some {second : Int} {nanos : Nat} {i : Instant} :
    ofSecond? second nanos = some i ↔ i.second = second ∧ i.nanos = nanos := by
  rw [ofSecond?]
  constructor
  · intro found
    split at found
    · cases found
      exact ⟨rfl, rfl⟩
    · cases found
  · rintro ⟨rfl, rfl⟩
    rw [dif_pos ⟨i.inRange, i.nanos_lt⟩]

theorem Instant.regular_of_ofParts? {second : Int} {nanos : Nat} {i : Instant}
    (found : ofParts? second nanos = some i) : i.Regular := by
  rw [ofParts?] at found
  split at found
  · cases found
  · rename_i noLeap
    obtain ⟨rfl, rfl⟩ := ofSecond?_eq_some.mp found
    intro leap
    by_contra other
    exact noLeap ⟨leap, other⟩

theorem Instant.regular_ofDateTime {d : Date} {t : Time} (regular : t.Regular) : (ofDateTime d t).Regular := by
  intro leap
  have last := regular leap
  simp only [ofDateTime, secondsPerDay]
  omega

theorem Zoned.ofOffset?_eq_some {i : Instant} {offset : Int} {z : Zoned} :
    ofOffset? i offset = some z ↔ z.instant = i ∧ z.offset = offset := by
  rw [ofOffset?]
  constructor
  · intro found
    split at found
    · cases found
      exact ⟨rfl, rfl⟩
    · cases found
  · rintro ⟨rfl, rfl⟩
    rw [dif_pos z.offset_lt]

theorem Zoned.ofWallClock?_eq_some {wall : Instant} {offset : Int} {z : Zoned} :
    ofWallClock? wall offset = some z ↔
      z.instant.second = wall.second - offset ∧ z.instant.nanos = wall.nanos ∧ z.offset = offset := by
  simp only [ofWallClock?, Option.bind_eq_bind, Option.bind_eq_some_iff, ofOffset?_eq_some, Instant.ofSecond?_eq_some]
  constructor
  · rintro ⟨i, ⟨second, nanos⟩, rfl, offset⟩
    exact ⟨second, nanos, offset⟩
  · rintro ⟨second, nanos, offset⟩
    exact ⟨z.instant, ⟨second, nanos⟩, rfl, offset⟩

/-- Whole minutes keep the place within a minute. -/
theorem Zoned.regular_of_ofWallClock? {wall : Instant} {offset : Int} {z : Zoned} (regular : wall.Regular)
    (minutes : 60 ∣ offset) (found : ofWallClock? wall offset = some z) : z.Regular := by
  obtain ⟨second, nanos, rfl⟩ := ofWallClock?_eq_some.mp found
  refine ⟨fun leap => ?_, minutes⟩
  have last := regular (nanos ▸ leap)
  omega

/-- The offset that was read, if any, is whole minutes. -/
def Fields.WholeMinutes (f : Fields) : Prop := ∀ offset, f.offset = some offset → 60 ∣ offset

namespace Fields

theorem regular_of_time? {f : Fields} {t : Time} (found : f.time? = some t) : t.Regular := by
  simp only [time?, Option.bind_eq_bind, Option.bind_eq_some_iff] at found
  obtain ⟨half, -, hour, -, minute, -, made⟩ := found
  split at made
  · cases made
  · exact Time.regular_of_ofClock? made

theorem regular_of_wallClock? {f : Fields} {i : Instant} (found : f.wallClock? = some i) : i.Regular := by
  simp only [wallClock?, Option.bind_eq_bind, Option.bind_eq_some_iff] at found
  obtain ⟨d, -, t, time, made⟩ := found
  cases made
  exact Instant.regular_ofDateTime (regular_of_time? time)

theorem regular_of_zoned? {f : Fields} {z : Zoned} (minutes : f.WholeMinutes) (found : f.zoned? = some z) :
    z.Regular := by
  simp only [zoned?, Option.bind_eq_bind, Option.bind_eq_some_iff] at found
  obtain ⟨wall, clock, offset, given, made⟩ := found
  exact Zoned.regular_of_ofWallClock? (regular_of_wallClock? clock) (minutes offset given) made

theorem agree_eq_some {α : Type} [DecidableEq α] {old : Option α} {new : α} {result : Option α}
    (found : agree old new = some result) : result = some new := by
  rw [agree.eq_def] at found
  split at found
  · split at found
    · cases found
      rfl
    · cases found
  · cases found
    rfl

theorem wholeMinutes_setOffset {f g : Fields} {n : Int} (minutes : 60 ∣ n) (found : f.setOffset n = some g) :
    g.WholeMinutes := by
  simp only [setOffset, Option.bind_eq_bind, Option.bind_eq_some_iff] at found
  obtain ⟨offset, agreed, made⟩ := found
  cases made
  intro m given
  rw [agree_eq_some agreed] at given
  cases given
  exact minutes

end Fields

/-- Hours and minutes make whole minutes. -/
theorem minutes_of_offset? {separator : List Char → Option (List Char)} {optional : Bool} {cs rest : List Char}
    {n : Int} (found : offset? separator optional cs = some (n, rest)) : 60 ∣ n := by
  simp only [offset?, Option.bind_eq_bind] at found
  split at found
  case h_4 => cases found
  all_goals
    simp only [Option.bind_some, Option.bind_eq_some_iff] at found
    obtain ⟨⟨hours, after⟩, -, between, -, made⟩ := found
    split at made
    · cases made
      omega
    · obtain ⟨⟨minutes, left⟩, -, made⟩ := Option.bind_eq_some_iff.mp made
      split at made
      · cases made
        omega
      · cases made

theorem minutes_of_offsetOrZulu? {separator : List Char → Option (List Char)} {optional : Bool} {cs rest : List Char}
    {n : Int} (found : offsetOrZulu? separator optional cs = some (n, rest)) : 60 ∣ n := by
  rw [offsetOrZulu?.eq_def] at found
  split at found
  · cases found
    exact Int.dvd_zero 60
  · cases found
    exact Int.dvd_zero 60
  · exact minutes_of_offset? found

namespace Pattern

/-- A field other than an offset leaves the offset as it is. -/
theorem offset_of_store {α : Type} {set : Fields → α → Option Fields} {f g : Fields} {s : Option (α × List Char)}
    {rest : List Char} (keeps : ∀ a g, set f a = some g → g.offset = f.offset)
    (found : store set f s = some (g, rest)) :
    g.offset = f.offset := by
  simp only [store, Option.bind_eq_bind, Option.bind_eq_some_iff] at found
  obtain ⟨⟨a, left⟩, -, h, stored, made⟩ := found
  cases made
  exact keeps a g stored

theorem wholeMinutes_of_store {f g : Fields} {s : Option (Int × List Char)} {rest : List Char}
    (minutes : ∀ n left, s = some (n, left) → 60 ∣ n) (found : store Fields.setOffset f s = some (g, rest)) :
    g.WholeMinutes := by
  simp only [store, Option.bind_eq_bind, Option.bind_eq_some_iff] at found
  obtain ⟨⟨n, left⟩, read, h, stored, made⟩ := found
  cases made
  exact Fields.wholeMinutes_setOffset (minutes n left read) stored

variable {f g : Fields} {cs rest : List Char}

theorem wholeMinutes_of_readField {field : Field} (whole : f.WholeMinutes)
    (found : readField field f cs = some (g, rest)) :
    g.WholeMinutes := by
  have kept : ∀ {h : Fields}, h.offset = f.offset → h.WholeMinutes := fun same n given => whole n (same ▸ given)
  cases field with
  | offset => exact wholeMinutes_of_store (fun _ _ => minutes_of_offset?) found
  | colonOffset => exact wholeMinutes_of_store (fun _ _ => minutes_of_offset?) found
  | looseOffset => exact wholeMinutes_of_store (fun _ _ => minutes_of_offsetOrZulu?) found
  | fraction =>
    rw [readField.eq_def] at found
    simp only at found
    split at found
    · refine kept (offset_of_store (fun a h stored => ?_) found)
      simp only [Fields.setNanos, Option.bind_eq_bind, Option.bind_eq_some_iff] at stored
      obtain ⟨_, _, _, _, made⟩ := stored
      cases made
      rfl
    · cases found
      exact whole
  | year =>
    refine kept (offset_of_store (fun a h stored => ?_) found)
    simp only [Fields.setYear] at stored
    split at stored
    · obtain ⟨_, _, made⟩ := Option.bind_eq_some_iff.mp stored
      cases made
      rfl
    · cases stored
  | weekdayName | halfDay =>
    refine kept (offset_of_store (fun a h stored => ?_) found)
    obtain ⟨_, _, made⟩ := Option.bind_eq_some_iff.mp stored
    cases made
    rfl
  | hour =>
    refine kept (offset_of_store (fun a h stored => ?_) found)
    simp only [Fields.setHour, Option.bind_eq_bind, Option.bind_eq_some_iff] at stored
    obtain ⟨_, _, _, _, _, _, made⟩ := stored
    cases made
    rfl
  | monthName | longMonthName =>
    refine kept (@offset_of_store _ (fun f i => f.setMonth (i + 1)) _ _ _ _ (fun a h stored => ?_) found)
    obtain ⟨_, _, stored⟩ := Option.bind_eq_some_iff.mp stored
    obtain ⟨_, _, made⟩ := Option.bind_eq_some_iff.mp stored
    cases made
    rfl
  | shortYear | month | day | hour12 | minute | second =>
    refine kept (offset_of_store (fun a h stored => ?_) found)
    obtain ⟨_, _, stored⟩ := Option.bind_eq_some_iff.mp stored
    obtain ⟨_, _, made⟩ := Option.bind_eq_some_iff.mp stored
    cases made
    rfl

theorem wholeMinutes_of_readItem {item : Item} (whole : f.WholeMinutes) (found : readItem item f cs = some (g, rest)) :
    g.WholeMinutes := by
  cases item with
  | field field => exact wholeMinutes_of_readField whole found
  | literal c =>
    simp only [readItem] at found
    split at found
    · split at found
      · cases found
        exact whole
      · cases found
    · cases found
  | blank =>
    cases found
    exact whole
  | unknown => cases found

theorem wholeMinutes_of_readAll {items : List Item} (whole : f.WholeMinutes) (found : readAll items f cs = some g) :
    g.WholeMinutes := by
  induction items generalizing f cs with
  | nil =>
    rw [readAll] at found
    split at found
    · cases found
      exact whole
    · cases found
  | cons item items ih =>
    obtain ⟨⟨h, left⟩, first, later⟩ := Option.bind_eq_some_iff.mp found
    exact ih (wholeMinutes_of_readItem whole first) later

theorem wholeMinutes_of_read? {pattern : List Char} (found : read? pattern cs = some g) : g.WholeMinutes :=
  wholeMinutes_of_readAll (fun _ given => by cases given) found

end Pattern

theorem Time.regular_of_read? {pattern cs : List Char} {t : Time} (found : Time.read? pattern cs = some t) :
    t.Regular := by
  obtain ⟨f, -, made⟩ := Option.bind_eq_some_iff.mp found
  exact Fields.regular_of_time? made

theorem Instant.regular_of_read? {pattern cs : List Char} {i : Instant} (found : Instant.read? pattern cs = some i) :
    i.Regular := by
  obtain ⟨f, -, made⟩ := Option.bind_eq_some_iff.mp found
  exact Fields.regular_of_wallClock? made

theorem Zoned.regular_of_read? {pattern cs : List Char} {z : Zoned} (found : Zoned.read? pattern cs = some z) :
    z.Regular := by
  obtain ⟨f, read, made⟩ := Option.bind_eq_some_iff.mp found
  exact Fields.regular_of_zoned? (Pattern.wholeMinutes_of_read? read) made

/-- The internet form ends with an offset, which is stored beside the fields before it. -/
theorem Zoned.fields_of_readInternet? {cs : List Char} {z : Zoned} (found : Zoned.readInternet? cs = some z) :
    ∃ (f g : Fields) (offset : Int) (rest left : List Char), offsetOrZulu? oneColon false rest = some (offset, left) ∧
      f.setOffset offset = some g ∧ g.zoned? = some z := by
  unfold Zoned.readInternet? at found
  iterate 18 obtain ⟨_, -, found⟩ := Option.bind_eq_some_iff.mp found
  obtain ⟨⟨offset, left⟩, zone, made⟩ := Option.bind_eq_some_iff.mp found
  dsimp only at made
  split at made
  · obtain ⟨g, stored, made⟩ := Option.bind_eq_some_iff.mp made
    exact ⟨_, g, offset, _, left, zone, stored, made⟩
  · cases made

theorem Zoned.regular_of_readInternet? {cs : List Char} {z : Zoned} (found : Zoned.readInternet? cs = some z) :
    z.Regular := by
  obtain ⟨f, g, offset, rest, left, zone, stored, made⟩ := Zoned.fields_of_readInternet? found
  exact Fields.regular_of_zoned? (Fields.wholeMinutes_setOffset (minutes_of_offsetOrZulu? zone) stored) made

end RowStream.Calendar

namespace RowStream.Decode
open RowStream.Text RowStream.Number RowStream.Calendar

variable {α : Type} {kind : TypeKind} {s : String}

theorem orRefused_eq_ok {found : Option α} {a : α} : orRefused kind s found = .ok a ↔ found = some a := by
  rw [← toOption_eq_some]
  cases found <;> simp [orRefused, Except.toOption]

variable {seconds : Int} {nanos : Nat} {t : Time} {i : Instant} {z : Zoned}

theorem regular_of_timeOfParts (made : timeOfParts seconds nanos = .ok t) : t.Regular := by
  simp only [timeOfParts] at made
  split at made
  · rename_i found
    cases made
    split at found
    · exact Time.regular_of_ofParts? found
    · cases found
  · cases made

theorem regular_of_instantOfParts (made : instantOfParts seconds nanos = .ok i) : i.Regular := by
  rw [instantOfParts] at made
  split at made
  · rename_i found
    cases made
    exact Instant.regular_of_ofParts? found
  · cases made

theorem regular_of_zonedOfParts {stored : Int} (made : zonedOfParts seconds nanos stored = .ok z) : z.Regular := by
  simp only [zonedOfParts] at made
  split at made
  · obtain ⟨i, instant, made⟩ := bind_eq_ok.mp made
    cases made
    exact ⟨regular_of_instantOfParts instant, Int.dvd_mul_left _ _⟩
  · cases made

variable {cs : List Char} {pattern : Option (List Char)}

theorem regular_of_wallClock? (found : wallClock? cs pattern = some i) : i.Regular := by
  obtain ⟨p, -, read⟩ := List.exists_of_findSome?_eq_some found
  exact Instant.regular_of_read? read

theorem regular_of_zoned? (found : zoned? cs pattern = some z) : z.Regular := by
  rcases Option.or_eq_some_iff.mp found with layout | ⟨-, internet⟩
  · obtain ⟨p, -, read⟩ := List.exists_of_findSome?_eq_some layout
    exact Zoned.regular_of_read? read
  · exact Zoned.regular_of_readInternet? internet

theorem regular_of_parseTime (decoded : parseTime s pattern = .ok t) : t.Regular := by
  simp only [parseTime] at decoded
  split at decoded
  · obtain ⟨⟨seconds, nanos⟩, -, made⟩ := bind_eq_ok.mp decoded
    exact regular_of_timeOfParts made
  · rcases Option.or_eq_some_iff.mp (orRefused_eq_ok.mp decoded) with session | ⟨-, iso⟩
    · obtain ⟨p, -, read⟩ := Option.bind_eq_some_iff.mp session
      exact Time.regular_of_read? read
    · exact Time.regular_of_read? iso

theorem regular_of_parseNtz (decoded : parseNtz s pattern = .ok i) : i.Regular := by
  simp only [parseNtz] at decoded
  split at decoded
  · obtain ⟨⟨seconds, nanos⟩, -, made⟩ := bind_eq_ok.mp decoded
    exact regular_of_instantOfParts made
  · exact regular_of_wallClock? (orRefused_eq_ok.mp decoded)

theorem regular_of_parseLtz (decoded : parseLtz s pattern = .ok i) : i.Regular := by
  simp only [parseLtz] at decoded
  split at decoded
  · obtain ⟨⟨seconds, nanos⟩, -, made⟩ := bind_eq_ok.mp decoded
    exact regular_of_instantOfParts made
  · rcases Option.or_eq_some_iff.mp (orRefused_eq_ok.mp decoded) with zone | ⟨-, wall⟩
    · obtain ⟨z, found, rfl⟩ := Option.map_eq_some_iff.mp zone
      exact (regular_of_zoned? found).instant
    · exact regular_of_wallClock? wall

theorem regular_of_parseTz (decoded : parseTz s pattern = .ok z) : z.Regular := by
  simp only [parseTz] at decoded
  split at decoded
  · obtain ⟨⟨seconds, nanos⟩, -, decoded⟩ := bind_eq_ok.mp decoded
    obtain ⟨stored, -, made⟩ := bind_eq_ok.mp decoded
    exact regular_of_zonedOfParts made
  · exact regular_of_zoned? (orRefused_eq_ok.mp decoded)

end RowStream.Decode
