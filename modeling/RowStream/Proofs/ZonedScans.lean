import RowStream.Proofs.ClockValues
import RowStream.Decode.ColumnRows
import RowStream.Scan

/-! # Scanning zoned timestamps

The wall clock of a decoded zoned timestamp can lie outside the calendar, because seconds and offset are checked
one apart from the other. Only destinations that ask for the wall clock notice: scanning into them fails without an
error of its own. A timestamp that was read as a wall clock always has one. -/
namespace RowStream
open RowStream.Text RowStream.Number RowStream.Calendar RowStream.Columnar

inductive Destination
  | wallClock | instant | zoned | text | value
  | option (inner : Destination)
  | list (inner : Destination)

namespace Destination

def Carrier : Destination → Type
  | wallClock => Instant
  | instant => Instant
  | zoned => Zoned
  | text => String
  | value => Value
  | option inner => Option inner.Carrier
  | list inner => List inner.Carrier

def scanner : (d : Destination) → Scanner d.Carrier
  | wallClock => Scanner.wallClock
  | instant => Scanner.instant
  | zoned => Scanner.zoned
  | text => Scanner.text
  | value => Scanner.value
  | option inner => inner.scanner.option
  | list inner => inner.scanner.list

/-- Whether a destination takes the wall clock of a timestamp. -/
def ShowsClock : Destination → Prop
  | wallClock => True
  | option inner => inner.ShowsClock
  | _ => False

end Destination

/-- A zoned timestamp is the value, or is somewhere among the elements of arrays. -/
inductive Reaches : Value → Zoned → Prop
  | here (z : Zoned) : Reaches (.timestampTz z) z
  | item {items : List Value} {v : Value} {z : Zoned} (member : v ∈ items) (inner : Reaches v z) :
      Reaches (.array items) z

theorem Scanner.mismatch_ne {α : Type} (v : Value) (target : String) :
    (Scanner.mismatch v target : Except ScanFailure α) ≠ .error .noWallClock := nofun

theorem Scanner.orMismatch_ne {α : Type} (v : Value) (target : String) (found : Option α) :
    Scanner.orMismatch v target found ≠ .error .noWallClock := by
  cases found with
  | none => exact mismatch_ne v target
  | some a => nofun

theorem map_eq_error {α β ε : Type} {f : α → β} {r : Except ε α} {e : ε} : r.map f = .error e ↔ r = .error e := by
  cases r <;> simp [Except.map]

/-- Where a traversal can fail in one way only, it does so if any step does. -/
theorem mapM_eq_error {α β ε : Type} {f : α → Except ε β} {xs : List α} {e : ε}
    (only : ∀ x ∈ xs, ∀ e', f x = .error e' → e' = e) : xs.mapM f = .error e ↔ ∃ x ∈ xs, f x = .error e := by
  constructor
  · exact exists_of_mapM_error
  · rintro ⟨x, member, failed⟩
    obtain ⟨e', first⟩ := mapM_isError member failed
    obtain ⟨y, inside, failed⟩ := exists_of_mapM_error first
    rw [first, only y inside e' failed]

namespace Destination

/-- Whatever the value, only a timestamp without a wall clock makes a scan fail without an error. -/
theorem reaches_of_scan {d : Destination} {v : Value} (failed : d.scanner.scan v = .error .noWallClock) :
    ∃ z, Reaches v z ∧ z.wallClock? = none := by
  induction d generalizing v with
  | wallClock =>
    simp only [scanner, Scanner.wallClock] at failed
    split at failed
    · cases failed
    · cases failed
    · rename_i z
      split at failed
      · cases failed
      · exact ⟨z, .here z, ‹_›⟩
    · exact absurd failed (Scanner.mismatch_ne _ _)
  | instant =>
    simp only [scanner, Scanner.instant] at failed
    split at failed
    · cases failed
    · cases failed
    · cases failed
    · exact absurd failed (Scanner.mismatch_ne _ _)
  | zoned =>
    simp only [scanner, Scanner.zoned] at failed
    split at failed
    · cases failed
    · cases failed
    · exact absurd failed (Scanner.mismatch_ne _ _)
  | text => exact absurd failed (Scanner.orMismatch_ne _ _ _)
  | value => cases failed
  | option inner ih =>
    simp only [scanner, Scanner.option] at failed
    split at failed
    · cases failed
    · exact ih (map_eq_error.mp failed)
  | list inner ih =>
    simp only [scanner, Scanner.list] at failed
    split at failed
    · obtain ⟨v, member, failed⟩ := exists_of_mapM_error failed
      obtain ⟨z, reached, none⟩ := ih failed
      exact ⟨z, .item member reached, none⟩
    · obtain ⟨b, -, failed⟩ := exists_of_mapM_error failed
      obtain ⟨z, reached, -⟩ := ih failed
      cases reached
    · exact absurd failed (Scanner.mismatch_ne _ _)

variable {d : Destination} {z : Zoned}

/-- A timestamp fails to be scanned without an error where its wall clock is asked for and there is none. -/
theorem scan_timestampTz :
    d.scanner.scan (.timestampTz z) = .error .noWallClock ↔ d.ShowsClock ∧ z.wallClock? = none := by
  have noClock : ∀ {d : Destination}, ¬d.ShowsClock → d.scanner.scan (.timestampTz z) ≠ .error .noWallClock →
      (d.scanner.scan (.timestampTz z) = .error .noWallClock ↔ d.ShowsClock ∧ z.wallClock? = none) :=
    fun other fine => iff_of_false fine fun both => other both.1
  induction d with
  | wallClock =>
    constructor
    · intro failed
      obtain ⟨_, reached, none⟩ := reaches_of_scan failed
      cases reached
      exact ⟨trivial, none⟩
    · rintro ⟨-, none⟩
      simp only [scanner, Scanner.wallClock, none]
      rfl
  | option inner ih =>
    show (inner.scanner.scan (.timestampTz z)).map some = .error .noWallClock ↔ _
    exact map_eq_error.trans ih
  | instant | zoned | value => exact noClock id nofun
  | text => exact noClock id (Scanner.orMismatch_ne (.timestampTz z) "String" (some z.render))
  | list inner => exact noClock id (Scanner.mismatch_ne _ _)

/-- A destination that takes wall clocks refuses no zoned timestamp. -/
theorem noWallClock_of_error {e : ScanFailure} (clock : d.ShowsClock)
    (failed : d.scanner.scan (.timestampTz z) = .error e) :
    e = .noWallClock := by
  induction d with
  | wallClock =>
    simp only [scanner, Scanner.wallClock] at failed
    split at failed
    · cases failed
    · cases failed
      rfl
  | option inner ih =>
    simp only [scanner, Scanner.option] at failed
    exact ih clock (map_eq_error.mp failed)
  | _ => cases clock

theorem scan_array {zs : List Zoned} : d.list.scanner.scan (.array (zs.map .timestampTz)) = .error .noWallClock ↔
    d.ShowsClock ∧ ∃ z ∈ zs, z.wallClock? = none := by
  by_cases clock : d.ShowsClock
  · have only : ∀ v ∈ zs.map Value.timestampTz, ∀ e, d.scanner.scan v = .error e → e = .noWallClock := by
      intro v member e failed
      obtain ⟨z, -, rfl⟩ := List.mem_map.mp member
      exact noWallClock_of_error clock failed
    show (zs.map Value.timestampTz).mapM d.scanner.scan = .error .noWallClock ↔ _
    simp only [mapM_eq_error only, List.mem_map, exists_exists_and_eq_and, scan_timestampTz, clock, true_and]
  · refine iff_of_false ?_ fun both => clock both.1
    intro failed
    obtain ⟨v, member, failed⟩ := exists_of_mapM_error failed
    obtain ⟨z, -, rfl⟩ := List.mem_map.mp member
    exact clock (scan_timestampTz.mp failed).1

end Destination

inductive ZonedCell
  | text (s : String)
  | column (c : ColumnCursor)

namespace ZonedCell

def decode (t : ColumnType) (o : DecodeOptions) : ZonedCell → Result Value
  | text s => Decode.text t s o
  | column c => c.leaf t o

/-- The seconds since the epoch and the offset that a cell stores: in a text of both, in a struct of a scaled integer
and an offset, or in a struct of seconds, nanos and an offset. -/
inductive Stores (t : ColumnType) : ZonedCell → Int → Int → Prop
  | text {s : String} {epoch offset : List Char} {secs stored : Int} {nanos : Nat}
      (cut : Decode.storedZoned? (trimmed s) = some (epoch, offset)) (number : Decode.epoch? epoch = some (secs, nanos))
      (minutes : Range.int64.read? offset = some stored) : Stores t (.text s) secs stored
  | textColumn {c : ColumnCursor} {s : String} {secs stored : Int} (place : c.text? = some s)
      (cell : Stores t (.text s) secs stored) : Stores t (.column c) secs stored
  | scaled {c : ColumnCursor} {valid : List Bool} {fields : List (Columnar.Field Column)} {epoch secs stored : Int}
      {nanos : Nat} (column : c.column = .struct valid fields) (two : fields.length = 2)
      (first : ColumnCursor.partInt? fields 0 c.row = some epoch)
      (split : Decode.splitScaled epoch t.scale = .ok (secs, nanos))
      (second : ColumnCursor.partInt? fields 1 c.row = some stored) : Stores t (.column c) secs stored
  | parts {c : ColumnCursor} {valid : List Bool} {fields : List (Columnar.Field Column)} {secs fraction stored : Int}
      (column : c.column = .struct valid fields) (three : fields.length = 3)
      (first : ColumnCursor.partInt? fields 0 c.row = some secs)
      (second : ColumnCursor.partInt? fields 1 c.row = some fraction)
      (third : ColumnCursor.partInt? fields 2 c.row = some stored) : Stores t (.column c) secs stored

variable {t : ColumnType} {o : DecodeOptions} {z : Zoned} {cell : ZonedCell} {secs stored : Int}

/-- What is stored is what the timestamp is made of. -/
theorem Stores.sound (kind : t.kind = .timestampTz) (stores : cell.Stores t secs stored)
    (decoded : cell.decode t o = .ok (.timestampTz z)) : ∃ nanos, Decode.zonedOfParts secs nanos stored = .ok z := by
  induction stores with
  | text cut number minutes =>
    simp only [decode, Decode.text, kind, Decode.parseTz, cut, number, minutes] at decoded
    obtain ⟨z', made, same⟩ := map_eq_ok.mp decoded
    cases same
    exact ⟨_, made⟩
  | @textColumn c s _ _ place cell ih =>
    refine ih ?_
    have noStruct : ∀ valid fields, c.column ≠ .struct valid fields := by
      intro valid fields column
      rw [ColumnCursor.text?, column] at place
      cases place
    have leaf : c.zonedLeaf t o = c.textLeaf t o := by
      rw [ColumnCursor.zonedLeaf]
      split
      · rename_i valid fields column
        exact absurd column (noStruct valid fields)
      · rfl
    simp only [decode, ColumnCursor.leaf, kind, leaf, ColumnCursor.textLeaf, place] at decoded
    exact decoded
  | scaled column two first split second =>
    simp only [decode, ColumnCursor.leaf, kind, ColumnCursor.zonedLeaf, column, two, first, second, split] at decoded
    obtain ⟨z', made, same⟩ := map_eq_ok.mp decoded
    cases same
    exact ⟨_, made⟩
  | parts column three first second third =>
    simp only [decode, ColumnCursor.leaf, kind, ColumnCursor.zonedLeaf, column, three, first, second, third] at decoded
    obtain ⟨nanos, -, decoded⟩ := bind_eq_ok.mp decoded
    obtain ⟨z', made, same⟩ := map_eq_ok.mp decoded
    cases same
    exact ⟨_, made⟩

/-- A timestamp that is read as a wall clock has one. -/
theorem isSome_wallClock?_of_zoned? {cs : List Char} {pattern : Option (List Char)}
    (found : Decode.zoned? cs pattern = some z) : z.wallClock?.isSome = true := by
  have ofFields : ∀ {f : Fields}, f.zoned? = some z → z.wallClock?.isSome = true := by
    intro f made
    simp only [Fields.zoned?, Option.bind_eq_bind, Option.bind_eq_some_iff] at made
    obtain ⟨wall, -, offset, -, made⟩ := made
    obtain ⟨second, nanos, rfl⟩ := Zoned.ofWallClock?_eq_some.mp made
    refine Option.isSome_iff_exists.mpr ⟨wall, Instant.ofSecond?_eq_some.mpr ⟨?_, nanos.symm⟩⟩
    omega
  rcases Option.or_eq_some_iff.mp found with layout | ⟨-, internet⟩
  · obtain ⟨p, -, read⟩ := List.exists_of_findSome?_eq_some layout
    obtain ⟨f, -, made⟩ := Option.bind_eq_some_iff.mp read
    exact ofFields made
  · obtain ⟨_, f, _, _, _, -, -, made⟩ := Zoned.fields_of_readInternet? internet
    exact ofFields made

/-- A text is read as seconds with a stored offset, or as a wall clock. -/
theorem text_stores_or_shown {s : String} (kind : t.kind = .timestampTz)
    (decoded : Decode.text t s o = .ok (.timestampTz z)) :
    (∃ secs stored, Stores t (.text s) secs stored) ∨ z.wallClock?.isSome = true := by
  simp only [Decode.text, kind, Decode.parseTz] at decoded
  obtain ⟨z', decoded, same⟩ := map_eq_ok.mp decoded
  cases same
  split at decoded
  · rename_i epoch offset cut
    obtain ⟨⟨secs, nanos⟩, number, decoded⟩ := bind_eq_ok.mp decoded
    obtain ⟨stored, minutes, -⟩ := bind_eq_ok.mp decoded
    exact .inl ⟨secs, stored, .text cut (Decode.orRefused_eq_ok.mp number) (Decode.orRefused_eq_ok.mp minutes)⟩
  · exact .inr (isSome_wallClock?_of_zoned? (Decode.orRefused_eq_ok.mp decoded))

theorem stores_or_shown (kind : t.kind = .timestampTz) (decoded : cell.decode t o = .ok (.timestampTz z)) :
    (∃ secs stored, cell.Stores t secs stored) ∨ z.wallClock?.isSome = true := by
  have unexpected_ne : ∀ c : ColumnCursor, c.unexpected .timestampTz ≠ Except.ok (Value.timestampTz z) := nofun
  cases cell with
  | text s => exact text_stores_or_shown kind decoded
  | column c =>
    simp only [decode, ColumnCursor.leaf, kind, ColumnCursor.zonedLeaf] at decoded
    split at decoded
    · rename_i valid fields column
      split at decoded
      · rename_i epoch stored two first second
        obtain ⟨⟨secs, nanos⟩, split, -⟩ := bind_eq_ok.mp decoded
        exact .inl ⟨secs, stored, .scaled column two first split second⟩
      · rename_i secs fraction stored three first second third
        exact .inl ⟨secs, stored, .parts column three first second third⟩
      · exact absurd decoded (unexpected_ne c)
    · rw [ColumnCursor.textLeaf] at decoded
      split at decoded
      · rename_i s place
        rcases text_stores_or_shown kind decoded with ⟨secs, stored, stores⟩ | shown
        · exact .inl ⟨secs, stored, .textColumn place stores⟩
        · exact .inr shown
      · rw [kind] at decoded
        exact absurd decoded (unexpected_ne c)

/-- The second that a clock of the given stored offset shows. -/
def shownSecond (secs stored : Int) : Int := secs + (stored - Decode.offsetBias) * 60

def InCalendar (second : Int) : Prop := minSecond ≤ second ∧ second ≤ maxSecond

theorem wallClock?_eq_none : z.wallClock? = none ↔ ¬InCalendar (z.instant.second + z.offset) := by
  rw [Zoned.wallClock?, Instant.ofSecond?, dite_eq_right_iff]
  constructor
  · intro none inside
    cases none ⟨inside, z.instant.nanos_lt⟩
  · intro outside inside
    exact absurd inside.1 outside

theorem instant_of_zonedOfParts {nanos : Nat} (made : Decode.zonedOfParts secs nanos stored = .ok z) :
    z.instant.second + z.offset = shownSecond secs stored := by
  simp only [Decode.zonedOfParts] at made
  split at made
  · obtain ⟨i, instant, made⟩ := bind_eq_ok.mp made
    cases made
    rw [Decode.instantOfParts] at instant
    split at instant
    · rename_i found
      cases instant
      rw [Instant.ofParts?] at found
      split at found
      · cases found
      · rw [(Instant.ofSecond?_eq_some.mp found).1, shownSecond]
    · cases instant
  · cases made

/-- A decoded timestamp has no wall clock exactly if its cell stores seconds and an offset whose sum leaves the
calendar. -/
theorem wallClock?_eq_none_iff_stores (kind : t.kind = .timestampTz)
    (decoded : cell.decode t o = .ok (.timestampTz z)) :
    z.wallClock? = none ↔ ∃ secs stored, cell.Stores t secs stored ∧ ¬InCalendar (shownSecond secs stored) := by
  have same : ∀ {secs stored}, cell.Stores t secs stored → z.instant.second + z.offset = shownSecond secs stored := by
    intro secs stored stores
    obtain ⟨nanos, made⟩ := stores.sound kind decoded
    exact instant_of_zonedOfParts made
  constructor
  · intro none
    rcases stores_or_shown kind decoded with ⟨secs, stored, stores⟩ | shown
    · exact ⟨secs, stored, stores, same stores ▸ wallClock?_eq_none.mp none⟩
    · rw [none] at shown
      cases shown
  · rintro ⟨secs, stored, stores, outside⟩
    exact wallClock?_eq_none.mpr (same stores ▸ outside)

end ZonedCell

open ZonedCell in
/-- Scanning a decoded zoned timestamp, or an array of such, fails without an error exactly if the destination takes
wall clocks and a cell stores seconds and an offset whose sum leaves the calendar. Each of the two can be all right. -/
theorem zoned_scans {t : ColumnType} {o : DecodeOptions} (kind : t.kind = .timestampTz) (d : Destination) :
    (∀ (cell : ZonedCell) (z : Zoned), cell.decode t o = .ok (.timestampTz z) →
      (d.scanner.scan (.timestampTz z) = .error .noWallClock ↔
        d.ShowsClock ∧ ∃ secs stored, cell.Stores t secs stored ∧ ¬InCalendar (shownSecond secs stored))) ∧
    (∀ (cells : List ZonedCell) (zs : List Zoned),
      List.Forall₂ (fun cell z => cell.decode t o = .ok (.timestampTz z)) cells zs →
      (d.list.scanner.scan (.array (zs.map .timestampTz)) = .error .noWallClock ↔
        d.ShowsClock ∧ ∃ cell ∈ cells, ∃ secs stored,
          cell.Stores t secs stored ∧ ¬InCalendar (shownSecond secs stored))) := by
  constructor
  · intro cell z decoded
    rw [Destination.scan_timestampTz, wallClock?_eq_none_iff_stores kind decoded]
  · intro cells zs decoded
    rw [Destination.scan_array]
    refine and_congr_right fun _ => ?_
    induction decoded with
    | nil => simp
    | cons first _ ih => simp only [List.exists_mem_cons_iff, ih, wallClock?_eq_none_iff_stores kind first]

/-- The first second of the calendar, with the offset of a clock one minute west. -/
def firstSecondWest : ColumnCursor where
  column := .struct [true]
    [⟨"epoch", false, .word .int64 [⟨true, -8334601228800⟩]⟩, ⟨"offset", false, .word .int32 [⟨true, 1439⟩]⟩]
  row := 0

theorem zoned_scans_firstSecond :
    ∃ z, (ZonedCell.column firstSecondWest).decode { kind := .timestampTz } {} = .ok (.timestampTz z) ∧
      (Destination.option .wallClock).scanner.scan (.timestampTz z) = .error .noWallClock ∧
      (Destination.list .wallClock).scanner.scan (.array [.timestampTz z]) = .error .noWallClock := by
  have decoded : (ZonedCell.column firstSecondWest).decode { kind := .timestampTz } {} =
      .ok (.timestampTz ⟨⟨-8334601228800, 0, by decide, by decide⟩, -60, by decide⟩) := rfl
  have outside : ∃ secs stored, (ZonedCell.column firstSecondWest).Stores { kind := .timestampTz } secs stored ∧
      ¬ZonedCell.InCalendar (ZonedCell.shownSecond secs stored) :=
    ⟨-8334601228800, 1439, .scaled rfl rfl rfl rfl rfl, fun inside => absurd inside.1 (by decide)⟩
  obtain ⟨single, -⟩ := zoned_scans (t := { kind := .timestampTz }) (o := {}) rfl (.option .wallClock)
  obtain ⟨-, several⟩ := zoned_scans (t := { kind := .timestampTz }) (o := {}) rfl .wallClock
  refine ⟨_, decoded, (single _ _ decoded).mpr ⟨trivial, outside⟩, ?_⟩
  exact (several [_] [_] (.cons decoded .nil)).mpr ⟨trivial, _, List.mem_singleton_self _, outside⟩

/-- The last second of the calendar at a clock one minute east is decoded, but has no wall clock to be scanned. -/
theorem last_second_east_unscanned :
    ∃ z, Decode.text { kind := .timestampTz } "8210266876799 1441" {} = .ok (.timestampTz z) ∧
      Scanner.wallClock.scan (.timestampTz z) = .error .noWallClock :=
  ⟨⟨⟨8210266876799, 0, by decide, by decide⟩, 60, by decide⟩, rfl, rfl⟩

end RowStream
