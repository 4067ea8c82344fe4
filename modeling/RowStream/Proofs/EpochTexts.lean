import Mathlib.Algebra.Order.Floor.Ring
import Mathlib.Data.Rat.Floor
import RowStream.Proofs.Numerals
import RowStream.Proofs.PaddedTexts
import RowStream.Proofs.ScalarTexts

/-! # Which texts are seconds since the epoch

An epoch has an optional minus sign and digits with at most one point, which needs no digits on either side:
a lone point is zero seconds. Seconds and nanos are then exactly what is written, the nanos never negative. -/
namespace RowStream.Decode
open RowStream.Text RowStream.Number RowStream.Number.Decimal RowStream.Calendar

/-- The characters of an epoch: digits and points after an optional minus sign. -/
def EpochChars (cs : List Char) : Prop :=
  ∃ (sign : Sign) (body : List Char), sign ≠ .plus ∧ cs = sign.text ++ body ∧ ∀ c ∈ body, isDigit c = true ∨ c = '.'

structure EpochNumeral where
  sign : Sign
  whole : List Char
  /-- The digits after the point, if there is a point. -/
  fraction : Option (List Char)
  noPlus : sign ≠ .plus
  filled : whole ≠ [] ∨ fraction.isSome = true
  areDigits : allDigits (whole ++ fraction.getD []) = true

namespace EpochNumeral
variable (e : EpochNumeral)

def fractionDigits : List Char := e.fraction.getD []

def body : List Char := e.whole ++ e.fraction.elim [] ('.' :: ·)

def text : List Char := e.sign.text ++ e.body

/-- The number that is denoted; missing digits are zeros. -/
def value : ℚ := e.sign.factor * (ofDigits e.whole + ofDigits e.fractionDigits / 10 ^ e.fractionDigits.length)

/-- What is read as whole seconds and nanos: there are no more than nine fraction digits, the digits before
the point fit 64 bits, and nothing is lost. -/
structure Denotes (secs : Int) (nanos : Nat) : Prop where
  digits : e.fractionDigits.length ≤ 9
  whole : (ofDigits e.whole : Int) ∈ Range.int64
  nanos_lt : nanos < nanosPerSecond
  sum : (secs * nanosPerSecond + nanos : ℚ) = e.value * nanosPerSecond

theorem wholeDigits : allDigits e.whole = true := (allDigits_append.mp e.areDigits).1

theorem allDigits_fractionDigits : allDigits e.fractionDigits = true := (allDigits_append.mp e.areDigits).2

theorem mem_body {c : Char} (h : c ∈ e.body) : isDigit c = true ∨ c = '.' := by
  rcases List.mem_append.mp h with before | after
  · exact .inl (allDigits_iff.mp e.wholeDigits c before)
  · have digits := allDigits_iff.mp e.allDigits_fractionDigits
    rw [fractionDigits] at digits
    cases written : e.fraction with
    | none => simp [written] at after
    | some fraction =>
      rw [written] at after digits
      exact (List.mem_cons.mp after).symm.imp_left (digits c)

theorem body_ne_nil : e.body ≠ [] := by
  intro none
  obtain ⟨whole, point⟩ := List.append_eq_nil_iff.mp none
  rcases e.filled with digit | written
  · exact digit whole
  · obtain ⟨fraction, written⟩ := Option.isSome_iff_exists.mp written
    simp [written] at point

theorem head_body : e.body.head? ≠ some '-' := by
  intro minus
  rcases e.mem_body (List.mem_of_mem_head? minus) with digit | point
  · exact ne_of_isDigit digit rfl rfl
  · cases point

theorem cut_body : (cutAt '.' e.body).getD (e.body, []) = (e.whole, e.fractionDigits) := by
  have noPoint : '.' ∉ e.whole := not_mem_of_allDigits e.wholeDigits (show isDigit '.' = false by rfl)
  rw [body, fractionDigits]
  cases e.fraction with
  | none =>
    rw [Option.elim_none, List.append_nil, cutAt_eq_none noPoint]
    rfl
  | some fraction =>
    rw [Option.elim_some, cutAt_append noPoint]
    rfl

end EpochNumeral

section
variable {sign : Sign} {body : List Char} (noPlus : sign ≠ .plus) (noMinus : body.head? ≠ some '-')
include noPlus noMinus

theorem isEpochForm_append :
    isEpochForm (sign.text ++ body) = (!body.isEmpty && body.all fun c => isDigit c || c == '.') := by
  have cut : (dropStart? ['-'] (sign.text ++ body)).getD (sign.text ++ body) = body := by
    cases sign with
    | minus => rfl
    | plus => exact absurd rfl noPlus
    | bare =>
      rw [Sign.text, List.nil_append]
      cases body with
      | nil => rfl
      | cons c rest =>
        have minus : '-' ≠ c := fun same => noMinus (same ▸ rfl)
        rw [dropStart?, if_neg minus]
        rfl
  rw [isEpochForm, cut]

theorem epoch?_append : epoch? (sign.text ++ body) = unsignedEpoch? sign.isNegative body := by
  cases sign with
  | minus => rfl
  | plus => exact absurd rfl noPlus
  | bare =>
    rw [Sign.text, List.nil_append, epoch?]
    · rfl
    · rintro _ rfl
      exact noMinus rfl

end

/-- A negative fraction borrows a second. -/
def signedParts (negative : Bool) (whole : Int) (nanos : Nat) : Int × Nat :=
  if !negative then (whole, nanos)
  else if nanos = 0 then (-whole, 0)
  else (-whole - 1, nanosPerSecond - nanos)

theorem signedParts_eq {s : Sign} {whole secs : Int} {given nanos : Nat} (below : given < nanosPerSecond) :
    signedParts s.isNegative whole given = (secs, nanos) ↔
      nanos < nanosPerSecond ∧ secs * nanosPerSecond + nanos = s.factor * (whole * nanosPerSecond + given) := by
  rw [signedParts, Sign.factor]
  simp only [nanosPerSecond] at *
  cases s.isNegative with
  | false =>
    simp only [Bool.not_false, if_true, Bool.false_eq_true, if_false, Prod.mk.injEq]
    omega
  | true =>
    simp only [Bool.not_true, Bool.false_eq_true, if_false, if_true]
    split
    · simp only [Prod.mk.injEq]
      omega
    · simp only [Prod.mk.injEq]
      omega

theorem unsignedEpoch?_of_cut {negative : Bool} {body whole fraction : List Char}
    (cut : (cutAt '.' body).getD (body, []) = (whole, fraction)) : unsignedEpoch? negative body =
      (if whole.isEmpty then some 0 else Range.int64.read? whole).bind fun seconds =>
        (fractionNanos? fraction).map (signedParts negative seconds) := by
  have parts : ∀ seconds, (do
      let nanos ← fractionNanos? fraction
      some (if !negative then (seconds, nanos) else if nanos = 0 then (-seconds, 0)
        else (-seconds - 1, nanosPerSecond - nanos))) =
      (fractionNanos? fraction).map (signedParts negative seconds) := by
    intro seconds
    cases fractionNanos? fraction <;> rfl
  rw [unsignedEpoch?, cut]
  simp only [parts]
  cases whole <;> rfl

theorem fractionNanos?_eq_some {digits : List Char} (areDigits : allDigits digits = true) {nanos : Nat} :
    fractionNanos? digits = some nanos ↔
      digits.length ≤ 9 ∧ ofDigits digits * 10 ^ (9 - digits.length) = nanos := by
  simp [fractionNanos?, areDigits]

theorem fraction_lt {digits : List Char} (areDigits : allDigits digits = true) (few : digits.length ≤ 9) :
    ofDigits digits * 10 ^ (9 - digits.length) < nanosPerSecond := by
  have units : 10 ^ digits.length * 10 ^ (9 - digits.length) = nanosPerSecond := by
    rw [← Nat.pow_add, Nat.add_sub_cancel' few]
    rfl
  rw [← units]
  exact Nat.mul_lt_mul_of_pos_right (ofDigits_lt areDigits) (Nat.pow_pos (by decide))

/-- The number in nanos. -/
theorem EpochNumeral.value_mul (e : EpochNumeral) (few : e.fractionDigits.length ≤ 9) : e.value * nanosPerSecond =
    (e.sign.factor * (ofDigits e.whole * nanosPerSecond +
      (ofDigits e.fractionDigits * 10 ^ (9 - e.fractionDigits.length) : Nat)) : Int) := by
  have split : (nanosPerSecond : ℚ) = 10 ^ (9 - e.fractionDigits.length) * 10 ^ e.fractionDigits.length := by
    rw [← pow_add, Nat.sub_add_cancel few]
    norm_num [nanosPerSecond]
  have unit : (10 : ℚ) ^ e.fractionDigits.length ≠ 0 := pow_ne_zero _ (by norm_num)
  rw [EpochNumeral.value]
  push_cast
  rw [split]
  field_simp

theorem epoch?_text (e : EpochNumeral) : epoch? e.text = (Range.int64.within? (ofDigits e.whole)).bind fun seconds =>
    (fractionNanos? e.fractionDigits).map (signedParts e.sign.isNegative seconds) := by
  have seconds : (if e.whole.isEmpty then some 0 else Range.int64.read? e.whole) =
      Range.int64.within? (ofDigits e.whole) := by
    by_cases empty : e.whole = []
    · rw [empty]
      decide
    · rw [if_neg (by simpa using empty), Range.read?_digits _ empty e.wholeDigits]
  rw [EpochNumeral.text, epoch?_append e.noPlus e.head_body, unsignedEpoch?_of_cut e.cut_body, seconds]

theorem epoch?_text_eq_some {e : EpochNumeral} {secs : Int} {nanos : Nat} :
    epoch? e.text = some (secs, nanos) ↔ e.Denotes secs nanos := by
  have exactly : (secs * nanosPerSecond + nanos : ℚ) = ((secs * nanosPerSecond + nanos : Int) : ℚ) := by push_cast; rfl
  rw [epoch?_text]
  simp only [Option.bind_eq_some_iff, Option.map_eq_some_iff, Range.within?_eq_some,
    fractionNanos?_eq_some e.allDigits_fractionDigits]
  constructor
  · rintro ⟨_, ⟨whole, rfl⟩, given, ⟨few, rfl⟩, parts⟩
    obtain ⟨nanos_lt, sum⟩ := (signedParts_eq (fraction_lt e.allDigits_fractionDigits few)).mp parts
    exact ⟨few, whole, nanos_lt, by rw [exactly, e.value_mul few, sum]⟩
  · rintro ⟨few, whole, nanos_lt, sum⟩
    rw [exactly, e.value_mul few, Int.cast_inj] at sum
    exact ⟨_, ⟨whole, rfl⟩, _, ⟨few, rfl⟩, (signedParts_eq (fraction_lt e.allDigits_fractionDigits few)).mpr ⟨nanos_lt,
      sum⟩⟩

theorem EpochNumeral.exists_denotes (e : EpochNumeral) (few : e.fractionDigits.length ≤ 9)
    (whole : (ofDigits e.whole : Int) ∈ Range.int64) : ∃ secs nanos, e.Denotes secs nanos := by
  have nanos := (fractionNanos?_eq_some e.allDigits_fractionDigits).mpr ⟨few, rfl⟩
  have found : epoch? e.text = some (signedParts e.sign.isNegative (ofDigits e.whole)
      (ofDigits e.fractionDigits * 10 ^ (9 - e.fractionDigits.length))) := by
    rw [epoch?_text, Range.within?, if_pos whole, nanos]
    rfl
  exact ⟨_, _, epoch?_text_eq_some.mp found⟩

/-- The seconds are the number, rounded down. -/
theorem EpochNumeral.Denotes.floor_eq {e : EpochNumeral} {secs : Int} {nanos : Nat} (denotes : e.Denotes secs nanos) :
    ⌊e.value⌋ = secs := by
  have sum := denotes.sum
  have below : (nanos : ℚ) < 1000000000 := by exact_mod_cast denotes.nanos_lt
  have nonneg : (0 : ℚ) ≤ nanos := Nat.cast_nonneg _
  simp only [nanosPerSecond, Nat.cast_ofNat] at sum
  rw [Int.floor_eq_iff]
  constructor <;> linarith

/-- Whatever is read is a numeral. -/
theorem exists_numeral {cs : List Char} (chars : EpochChars cs) (form : isEpochForm cs = true)
    {p : Int × Nat} (found : epoch? cs = some p) : ∃ e : EpochNumeral, cs = e.text := by
  obtain ⟨sign, body, noPlus, rfl, all⟩ := chars
  have plain : ∀ c ∈ body, c ≠ '-' ∧ c ≠ '+' := by
    intro c member
    rcases all c member with digit | rfl
    · exact ⟨ne_of_isDigit digit rfl, ne_of_isDigit digit rfl⟩
    · decide
  have noMinus : body.head? ≠ some '-' := fun first => (plain _ (List.mem_of_mem_head? first)).1 rfl
  rw [isEpochForm_append noPlus noMinus, Bool.and_eq_true, Bool.not_eq_true', List.isEmpty_eq_false_iff] at form
  obtain ⟨whole, fraction, cut, rfl⟩ := exists_point body
  rw [epoch?_append noPlus noMinus, unsignedEpoch?_of_cut cut] at found
  obtain ⟨secs, seconds, nanos⟩ := Option.bind_eq_some_iff.mp found
  obtain ⟨_, given, _⟩ := Option.map_eq_some_iff.mp nanos
  have fractionDigits : allDigits (fraction.getD []) = true := by
    by_contra other
    simp [fractionNanos?, other] at given
  have wholeDigits : allDigits whole = true := by
    by_cases empty : whole = []
    · rw [empty]
      rfl
    · rw [if_neg (by simpa using empty)] at seconds
      obtain ⟨s, ds, rfl, _, digits, _⟩ := (Range.read?_eq_some (by decide)).mp seconds
      cases s with
      | bare => exact digits
      | plus => exact absurd rfl (plain '+' (by simp [Sign.text])).2
      | minus => exact absurd rfl (plain '-' (by simp [Sign.text])).1
  have filled : whole ≠ [] ∨ fraction.isSome = true := by
    by_contra empty
    obtain ⟨rfl, noPoint⟩ := not_or.mp empty |>.imp_left not_not.mp
    simp [Option.not_isSome_iff_eq_none.mp noPoint] at form
  exact ⟨⟨sign, whole, fraction, noPlus, filled, allDigits_append.mpr ⟨wholeDigits, fractionDigits⟩⟩, rfl⟩

theorem isEpochForm_text (e : EpochNumeral) : isEpochForm e.text = true := by
  rw [EpochNumeral.text, isEpochForm_append e.noPlus e.head_body, List.isEmpty_eq_false_iff.mpr e.body_ne_nil]
  simpa using fun c member => e.mem_body member

theorem epoch?_eq_some {cs : List Char} (chars : EpochChars cs) (form : isEpochForm cs = true) {secs : Int}
    {nanos : Nat} :
    epoch? cs = some (secs, nanos) ↔ ∃ e : EpochNumeral, cs = e.text ∧ e.Denotes secs nanos := by
  constructor
  · intro found
    obtain ⟨e, rfl⟩ := exists_numeral chars form found
    exact ⟨e, rfl, epoch?_text_eq_some.mp found⟩
  · rintro ⟨e, rfl, denotes⟩
    exact epoch?_text_eq_some.mpr denotes

/-- Only nothing and a lone minus sign have the characters of an epoch and not its form. -/
theorem eq_of_not_isEpochForm {cs : List Char} (chars : EpochChars cs) (other : isEpochForm cs = false) :
    cs = [] ∨ cs = ['-'] := by
  obtain ⟨sign, body, noPlus, rfl, all⟩ := chars
  have noMinus : body.head? ≠ some '-' := by
    intro minus
    rcases all _ (List.mem_of_mem_head? minus) with digit | point
    · exact ne_of_isDigit digit rfl rfl
    · cases point
  have empty : body = [] := by
    by_contra filled
    have form : (body.all fun c => isDigit c || c == '.') = true := by simpa using all
    rw [isEpochForm_append noPlus noMinus, form, List.isEmpty_eq_false_iff.mpr filled] at other
    cases other
  subst empty
  cases sign with
  | bare => exact .inl rfl
  | plus => exact absurd rfl noPlus
  | minus => exact .inr rfl

/-- A text of seconds, its number, and the stored offset that follows it where there is a zone. -/
inductive EpochText (kind : TypeKind) : List Char → List Char → Option Nat → Prop
  | plain (clock : kind ∈ ColumnType.clockKinds) (number : List Char) : EpochText kind number number none
  | zoned (zone : kind = .timestampTz) (number offset : List Char) (digits : allDigits offset = true)
      (valid : 0 < ofDigits offset ∧ ofDigits offset < 2880) :
      EpochText kind (number ++ ' ' :: offset) number (some (ofDigits offset))

/-- The value of a kind at some seconds and nanos. Instants of a zone have the offset from UTC in seconds. -/
inductive Stands : TypeKind → Option Nat → Int → Nat → Value → Prop
  | time (t : Time) : Stands .time none t.second t.nanos (.time t)
  | timestampNtz (i : Instant) : Stands .timestampNtz none i.second i.nanos (.timestampNtz i)
  | timestampLtz (i : Instant) : Stands .timestampLtz none i.second i.nanos (.timestampLtz i)
  | timestampTz (z : Zoned) (offset : Nat) (stored : z.offset = ((offset : Int) - offsetBias) * 60) :
      Stands .timestampTz (some offset) z.instant.second z.instant.nanos (.timestampTz z)

/-- The seconds that a kind has: those of a day, or those of the calendar. -/
def kindSeconds : TypeKind → Range
  | .time => ⟨0, 86399⟩
  | _ => ⟨minSecond, maxSecond⟩

variable {secs : Int} {nanos : Nat} {v : Value}

theorem timeOfParts_eq_ok (whole : nanos < nanosPerSecond) {t : Time} :
    timeOfParts secs nanos = .ok t ↔ (t.second : Int) = secs ∧ t.nanos = nanos := by
  have found : timeOfParts secs nanos = .ok t ↔
      (if 0 ≤ secs then Time.ofParts? secs.toNat nanos else none) = some t := by
    rw [timeOfParts]
    cases (if 0 ≤ secs then Time.ofParts? secs.toNat nanos else none) <;> simp
  rw [found, Option.ite_none_right_eq_some, Time.ofParts?_eq_some whole]
  omega

theorem instantOfParts_eq_ok (whole : nanos < nanosPerSecond) {i : Instant} :
    instantOfParts secs nanos = .ok i ↔ i.second = secs ∧ i.nanos = nanos := by
  rw [← Instant.ofParts?_eq_some whole, instantOfParts]
  cases Instant.ofParts? secs nanos <;> simp

theorem time_stands (whole : nanos < nanosPerSecond) :
    (timeOfParts secs nanos).map .time = .ok v ↔ Stands .time none secs nanos v := by
  simp only [map_eq_ok, timeOfParts_eq_ok whole]
  constructor
  · rintro ⟨t, ⟨rfl, rfl⟩, rfl⟩
    exact .time t
  · intro stands
    cases stands with
    | time t => exact ⟨t, ⟨rfl, rfl⟩, rfl⟩

theorem timestampNtz_stands (whole : nanos < nanosPerSecond) :
    (instantOfParts secs nanos).map .timestampNtz = .ok v ↔ Stands .timestampNtz none secs nanos v := by
  simp only [map_eq_ok, instantOfParts_eq_ok whole]
  constructor
  · rintro ⟨i, ⟨rfl, rfl⟩, rfl⟩
    exact .timestampNtz i
  · intro stands
    cases stands with
    | timestampNtz i => exact ⟨i, ⟨rfl, rfl⟩, rfl⟩

theorem timestampLtz_stands (whole : nanos < nanosPerSecond) :
    (instantOfParts secs nanos).map .timestampLtz = .ok v ↔ Stands .timestampLtz none secs nanos v := by
  simp only [map_eq_ok, instantOfParts_eq_ok whole]
  constructor
  · rintro ⟨i, ⟨rfl, rfl⟩, rfl⟩
    exact .timestampLtz i
  · intro stands
    cases stands with
    | timestampLtz i => exact ⟨i, ⟨rfl, rfl⟩, rfl⟩

theorem offset_lt {offset : Nat} (valid : 0 < offset ∧ offset < 2880) :
    (((offset : Int) - offsetBias) * 60).natAbs < secondsPerDay := by
  simp only [offsetBias, secondsPerDay]
  omega

theorem timestampTz_stands (whole : nanos < nanosPerSecond) {offset : Nat} (valid : 0 < offset ∧ offset < 2880) :
    (zonedOfParts secs nanos offset).map .timestampTz = .ok v ↔ Stands .timestampTz (some offset) secs nanos v := by
  rw [zonedOfParts, dif_pos (offset_lt valid), map_eq_ok]
  constructor
  · rintro ⟨z, made, rfl⟩
    obtain ⟨i, instant, same⟩ := bind_eq_ok.mp made
    obtain ⟨rfl, rfl⟩ := (instantOfParts_eq_ok whole).mp instant
    cases same
    exact .timestampTz ⟨i, _, offset_lt valid⟩ offset rfl
  · intro stands
    cases stands with
    | timestampTz z _ stored =>
      refine ⟨z, bind_eq_ok.mpr ⟨z.instant, (instantOfParts_eq_ok whole).mpr ⟨rfl, rfl⟩, ?_⟩, rfl⟩
      simp only [← stored]

/-- Seconds of a kind have a value, others have none. -/
theorem exists_stands {kind : TypeKind} {cs number : List Char} {offset : Option Nat}
    (form : EpochText kind cs number offset) (whole : nanos < nanosPerSecond) :
    (∃ v, Stands kind offset secs nanos v) ↔ secs ∈ kindSeconds kind := by
  constructor
  · rintro ⟨v, stands⟩
    cases stands with
    | time t =>
      have below := t.second_lt
      simp only [secondsPerDay] at below
      exact ⟨by simp [kindSeconds], by simp only [kindSeconds]; omega⟩
    | timestampNtz i => exact i.inRange
    | timestampLtz i => exact i.inRange
    | timestampTz z => exact z.instant.inRange
  · intro inRange
    have nanos_lt : nanos < 2 * nanosPerSecond := by omega
    cases form with
    | plain clock =>
      simp only [ColumnType.clockKinds, List.mem_cons, List.not_mem_nil, or_false] at clock
      rcases clock with rfl | rfl | rfl
      · obtain ⟨low, high⟩ := inRange
        simp only [kindSeconds] at low high
        obtain ⟨second, rfl⟩ := Int.eq_ofNat_of_zero_le low
        exact ⟨_, .time ⟨second, nanos, by simp only [secondsPerDay]; omega, nanos_lt⟩⟩
      · exact ⟨_, .timestampNtz ⟨secs, nanos, inRange, nanos_lt⟩⟩
      · exact ⟨_, .timestampLtz ⟨secs, nanos, inRange, nanos_lt⟩⟩
    | zoned zone _ offset _ valid =>
      subst zone
      exact ⟨_, .timestampTz ⟨⟨secs, nanos, inRange, nanos_lt⟩, _, offset_lt valid⟩ _ rfl⟩

/-- What is made of seconds and nanos, once the text has the form of an epoch. -/
theorem orRefused_epoch_eq_ok {α : Type} {kind own : TypeKind} {s : String} {number : List Char} {offset : Option Nat}
    {make : Int × Nat → Result α} {wrap : α → Value}
    (made : ∀ secs nanos v, nanos < nanosPerSecond →
      ((make (secs, nanos)).map wrap = .ok v ↔ Stands kind offset secs nanos v))
    (chars : EpochChars number) (form : isEpochForm number = true) :
    (((orRefused own s (epoch? number)).bind make).map wrap = .ok v ↔
      ∃ (e : EpochNumeral) (secs : Int) (nanos : Nat), number = e.text ∧ e.Denotes secs nanos ∧
        Stands kind offset secs nanos v) := by
  constructor
  · intro decoded
    obtain ⟨a, bound, rfl⟩ := map_eq_ok.mp decoded
    obtain ⟨⟨secs, nanos⟩, found, built⟩ := bind_eq_ok.mp bound
    have found : epoch? number = some (secs, nanos) := by
      rwa [← toOption_eq_some, toOption_orRefused] at found
    obtain ⟨e, rfl, denotes⟩ := (epoch?_eq_some chars form).mp found
    exact ⟨e, secs, nanos, rfl, denotes, (made _ _ _ denotes.nanos_lt).mp (map_eq_ok.mpr ⟨a, built, rfl⟩)⟩
  · rintro ⟨e, secs, nanos, rfl, denotes, stands⟩
    rw [epoch?_text_eq_some.mpr denotes]
    exact (made _ _ _ denotes.nanos_lt).mpr stands

/-- No ISO layout reads a text without digits at its start. -/
theorem iso_refused : ∀ cs ∈ ([[], ['-']] : List (List Char)), isEpochForm cs = false ∧
    Time.read? isoTime cs = none ∧ wallClock? cs none = none ∧ zoned? cs none = none := by
  decide

/-- A lone minus sign is no year, whatever follows the blank. -/
theorem zoned?_lone_minus (cs : List Char) : zoned? ('-' :: ' ' :: cs) none = none := by
  have year : year? (trimLeft ('-' :: ' ' :: cs)) = none := by
    rw [trimLeft_of_head (by decide), year?, signedDigits?, digits?]
    simp [isDigit]
  have layout : ∀ p ∈ isoZoned, Zoned.read? p ('-' :: ' ' :: cs) = none := by
    intro p member
    obtain ⟨items, first⟩ : ∃ items, Pattern.items p = .field .year :: items := by
      simp only [isoZoned, List.map_cons, List.map_nil, List.mem_cons, List.not_mem_nil, or_false] at member
      rcases member with rfl | rfl | rfl | rfl <;> exact ⟨_, rfl⟩
    rw [Zoned.read?, Pattern.read?, first, Pattern.readAll, Pattern.readItem, Pattern.readField, year]
    rfl
  have internet : Zoned.readInternet? ('-' :: ' ' :: cs) = none := by
    have first : digits? 4 4 ('-' :: ' ' :: cs) = none := by
      rw [digits?]
      simp [isDigit]
    rw [Zoned.readInternet?, first]
    rfl
  rw [zoned?, internet, Option.or_none, Option.toList_none, List.nil_append, List.findSome?_eq_none_iff]
  exact layout

theorem text_refused {t : ColumnType} {s : String} {o : DecodeOptions} {number : List Char} {offset : Option Nat}
    (plain : o.formats.pattern? t.kind = none) (form : EpochText t.kind (trimmed s) number offset)
    (other : number = [] ∨ number = ['-']) : Decode.text t s o ≠ .ok v := by
  have closed := iso_refused number (by simpa using other)
  obtain ⟨noForm, noTime, noWall, noZone⟩ := closed
  generalize whole : trimmed s = cs at form
  rw [text, plain]
  cases form with
  | plain clock =>
    simp only [ColumnType.clockKinds, List.mem_cons, List.not_mem_nil, or_false] at clock
    rcases clock with kind | kind | kind
    · simp only [kind, parseTime, whole, noForm, Option.bind_none, Option.none_or, noTime]
      intro found
      cases found
    · simp only [kind, parseNtz, whole, noForm, noWall]
      intro found
      cases found
    · simp only [kind, parseLtz, whole, noForm, noWall, noZone]
      intro found
      cases found
  | zoned zone _ offset digits =>
    rcases other with rfl | rfl
    · exact absurd (isBlank_head_trim whole) (by decide)
    · have noPart : storedZoned? (['-'] ++ ' ' :: offset) = none := rfl
      simp only [zone, parseTz, whole, noPart]
      rw [List.singleton_append, zoned?_lone_minus]
      intro found
      cases found

theorem text_eq_ok {t : ColumnType} {s : String} {o : DecodeOptions} {number : List Char} {offset : Option Nat}
    (form : EpochText t.kind (trimmed s) number offset) (chars : EpochChars number)
    (epoch : isEpochForm number = true) :
    Decode.text t s o = .ok v ↔ ∃ (e : EpochNumeral) (secs : Int) (nanos : Nat),
      number = e.text ∧ e.Denotes secs nanos ∧ Stands t.kind offset secs nanos v := by
  generalize whole : trimmed s = cs at form
  rw [text]
  cases form with
  | plain clock =>
    simp only [ColumnType.clockKinds, List.mem_cons, List.not_mem_nil, or_false] at clock
    rcases clock with kind | kind | kind
    · simp only [kind, parseTime, whole, epoch, if_true]
      exact orRefused_epoch_eq_ok (fun _ _ _ => time_stands) chars epoch
    · simp only [kind, parseNtz, whole, epoch, if_true]
      exact orRefused_epoch_eq_ok (fun _ _ _ => timestampNtz_stands) chars epoch
    · simp only [kind, parseLtz, whole, epoch, if_true]
      exact orRefused_epoch_eq_ok (fun _ _ _ => timestampLtz_stands) chars epoch
  | zoned zone _ stored digits valid =>
    have noBlank : ' ' ∉ number := by
      intro blank
      obtain ⟨sign, body, _, rfl, all⟩ := chars
      rcases List.mem_append.mp blank with before | inside
      · cases sign <;> simp [Sign.text] at before
      · rcases all _ inside with digit | point
        · cases digit
        · cases point
    have parts : storedZoned? (number ++ ' ' :: stored) = some (number, stored) := by
      rw [storedZoned?, cutAt_append noBlank, Option.filter_some, epoch, digits]
      rfl
    have filled : stored ≠ [] := by
      rintro rfl
      exact absurd valid.1 (by decide)
    have inside : (ofDigits stored : Int) ∈ Range.int64 := by
      simp only [Range.mem_def, Range.int64]
      omega
    have read : Range.int64.read? stored = some (ofDigits stored : Int) := by
      rw [Range.read?_digits _ filled digits, Range.within?, if_pos inside]
    simp only [zone, parseTz, whole, parts, read]
    exact orRefused_epoch_eq_ok (fun _ _ _ below => timestampTz_stands below valid) chars epoch

/-- Epochs without a layout are read exactly if they are numerals with at most nine fraction digits whose
whole digits fit 64 bits and whose seconds are some of the kind. Seconds and nanos are what is written; the
offset of an instant with a zone is the stored one. -/
theorem epoch_texts_accepted {t : ColumnType} {s : String} {o : DecodeOptions} {number : List Char}
    {offset : Option Nat} (plain : o.formats.pattern? t.kind = none) (form : EpochText t.kind (trimmed s) number offset)
    (chars : EpochChars number) :
    (∀ v, Decode.text t s o = .ok v ↔ ∃ (e : EpochNumeral) (secs : Int) (nanos : Nat),
      number = e.text ∧ e.Denotes secs nanos ∧ Stands t.kind offset secs nanos v) ∧
    ((∃ v, Decode.text t s o = .ok v) ↔ ∃ e : EpochNumeral, number = e.text ∧ e.fractionDigits.length ≤ 9 ∧
      (ofDigits e.whole : Int) ∈ Range.int64 ∧ ⌊e.value⌋ ∈ kindSeconds t.kind) := by
  have decoded : ∀ v, Decode.text t s o = .ok v ↔ ∃ (e : EpochNumeral) (secs : Int) (nanos : Nat),
      number = e.text ∧ e.Denotes secs nanos ∧ Stands t.kind offset secs nanos v := by
    intro v
    cases epoch : isEpochForm number with
    | true => exact text_eq_ok form chars epoch
    | false =>
      have refused := text_refused (v := v) plain form (eq_of_not_isEpochForm chars epoch)
      refine iff_of_false refused ?_
      rintro ⟨e, _, _, rfl, _⟩
      rw [isEpochForm_text e] at epoch
      cases epoch
  refine ⟨decoded, ?_⟩
  constructor
  · rintro ⟨v, found⟩
    obtain ⟨e, secs, nanos, text, denotes, stands⟩ := (decoded v).mp found
    refine ⟨e, text, denotes.digits, denotes.whole, ?_⟩
    rw [denotes.floor_eq]
    exact (exists_stands form denotes.nanos_lt).mp ⟨v, stands⟩
  · rintro ⟨e, text, few, whole, inRange⟩
    obtain ⟨secs, nanos, denotes⟩ := e.exists_denotes few whole
    rw [denotes.floor_eq] at inRange
    obtain ⟨v, stands⟩ := (exists_stands form denotes.nanos_lt).mpr inRange
    exact ⟨v, (decoded v).mpr ⟨e, secs, nanos, text, denotes, stands⟩⟩

def minusHalf : EpochNumeral := ⟨.minus, ['0'], some ['5'], by decide, by decide, by decide⟩

/-- Half a second before the epoch, at a clock one hour east. -/
def halfBefore : Zoned := ⟨⟨-1, 500000000, by decide, by decide⟩, 3600, by decide⟩

theorem epoch_texts_accepted_halfBefore :
    EpochText .timestampTz (trimmed "-0.5 1500") "-0.5".toList (some 1500) ∧
    Decode.text { kind := .timestampTz } "-0.5 1500" {} = .ok (.timestampTz halfBefore) := by
  have form : EpochText .timestampTz (trimmed "-0.5 1500") "-0.5".toList (some 1500) :=
    .zoned rfl "-0.5".toList "1500".toList (by decide) (by decide)
  have chars : EpochChars "-0.5".toList := ⟨.minus, ['0', '.', '5'], nofun, rfl, by simp [isDigit]⟩
  obtain ⟨decoded, -⟩ := @epoch_texts_accepted { kind := .timestampTz } "-0.5 1500" {} _ _ rfl form chars
  have value : minusHalf.value = -1 / 2 := by
    have zero : ofDigits ['0'] = 0 := rfl
    have five : ofDigits ['5'] = 5 := rfl
    norm_num [minusHalf, EpochNumeral.value, EpochNumeral.fractionDigits, zero, five]
  have denotes : minusHalf.Denotes (-1) 500000000 :=
    ⟨by decide, by decide, by decide, by norm_num [value, nanosPerSecond]⟩
  exact ⟨form, (decoded _).mpr ⟨minusHalf, -1, 500000000, rfl, denotes, .timestampTz halfBefore 1500 rfl⟩⟩

/-- A lone point has no digits, and is midnight. -/
theorem lone_point_accepted :
    Decode.text { kind := .time } "." {} = .ok (.time ⟨0, 0, by decide, by decide⟩) := rfl

end RowStream.Decode
