import RowStream.Proofs.CalendarDays
import RowStream.Proofs.EpochTexts
import RowStream.Proofs.FormatSpelling

/-! # Texts in the format of a session

A format of numeric fields and separators writes dates and times of day as digits of a fixed width. Reading
such a text by its pattern gives them back, one piece after the other; blanks at the ends may be missing. Only
texts that can be taken for a count are not read by the pattern, because counts are tried first. -/
namespace RowStream.Calendar
open RowStream.Text RowStream.Number RowStream.Number.Decimal RowStream.SessionFormat RowStream.Calendar.Pattern

def width : Field → Nat
  | .year => 4
  | _ => 2

structure InRange (number : Field → Nat) : Prop where
  year : number .year ≤ 9999
  month : 1 ≤ number .month ∧ number .month ≤ 12
  day : 1 ≤ number .day ∧ number .day ≤ 31
  hour : number .hour ≤ 23
  minute : number .minute ≤ 59
  second : number .second ≤ 59

/-- What is known once the given fields have been read. -/
def known (number : Field → Nat) (read : List Field) : Fields where
  year := if .year ∈ read then some (number .year : Int) else none
  month := if .month ∈ read then some (number .month) else none
  day := if .day ∈ read then some (number .day) else none
  half := if .hour ∈ read then some (number .hour / 12) else none
  hourOfHalf := if .hour ∈ read then some (number .hour % 12) else none
  minute := if .minute ∈ read then some (number .minute) else none
  second := if .second ∈ read then some (number .second) else none

theorem agree_known {α : Type} [DecidableEq α] (p : Prop) [Decidable p] (a : α) :
    Fields.agree (if p then some a else none) a = some (some a) := by
  split <;> simp [Fields.agree]

variable {number : Field → Nat} {read : List Field} {f : Field}

theorem InRange.fits (h : InRange number) (numeric : f ∈ numericFields) : 0 < width f ∧ number f < 10 ^ width f := by
  obtain ⟨year, month, day, hour, minute, second⟩ := h
  simp only [numericFields, List.mem_cons, List.not_mem_nil, or_false] at numeric
  rcases numeric with rfl | rfl | rfl | rfl | rfl | rfl <;> simp only [width] <;> omega

theorem digits?_field (h : InRange number) (numeric : f ∈ numericFields) (two : width f = 2) (rest : List Char) :
    digits? 1 2 (trimLeft (padded (width f) (number f) ++ rest)) = some (number f, rest) := by
  obtain ⟨positive, fits⟩ := h.fits numeric
  rw [trimLeft_padded positive fits]
  rw [two] at fits ⊢
  exact digits?_padded (by decide) fits (by decide) rest

theorem year?_field (h : InRange number) (rest : List Char) :
    year? (trimLeft (padded (width .year) (number .year) ++ rest)) = some ((number .year : Int), rest) := by
  obtain ⟨positive, fits⟩ := h.fits (f := .year) (by decide)
  rw [trimLeft_padded positive fits]
  exact year?_padded fits rest

/-- A field that has been read is known. -/
theorem readField_known (h : InRange number) (numeric : f ∈ numericFields) (rest : List Char) :
    readField f (known number read) (padded (width f) (number f) ++ rest) = some (known number (f :: read), rest) := by
  have digits := fun two => digits?_field h numeric two rest
  have year := year?_field h rest
  have inWord : -2147483648 ≤ (number .year : Int) ∧ (number .year : Int) ≤ 2147483647 := by
    have := h.year
    omega
  simp only [numericFields, List.mem_cons, List.not_mem_nil, or_false] at numeric
  rcases numeric with rfl | rfl | rfl | rfl | rfl | rfl
  · simp [readField, year, store, Fields.setYear, inWord, known, agree_known]
  · simp [readField, digits rfl, store, Fields.setMonth, Fields.between, h.month, known, agree_known]
  · simp [readField, digits rfl, store, Fields.setDay, Fields.between, h.day, known, agree_known]
  · simp [readField, digits rfl, store, Fields.setHour, Fields.between, h.hour, known, agree_known]
  · simp [readField, digits rfl, store, Fields.setMinute, Fields.between, h.minute, known, agree_known]
  · have leap : number .second ≤ 60 := by
      have := h.second
      omega
    simp [readField, digits rfl, store, Fields.setSecond, Fields.between, leap, known, agree_known]

def shown (number : Field → Nat) : Piece → List Char
  | .field f => padded (width f) (number f)
  | .literal c => [c]

/-- What a text without the blanks at its start may have begun with. -/
def Begins (cs text : List Char) : Prop := cs = text ∨ cs = trimLeft text

theorem trimLeft_of_begins {cs text : List Char} (begins : Begins cs text) : trimLeft cs = trimLeft text := by
  rcases begins with rfl | rfl
  · rfl
  · exact List.dropWhile_idempotent isBlank text

variable {p : Piece} {ps : List Piece}

/-- One piece is read back, from a text that may have lost blanks. -/
theorem readItem_shown (h : InRange number) (numeric : ∀ f ∈ p.field?, f ∈ numericFields) (read : List Field)
    {cs text : List Char} (begins : Begins cs (shown number p ++ text)) :
    ∃ rest, readItem p.item (known number read) cs = some (known number (p.field?.toList ++ read), rest) ∧
      Begins rest text := by
  cases p with
  | field f =>
    have numeric := numeric f rfl
    obtain ⟨positive, fits⟩ := h.fits numeric
    have same : cs = padded (width f) (number f) ++ text := by
      rcases begins with rfl | rfl
      · rfl
      · exact trimLeft_padded positive fits text
    rw [same]
    exact ⟨text, readField_known h numeric text, .inl rfl⟩
  | literal c =>
    by_cases blank : isBlank c = true
    · have dropped : trimLeft (c :: text) = trimLeft text := by simp [trimLeft, blank]
      refine ⟨trimLeft cs, ?_, .inr ((trimLeft_of_begins begins).trans dropped)⟩
      rw [Piece.item, plain, if_pos blank]
      rfl
    · have same : cs = c :: text := by
        rcases begins with rfl | rfl
        · rfl
        · exact trimLeft_of_head (by simpa using blank)
      refine ⟨text, ?_, .inl rfl⟩
      rw [Piece.item, plain, if_neg blank, same]
      simp [readItem, Piece.field?]

/-- All pieces are read back, whatever is to be read after them. -/
theorem readAll_shown (h : InRange number) (numeric : ∀ f ∈ ps.filterMap Piece.field?, f ∈ numericFields)
    {cs : List Char} (begins : Begins cs (ps.flatMap (shown number))) (more : List Item) :
    readAll (ps.map Piece.item ++ more) (known number read) cs =
      readAll more (known number ((ps.filterMap Piece.field?).reverse ++ read)) [] := by
  induction ps generalizing cs read with
  | nil =>
    obtain rfl : cs = [] := by
      rcases begins with rfl | rfl
      · rfl
      · rfl
    rfl
  | cons p ps ih =>
    rw [List.flatMap_cons] at begins
    have first : ∀ f ∈ p.field?, f ∈ numericFields := by
      intro f is
      exact numeric f (List.mem_filterMap.mpr ⟨p, List.mem_cons_self, is⟩)
    have later : ∀ f ∈ ps.filterMap Piece.field?, f ∈ numericFields := by
      intro f member
      obtain ⟨q, inside, is⟩ := List.mem_filterMap.mp member
      exact numeric f (List.mem_filterMap.mpr ⟨q, List.mem_cons_of_mem p inside, is⟩)
    obtain ⟨rest, item, begins⟩ := readItem_shown h first read begins
    have order : ((p :: ps).filterMap Piece.field?).reverse ++ read =
        (ps.filterMap Piece.field?).reverse ++ (p.field?.toList ++ read) := by
      cases p <;> simp [List.filterMap_cons, Piece.field?]
    rw [List.map_cons, List.cons_append, readAll, item, order]
    exact ih later begins

theorem readAll_blanks {blanks : List Item} (all : ∀ i ∈ blanks, i = .blank) (fs : Fields) :
    readAll blanks fs [] = some fs := by
  induction blanks with
  | nil => rfl
  | cons i blanks ih =>
    obtain rfl := all i List.mem_cons_self
    exact ih fun j member => all j (List.mem_cons_of_mem _ member)

theorem getLast?_shown (h : InRange number) (numeric : ∀ f ∈ p.field?, f ∈ numericFields) (text : List Char) :
    (∃ c, p = .literal c ∧ isBlank c = true) ∨
      ∀ c, (text ++ shown number p).getLast? = some c → isBlank c = false := by
  cases p with
  | field f =>
    obtain ⟨positive, fits⟩ := h.fits (numeric f rfl)
    obtain ⟨d, ds, start, _⟩ := exists_head_padded positive fits
    refine .inr fun c last => ?_
    rw [shown, List.getLast?_append_of_ne_nil _ (start ▸ List.cons_ne_nil d ds)] at last
    exact isBlank_of_isDigit (allDigits_iff.mp (allDigits_padded _ _) c (List.mem_of_mem_getLast? last))
  | literal c =>
    cases blank : isBlank c with
    | true => exact .inl ⟨c, rfl, blank⟩
    | false =>
      refine .inr fun d last => ?_
      rw [shown, List.getLast?_append_of_ne_nil _ (List.cons_ne_nil c [])] at last
      cases last
      exact blank

/-- The trimmed text of all pieces is read back: blanks that were lost at the ends are not asked for. -/
theorem readAll_trim (h : InRange number) (numeric : ∀ f ∈ ps.filterMap Piece.field?, f ∈ numericFields)
    (blanks : List Item)
    (all : ∀ i ∈ blanks, i = .blank) : readAll (ps.map Piece.item ++ blanks) {} (trim (ps.flatMap (shown number))) =
      some (known number (ps.filterMap Piece.field?).reverse) := by
  have nothing : ({} : Fields) = known number [] := rfl
  rw [nothing]
  induction ps using List.reverseRecOn generalizing blanks with
  | nil => exact readAll_blanks all _
  | append_singleton ps p ih =>
    have last : ∀ f ∈ p.field?, f ∈ numericFields := by
      intro f is
      exact numeric f (List.mem_filterMap.mpr ⟨p, by simp, is⟩)
    rcases getLast?_shown h last (ps.flatMap (shown number)) with ⟨c, rfl, blank⟩ | noBlank
    · -- The blank has gone from the text and is one of those that are not asked for.
      have fields : (ps ++ [Piece.literal c]).filterMap Piece.field? = ps.filterMap Piece.field? := by
        simp [List.filterMap_append, List.filterMap_cons, Piece.field?]
      have item : Piece.item (.literal c) = .blank := if_pos blank
      have text : trim ((ps ++ [Piece.literal c]).flatMap (shown number)) = trim (ps.flatMap (shown number)) := by
        rw [List.flatMap_append]
        exact trim_append_blank blank _
      rw [fields] at numeric ⊢
      rw [text, List.map_append, List.append_assoc, List.map_singleton, item]
      exact ih numeric (.blank :: blanks) (by simpa using all)
    · have text : (ps ++ [p]).flatMap (shown number) = ps.flatMap (shown number) ++ shown number p := by
        rw [List.flatMap_append, List.flatMap_singleton]
      rw [trim_eq_trimLeft (text ▸ noBlank), readAll_shown h numeric (.inr rfl), List.append_nil]
      exact readAll_blanks all _

theorem read?_source (h : InRange number) (numeric : ∀ f ∈ ps.filterMap Piece.field?, f ∈ numericFields) :
    Pattern.read? (ps.flatMap Piece.spelling) (trim (ps.flatMap (shown number))) =
      some (known number (ps.filterMap Piece.field?).reverse) := by
  have found := readAll_trim h numeric [] nofun
  rwa [List.append_nil, ← SessionFormat.items_spelling] at found

/-- The numbers that formats write for a date and a time of day. -/
def numbersOf (d : Date) (t : Time) : Field → Nat
  | .year => d.civil.1.toNat
  | .month => d.civil.2.1
  | .day => d.civil.2.2
  | .hour => t.hour
  | .minute => t.minute
  | .second => t.secondOfMinute
  | _ => 0

variable {d : Date} {t : Time}

theorem inRange_numbersOf (year : d.civil.1 ≤ 9999) : InRange (numbersOf d t) := by
  obtain ⟨y, m, day, written, month_mem, day_mem, _⟩ := exists_civil d.day
  have short := daysInMonth_le y m
  have below := t.second_lt
  have civil : d.civil = (y, m, day) := written
  rw [civil] at year
  simp only [secondsPerDay] at below
  constructor <;> simp only [numbersOf, civil, Time.hour, Time.minute, Time.secondOfMinute] <;> omega

theorem date?_known (years : 0 ≤ d.civil.1) (fields : ∀ f ∈ ([.year, .month, .day] : List Field), f ∈ read) :
    (known (numbersOf d t) read).date? = some d := by
  have year : ((numbersOf d t .year : Nat) : Int) = d.civil.1 := Int.toNat_of_nonneg years
  have put := d.ofCivil?_civil
  simp only [List.mem_cons, List.not_mem_nil, or_false, forall_eq_or_imp, forall_eq] at fields
  simp only [Fields.date?, Fields.fullYear?, known, fields, if_true, year]
  simp only [numbersOf, Option.bind_eq_bind, Option.bind_some, put]
  simp

theorem ofClock?_numbersOf (whole : t.nanos = 0) : Time.ofClock? t.hour t.minute t.secondOfMinute 0 = some t := by
  have below := t.second_lt
  simp only [secondsPerDay] at below
  have clock : t.hour < 24 ∧ t.minute < 60 ∧ t.secondOfMinute < 60 := by
    simp only [Time.hour, Time.minute, Time.secondOfMinute]
    omega
  have sum : t.second = t.hour * 3600 + t.minute * 60 + t.secondOfMinute := by
    simp only [Time.hour, Time.minute, Time.secondOfMinute]
    omega
  rw [Time.ofClock?, if_pos clock, Time.ofParts?_eq_some (by decide)]
  exact ⟨sum, whole⟩

theorem time?_known (whole : t.nanos = 0) (fields : ∀ f ∈ ([.hour, .minute, .second] : List Field), f ∈ read) :
    (known (numbersOf d t) read).time? = some t := by
  have hour : numbersOf d t .hour / 12 * 12 + numbersOf d t .hour % 12 = t.hour := Nat.div_add_mod' _ _
  have noLeap : numbersOf d t .second ≠ 60 := by
    simp only [numbersOf, Time.secondOfMinute]
    omega
  have put : Time.ofClock? t.hour (numbersOf d t .minute) (numbersOf d t .second) 0 = some t := ofClock?_numbersOf whole
  simp only [List.mem_cons, List.not_mem_nil, or_false, forall_eq_or_imp, forall_eq] at fields
  simp only [Fields.time?, known, fields, if_true, Option.bind_eq_bind, Option.bind_some, hour]
  simpa [noLeap] using put

end RowStream.Calendar

namespace RowStream.Decode
open RowStream.Text RowStream.Number RowStream.Number.Decimal RowStream.SessionFormat
open RowStream.Calendar RowStream.Calendar.Pattern

/-- Where the session says how texts of a kind are written. -/
def settingOf? (params : List SessionParameter) : TypeKind → Option String
  | .date => OutputFormats.setting? params "DATE_OUTPUT_FORMAT"
  | .time => OutputFormats.setting? params "TIME_OUTPUT_FORMAT"
  | .timestampNtz => OutputFormats.timestampSetting? params "TIMESTAMP_NTZ_OUTPUT_FORMAT"
  | _ => none

def fieldsOf : TypeKind → List Field
  | .date => [.year, .month, .day]
  | .time => [.hour, .minute, .second]
  | .timestampNtz => [.year, .month, .day, .hour, .minute, .second]
  | _ => []

def valueOf? (d : Date) (t : Time) : TypeKind → Option Value
  | .date => some (.date d)
  | .time => some (.time t)
  | .timestampNtz => some (.timestampNtz (Instant.ofDateTime d t))
  | _ => none

/-- A format of a kind: all its fields once, in any order, with any separators. -/
structure FormatOf (kind : TypeKind) (ps : List Piece) : Prop where
  fields : (ps.filterMap Piece.field?).Perm (fieldsOf kind)
  separators : ∀ c, .literal c ∈ ps → isSeparator c = true

/-- What a format writes for a date and a time of day. -/
def rendered (ps : List Piece) (d : Date) (t : Time) : String := String.ofList (ps.flatMap (shown (numbersOf d t)))

/-- Whether a text can be taken for a number of days or seconds: then no format is looked at. -/
def IsCount (kind : TypeKind) (cs : List Char) : Prop := EpochChars cs ∧ (kind = .date → '.' ∉ cs)

/-- The value of a kind that is so many days or seconds after the epoch. -/
inductive Counted (e : EpochNumeral) : TypeKind → Value → Prop
  | days (d : Date) (count : (d.day : ℚ) = e.value) : Counted e .date (.date d)
  | seconds {kind secs nanos v} (denotes : e.Denotes secs nanos) (stands : Stands kind none secs nanos v) :
      Counted e kind v

variable {kind : TypeKind} {ps : List Piece} {d : Date} {t : Time} {params : List SessionParameter}

theorem FormatOf.simple (h : FormatOf kind ps) : Simple ps := by
  have all : ∀ f ∈ fieldsOf kind, f ∈ numericFields := by cases kind <;> decide
  have once : (fieldsOf kind).Nodup := by cases kind <;> decide
  exact ⟨fun f member => all f (h.fields.mem_iff.mp member), h.fields.nodup_iff.mpr once, h.separators⟩

theorem pattern?_of_setting {format : String} (set : settingOf? params kind = some format) :
    (OutputFormats.ofParameters params).pattern? kind = OutputFormats.usable? (some format) := by
  cases kind with
  | date | time | timestampNtz => exact congrArg OutputFormats.usable? set
  | _ => cases set

theorem epochChars_of_isEpochForm {cs : List Char} (form : isEpochForm cs = true) : EpochChars cs := by
  rw [isEpochForm, Bool.and_eq_true, List.all_eq_true] at form
  obtain ⟨_, all⟩ := form
  simp only [Bool.or_eq_true, beq_iff_eq] at all
  cases cs with
  | nil => exact ⟨.bare, [], by decide, rfl, List.forall_mem_nil _⟩
  | cons c rest =>
    by_cases minus : '-' = c
    · subst minus
      exact ⟨.minus, rest, by decide, rfl, all⟩
    · rw [dropStart?, if_neg minus] at all
      exact ⟨.bare, c :: rest, by decide, rfl, all⟩

/-- What is no count is read by the format. -/
theorem text_of_not_count (h : FormatOf kind ps) {ct : ColumnType} (is : ct.kind = kind) {o : DecodeOptions}
    (pattern : o.formats.pattern? kind = some (ps.flatMap Piece.spelling)) (years : 0 ≤ d.civil.1 ∧ d.civil.1 ≤ 9999)
    (whole : t.nanos = 0) {v : Value} (value : valueOf? d t kind = some v)
    (noCount : ¬IsCount kind (trimmed (rendered ps d t))) : Decode.text ct (rendered ps d t) o = .ok v := by
  have read := read?_source (inRange_numbersOf (t := t) years.2) h.simple.numeric
  have known : ∀ f, f ∈ (ps.filterMap Piece.field?).reverse ↔ f ∈ fieldsOf kind := by
    intro f
    rw [List.mem_reverse, h.fields.mem_iff]
  have text_eq : trimmed (rendered ps d t) = trim (ps.flatMap (shown (numbersOf d t))) := trimmed_ofList _
  rw [← text_eq] at read
  generalize (ps.filterMap Piece.field?).reverse = fields at read known
  generalize whole_text : trimmed (rendered ps d t) = cs at *
  rw [text, is, pattern]
  cases kind with
  | date =>
    have date := date?_known (t := t) years.1 (fun f member => (known f).mpr member)
    have found : Date.read? (ps.flatMap Piece.spelling) cs = some d := by
      rw [Date.read?, read]
      exact date
    have form : (isEpochForm cs && !cs.contains '.') = false := by
      by_contra count
      simp only [Bool.not_eq_false, Bool.and_eq_true, Bool.not_eq_true', List.contains_eq_mem,
        decide_eq_false_iff_not] at count
      exact noCount ⟨epochChars_of_isEpochForm count.1, fun _ => count.2⟩
    cases value
    simp only [parseDate, whole_text, form, Option.bind_some, found]
    rfl
  | time =>
    have time := time?_known (d := d) whole (fun f member => (known f).mpr member)
    have found : Time.read? (ps.flatMap Piece.spelling) cs = some t := by
      rw [Time.read?, read]
      exact time
    have form : isEpochForm cs = false := by
      by_contra count
      exact noCount ⟨epochChars_of_isEpochForm (by simpa using count), fun date => by cases date⟩
    cases value
    simp only [parseTime, whole_text, form, Option.bind_some, found]
    rfl
  | timestampNtz =>
    have dates : ∀ f ∈ fieldsOf .date, f ∈ fieldsOf .timestampNtz := by decide
    have times : ∀ f ∈ fieldsOf .time, f ∈ fieldsOf .timestampNtz := by decide
    have date := date?_known (t := t) years.1 (fun f member => (known f).mpr (dates f member))
    have time := time?_known (d := d) whole (fun f member => (known f).mpr (times f member))
    have found : Instant.read? (ps.flatMap Piece.spelling) cs = some (Instant.ofDateTime d t) := by
      rw [Instant.read?, read, Option.bind_eq_bind, Option.bind_some, Fields.wallClock?, date, time]
      rfl
    have form : isEpochForm cs = false := by
      by_contra count
      exact noCount ⟨epochChars_of_isEpochForm (by simpa using count), fun date => by cases date⟩
    cases value
    simp only [parseNtz, whole_text, form, wallClock?, Option.toList_some, List.singleton_append, List.findSome?_cons,
      found]
    rfl
  | _ => cases value

theorem denotes_of_text_eq {e e' : EpochNumeral} (same : e.text = e'.text) {secs : Int} {nanos : Nat} :
    e.Denotes secs nanos ↔ e'.Denotes secs nanos := by
  rw [← epoch?_text_eq_some, ← epoch?_text_eq_some, same]

theorem read?_signed {sign : Sign} (noPlus : sign ≠ .plus) {whole : List Char} (filled : whole ≠ [])
    (digits : allDigits whole = true) :
    Range.int64.read? (sign.text ++ whole) = Range.int64.within? (sign.factor * ofDigits whole) := by
  cases sign with
  | bare => rw [Sign.text, List.nil_append, Range.read?_digits _ filled digits, Sign.factor_bare, Int.one_mul]
  | plus => exact absurd rfl noPlus
  | minus =>
    have found : natural? whole = some (ofDigits whole) := natural?_eq_some.mpr ⟨filled, digits, rfl⟩
    rw [Sign.text, List.singleton_append, Range.read?, if_pos (by decide), found, Sign.factor_minus, Int.neg_one_mul]
    rfl

/-- A whole number is that many days. -/
theorem parseDate_eq_ok {s : String} {e : EpochNumeral} (number : trimmed s = e.text) (digits : e.whole ≠ [])
    (days : e.fraction = none) {pattern : Option (List Char)} :
    parseDate s pattern = .ok d ↔ (d.day : ℚ) = e.value := by
  have text_eq : e.text = e.sign.text ++ e.whole := by
    rw [EpochNumeral.text, EpochNumeral.body, days, Option.elim_none, List.append_nil]
  have noPoint : '.' ∉ e.text := by
    have whole := not_mem_of_allDigits e.wholeDigits (show isDigit '.' = false by rfl)
    rw [text_eq, List.mem_append, not_or]
    refine ⟨?_, whole⟩
    cases e.sign <;> decide
  have form : (isEpochForm e.text && !e.text.contains '.') = true := by
    simp [isEpochForm_text, noPoint]
  have value : e.value = (e.sign.factor * ofDigits e.whole : Int) := by
    rw [EpochNumeral.value, EpochNumeral.fractionDigits, days]
    simp [ofDigits]
  rw [value, Int.cast_inj]
  simp only [parseDate, number, form, if_true]
  rw [text_eq, read?_signed e.noPlus digits e.wholeDigits]
  generalize e.sign.factor * (ofDigits e.whole : Int) = n
  by_cases word : n ∈ Range.int64
  · have found : dateOfDays n = .ok d ↔ Date.ofDay? n = some d := by
      rw [dateOfDays]
      cases Date.ofDay? n <;> simp
    rw [Range.within?, if_pos word]
    exact found.trans Date.ofDay?_eq_some
  · rw [Range.within?, if_neg word]
    refine iff_of_false (by intro found; cases found) ?_
    rintro rfl
    have inRange := d.inRange
    simp only [minDay, maxDay] at inRange
    simp only [Range.mem_def, Range.int64] at word
    omega

/-- What is a number is a count, whatever the format. -/
theorem text_of_count {ct : ColumnType} (timed : ct.kind ∈ [.date, .time, .timestampNtz]) {s : String}
    {o : DecodeOptions} {e : EpochNumeral} (number : trimmed s = e.text) (digits : e.whole ≠ [])
    (days : ct.kind = .date → e.fraction = none) {v : Value} :
    Decode.text ct s o = .ok v ↔ Counted e ct.kind v := by
  by_cases date : ct.kind = .date
  · rw [text, date]
    simp only [map_eq_ok, parseDate_eq_ok number digits (days date)]
    constructor
    · rintro ⟨d, count, rfl⟩
      exact .days d count
    · intro counted
      cases counted with
      | days d count => exact ⟨d, count, rfl⟩
      | seconds _ stands => cases stands
  · have clock : ct.kind ∈ ColumnType.clockKinds := by
      simp only [ColumnType.clockKinds, List.mem_cons, List.not_mem_nil, or_false, date, false_or] at timed ⊢
      tauto
    have form : EpochText ct.kind (trimmed s) e.text none := number ▸ .plain clock _
    rw [text_eq_ok form (epochChars_of_isEpochForm (isEpochForm_text e)) (isEpochForm_text e)]
    constructor
    · rintro ⟨e', secs, nanos, same, denotes, stands⟩
      exact .seconds ((denotes_of_text_eq same).mpr denotes) stands
    · intro counted
      generalize ct.kind = kind at counted date
      cases counted with
      | days => exact absurd rfl date
      | seconds denotes stands => exact ⟨e, _, _, rfl, denotes, stands⟩

/-- A number with digits on both sides of its point, if it has one. -/
def EpochNumeral.IsPlain (e : EpochNumeral) : Prop := e.whole ≠ [] ∧ e.fraction ≠ some []

/-- Whatever a format of the session writes for a date, a time of day or both is decoded to them, unless it can
be taken for a count. A plain number is one: it is decoded to so many days or seconds. -/
theorem session_texts_decode {ct : ColumnType} {o : DecodeOptions}
    (formats : o.formats = OutputFormats.ofParameters params)
    (set : settingOf? params ct.kind = some (String.ofList (ps.flatMap Piece.source))) (format : FormatOf ct.kind ps)
    (years : 0 ≤ d.civil.1 ∧ d.civil.1 ≤ 9999) (whole : t.nanos = 0) {v : Value}
    (value : valueOf? d t ct.kind = some v) :
    (¬IsCount ct.kind (trimmed (rendered ps d t)) → Decode.text ct (rendered ps d t) o = .ok v) ∧
    ∀ e : EpochNumeral, trimmed (rendered ps d t) = e.text → e.IsPlain → (ct.kind = .date → e.fraction = none) →
      ∀ w, Decode.text ct (rendered ps d t) o = .ok w ↔ Counted e ct.kind w := by
  constructor
  · have pattern : o.formats.pattern? ct.kind = some (ps.flatMap Piece.spelling) := by
      rw [formats, pattern?_of_setting set, format.simple.usable?_source]
    exact text_of_not_count format rfl pattern years whole value
  · intro e number plain days w
    have timed : ct.kind ∈ [.date, .time, .timestampNtz] := by
      revert value
      cases ct.kind <;> simp [valueOf?]
    exact text_of_count timed number plain.1 days

/-- Day, month and year with points and blanks around them. -/
def pointed : List Piece := [.literal ' ', .field .day, .literal '.', .field .month, .literal '.', .field .year,
    .literal ' ']

def dateOnly : List Piece := [.field .year, .field .month, .field .day]

def earlyDate : Date := ⟨-719129, by decide⟩

def midnight : Time := default

def settings (format : String) : List SessionParameter := [{ name := "DATE_OUTPUT_FORMAT", value := .string format }]

theorem session_texts_decode_pointed :
    rendered pointed earlyDate midnight = " 03.02.0001 " ∧
    Decode.text { kind := .date } " 03.02.0001 " { formats := .ofParameters (settings " DD.MM.YYYY ") } =
      .ok (.date earlyDate) := by
  have text : rendered pointed earlyDate midnight = " 03.02.0001 " := by decide
  have separators : ∀ c, .literal c ∈ pointed → isSeparator c = true := by
    intro c member
    simp only [pointed, List.mem_cons, Piece.literal.injEq, reduceCtorEq, false_or, List.not_mem_nil,
      or_false] at member
    rcases member with rfl | rfl | rfl | rfl <;> rfl
  have format : FormatOf .date pointed := ⟨by decide, separators⟩
  obtain ⟨decoded, -⟩ := @session_texts_decode pointed earlyDate midnight (settings " DD.MM.YYYY ") { kind := .date }
    { formats := .ofParameters (settings " DD.MM.YYYY ") } rfl (by decide) format (by decide) rfl (.date earlyDate) rfl
  rw [text] at decoded
  refine ⟨text, decoded ?_⟩
  rintro ⟨_, noPoint⟩
  exact noPoint rfl (by decide)

/-- Without separators the same date is written as a number, and read as the day of that number. -/
theorem digits_read_as_days :
    earlyDate.civil = (1, 2, 3) ∧ rendered dateOnly earlyDate midnight = "00010203" ∧
    Decode.text { kind := .date } "00010203" { formats := .ofParameters (settings "YYYYMMDD") } =
      .ok (.date ⟨10203, by decide⟩) ∧
    Date.civil ⟨10203, by decide⟩ = (1997, 12, 8) := by
  refine ⟨by decide, by decide, rfl, by decide⟩

end RowStream.Decode
