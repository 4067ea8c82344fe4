import RowStream.Proofs.RenderedClocks
import RowStream.Proofs.ScalarTexts
import RowStream.Scan

/-! # Texts of scanned values

Every text that a scalar is scanned into is decoded to that scalar again. None of the texts of dates and clocks can
be taken for a count: each has a mark after its first character that is neither a digit nor a point. -/
namespace RowStream.Decode
open RowStream.Text RowStream.Number RowStream.Number.Decimal RowStream.Calendar

/-- A count has a sign at its start only, and no other marks but points. -/
theorem not_isEpochForm_of_mem {cs : List Char} {c : Char} (inside : c ∈ cs.tail) (noDigit : isDigit c = false)
    (noPoint : c ≠ '.') : isEpochForm cs = false := by
  have member : c ∈ (dropStart? ['-'] cs).getD cs := by
    cases cs with
    | nil => cases inside
    | cons d ds =>
      by_cases minus : '-' = d
      · rw [dropStart?, if_pos minus]
        exact inside
      · rw [dropStart?, if_neg minus]
        exact List.mem_cons_of_mem d inside
  have other : (isDigit c || c == '.') = false := by simp [noDigit, noPoint]
  rw [isEpochForm, Bool.and_eq_false_iff]
  refine .inr (List.all_eq_false.mpr ⟨c, member, ?_⟩)
  rw [other]
  exact Bool.false_ne_true

/-- What stands after something is not first. -/
theorem mem_tail_append {front : List Char} (filled : front ≠ []) {c : Char} (rest : List Char) :
    c ∈ (front ++ c :: rest).tail := by
  cases front with
  | nil => exact absurd rfl filled
  | cons d ds => simp

theorem padded_ne_nil (width n : Nat) : padded width n ≠ [] := by
  intro none
  exact Nat.toDigits_ne_nil (List.append_eq_nil_iff.mp none).2

theorem yearChars_ne_nil (y : Int) : yearChars y ≠ [] := by
  rw [yearChars]
  split
  · exact padded_ne_nil _ _
  · exact List.cons_ne_nil _ _

theorem not_isEpochForm_dayChars (n : Int) (rest : List Char) : isEpochForm (dayChars n ++ rest) = false := by
  refine not_isEpochForm_of_mem (c := '-') ?_ rfl (by decide)
  simp only [dayChars, List.append_assoc, List.cons_append]
  exact mem_tail_append (yearChars_ne_nil _) _

theorem not_isEpochForm_clockChars (second nanos : Nat) : isEpochForm (clockChars second nanos) = false := by
  refine not_isEpochForm_of_mem (c := ':') ?_ rfl (by decide)
  exact mem_tail_append (padded_ne_nil _ _) _

theorem trim_wallChars (i : Instant) : trim (wallChars ' ' i.second i.nanos) = wallChars ' ' i.second i.nanos := by
  have day_ne : dayChars i.date.day ≠ [] := by
    simp only [dayChars, ne_eq, List.append_eq_nil_iff, not_and]
    exact fun none => absurd none (yearChars_ne_nil _)
  have clock_ne : clockChars i.time.second i.time.nanos ≠ [] := by
    simp only [clockChars, ne_eq, List.append_eq_nil_iff, not_and]
    exact fun none => absurd none (padded_ne_nil _ _)
  rw [wallChars_eq]
  apply trim_eq_self
  · intro c first
    rw [List.head?_append_of_ne_nil _ day_ne] at first
    exact (stamped_dayChars (List.mem_of_mem_head? first)).not_blank
  · intro c last
    rw [List.getLast?_append_of_ne_nil _ (List.cons_ne_nil _ _), List.getLast?_cons_of_ne_nil clock_ne] at last
    exact (stamped_clockChars (List.mem_of_mem_getLast? last)).not_blank

/-- A zoned timestamp is written without blanks. -/
theorem stamped_render {z : Zoned} {c : Char} (member : c ∈ z.render.toList) : Stamped c := by
  rw [Zoned.render, String.toList_ofList, wallChars] at member
  simp only [List.append_assoc, List.mem_append, List.cons_append, List.mem_cons] at member
  rcases member with day | rfl | clock | offset
  · exact stamped_dayChars day
  · exact .inr (by simp)
  · exact stamped_clockChars clock
  · exact stamped_offsetChars offset

theorem trimmed_zoned (z : Zoned) : trimmed z.render = z.render.toList :=
  trim_eq_self_of_forall fun _ member => (stamped_render member).not_blank

theorem parseDate_render (d : Date) : parseDate d.render none = .ok d := by
  have text : trimmed d.render = dayChars d.day := by
    rw [Date.render, trimmed_ofList]
    exact trim_eq_self_of_forall fun _ member => (stamped_dayChars member).not_blank
  have form := not_isEpochForm_dayChars d.day []
  rw [List.append_nil] at form
  simp [parseDate, text, form, Date.read?_dayChars, orRefused]

theorem parseTime_render {t : Time} (regular : t.Regular) : parseTime t.render none = .ok t := by
  have text : trimmed t.render = clockChars t.second t.nanos := by
    rw [Time.render, trimmed_ofList]
    exact trim_eq_self_of_forall fun _ member => (stamped_clockChars member).not_blank
  simp [parseTime, text, not_isEpochForm_clockChars, Time.read?_clockChars regular, orRefused]

theorem parseNtz_render {i : Instant} (regular : i.Regular) : parseNtz i.render none = .ok i := by
  have text : trimmed i.render = wallChars ' ' i.second i.nanos := by
    rw [Instant.render, trimmed_ofList, trim_wallChars]
  have form : isEpochForm (wallChars ' ' i.second i.nanos) = false := not_isEpochForm_dayChars _ _
  simp [parseNtz, text, form, wallClock?, Instant.read?_wallChars regular, orRefused]

theorem zoned?_render {z : Zoned} {wall : Instant} (regular : z.Regular) (shown : z.wallClock? = some wall) :
    zoned? z.render.toList none = some z := by
  rw [zoned?, Option.toList_none, List.nil_append, Zoned.findSome?_isoZoned regular shown, Option.some_or]

theorem parseLtz_render {i : Instant} (regular : i.Regular) : parseLtz (Zoned.utc i).render none = .ok i := by
  have shown : (Zoned.utc i).wallClock? = some i := Instant.ofSecond?_eq_some.mpr ⟨(Int.add_zero _).symm, rfl⟩
  have form : isEpochForm (Zoned.utc i).render.toList = false := by
    rw [Zoned.toList_render shown, wallChars, List.append_assoc]
    exact not_isEpochForm_dayChars _ _
  have read := zoned?_render (z := Zoned.utc i) ⟨regular, Int.dvd_zero 60⟩ shown
  simp only [parseLtz, trimmed_zoned, form, read]
  rfl

theorem parseTz_render {z : Zoned} {wall : Instant} (regular : z.Regular) (shown : z.wallClock? = some wall) :
    parseTz z.render none = .ok z := by
  have noBlank : ' ' ∉ z.render.toList := by
    intro member
    have blank := (stamped_render member).not_blank
    cases blank
  have stored : storedZoned? z.render.toList = none := by rw [storedZoned?, cutAt_eq_none noBlank]; rfl
  simp only [parseTz, trimmed_zoned, stored, zoned?_render regular shown]
  rfl

variable {t : ColumnType} {o : DecodeOptions}

theorem render_zero (n : Int) : toString n = render n 0 := by
  rw [render, ← toList_toString_int, String.ofList_toList]

/-- Numbers that are kept exactly are written with all of their fraction digits. -/
theorem text?_fixedValue (exact : o.higherPrecision = true) (n : Int) (scale : Nat) :
    Scanner.text? (fixedValue n scale o) = some (render n scale) := by
  simp only [fixedValue, exact, if_true]
  split
  · rename_i whole
    rw [whole, ← render_zero]
    split <;> rfl
  · rfl

theorem parseFixed_render {scale : Nat} (fits : (scale : Int) ∈ Range.nat32) (n : Int) :
    parseFixed (render n scale) scale = .ok n := by
  have word : (scale : Int) ∈ Range.int64 := by
    rw [Range.mem_def] at fits ⊢
    simp only [Range.nat32, Range.int64] at fits ⊢
    omega
  rw [parseFixed, render, String.toList_ofList, unscaled?_renderChars n word]
  rfl

theorem boolean?_word (b : Bool) : boolean? (trimmed (if b then "true" else "false")) = some b := by
  cases b <;> rfl

theorem decode_encodeUpper (bytes : List UInt8) : Hex.decode (trimmed (Hex.encodeUpper bytes)) = some bytes := by
  rw [Hex.encodeUpper, trimmed_encodeWith (by decide), Hex.decode_encodeWith Hex.digitValue?_upper]

/-- Without a session format, the text that a decoded value is scanned into is decoded to the same value. Floats are
left out: numbers have to be kept exactly. A zoned timestamp has to have a wall clock. -/
theorem scanned_text_decodes {s : String} {v : Value} (kind : t.kind ≠ .real)
    (exact : t.kind = .fixed → o.higherPrecision = true) (scale : (t.scale : Int) ∈ Range.nat32)
    (plain : o.formats.pattern? t.kind = none) (decoded : Decode.text t s o = .ok v)
    (shown : ∀ z, v = .timestampTz z → z.wallClock?.isSome = true) :
    ∃ r, Scanner.text.scan v = .ok r ∧ Decode.text t r o = .ok v := by
  have scanned : ∀ {v : Value} {r : String}, Scanner.text? v = some r → Scanner.text.scan v = .ok r := by
    intro v r text
    simp only [Scanner.text, text]
    rfl
  simp only [Decode.text] at decoded ⊢
  simp only [plain] at decoded ⊢
  cases own : t.kind <;> simp only [own] at decoded ⊢
  case real => exact absurd own kind
  case fixed =>
    obtain ⟨n, -, rfl⟩ := map_eq_ok.mp decoded
    exact ⟨_, scanned (text?_fixedValue (exact own) n t.scale), by rw [parseFixed_render scale]; rfl⟩
  case boolean =>
    obtain ⟨b, -, rfl⟩ := map_eq_ok.mp decoded
    exact ⟨_, rfl, by rw [boolean?_word]; rfl⟩
  case date =>
    obtain ⟨d, -, rfl⟩ := map_eq_ok.mp decoded
    exact ⟨_, rfl, by rw [parseDate_render]; rfl⟩
  case time =>
    obtain ⟨time, found, rfl⟩ := map_eq_ok.mp decoded
    exact ⟨_, rfl, by rw [parseTime_render (regular_of_parseTime found)]; rfl⟩
  case timestampNtz =>
    obtain ⟨i, found, rfl⟩ := map_eq_ok.mp decoded
    exact ⟨_, rfl, by rw [parseNtz_render (regular_of_parseNtz found)]; rfl⟩
  case timestampLtz =>
    obtain ⟨i, found, rfl⟩ := map_eq_ok.mp decoded
    exact ⟨_, rfl, by rw [parseLtz_render (regular_of_parseLtz found)]; rfl⟩
  case timestampTz =>
    obtain ⟨z, found, rfl⟩ := map_eq_ok.mp decoded
    obtain ⟨wall, clock⟩ := Option.isSome_iff_exists.mp (shown z rfl)
    exact ⟨_, rfl, by rw [parseTz_render (regular_of_parseTz found) clock]; rfl⟩
  case binary =>
    obtain ⟨bytes, -, rfl⟩ := map_eq_ok.mp decoded
    exact ⟨_, rfl, by rw [decode_encodeUpper]; rfl⟩
  case text | variant | object | array | map =>
    cases decoded
    exact ⟨_, rfl, rfl⟩

/-- A leap second before year 0, shown by a clock three and a half hours west. -/
theorem scanned_text_decodes_leapSecond :
    ∃ v, Decode.text { kind := .timestampTz } " -0005-06-07 08:09:60.25 -0330" {} = .ok v ∧
      Scanner.text.scan v = .ok "-0005-06-07T08:09:60.250-03:30" ∧
      Decode.text { kind := .timestampTz } "-0005-06-07T08:09:60.250-03:30" {} = .ok v := by
  have decoded : Decode.text { kind := .timestampTz } " -0005-06-07 08:09:60.25 -0330" {} =
      .ok (.timestampTz ⟨⟨-62311378801, 1250000000, by decide, by decide⟩, -12600, by decide⟩) := rfl
  have scanned : Scanner.text.scan
      (.timestampTz ⟨⟨-62311378801, 1250000000, by decide, by decide⟩, -12600, by decide⟩) =
      .ok "-0005-06-07T08:09:60.250-03:30" := rfl
  obtain ⟨r, scan, again⟩ := scanned_text_decodes (by decide) (fun other => by cases other) (by decide) rfl decoded (by
    rintro z ⟨⟩
    rfl)
  rw [scanned] at scan
  cases scan
  exact ⟨_, decoded, scanned, again⟩

end RowStream.Decode
