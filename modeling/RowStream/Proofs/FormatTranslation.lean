import RowStream.Proofs.FormatScan

/-! # Translating formats

What a format becomes is what its lexemes say, and the pattern is read back as exactly that. -/
namespace RowStream.SessionFormat
open RowStream.Text RowStream.Calendar.Pattern

def refusal (format : String) (fault : Fault) : Error :=
  .invalidArgument ("unsupported date/time format '" ++ format ++ "': " ++ fault.text)

def translate (format : String) : Option (Result (List Char)) :=
  (scan format.toList 0 []).map fun r => r.mapError (refusal format)

theorem pattern_eq (format : String) : pattern format =
    ((pieces format.toList).map fun ps => ps.flatMap Piece.spelling).mapError (refusal format) := by
  rw [pattern]
  cases pieces format.toList <;> rfl

theorem translate_eq (format : String) : translate format = some (pattern format) := by
  obtain ⟨ls, lexed⟩ := exists_lexed format.toList
  have scanned : scan format.toList 0 [] = _ := scan_lexed lexed [] []
  rw [translate, scanned, pattern_eq]
  rfl

theorem field_spelling_ne (f : Field) (c : Char) (cs ds : List Char) :
    f.spelling ++ cs ≠ (Piece.literal c).spelling ++ ds := by
  by_cases percent : c = '%'
  · subst percent
    cases f <;> simp [Field.spelling, Field.letters, Piece.spelling]
  · rw [spelling_literal percent]
    intro same
    exact percent (List.cons.inj same).1.symm

theorem exists_spelling_literal (c : Char) : ∃ cs, (Piece.literal c).spelling = c :: cs := by
  by_cases percent : c = '%'
  · subst percent
    exact ⟨['%'], rfl⟩
  · exact ⟨[], spelling_literal percent⟩

theorem spelling_append_inj {p q : Piece} {cs ds : List Char} (same : p.spelling ++ cs = q.spelling ++ ds) :
    p = q ∧ cs = ds := by
  cases p with
  | field f =>
    cases q with
    | field g =>
      have read := congrArg items same
      simp only [Piece.spelling, Calendar.Pattern.items_spelling, List.cons.injEq, Item.field.injEq] at read
      obtain ⟨rfl, -⟩ := read
      exact ⟨rfl, List.append_cancel_left same⟩
    | literal c => exact absurd same (field_spelling_ne f c cs ds)
  | literal c =>
    cases q with
    | field g => exact absurd same.symm (field_spelling_ne g c ds cs)
    | literal d =>
      obtain ⟨_, here⟩ := exists_spelling_literal c
      obtain ⟨_, there⟩ := exists_spelling_literal d
      have first := same
      rw [here, there] at first
      obtain ⟨rfl, -⟩ := List.cons.inj first
      exact ⟨rfl, List.append_cancel_left same⟩

/-- A pattern is the spelling of one list of pieces only. -/
theorem spelling_injective {ps qs : List Piece} (same : ps.flatMap Piece.spelling = qs.flatMap Piece.spelling) :
    ps = qs := by
  induction ps generalizing qs with
  | nil =>
    cases qs with
    | nil => rfl
    | cons q qs => exact absurd (List.append_eq_nil_iff.mp same.symm).1 (spelling_ne_nil q)
  | cons p ps ih =>
    cases qs with
    | nil => exact absurd (List.append_eq_nil_iff.mp same).1 (spelling_ne_nil p)
    | cons q qs =>
      rw [List.flatMap_cons, List.flatMap_cons] at same
      obtain ⟨rfl, later⟩ := spelling_append_inj same
      rw [ih later]

/-- Any format has one reading as lexemes, and its bytes are translated by them: the first lexeme that cannot be
translated is the complaint. Otherwise the pattern has the fields of the tokens and all literal characters, in
order, and it is read back as exactly these. -/
theorem formats_translate_by_lexemes (format : String) :
    ∃ ls, (∀ ls', Lexed format.toList ls' ↔ ls' = ls) ∧ translate format = some (pattern format) ∧
      ((∃ e, pattern format = .error e) ↔ Misplaced ls ∨ Unclosed ls) ∧
      (Misplaced ls → pattern format = .error (refusal format .fractionWithoutPoint)) ∧
      (¬Misplaced ls → Unclosed ls → pattern format = .error (refusal format .openLiteral)) ∧
      ∀ out, pattern format = .ok out → out = (absorbed (emitted ls)).flatMap Piece.spelling ∧
        items out = (absorbed (emitted ls)).map Piece.item ∧
        ∀ ps, ps.flatMap Piece.spelling = out → ps = absorbed (emitted ls) := by
  obtain ⟨ls, lexed⟩ := exists_lexed format.toList
  have single : ∀ ls', Lexed format.toList ls' ↔ ls' = ls := by
    intro ls'
    constructor
    · exact fun other => lexed.unique other
    · rintro rfl
      exact lexed
  refine ⟨ls, single, translate_eq format, ?_⟩
  rw [pattern_eq]
  have outcome : Outcome [] ls (pieces format.toList) := outcome_cut lexed []
  generalize pieces format.toList = cut at outcome
  cases outcome with
  | misplaced h =>
    refine ⟨⟨fun _ => .inl h, fun _ => ⟨_, rfl⟩⟩, fun _ => rfl, fun placed => absurd h placed, ?_⟩
    intro out same
    cases same
  | unclosed placed h =>
    refine ⟨⟨fun _ => .inr h, fun _ => ⟨_, rfl⟩⟩, fun h => absurd h placed, fun _ _ => rfl, ?_⟩
    intro out same
    cases same
  | ok placed closed =>
    refine ⟨⟨?_, ?_⟩, fun h => absurd h placed, fun _ h => absurd h closed, ?_⟩
    · rintro ⟨e, same⟩
      cases same
    · exact fun h => absurd h (not_or.mpr ⟨placed, closed⟩)
    · intro out same
      cases same
      exact ⟨rfl, items_spelling _, fun ps same => spelling_injective same⟩

/-- Seconds with a fraction, and percent signs with and without quotes. -/
def percentFormat : String := "SS.FF3\"%Y\"%"

def percentLexemes : List Lexeme := [.token .second, .other '.', .fraction, .quoted ['%', 'Y'], .other '%']

theorem lexed_percentFormat : Lexed percentFormat.toList percentLexemes := by
  refine .step (next_iff.mp rfl) ?_
  refine .step (next_iff.mp rfl) ?_
  refine .step (next_iff.mp rfl) ?_
  refine .step (next_iff.mp rfl) ?_
  exact .step (next_iff.mp rfl) .done

theorem formats_translate_by_lexemes_percent : pattern percentFormat = .ok "%S%.f%%Y%%".toList ∧
    items "%S%.f%%Y%%".toList = [.field .second, .field .fraction, .literal '%', .literal 'Y', .literal '%'] := by
  obtain ⟨ls, single, -, failed, -, -, spelled⟩ := formats_translate_by_lexemes percentFormat
  obtain rfl : percentLexemes = ls := (single _).mp lexed_percentFormat
  have placed : ¬Misplaced percentLexemes := by
    simp [Misplaced, percentLexemes, misplacedAfter_cons, misplacedAfter_nil, Lexeme.pieces]
  have closed : ¬Unclosed percentLexemes := by simp [Unclosed, percentLexemes]
  cases result : pattern percentFormat with
  | error e => exact absurd (failed.mp ⟨e, result⟩) (not_or.mpr ⟨placed, closed⟩)
  | ok out =>
    obtain ⟨rfl, read, -⟩ := spelled out result
    exact ⟨rfl, read⟩

end RowStream.SessionFormat
