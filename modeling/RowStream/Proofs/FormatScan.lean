import RowStream.Proofs.BytePositions
import RowStream.Proofs.Lexemes

/-! # Scanning formats byte by byte

The scan goes over the bytes of a format and looks for words in a copy in capitals. It takes one lexeme in each
round and so never comes to a position inside of a character. -/
namespace RowStream.SessionFormat
open RowStream.Text RowStream.Calendar.Pattern

/-- Fractional seconds at a position: the point at the end of the pattern so far goes, a digit is left out. -/
def fractionRound (format : List Char) (pos : Nat) (out : List Char) : Option (Except Fault (Nat × List Char)) :=
  if out.getLast? = some '.' then do
    let after ← fromByte? (pos + 2) (upper format)
    let digit := if after.head?.any isDigit then 1 else 0
    some (.ok (pos + 2 + digit, out.dropLast ++ Field.fraction.spelling))
  else some (.error .fractionWithoutPoint)

/-- A literal between quotes, which begins at a position. -/
def quoteRound (format : List Char) (start : Nat) (out : List Char) : Option (Except Fault (Nat × List Char)) := do
  let inside ← fromByte? start format
  match cutAt '"' inside with
  | none => some (.error .openLiteral)
  | some (text, _) => do
    let stop := start + byteLength text
    let literal ← between? start stop format
    some (.ok (stop + 1, out ++ (literal.map .literal).flatMap Piece.spelling))

def literalRound (format : List Char) (pos : Nat) (out : List Char) : Option (Except Fault (Nat × List Char)) := do
  let here ← fromByte? pos format
  match here with
  | [] => some (.ok (byteLength format, out))
  | c :: _ =>
    if c = '"' then quoteRound format (pos + 1) out
    else some (.ok (pos + Utf8.width c, out ++ (Piece.literal c).spelling))

/-- One round of the scan, given the pattern so far. Words are looked for in the capitals of the format. Where a
position is inside of a character there is no answer. -/
def round (format : List Char) (pos : Nat) (out : List Char) : Option (Except Fault (Nat × List Char)) := do
  let rest ← fromByte? pos (upper format)
  match tokens.find? fun t => t.1.isPrefixOf rest with
  | some t => some (.ok (pos + byteLength t.1, out ++ t.2.spelling))
  | none => if ['F', 'F'].isPrefixOf rest then fractionRound format pos out else literalRound format pos out

section
variable {format out out' : List Char} {pos pos' : Nat}

theorem fractionRound_advances (h : fractionRound format pos out = some (.ok (pos', out'))) : pos < pos' := by
  rw [fractionRound] at h
  split at h
  · obtain ⟨after, -, same⟩ := Option.bind_eq_some_iff.mp h
    cases same
    omega
  · cases h

theorem quoteRound_advances (h : quoteRound format pos out = some (.ok (pos', out'))) : pos < pos' := by
  obtain ⟨inside, -, h⟩ := Option.bind_eq_some_iff.mp h
  split at h
  · cases h
  · obtain ⟨literal, -, same⟩ := Option.bind_eq_some_iff.mp h
    cases same
    omega

theorem literalRound_advances (inside : pos < byteLength format)
    (h : literalRound format pos out = some (.ok (pos', out'))) : pos < pos' := by
  obtain ⟨here, -, h⟩ := Option.bind_eq_some_iff.mp h
  split at h
  · cases h
    exact inside
  · rename_i c _
    split at h
    · exact Nat.lt_of_succ_lt (quoteRound_advances h)
    · cases h
      exact Nat.lt_add_of_pos_right (width_pos c)

/-- Every round goes on in the format. -/
theorem round_advances (inside : pos < byteLength format) (h : round format pos out = some (.ok (pos', out'))) :
    pos < pos' := by
  obtain ⟨rest, -, h⟩ := Option.bind_eq_some_iff.mp h
  split at h
  · rename_i t found
    cases h
    exact Nat.lt_add_of_pos_right (byteLength_pos (ne_nil_of_token (List.mem_of_find?_eq_some found)))
  · split at h
    · exact fractionRound_advances h
    · exact literalRound_advances inside h

end

/-- The pattern so far grows until the position is at the end of the format. -/
def scan (format : List Char) (pos : Nat) (out : List Char) : Option (Except Fault (List Char)) :=
  if _inside : pos < byteLength format then
    match _h : round format pos out with
    | none => none
    | some (.error fault) => some (.error fault)
    | some (.ok (pos', out')) => scan format pos' out'
  else some (.ok out)
termination_by byteLength format - pos
decreasing_by
  have := round_advances _inside _h
  omega

section
variable {format out out' : List Char} {pos pos' : Nat} (inside : pos < byteLength format)
include inside

theorem scan_error {fault : Fault} (taken : round format pos out = some (.error fault)) :
    scan format pos out = some (.error fault) := by
  rw [scan, dif_pos inside]
  split <;> rename_i same <;> rw [taken] at same <;> cases same
  rfl

theorem scan_ok (taken : round format pos out = some (.ok (pos', out'))) :
    scan format pos out = scan format pos' out' := by
  rw [scan, dif_pos inside]
  split <;> rename_i same <;> rw [taken] at same <;> cases same
  rfl

end

/-- The pattern of the pieces so far, of which the last is the first. -/
def spelled (done : List Piece) : List Char := done.reverse.flatMap Piece.spelling

theorem spelled_append (added done : List Piece) :
    spelled (added.reverse ++ done) = spelled done ++ added.flatMap Piece.spelling := by
  rw [spelled, List.reverse_append, List.reverse_reverse, List.flatMap_append, spelled]

theorem spelled_cons (p : Piece) (done : List Piece) : spelled (p :: done) = spelled done ++ p.spelling := by
  simpa using spelled_append [p] done

theorem getLast?_spelling (p : Piece) : p.spelling.getLast? = some '.' ↔ p = .literal '.' := by
  cases p with
  | field f => cases f <;> simp [Piece.spelling, Field.spelling, Field.letters]
  | literal c =>
    by_cases percent : c = '%'
    · subst percent
      simp [Piece.spelling]
    · simp [spelling_literal percent]

theorem spelling_ne_nil (p : Piece) : p.spelling ≠ [] := by
  cases p with
  | field f => exact List.cons_ne_nil _ _
  | literal c =>
    by_cases percent : c = '%'
    · subst percent
      exact List.cons_ne_nil _ _
    · rw [spelling_literal percent]
      exact List.cons_ne_nil _ _

theorem getLast?_spelled (done : List Piece) : (spelled done).getLast? = some '.' ↔
    done.head? = some (.literal '.') := by
  cases done with
  | nil => simp [spelled]
  | cons p done =>
    rw [spelled_cons, List.getLast?_append_of_ne_nil _ (spelling_ne_nil p), getLast?_spelling, List.head?_cons,
      Option.some.injEq]

theorem isPrefixOf_upper {word cs : List Char} : word.isPrefixOf (upper cs) = true ↔ ∃ rest, Begins word cs rest := by
  rw [List.isPrefixOf_iff_prefix]
  constructor
  · rintro ⟨back, same⟩
    obtain ⟨start, rest, rfl, here, -⟩ := List.map_eq_append_iff.mp same.symm
    exact ⟨rest, start, rfl, here⟩
  · rintro ⟨rest, start, rfl, rfl⟩
    exact ⟨upper rest, (upper_append start rest).symm⟩

theorem find?_token {cs : List Char} {t : List Char × Field} :
    tokens.find? (fun t => t.1.isPrefixOf (upper cs)) = some t ↔
    IsFirst (fun t => ∃ rest, Begins t.1 cs rest) tokens t :=
  find?_eq_some_iff_isFirst fun _ => isPrefixOf_upper

theorem find?_token_eq_none {cs : List Char} :
    tokens.find? (fun t => t.1.isPrefixOf (upper cs)) = none ↔ ∀ t ∈ tokens, ¬∃ rest, Begins t.1 cs rest := by
  simp only [List.find?_eq_none, isPrefixOf_upper]

theorem Begins.byteLength {word cs rest : List Char} (h : Begins word cs rest) :
    ∃ start, cs = start ++ rest ∧ byteLength start = byteLength word := by
  obtain ⟨start, rfl, rfl⟩ := h
  exact ⟨start, rfl, (byteLength_upper start).symm⟩

theorem fromByte?_upper (before cs : List Char) :
    fromByte? (byteLength before) (upper (before ++ cs)) = some (upper cs) := by
  rw [upper_append, ← byteLength_upper before]
  exact fromByte?_append _ _

theorem dropDigit_split (cs : List Char) :
    ∃ digit, cs = digit ++ dropDigit cs ∧ byteLength digit = if (upper cs).head?.any isDigit then 1 else 0 := by
  cases cs with
  | nil => exact ⟨[], rfl, rfl⟩
  | cons c cs =>
    have head : (upper (c :: cs)).head?.any isDigit = isDigit c := isDigit_toUpper c
    rw [head, dropDigit]
    cases digit : isDigit c with
    | true =>
      have small : c.toNat < 0x80 := by
        by_contra large
        rw [isDigit_eq_false (by omega)] at digit
        cases digit
      exact ⟨[c], rfl, by simp [Utf8.width, Utf8.encodeChar, small]⟩
    | false => exact ⟨[], rfl, rfl⟩

section
variable (before : List Char) (done : List Piece)

theorem fractionRound_eq {word : List Char} (after : List Char) (same : upper word = ['F', 'F']) :
    ∃ digit, after = digit ++ dropDigit after ∧
      fractionRound (before ++ (word ++ after)) (byteLength before) (spelled done) =
        some ((push done .fraction).map fun done => (byteLength (before ++ (word ++ digit)), spelled done)) := by
  obtain ⟨digit, split, size⟩ := dropDigit_split after
  refine ⟨digit, split, ?_⟩
  have two : byteLength word = 2 := by
    rw [← byteLength_upper, same]
    rfl
  by_cases point : done.head? = some (.literal '.')
  · obtain ⟨earlier, rfl⟩ := List.head?_eq_some_iff.mp point
    have later : fromByte? (byteLength before + 2) (upper (before ++ (word ++ after))) = some (upper after) := by
      rw [← two, ← byteLength_append, ← List.append_assoc]
      exact fromByte?_upper _ _
    rw [fractionRound, if_pos ((getLast?_spelled _).mpr point), later]
    have place : byteLength (before ++ (word ++ digit)) = byteLength before + 2 + byteLength digit := by
      rw [byteLength_append, byteLength_append, two, Nat.add_assoc]
    have shorter : (spelled (.literal '.' :: earlier)).dropLast = spelled earlier := by
      rw [spelled_cons]
      exact List.dropLast_concat
    have grown : spelled (.field .fraction :: earlier) = spelled earlier ++ Field.fraction.spelling := spelled_cons _ _
    simp only [Option.bind_eq_bind, Option.bind_some, ← size, shorter, push, withFraction?, Except.map, place, grown]
  · rw [fractionRound, if_neg ((getLast?_spelled _).not.mpr point), push, withFraction?_of_head point]
    rfl

theorem byteLength_quote : byteLength (before ++ ['"']) = byteLength before + 1 := byteLength_append before ['"']

theorem quoteRound_closed {text : List Char} (rest : List Char) (closed : '"' ∉ text) :
    quoteRound (before ++ (text ++ '"' :: rest)) (byteLength before) (spelled done) =
      some (.ok (byteLength (before ++ (text ++ ['"'])), spelled ((text.map .literal).reverse ++ done))) := by
  have inside : fromByte? (byteLength before) (before ++ (text ++ '"' :: rest)) = some (text ++ '"' :: rest) :=
    fromByte?_append _ _
  have literal : between? (byteLength before) (byteLength before + byteLength text) (before ++ (text ++ '"' :: rest)) =
      some text := by
    rw [← byteLength_append]
    exact between?_append _ _ _
  have place : byteLength (before ++ (text ++ ['"'])) = byteLength before + byteLength text + 1 := by
    rw [byteLength_append, byteLength_append, Nat.add_assoc]
    rfl
  simp only [quoteRound, inside, Option.bind_eq_bind, Option.bind_some, cutAt_append closed, literal, place,
    spelled_append]

theorem quoteRound_open {text : List Char} (never : '"' ∉ text) :
    quoteRound (before ++ text) (byteLength before) (spelled done) = some (.error .openLiteral) := by
  simp only [quoteRound, fromByte?_append, Option.bind_eq_bind, Option.bind_some, cutAt_eq_none never]

theorem literalRound_eq (c : Char) (rest : List Char) :
    literalRound (before ++ c :: rest) (byteLength before) (spelled done) =
      if c = '"' then quoteRound (before ++ c :: rest) (byteLength before + 1) (spelled done)
      else some (.ok (byteLength (before ++ [c]), spelled (.literal c :: done))) := by
  have place : byteLength (before ++ [c]) = byteLength before + Utf8.width c := by
    rw [byteLength_append, byteLength_cons, byteLength_nil, Nat.add_zero]
  simp only [literalRound, fromByte?_append, Option.bind_eq_bind, Option.bind_some, place, spelled_cons]

theorem round_wordless {cs : List Char} (wordless : Wordless cs) :
    round (before ++ cs) (byteLength before) (spelled done) =
      literalRound (before ++ cs) (byteLength before) (spelled done) := by
  have noFraction : ¬['F', 'F'].isPrefixOf (upper cs) = true := isPrefixOf_upper.not.mpr wordless.fraction
  simp only [round, fromByte?_upper, Option.bind_eq_bind, Option.bind_some, find?_token_eq_none.mpr wordless.token,
    if_neg noFraction]

/-- A round takes a lexeme. -/
theorem round_next {cs rest : List Char} {l : Lexeme} (h : Next cs l rest) :
    ∃ start, cs = start ++ rest ∧ round (before ++ cs) (byteLength before) (spelled done) =
      some ((push done l).map fun done => (byteLength (before ++ start), spelled done)) := by
  cases h with
  | token first start =>
    obtain ⟨word, rfl, size⟩ := start.byteLength
    refine ⟨word, rfl, ?_⟩
    simp only [round, fromByte?_upper, Option.bind_eq_bind, Option.bind_some, find?_token.mpr first, byteLength_append,
      size, push, Except.map, spelled_cons]
    rfl
  | @fraction _ after noToken start =>
    have found : ['F', 'F'].isPrefixOf (upper cs) = true := isPrefixOf_upper.mpr ⟨_, start⟩
    obtain ⟨word, rfl, same⟩ := start
    obtain ⟨digit, split, taken⟩ := fractionRound_eq before done after same
    refine ⟨word ++ digit, by rw [List.append_assoc, ← split], ?_⟩
    rw [← taken]
    simp only [round, fromByte?_upper, Option.bind_eq_bind, Option.bind_some, find?_token_eq_none.mpr noToken,
      if_pos found]
  | @quoted text rest wordless closed =>
    refine ⟨'"' :: (text ++ ['"']), by simp, ?_⟩
    have split (cs : List Char) : before ++ '"' :: cs = before ++ ['"'] ++ cs := by simp
    rw [round_wordless before done wordless, literalRound_eq, if_pos rfl,
      split (text ++ '"' :: rest), split (text ++ ['"']), ← byteLength_quote, quoteRound_closed _ _ _ closed]
    rfl
  | @unclosed text wordless never =>
    refine ⟨_, (List.append_nil _).symm, ?_⟩
    have split : before ++ '"' :: text = before ++ ['"'] ++ text := by simp
    rw [round_wordless before done wordless, literalRound_eq, if_pos rfl, split, ← byteLength_quote,
      quoteRound_open _ _ never]
    rfl
  | @other c rest wordless unquoted =>
    refine ⟨[c], rfl, ?_⟩
    rw [round_wordless before done wordless, literalRound_eq, if_neg unquoted]
    rfl

end

/-- The scan gives the pattern of the pieces that the format is cut into. -/
theorem scan_lexed {cs : List Char} {ls : List Lexeme} (h : Lexed cs ls) (before : List Char) (done : List Piece) :
    scan (before ++ cs) (byteLength before) (spelled done) =
      some ((cut done cs).map fun ps => ps.flatMap Piece.spelling) := by
  -- The position is the length of what has been read, the pattern so far is the spelling of its pieces.
  induction h generalizing before done with
  | done =>
    rw [scan, List.append_nil, dif_neg (Nat.lt_irrefl _), cut_nil]
    rfl
  | @step cs l rest ls next later ih =>
    obtain ⟨start, rfl, taken⟩ := round_next before done next
    have inside : byteLength before < byteLength (before ++ (start ++ rest)) := by
      rw [byteLength_append]
      exact Nat.lt_add_of_pos_right (byteLength_pos next.ne_nil)
    rw [cut_next next]
    cases pushed : push done l with
    | error fault =>
      rw [pushed] at taken
      exact scan_error inside taken
    | ok done' =>
      rw [pushed] at taken
      rw [scan_ok inside taken, ← List.append_assoc]
      exact ih (before ++ start) done'

end RowStream.SessionFormat
