import RowStream.Proofs.FormatSpelling
import RowStream.Proofs.Decimals
import RowStream.Proofs.Traversal

/-! # Lexemes of formats

A format has exactly one reading from left to right. Its lexemes say which pieces it becomes and which formats
have none. -/
namespace RowStream.SessionFormat
open RowStream.Text RowStream.Calendar.Pattern

/-- The parts of a format as they are written. -/
inductive Lexeme
  | token (f : Field)
  | fraction
  | quoted (cs : List Char)
  /-- A quote that nothing closes, and all that follows it. -/
  | unclosed (cs : List Char)
  | other (c : Char)
deriving Repr, DecidableEq

/-- The text is a word in any case, and then the rest. -/
def Begins (word cs rest : List Char) : Prop := ∃ start, cs = start ++ rest ∧ upper start = word

/-- Neither a token nor fractional seconds are at the start of the text. -/
structure Wordless (cs : List Char) : Prop where
  token : ∀ t ∈ tokens, ¬∃ rest, Begins t.1 cs rest
  fraction : ¬∃ rest, Begins ['F', 'F'] cs rest

/-- The lexeme at the start of a text and what follows it: the first token of the table that is there, else
fractional seconds, else a literal between quotes, else one character. -/
inductive Next : List Char → Lexeme → List Char → Prop
  | token {cs rest t} (first : IsFirst (fun t => ∃ rest, Begins t.1 cs rest) tokens t) (start : Begins t.1 cs rest) :
      Next cs (.token t.2) rest
  | fraction {cs rest} (noToken : ∀ t ∈ tokens, ¬∃ rest, Begins t.1 cs rest) (start : Begins ['F', 'F'] cs rest) :
      Next cs .fraction (dropDigit rest)
  | quoted {text rest} (wordless : Wordless ('"' :: (text ++ '"' :: rest))) (closed : '"' ∉ text) :
      Next ('"' :: (text ++ '"' :: rest)) (.quoted text) rest
  | unclosed {text} (wordless : Wordless ('"' :: text)) (never : '"' ∉ text) : Next ('"' :: text) (.unclosed text) []
  | other {c rest} (wordless : Wordless (c :: rest)) (unquoted : c ≠ '"') : Next (c :: rest) (.other c) rest

inductive Lexed : List Char → List Lexeme → Prop
  | done : Lexed [] []
  | step {cs l rest ls} (next : Next cs l rest) (later : Lexed rest ls) : Lexed cs (l :: ls)

theorem dropToken?_eq_some {word cs rest : List Char} : dropToken? word cs = some rest ↔ Begins word cs rest := by
  rw [dropToken?]
  constructor
  · intro h
    split at h
    · rename_i same
      cases h
      exact ⟨_, (List.take_append_drop word.length cs).symm, same⟩
    · cases h
  · rintro ⟨start, rfl, rfl⟩
    simp [upper]

theorem dropToken?_eq_none {word cs : List Char} : dropToken? word cs = none ↔ ¬∃ rest, Begins word cs rest := by
  simp only [← dropToken?_eq_some, Option.eq_none_iff_forall_ne_some, not_exists, ne_eq]

theorem token?_eq_some {cs rest : List Char} {f : Field} : token? cs = some (f, rest) ↔
    ∃ t, IsFirst (fun t => ∃ rest, Begins t.1 cs rest) tokens t ∧ Begins t.1 cs rest ∧ t.2 = f := by
  rw [token?, List.findSome?_eq_some_iff]
  simp only [Option.map_eq_some_iff, Option.map_eq_none_iff, dropToken?_eq_some, dropToken?_eq_none, Prod.mk.injEq]
  constructor
  · rintro ⟨before, t, after, split, ⟨_, start, same, rfl⟩, none_before⟩
    exact ⟨t, ⟨before, after, split, ⟨_, start⟩, none_before⟩, start, same⟩
  · rintro ⟨t, ⟨before, after, split, _, none_before⟩, start, same⟩
    exact ⟨before, t, after, split, ⟨rest, start, same, rfl⟩, none_before⟩

theorem token?_eq_none {cs : List Char} : token? cs = none ↔ ∀ t ∈ tokens, ¬∃ rest, Begins t.1 cs rest := by
  simp only [token?, List.findSome?_eq_none_iff, Option.map_eq_none_iff, dropToken?_eq_none]

theorem not_mem_of_cutAt {sep : Char} {cs before rest : List Char} (h : cutAt sep cs = some (before, rest)) :
    sep ∉ before := by
  induction cs generalizing before with
  | nil => cases h
  | cons c cs ih =>
    rw [cutAt] at h
    split at h
    · cases h
      exact List.not_mem_nil
    · rename_i other
      obtain ⟨p, found, same⟩ := Option.map_eq_some_iff.mp h
      cases same
      rw [List.mem_cons, not_or]
      exact ⟨Ne.symm other, ih found⟩

theorem not_mem_of_cutAt_eq_none {sep : Char} {cs : List Char} (h : cutAt sep cs = none) : sep ∉ cs := by
  intro member
  obtain ⟨before, after, rfl, absent⟩ := List.eq_append_cons_of_mem member
  rw [cutAt_append absent] at h
  cases h

/-- The lexeme at the start of a text that is not empty. -/
def next (cs : List Char) : Option (Lexeme × List Char) :=
  match token? cs with
  | some (f, rest) => some (.token f, rest)
  | none =>
    match dropToken? ['F', 'F'] cs with
    | some rest => some (.fraction, dropDigit rest)
    | none =>
      match cs with
      | [] => none
      | c :: rest =>
        if c = '"' then
          match cutAt '"' rest with
          | some (text, rest) => some (.quoted text, rest)
          | none => some (.unclosed rest, [])
        else some (.other c, rest)

section
variable {cs rest : List Char} {l : Lexeme}

theorem next_iff : next cs = some (l, rest) ↔ Next cs l rest := by
  constructor
  · intro h
    cases token : token? cs with
    | some p =>
      simp only [next, token] at h
      cases h
      obtain ⟨t, first, start, same⟩ := token?_eq_some.mp token
      exact same ▸ .token first start
    | none =>
      cases fraction : dropToken? ['F', 'F'] cs with
      | some after =>
        simp only [next, token, fraction] at h
        cases h
        exact .fraction (token?_eq_none.mp token) (dropToken?_eq_some.mp fraction)
      | none =>
        have wordless : Wordless cs := ⟨token?_eq_none.mp token, dropToken?_eq_none.mp fraction⟩
        cases cs with
        | nil =>
          simp only [next, token, fraction] at h
          cases h
        | cons c cs =>
          by_cases quote : c = '"'
          · subst quote
            cases cut : cutAt '"' cs with
            | some p =>
              simp only [next, token, fraction, cut, if_true] at h
              cases h
              rw [cutAt_eq_some cut] at wordless ⊢
              exact .quoted wordless (not_mem_of_cutAt cut)
            | none =>
              simp only [next, token, fraction, cut, if_true] at h
              cases h
              exact .unclosed wordless (not_mem_of_cutAt_eq_none cut)
          · simp only [next, token, fraction, quote, if_false] at h
            cases h
            exact .other wordless quote
  · intro h
    cases h with
    | token first start => simp only [next, token?_eq_some.mpr ⟨_, first, start, rfl⟩]
    | fraction noToken start => simp only [next, token?_eq_none.mpr noToken, dropToken?_eq_some.mpr start]
    | quoted wordless closed =>
      simp only [next, token?_eq_none.mpr wordless.token, dropToken?_eq_none.mpr wordless.fraction,
        cutAt_append closed, if_true]
    | unclosed wordless never =>
      simp only [next, token?_eq_none.mpr wordless.token, dropToken?_eq_none.mpr wordless.fraction,
        cutAt_eq_none never, if_true]
    | other wordless unquoted =>
      simp only [next, token?_eq_none.mpr wordless.token, dropToken?_eq_none.mpr wordless.fraction, unquoted, if_false]

theorem next_cons (c : Char) (cs : List Char) : ∃ l rest, next (c :: cs) = some (l, rest) := by
  rw [next]
  cases token? (c :: cs) with
  | some p => exact ⟨_, _, rfl⟩
  | none =>
    cases dropToken? ['F', 'F'] (c :: cs) with
    | some rest => exact ⟨_, _, rfl⟩
    | none =>
      dsimp only
      split
      · cases cutAt '"' cs with
        | some p => exact ⟨_, _, rfl⟩
        | none => exact ⟨_, _, rfl⟩
      · exact ⟨_, _, rfl⟩

theorem ne_nil_of_token {t : List Char × Field} (member : t ∈ tokens) : t.1 ≠ [] := by
  revert t
  decide

theorem dropDigit_suffix (cs : List Char) : ∃ start, cs = start ++ dropDigit cs := by
  cases cs with
  | nil => exact ⟨[], rfl⟩
  | cons c cs =>
    rw [dropDigit]
    split
    · exact ⟨[c], rfl⟩
    · exact ⟨[], rfl⟩

/-- A lexeme takes at least one character. -/
theorem Next.split (h : Next cs l rest) : ∃ start, cs = start ++ rest ∧ start ≠ [] := by
  cases h with
  | token first start =>
    obtain ⟨word, rfl, same⟩ := start
    refine ⟨word, rfl, ?_⟩
    rintro rfl
    exact ne_nil_of_token first.mem same.symm
  | @fraction _ after _ start =>
    obtain ⟨word, rfl, same⟩ := start
    obtain ⟨digit, split⟩ := dropDigit_suffix after
    refine ⟨word ++ digit, ?_, ?_⟩
    · rw [List.append_assoc, ← split]
    · intro none
      rw [(List.append_eq_nil_iff.mp none).1] at same
      cases same
  | @quoted text _ _ _ => exact ⟨'"' :: (text ++ ['"']), by simp, List.cons_ne_nil _ _⟩
  | unclosed _ _ => exact ⟨_, (List.append_nil _).symm, List.cons_ne_nil _ _⟩
  | other _ _ => exact ⟨[_], rfl, List.cons_ne_nil _ _⟩

theorem Next.ne_nil (h : Next cs l rest) : cs ≠ [] := by
  obtain ⟨start, rfl, filled⟩ := h.split
  exact fun none => filled (List.append_eq_nil_iff.mp none).1

theorem Lexed.unique {ls ls' : List Lexeme} (h : Lexed cs ls) (h' : Lexed cs ls') : ls' = ls := by
  induction h generalizing ls' with
  | done =>
    cases h' with
    | done => rfl
    | step next _ => exact absurd rfl next.ne_nil
  | @step cs l rest ls next later ih =>
    cases h' with
    | done => exact absurd rfl next.ne_nil
    | step next' later' =>
      have same := (next_iff.mpr next).symm.trans (next_iff.mpr next')
      cases same
      rw [ih later']

theorem exists_lexed (cs : List Char) : ∃ ls, Lexed cs ls := by
  induction length : cs.length using Nat.strong_induction_on generalizing cs with
  | _ n ih =>
    cases cs with
    | nil => exact ⟨[], .done⟩
    | cons c cs =>
      obtain ⟨l, rest, found⟩ := next_cons c cs
      have step := next_iff.mp found
      obtain ⟨start, split, filled⟩ := step.split
      have shorter : rest.length < n := by
        have pos := List.length_pos_of_ne_nil filled
        rw [← length, split, List.length_append]
        omega
      obtain ⟨ls, later⟩ := ih rest.length shorter rest rfl
      exact ⟨l :: ls, .step step later⟩

end

/-- What a lexeme adds to the pieces so far, of which the last is the first. -/
def push (done : List Piece) : Lexeme → Except Fault (List Piece)
  | .token f => .ok (.field f :: done)
  | .fraction =>
    match withFraction? done with
    | some done => .ok done
    | none => .error .fractionWithoutPoint
  | .quoted cs => .ok ((cs.map .literal).reverse ++ done)
  | .unclosed _ => .error .openLiteral
  | .other c => .ok (.literal c :: done)

section
variable {cs rest : List Char} {done : List Piece}

theorem cut_fraction (noToken : token? cs = none) (found : dropToken? ['F', 'F'] cs = some rest) :
    cut done cs = (push done .fraction).bind fun done => cut done (dropDigit rest) := by
  rw [cut]
  split
  · rename_i h
    rw [noToken] at h
    cases h
  · split
    · rename_i h
      rw [found] at h
      cases h
      rw [push]
      cases withFraction? done <;> rfl
    · rename_i h
      rw [found] at h
      cases h

theorem cut_wordless {c : Char} (wordless : Wordless (c :: cs)) :
    cut done (c :: cs) =
      if c = '"' then
        match cutAt '"' cs with
        | some (quoted, rest) => cut ((quoted.map .literal).reverse ++ done) rest
        | none => .error .openLiteral
      else cut (.literal c :: done) cs := by
  rw [cut]
  split
  · rename_i h
    rw [token?_eq_none.mpr wordless.token] at h
    cases h
  · split
    · rename_i h
      rw [dropToken?_eq_none.mpr wordless.fraction] at h
      cases h
    · refine if_congr Iff.rfl ?_ rfl
      split
      · rename_i h
        rw [h]
      · rename_i h
        rw [h]

theorem cut_next {l : Lexeme} (h : Next cs l rest) :
    cut done cs = (push done l).bind fun done => cut done rest := by
  cases h with
  | token first start => exact cut_token (token?_eq_some.mpr ⟨_, first, start, rfl⟩) done
  | fraction noToken start => exact cut_fraction (token?_eq_none.mpr noToken) (dropToken?_eq_some.mpr start)
  | quoted wordless closed =>
    rw [cut_wordless wordless, if_pos rfl, cutAt_append closed]
    rfl
  | unclosed wordless never =>
    rw [cut_wordless wordless, if_pos rfl, cutAt_eq_none never]
    rfl
  | other wordless unquoted =>
    rw [cut_wordless wordless, if_neg unquoted]
    rfl

end

/-- The pieces of a lexeme, as if points before fractional seconds stayed. -/
def Lexeme.pieces : Lexeme → List Piece
  | .token f => [.field f]
  | .fraction => [.field .fraction]
  | .quoted cs => cs.map .literal
  | .unclosed _ => []
  | .other c => [.literal c]

def emitted (ls : List Lexeme) : List Piece := ls.flatMap Lexeme.pieces

/-- Fractional seconds take in the point before them. -/
def absorbed : List Piece → List Piece
  | .literal '.' :: .field .fraction :: ps => .field .fraction :: absorbed ps
  | p :: ps => p :: absorbed ps
  | [] => []

/-- Some fractional seconds do not come directly after a literal point, given the pieces before the lexemes. -/
def MisplacedAfter (raw : List Piece) (ls : List Lexeme) : Prop :=
  ∃ before after, ls = before ++ .fraction :: after ∧ (raw ++ emitted before).getLast? ≠ some (.literal '.')

def Misplaced (ls : List Lexeme) : Prop := MisplacedAfter [] ls

def Unclosed (ls : List Lexeme) : Prop := ∃ cs, .unclosed cs ∈ ls

theorem absorbed_cons {p : Piece} {ps : List Piece} (h : p ≠ .literal '.' ∨ ps.head? ≠ some (.field .fraction)) :
    absorbed (p :: ps) = p :: absorbed ps := by
  rw [absorbed]
  rintro qs rfl rfl
  simp at h

theorem absorbed_append {ps qs : List Piece} (apart : qs.head? ≠ some (.field .fraction)) :
    absorbed (ps ++ qs) = absorbed ps ++ absorbed qs := by
  fun_induction absorbed ps with
  | case1 ps ih => simp only [List.cons_append, absorbed, ih]
  | case2 p ps other ih =>
    rw [List.cons_append, absorbed_cons, ih, List.cons_append]
    cases ps with
    | nil => exact .inr apart
    | cons q ps =>
      by_cases point : p = .literal '.'
      · refine .inr fun first => ?_
        obtain rfl : q = .field .fraction := by simpa using first
        exact other ps point rfl
      · exact .inl point
  | case3 => rfl

theorem getLast?_absorbed (ps : List Piece) : (absorbed ps).getLast? = ps.getLast? := by
  fun_induction absorbed ps with
  | case1 ps ih =>
    rw [List.getLast?_cons_cons, List.getLast?_cons, List.getLast?_cons, ih]
  | case2 p ps other ih => rw [List.getLast?_cons, List.getLast?_cons, ih]
  | case3 => rfl

theorem misplacedAfter_nil {raw : List Piece} : ¬MisplacedAfter raw [] := by
  rintro ⟨before, after, split, -⟩
  simp at split

theorem misplacedAfter_cons {raw : List Piece} {l : Lexeme} {ls : List Lexeme} : MisplacedAfter raw (l :: ls) ↔
    (l = .fraction ∧ raw.getLast? ≠ some (.literal '.')) ∨ MisplacedAfter (raw ++ l.pieces) ls := by
  constructor
  · rintro ⟨before, after, split, misplaced⟩
    cases before with
    | nil =>
      cases split
      exact .inl ⟨rfl, by simpa [emitted] using misplaced⟩
    | cons b before =>
      cases split
      exact .inr ⟨before, after, rfl, by simpa [emitted] using misplaced⟩
  · rintro (⟨rfl, misplaced⟩ | ⟨before, after, rfl, misplaced⟩)
    · exact ⟨[], ls, rfl, by simpa [emitted] using misplaced⟩
    · exact ⟨l :: before, after, rfl, by simpa [emitted] using misplaced⟩

theorem unclosed_cons {l : Lexeme} {ls : List Lexeme} (closed : ∀ cs, l ≠ .unclosed cs) :
    Unclosed (l :: ls) ↔ Unclosed ls := by
  simp only [Unclosed, List.mem_cons, (closed _).symm, false_or]

theorem withFraction?_reverse {raw : List Piece} (point : raw.getLast? = some (.literal '.')) :
    withFraction? (absorbed raw).reverse = some (absorbed (raw ++ [.field .fraction])).reverse := by
  obtain ⟨front, rfl⟩ := List.getLast?_eq_some_iff.mp point
  have apart : absorbed (front ++ [.literal '.']) = absorbed front ++ [.literal '.'] := absorbed_append (by simp)
  have joined : absorbed (front ++ ([.literal '.'] ++ [.field .fraction])) = absorbed front ++ [.field .fraction] :=
    absorbed_append (by simp)
  rw [List.append_assoc, joined, apart, List.reverse_append, List.reverse_append]
  rfl

theorem withFraction?_of_head {done : List Piece} (other : done.head? ≠ some (.literal '.')) :
    withFraction? done = none := by
  rw [withFraction?]
  rintro rest rfl
  exact other rfl

theorem withFraction?_eq_none {raw : List Piece} (other : raw.getLast? ≠ some (.literal '.')) :
    withFraction? (absorbed raw).reverse = none := by
  rw [← getLast?_absorbed, ← List.head?_reverse] at other
  exact withFraction?_of_head other

/-- Only points before fractional seconds are absorbed. -/
theorem absorbed_append_plain {ps qs : List Piece} (plain : .field .fraction ∉ qs) :
    absorbed (ps ++ qs) = absorbed ps ++ qs := by
  induction qs generalizing ps with
  | nil => rw [List.append_nil, List.append_nil]
  | cons q qs ih =>
    rw [List.mem_cons, not_or] at plain
    have apart : [q].head? ≠ some (.field .fraction) := fun same => plain.1 (Option.some.inj same).symm
    have first : absorbed (ps ++ [q]) = absorbed ps ++ [q] := by
      rw [absorbed_append apart, absorbed_cons (.inr (by simp)), absorbed]
    rw [← List.singleton_append, ← List.append_assoc, ih plain.2, first, List.append_assoc]

theorem push_plain {raw : List Piece} {l : Lexeme} (other : l ≠ .fraction) (unclosed : ∀ cs, l ≠ .unclosed cs)
    (plain : .field .fraction ∉ l.pieces) : push (absorbed raw).reverse l =
    .ok (absorbed (raw ++ l.pieces)).reverse := by
  rw [absorbed_append_plain plain, List.reverse_append]
  cases l with
  | token f => rfl
  | fraction => exact absurd rfl other
  | quoted cs => rfl
  | unclosed cs => exact absurd rfl (unclosed cs)
  | other c => rfl

theorem Next.plain {cs rest : List Char} {l : Lexeme} (h : Next cs l rest) (other : l ≠ .fraction) :
    .field .fraction ∉ l.pieces := by
  cases h with
  | token first _ =>
    have timed : ∀ t ∈ tokens, t.2 ≠ .fraction := by decide
    simpa [Lexeme.pieces, eq_comm] using timed _ first.mem
  | fraction => exact absurd rfl other
  | quoted => simp [Lexeme.pieces]
  | unclosed => exact List.not_mem_nil
  | other => simp [Lexeme.pieces]

/-- What comes of the lexemes of a format, given the pieces before them. -/
inductive Outcome (raw : List Piece) (ls : List Lexeme) : Except Fault (List Piece) → Prop
  | misplaced (h : MisplacedAfter raw ls) : Outcome raw ls (.error .fractionWithoutPoint)
  | unclosed (placed : ¬MisplacedAfter raw ls) (h : Unclosed ls) : Outcome raw ls (.error .openLiteral)
  | ok (placed : ¬MisplacedAfter raw ls) (closed : ¬Unclosed ls) : Outcome raw ls (.ok (absorbed (raw ++ emitted ls)))

section
variable {raw : List Piece} {l : Lexeme} {ls : List Lexeme} {r : Except Fault (List Piece)}

theorem Outcome.cons (h : Outcome (raw ++ l.pieces) ls r) (placed : l = .fraction → raw.getLast? = some (.literal '.'))
    (closed : ∀ cs, l ≠ .unclosed cs) : Outcome raw (l :: ls) r := by
  have here : ¬(l = .fraction ∧ raw.getLast? ≠ some (.literal '.')) := fun h => h.2 (placed h.1)
  cases h with
  | misplaced h => exact .misplaced (misplacedAfter_cons.mpr (.inr h))
  | unclosed later h =>
    refine .unclosed ?_ ((unclosed_cons closed).mpr h)
    rw [misplacedAfter_cons]
    exact not_or.mpr ⟨here, later⟩
  | ok later h =>
    have joined : raw ++ emitted (l :: ls) = raw ++ l.pieces ++ emitted ls := by simp [emitted]
    rw [← joined]
    refine .ok ?_ ((unclosed_cons closed).not.mpr h)
    rw [misplacedAfter_cons]
    exact not_or.mpr ⟨here, later⟩

theorem outcome_cut {cs : List Char} (h : Lexed cs ls) (raw : List Piece) :
    Outcome raw ls (cut (absorbed raw).reverse cs) := by
  -- What has been cut is always what the lexemes so far emit, with its points absorbed.
  induction h generalizing raw with
  | done =>
    have nothing : absorbed (raw ++ emitted []) = absorbed raw := by rw [emitted, List.flatMap_nil, List.append_nil]
    rw [cut_nil, List.reverse_reverse, ← nothing]
    refine .ok misplacedAfter_nil ?_
    rintro ⟨cs, member⟩
    cases member
  | @step cs l rest ls next later ih =>
    rw [cut_next next]
    by_cases fraction : l = .fraction
    · subst fraction
      by_cases placed : raw.getLast? = some (.literal '.')
      · rw [push, withFraction?_reverse placed]
        exact (ih _).cons (fun _ => placed) (by simp)
      · rw [push, withFraction?_eq_none placed]
        exact .misplaced (misplacedAfter_cons.mpr (.inl ⟨rfl, placed⟩))
    · by_cases last : ∃ text, l = .unclosed text
      · -- Nothing follows an open quote, so nothing after it can be misplaced.
        obtain ⟨text, rfl⟩ := last
        cases next
        cases later with
        | done =>
          refine .unclosed ?_ ⟨text, List.mem_cons_self⟩
          rw [misplacedAfter_cons, not_or]
          exact ⟨fun same => fraction same.1, misplacedAfter_nil⟩
        | step next _ => exact absurd rfl next.ne_nil
      · have closed : ∀ cs, l ≠ .unclosed cs := not_exists.mp last
        rw [push_plain fraction closed (next.plain fraction)]
        exact (ih _).cons (fun same => absurd same fraction) closed

end
end RowStream.SessionFormat
